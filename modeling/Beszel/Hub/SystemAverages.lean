import Beszel.Common.Rounding
import Beszel.Common.Stats
import Beszel.Machinery.Columns
import Mathlib.Data.UInt

/-!
# Hub/SystemAverages — the average of a list of `system_stats` records

    records ──decode──▸ samples ──add──▸ sums, peaks ──÷ records──▸ one longer record

`AverageSystemStats` of `internal/records/records.go` adds its records up field by field and divides
by their number; peaks take the greatest of a record's peak and current value.
-/

namespace Beszel

open Machinery

namespace SystemAverages

/-! ## Records -/

/-- `system.FsStats`, of the fields that are stored. -/
structure FsStats where
  diskTotal : ℚ
  diskUsed : ℚ
  diskReadPs : ℚ
  diskWritePs : ℚ
  maxDiskReadPS : ℚ
  maxDiskWritePS : ℚ
  diskReadBytes : UInt64
  diskWriteBytes : UInt64
  maxDiskReadBytes : UInt64
  maxDiskWriteBytes : UInt64
  deriving DecidableEq

/-- `&system.FsStats{}`. -/
def FsStats.zero : FsStats := ⟨0, 0, 0, 0, 0, 0, 0, 0, 0, 0⟩

/-- `system.GPUData`.  The temperature and the count are not stored. -/
structure GPUData where
  name : String
  temperature : ℚ
  memoryUsed : ℚ
  memoryTotal : ℚ
  usage : ℚ
  power : ℚ
  count : ℚ
  engines : GoMap ℚ
  powerPkg : ℚ

/-- `system.GPUData{Name: value.Name}`. -/
def GPUData.named (name : String) : GPUData := ⟨name, 0, 0, 0, 0, 0, 0, ∅, 0⟩

/-- `[4]uint64`: the bytes sent and received, and their totals. -/
abbrev Interface := UInt64 × UInt64 × UInt64 × UInt64

/-- `system.Stats`.  Only for the temperatures it matters whether a map is nil or empty. -/
@[ext] structure Stats where
  cpu : ℚ
  maxCpu : ℚ
  mem : ℚ
  memUsed : ℚ
  memPct : ℚ
  memBuffCache : ℚ
  memZfsArc : ℚ
  swap : ℚ
  swapUsed : ℚ
  diskTotal : ℚ
  diskUsed : ℚ
  diskPct : ℚ
  diskReadPs : ℚ
  diskWritePs : ℚ
  maxDiskReadPs : ℚ
  maxDiskWritePs : ℚ
  networkSent : ℚ
  networkRecv : ℚ
  maxNetworkSent : ℚ
  maxNetworkRecv : ℚ
  temperatures : Option (GoMap ℚ)
  extraFs : GoMap FsStats
  gpuData : GoMap GPUData
  loadAvg1 : ℚ
  loadAvg5 : ℚ
  loadAvg15 : ℚ
  bandwidth : UInt64 × UInt64
  maxBandwidth : UInt64 × UInt64
  loadAvg : ℚ × ℚ × ℚ
  battery : UInt8 × UInt8
  maxMem : ℚ
  networkInterfaces : GoMap Interface
  diskIO : UInt64 × UInt64
  maxDiskIO : UInt64 × UInt64
  cpuBreakdown : List ℚ
  cpuCoresUsage : List UInt8

/-- `system.Stats{}`. -/
def Stats.zero : Stats where
  cpu := 0
  maxCpu := 0
  mem := 0
  memUsed := 0
  memPct := 0
  memBuffCache := 0
  memZfsArc := 0
  swap := 0
  swapUsed := 0
  diskTotal := 0
  diskUsed := 0
  diskPct := 0
  diskReadPs := 0
  diskWritePs := 0
  maxDiskReadPs := 0
  maxDiskWritePs := 0
  networkSent := 0
  networkRecv := 0
  maxNetworkSent := 0
  maxNetworkRecv := 0
  temperatures := none
  extraFs := ∅
  gpuData := ∅
  loadAvg1 := 0
  loadAvg5 := 0
  loadAvg15 := 0
  bandwidth := (0, 0)
  maxBandwidth := (0, 0)
  loadAvg := (0, 0, 0)
  battery := (0, 0)
  maxMem := 0
  networkInterfaces := ∅
  diskIO := (0, 0)
  maxDiskIO := (0, 0)
  cpuBreakdown := []
  cpuCoresUsage := []

/-- A `system_stats` record as it is read, `none` where its JSON does not decode. -/
abbrev Record := Option Stats

/-- The samples of the records that decode. -/
def decoded (records : List Record) : List Stats := records.filterMap id

/-! ## Accumulating -/

/-- `max(a, b, c)`. -/
def max3 {α : Type} [Max α] (a b c : α) : α := max (max a b) c

/-- The totals of an interface. -/
def addInterface (sum value : Interface) : Interface :=
  (sum.1 + value.1, sum.2.1 + value.2.1, max sum.2.2.1 value.2.2.1, max sum.2.2.2 value.2.2.2)

/-- The totals of a filesystem. -/
def FsStats.add (fs value : FsStats) : FsStats where
  diskTotal := fs.diskTotal + value.diskTotal
  diskUsed := fs.diskUsed + value.diskUsed
  diskWritePs := fs.diskWritePs + value.diskWritePs
  diskReadPs := fs.diskReadPs + value.diskReadPs
  maxDiskReadPS := max3 fs.maxDiskReadPS value.maxDiskReadPS value.diskReadPs
  maxDiskWritePS := max3 fs.maxDiskWritePS value.maxDiskWritePS value.diskWritePs
  diskReadBytes := fs.diskReadBytes + value.diskReadBytes
  diskWriteBytes := fs.diskWriteBytes + value.diskWriteBytes
  maxDiskReadBytes := max3 fs.maxDiskReadBytes value.maxDiskReadBytes value.diskReadBytes
  maxDiskWriteBytes := max3 fs.maxDiskWriteBytes value.maxDiskWriteBytes value.diskWriteBytes

/-- The totals of a GPU.  Nothing is added to `powerPkg`. -/
def GPUData.add (gpu value : GPUData) : GPUData :=
  { gpu with
    temperature := gpu.temperature + value.temperature
    memoryUsed := gpu.memoryUsed + value.memoryUsed
    memoryTotal := gpu.memoryTotal + value.memoryTotal
    usage := gpu.usage + value.usage
    power := gpu.power + value.power
    count := gpu.count + value.count
    engines := accumulate (fun _ => 0) (· + ·) gpu.engines value.engines.entries }

/-- The variables of the loop.  A sum of `uint8` over the records does not reach the bound of an
`int` or `uint64`, so the sums of the battery and of the cores are natural numbers. -/
structure Sums where
  sum : Stats
  batterySum : ℕ
  cpuCoresSums : List ℕ
  cpuBreakdownSums : List ℚ
  tempCount : ℕ

/-- Before the loop. -/
def Sums.zero : Sums := ⟨.zero, 0, [], [], 0⟩

/-- The temperatures of a record are added, if it has the map. -/
def addTemperatures (sum : Option (GoMap ℚ)) : Option (GoMap ℚ) → Option (GoMap ℚ)
  | none => sum
  | some t => some (accumulate (fun _ => 0) (· + ·) (sum.getD ∅) t.entries)

/-- A pass of the loop over a record that decodes.  The charge state of the battery is overwritten;
`loadAvg1`, `loadAvg5` and `loadAvg15` are not touched. -/
def Sums.add (s : Sums) (stats : Stats) : Sums where
  sum :=
    { s.sum with
      cpu := s.sum.cpu + stats.cpu
      mem := s.sum.mem + stats.mem
      memUsed := s.sum.memUsed + stats.memUsed
      memPct := s.sum.memPct + stats.memPct
      memBuffCache := s.sum.memBuffCache + stats.memBuffCache
      memZfsArc := s.sum.memZfsArc + stats.memZfsArc
      swap := s.sum.swap + stats.swap
      swapUsed := s.sum.swapUsed + stats.swapUsed
      diskTotal := s.sum.diskTotal + stats.diskTotal
      diskUsed := s.sum.diskUsed + stats.diskUsed
      diskPct := s.sum.diskPct + stats.diskPct
      diskReadPs := s.sum.diskReadPs + stats.diskReadPs
      diskWritePs := s.sum.diskWritePs + stats.diskWritePs
      networkSent := s.sum.networkSent + stats.networkSent
      networkRecv := s.sum.networkRecv + stats.networkRecv
      loadAvg := (s.sum.loadAvg.1 + stats.loadAvg.1, s.sum.loadAvg.2.1 + stats.loadAvg.2.1,
        s.sum.loadAvg.2.2 + stats.loadAvg.2.2)
      bandwidth := (s.sum.bandwidth.1 + stats.bandwidth.1, s.sum.bandwidth.2 + stats.bandwidth.2)
      diskIO := (s.sum.diskIO.1 + stats.diskIO.1, s.sum.diskIO.2 + stats.diskIO.2)
      battery := (s.sum.battery.1, stats.battery.2)
      maxCpu := max3 s.sum.maxCpu stats.maxCpu stats.cpu
      maxMem := max3 s.sum.maxMem stats.maxMem stats.memUsed
      maxNetworkSent := max3 s.sum.maxNetworkSent stats.maxNetworkSent stats.networkSent
      maxNetworkRecv := max3 s.sum.maxNetworkRecv stats.maxNetworkRecv stats.networkRecv
      maxDiskReadPs := max3 s.sum.maxDiskReadPs stats.maxDiskReadPs stats.diskReadPs
      maxDiskWritePs := max3 s.sum.maxDiskWritePs stats.maxDiskWritePs stats.diskWritePs
      maxBandwidth := (max3 s.sum.maxBandwidth.1 stats.maxBandwidth.1 stats.bandwidth.1,
        max3 s.sum.maxBandwidth.2 stats.maxBandwidth.2 stats.bandwidth.2)
      maxDiskIO := (max3 s.sum.maxDiskIO.1 stats.maxDiskIO.1 stats.diskIO.1,
        max3 s.sum.maxDiskIO.2 stats.maxDiskIO.2 stats.diskIO.2)
      networkInterfaces := accumulate (fun _ => (0, 0, 0, 0)) addInterface
        s.sum.networkInterfaces stats.networkInterfaces.entries
      temperatures := addTemperatures s.sum.temperatures stats.temperatures
      extraFs := accumulate (fun _ => FsStats.zero) FsStats.add s.sum.extraFs stats.extraFs.entries
      gpuData := accumulate (fun value => GPUData.named value.name) GPUData.add
        s.sum.gpuData stats.gpuData.entries }
  batterySum := s.batterySum + stats.battery.1.toNat
  cpuCoresSums := addSlice s.cpuCoresSums (stats.cpuCoresUsage.map (·.toNat))
  cpuBreakdownSums := addSlice s.cpuBreakdownSums stats.cpuBreakdown
  tempCount := if stats.temperatures.isSome then s.tempCount + 1 else s.tempCount

/-- The loop.  A record that does not decode is skipped. -/
def accumulateTotals (records : List Record) : Sums :=
  records.foldl (fun s record => record.elim s s.add) .zero

/-! ## Averaging -/

/-- Division by `uint64(count)`; the count is a length and fits. -/
def divCount (sum : UInt64) (count : ℕ) : UInt64 := .ofNat (sum.toNat / count)

/-- The averages of an interface. -/
def averageInterface (count : ℕ) (sum : Interface) : Interface :=
  (divCount sum.1 count, divCount sum.2.1 count, sum.2.2.1, sum.2.2.2)

/-- The averages of a filesystem. -/
def FsStats.average (count : ℕ) (fs : FsStats) : FsStats :=
  { fs with
    diskTotal := twoDecimals (fs.diskTotal / count)
    diskUsed := twoDecimals (fs.diskUsed / count)
    diskWritePs := twoDecimals (fs.diskWritePs / count)
    diskReadPs := twoDecimals (fs.diskReadPs / count)
    diskReadBytes := divCount fs.diskReadBytes count
    diskWriteBytes := divCount fs.diskWriteBytes count }

/-- The averages of a GPU. -/
def GPUData.average (count : ℕ) (gpu : GPUData) : GPUData :=
  { gpu with
    temperature := twoDecimals (gpu.temperature / count)
    memoryUsed := twoDecimals (gpu.memoryUsed / count)
    memoryTotal := twoDecimals (gpu.memoryTotal / count)
    usage := twoDecimals (gpu.usage / count)
    power := twoDecimals (gpu.power / count)
    count := twoDecimals (gpu.count / count)
    engines := mapValues (fun _ engine => twoDecimals (engine / count)) gpu.engines }

/-- The averages, in place; the temperatures have a count of their own. -/
def Sums.average (s : Sums) (count : ℕ) : Stats :=
  if count = 0 then s.sum
  else
    { s.sum with
      cpu := twoDecimals (s.sum.cpu / count)
      mem := twoDecimals (s.sum.mem / count)
      memUsed := twoDecimals (s.sum.memUsed / count)
      memPct := twoDecimals (s.sum.memPct / count)
      memBuffCache := twoDecimals (s.sum.memBuffCache / count)
      memZfsArc := twoDecimals (s.sum.memZfsArc / count)
      swap := twoDecimals (s.sum.swap / count)
      swapUsed := twoDecimals (s.sum.swapUsed / count)
      diskTotal := twoDecimals (s.sum.diskTotal / count)
      diskUsed := twoDecimals (s.sum.diskUsed / count)
      diskPct := twoDecimals (s.sum.diskPct / count)
      diskReadPs := twoDecimals (s.sum.diskReadPs / count)
      diskWritePs := twoDecimals (s.sum.diskWritePs / count)
      diskIO := (divCount s.sum.diskIO.1 count, divCount s.sum.diskIO.2 count)
      networkSent := twoDecimals (s.sum.networkSent / count)
      networkRecv := twoDecimals (s.sum.networkRecv / count)
      loadAvg := (twoDecimals (s.sum.loadAvg.1 / count), twoDecimals (s.sum.loadAvg.2.1 / count),
        twoDecimals (s.sum.loadAvg.2.2 / count))
      bandwidth := (divCount s.sum.bandwidth.1 count, divCount s.sum.bandwidth.2 count)
      battery := (.ofNat (s.batterySum / count), s.sum.battery.2)
      networkInterfaces := mapValues (fun _ => averageInterface count) s.sum.networkInterfaces
      temperatures :=
        if 0 < s.tempCount then
          s.sum.temperatures.map (mapValues fun _ t => twoDecimals (t / s.tempCount))
        else s.sum.temperatures
      extraFs := mapValues (fun _ => FsStats.average count) s.sum.extraFs
      gpuData := mapValues (fun _ => GPUData.average count) s.sum.gpuData
      cpuCoresUsage := s.cpuCoresSums.map fun sum : ℕ =>
        .ofNat (mathRound ((sum : ℚ) / count)).toNat
      cpuBreakdown := s.cpuBreakdownSums.map fun sum => twoDecimals (sum / count) }

/-- **`AverageSystemStats`**. -/
def averageSystemStats (records : List Record) : Stats :=
  (accumulateTotals records).average records.length

end SystemAverages

end Beszel
