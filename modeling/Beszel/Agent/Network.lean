import Beszel.Common.Rounding
import Beszel.Common.Stats
import Mathlib.Data.UInt
import Mathlib.Logic.Function.Basic

/-!
# Agent/Network — the network rates of a sample

    counters ──▸ totals ──since the last poll──▸ bytes/s ──two decimals──▸ MB/s

`updateNetworkStats` of `agent/network.go` with its helpers, `agent/deltatracker` and
`agent/utils.go`.  The agent keeps a baseline and a tracker for each cache interval; rates are
computed in 64-bit arithmetic, and a rate beyond 10,000 MB/s counts as an anomaly that resets
everything.  Times are milliseconds.
-/

namespace Beszel

namespace Agent

/-! ## Rounding -/

/-- `bytesToMegabytes`. -/
def bytesToMegabytes (b : ℚ) : ℚ := twoDecimals (b / 1048576)

/-- A whole number of bytes in hundredths of a megabyte. -/
def hundredths (b : ℕ) : ℕ := (200 * b + 1048576) / 2097152

/-- **The rounding in whole numbers.** -/
theorem bytesToMegabytes_natCast (b : ℕ) : bytesToMegabytes b = (hundredths b : ℚ) / 100 := by
  have h := twoDecimals_natCast_div b (m := 1048576) (by norm_num)
  exact_mod_cast h

/-- The rounding is off by half a hundredth at most. -/
theorem abs_bytesToMegabytes_sub_le (b : ℕ) :
    |bytesToMegabytes b - b / 1048576| ≤ 1 / 200 := by
  have hlow : hundredths b * 2097152 ≤ 200 * b + 1048576 := by
    unfold hundredths
    omega
  have hhigh : 200 * b + 1048576 < (hundredths b + 1) * 2097152 := by
    unfold hundredths
    omega
  have hlow' : (hundredths b : ℚ) * 2097152 ≤ 200 * b + 1048576 := by exact_mod_cast hlow
  have hhigh' : (200 * b + 1048576 : ℚ) < (hundredths b + 1) * 2097152 := by exact_mod_cast hhigh
  rw [bytesToMegabytes_natCast, abs_le]
  constructor <;> linarith

/-- A rate that is computed in 64 bits is the plain one where that has room. -/
theorem toNat_bytesPerSecond {bytes ms : UInt64} (h : bytes.toNat * 1000 < 2 ^ 64) :
    (bytes * 1000 / ms).toNat = bytes.toNat * 1000 / ms.toNat := by
  rw [UInt64.toNat_div, UInt64.toNat_mul, UInt64.toNat_ofNat, Nat.mod_eq_of_lt h]

/-! ## The tracker -/

/-- `DeltaTracker[string, uint64]`. -/
structure DeltaTracker where
  current : GoMap UInt64
  previous : GoMap UInt64

namespace DeltaTracker

/-- `NewDeltaTracker`. -/
def new : DeltaTracker := ⟨∅, ∅⟩

/-- `DeltaTracker.Set`. -/
def set (t : DeltaTracker) (id : String) (value : UInt64) : DeltaTracker :=
  { t with current := t.current.insert id value }

/-- `DeltaTracker.Previous`. -/
def previous? (t : DeltaTracker) (id : String) : Option UInt64 := t.previous.lookup id

/-- `DeltaTracker.Cycle`. -/
def cycle (t : DeltaTracker) : DeltaTracker := ⟨∅, t.current⟩

end DeltaTracker

/-! ## The state and a poll -/

/-- `psutilNet.IOCountersStat`. -/
structure IOCountersStat where
  name : String
  bytesSent : UInt64
  bytesRecv : UInt64
  deriving DecidableEq, Repr

/-- `system.NetIoStats`; `none` is the zero time. -/
structure NetIoStats where
  bytesRecv : UInt64
  bytesSent : UInt64
  time : Option ℕ
  deriving DecidableEq, Repr

/-- The zero value, what a map without the key gives. -/
def NetIoStats.zero : NetIoStats := ⟨0, 0, none⟩

/-- The network fields of the agent, by cache interval, and the filter of the `NICS` variable if it
is set. -/
structure NetState where
  netInterfaces : List String
  netIoStats : UInt16 → Option NetIoStats
  netInterfaceDeltaTrackers : UInt16 → Option DeltaTracker
  nics : Option (String → Bool)

/-- What a poll takes from outside: the interval, the time, and what `IOCounters` gives when the
interfaces are detected, when they are read and when an anomaly detects them again. -/
structure Poll where
  cacheTimeMs : UInt16
  now : ℕ
  detected : Option (List IOCountersStat)
  netIo : Option (List IOCountersStat)
  redetected : Option (List IOCountersStat)

/-- `skipNetworkInterface`. -/
def skipNetworkInterface (v : IOCountersStat) : Bool :=
  ["lo", "docker", "br-", "veth", "bond", "cali"].any (·.toList.isPrefixOf v.name.toList) ||
    v.bytesRecv = 0 || v.bytesSent = 0

namespace NetState

/-- `initializeNetIoStats`. -/
def initializeNetIoStats (s : NetState) (netIo : Option (List IOCountersStat)) : NetState where
  netInterfaces := ((netIo.getD []).filter fun v =>
    (s.nics.map (· v.name)).getD true && !skipNetworkInterface v).map (·.name)
  netIoStats := fun _ => none
  netInterfaceDeltaTrackers := fun _ => none
  nics := s.nics

/-- `ensureNetInterfacesInitialized`. -/
def ensureNetInterfacesInitialized (s : NetState) (p : Poll) : NetState :=
  if s.netInterfaces.isEmpty then s.initializeNetIoStats p.detected else s

/-- `loadAndTickNetBaseline`. -/
def loadAndTickNetBaseline (s : NetState) (p : Poll) : NetIoStats × UInt64 :=
  let netIoStat := (s.netIoStats p.cacheTimeMs).getD .zero
  ({ netIoStat with time := some p.now },
    match netIoStat.time with
    | none => 0
    | some t => UInt64.ofNat (p.now - t))

/-- The rate of one counter: a counter that fell is taken to have restarted. -/
def delta (msElapsed cur : UInt64) : Option UInt64 → UInt64
  | none => 0
  | some prev =>
    if msElapsed = 0 then 0 else (if cur ≥ prev then cur - prev else cur) * 1000 / msElapsed

/-- What `sumAndTrackPerNicDeltas` carries through its loop. -/
structure NicSums where
  tracker : DeltaTracker
  totalBytesSent : UInt64
  totalBytesRecv : UInt64
  networkInterfaces : GoMap (UInt64 × UInt64 × UInt64 × UInt64)

/-- The loop body of `sumAndTrackPerNicDeltas`. -/
def sumNic (netInterfaces : List String) (msElapsed : UInt64) (acc : NicSums) (v : IOCountersStat) :
    NicSums :=
  if v.name ∉ netInterfaces then acc
  else
    let upKey := v.name ++ "up"
    let downKey := v.name ++ "down"
    let tracker := (acc.tracker.set upKey v.bytesSent).set downKey v.bytesRecv
    { tracker
      totalBytesSent := acc.totalBytesSent + v.bytesSent
      totalBytesRecv := acc.totalBytesRecv + v.bytesRecv
      networkInterfaces := acc.networkInterfaces.insert v.name
        (delta msElapsed v.bytesSent (tracker.previous? upKey),
          delta msElapsed v.bytesRecv (tracker.previous? downKey), v.bytesSent, v.bytesRecv) }

/-- `sumAndTrackPerNicDeltas`. -/
def sumAndTrackPerNicDeltas (s : NetState) (cacheTimeMs : UInt16) (msElapsed : UInt64)
    (netIo : List IOCountersStat) (stats : Stats) : NicSums :=
  let tracker := ((s.netInterfaceDeltaTrackers cacheTimeMs).getD .new).cycle
  netIo.foldl (sumNic s.netInterfaces msElapsed) ⟨tracker, 0, 0, stats.networkInterfaces⟩

/-- `computeBytesPerSecond`: sent, then received. -/
def computeBytesPerSecond (msElapsed totalBytesSent totalBytesRecv : UInt64) (nis : NetIoStats) :
    UInt64 × UInt64 :=
  if msElapsed > 0 then
    ((totalBytesSent - nis.bytesSent) * 1000 / msElapsed,
      (totalBytesRecv - nis.bytesRecv) * 1000 / msElapsed)
  else (0, 0)

/-- `applyNetworkTotals`. -/
def applyNetworkTotals (s : NetState) (p : Poll) (stats : Stats) (nis : NetIoStats)
    (totalBytesSent totalBytesRecv : UInt64) (perSecond : UInt64 × UInt64) : NetState × Stats :=
  let networkSentPs := bytesToMegabytes perSecond.1.toNat
  let networkRecvPs := bytesToMegabytes perSecond.2.toNat
  if networkSentPs > 10000 ∨ networkRecvPs > 10000 then
    (s.initializeNetIoStats p.redetected,
      { stats with networkSent := 0, networkRecv := 0, bandwidth := (0, 0) })
  else
    ({ s with
        netIoStats := Function.update s.netIoStats p.cacheTimeMs
          (some { nis with bytesSent := totalBytesSent, bytesRecv := totalBytesRecv }) },
      { stats with
        networkSent := networkSentPs
        networkRecv := networkRecvPs
        bandwidth := perSecond })

/-- **`updateNetworkStats`.** -/
def updateNetworkStats (s : NetState) (p : Poll) (stats : Stats) : NetState × Stats :=
  let s := s.ensureNetInterfacesInitialized p
  match p.netIo with
  | none => (s, stats)
  | some netIo =>
    let (nis, msElapsed) := s.loadAndTickNetBaseline p
    let sums := s.sumAndTrackPerNicDeltas p.cacheTimeMs msElapsed netIo stats
    let s := { s with
      netInterfaceDeltaTrackers := Function.update s.netInterfaceDeltaTrackers p.cacheTimeMs
        (some sums.tracker) }
    let stats := { stats with networkInterfaces := sums.networkInterfaces }
    s.applyNetworkTotals p stats nis sums.totalBytesSent sums.totalBytesRecv
      (computeBytesPerSecond msElapsed sums.totalBytesSent sums.totalBytesRecv nis)

/-- The bytes per second a poll computes, sent and received, from the state before it and the
counters; `none` when the counters cannot be read. -/
def rates (s : NetState) (p : Poll) : Option (UInt64 × UInt64) :=
  p.netIo.map fun netIo =>
    let s := s.ensureNetInterfacesInitialized p
    let (nis, msElapsed) := s.loadAndTickNetBaseline p
    let monitored := netIo.filter (·.name ∈ s.netInterfaces)
    computeBytesPerSecond msElapsed (monitored.map (·.bytesSent)).sum
      (monitored.map (·.bytesRecv)).sum nis

/-! ## What a poll publishes -/

/-- The loop adds up the counters of the monitored interfaces. -/
theorem foldl_sumNic (netInterfaces : List String) (msElapsed : UInt64)
    (netIo : List IOCountersStat) (acc : NicSums) :
    (netIo.foldl (sumNic netInterfaces msElapsed) acc).totalBytesSent =
        acc.totalBytesSent + ((netIo.filter (·.name ∈ netInterfaces)).map (·.bytesSent)).sum ∧
      (netIo.foldl (sumNic netInterfaces msElapsed) acc).totalBytesRecv =
        acc.totalBytesRecv + ((netIo.filter (·.name ∈ netInterfaces)).map (·.bytesRecv)).sum := by
  induction netIo generalizing acc with
  | nil => simp
  | cons v netIo ih =>
    obtain ⟨hsent, hrecv⟩ := ih (sumNic netInterfaces msElapsed acc v)
    rw [List.foldl_cons, hsent, hrecv]
    by_cases hv : v.name ∈ netInterfaces
    · simp [sumNic, hv, UInt64.add_assoc]
    · simp [sumNic, hv]

/-- The rate is an anomaly: it rounds to more than 10,000 MB/s. -/
def anomalous (rate : UInt64) : Prop := 1000000 < hundredths rate.toNat

theorem anomalous_iff (rate : UInt64) :
    bytesToMegabytes rate.toNat > 10000 ↔ anomalous rate := by
  rw [bytesToMegabytes_natCast, gt_iff_lt, lt_div_iff₀ (by norm_num)]
  unfold anomalous
  norm_num

/-- **What is published for two rates**: the rates in bytes and, rounded, in megabytes; zero when
one of them is an anomaly. -/
inductive Published (perSecond : UInt64 × UInt64) (stats : Stats) : Prop
  | reset (anomaly : anomalous perSecond.1 ∨ anomalous perSecond.2)
    (networkSent : stats.networkSent = 0) (networkRecv : stats.networkRecv = 0)
    (bandwidth : stats.bandwidth = (0, 0))
  | rates (regular : ¬ (anomalous perSecond.1 ∨ anomalous perSecond.2))
    (networkSent : stats.networkSent = bytesToMegabytes perSecond.1.toNat)
    (networkRecv : stats.networkRecv = bytesToMegabytes perSecond.2.toNat)
    (bandwidth : stats.bandwidth = perSecond)

theorem applyNetworkTotals_published (s : NetState) (p : Poll) (stats : Stats) (nis : NetIoStats)
    (totalBytesSent totalBytesRecv : UInt64) (perSecond : UInt64 × UInt64) :
    Published perSecond
      (s.applyNetworkTotals p stats nis totalBytesSent totalBytesRecv perSecond).2 := by
  unfold applyNetworkTotals
  dsimp only
  split_ifs with h <;> rw [anomalous_iff, anomalous_iff] at h
  · exact .reset h rfl rfl rfl
  · exact .rates h rfl rfl rfl

/-- **What a poll publishes**: its rates, or nothing when the counters cannot be read. -/
theorem updateNetworkStats_published (s : NetState) (p : Poll) (stats : Stats) :
    (s.rates p = none ∧ (s.updateNetworkStats p stats).2 = stats) ∨
      ∃ perSecond, s.rates p = some perSecond ∧
        Published perSecond (s.updateNetworkStats p stats).2 := by
  unfold updateNetworkStats rates
  cases hio : p.netIo with
  | none => exact Or.inl ⟨rfl, rfl⟩
  | some netIo =>
    refine Or.inr ⟨_, ?_, applyNetworkTotals_published _ _ _ _ _ _ _⟩
    simp only [Option.map_some, sumAndTrackPerNicDeltas, foldl_sumNic, UInt64.zero_add]
    rfl

end NetState

end Agent

end Beszel
