import Beszel.Agent.Network
import Beszel.Common.Text
import Beszel.Machinery.Totals

/-!
# Agent/Gpu — GPU samples are averaged for each cache key

    samples ──▸ running totals ──minus the key's snapshot──▸ ÷ samples since ──two decimals──▸ data

The collectors of `agent/gpu.go` and `agent/gpu_intel.go` add up what they sample and never reset
it.  `GetCurrentData` gives each cache key the averages since its own last call: for every key and
GPU there is a snapshot of the totals.  Values are rational, as the arithmetic is taken to be exact.
-/

namespace Beszel

open Machinery

namespace Agent

namespace Gpu

/-! ## The manager -/

/-- `system.GPUData`: while samples are collected the usage, the powers, the engines and the count
are totals. -/
structure GpuData where
  name : String
  temperature : ℚ
  memoryUsed : ℚ
  memoryTotal : ℚ
  usage : ℚ
  power : ℚ
  count : ℕ
  engines : Option (GoMap ℚ)
  powerPkg : ℚ

/-- A GPU with a name. -/
def GpuData.named (name : String) : GpuData := ⟨name, 0, 0, 0, 0, 0, 0, none, 0⟩

/-- `gpuSnapshot`. -/
structure GpuSnapshot where
  count : UInt32
  usage : ℚ
  power : ℚ
  powerPkg : ℚ
  engines : Option (GoMap ℚ)

/-- `GPUManager`; a map that is nil is empty. -/
structure GpuManager where
  gpuDataMap : GoMap GpuData
  lastAvgData : GoMap GpuData
  lastSnapshots : UInt16 → GoMap GpuSnapshot

/-- `NewGPUManager`; the parser of tegrastats has put its one GPU into the map. -/
def GpuManager.new (tegrastats : Bool) : GpuManager where
  gpuDataMap := if tegrastats then (∅ : GoMap GpuData).insert "0" (.named "GPU") else ∅
  lastAvgData := ∅
  lastSnapshots _ := ∅

/-! ## The collectors -/

/-- The entry of a GPU is changed; a GPU that is not in the map is added first. -/
def GpuManager.collect (gm : GpuManager) (id : String) (new : GpuData)
    (change : GpuData → GpuData) :
    GpuManager :=
  { gm with gpuDataMap := gm.gpuDataMap.insert id (change ((gm.gpuDataMap.lookup id).getD new)) }

/-- `intelGpuStats`. -/
structure IntelGpuStats where
  powerGPU : ℚ
  powerPkg : ℚ
  engines : GoMap ℚ

/-- What a sample of `intel_gpu_top` changes. -/
def addIntelSample (sample : IntelGpuStats) (gpu : GpuData) : GpuData :=
  { gpu with
    power := gpu.power + sample.powerGPU
    powerPkg := gpu.powerPkg + sample.powerPkg
    engines := some (addEntries (gpu.engines.getD ∅) sample.engines.entries)
    count := gpu.count + 1 }

/-- `updateIntelFromStats`. -/
def updateIntelFromStats (gm : GpuManager) (sample : IntelGpuStats) : GpuManager :=
  gm.collect "i0" { GpuData.named "GPU" with engines := some ∅ } (addIntelSample sample)

section Parsers

variable (parseFloat : String → ℚ)

/-- `mebibytesInAMegabyte`. -/
def mebibytesInAMegabyte : ℚ := 1024 / 1000

/-- `milliwattsInAWatt`. -/
def milliwattsInAWatt : ℚ := 1000

/-- What the fields of a line of nvidia-smi change. -/
def addNvidiaFields (fields : List String) (gpu : GpuData) : GpuData :=
  { gpu with
    temperature := parseFloat (fields.getD 2 "")
    memoryUsed := parseFloat (fields.getD 3 "") / mebibytesInAMegabyte
    memoryTotal := parseFloat (fields.getD 4 "") / mebibytesInAMegabyte
    usage := gpu.usage + parseFloat (fields.getD 5 "")
    power := gpu.power + parseFloat (fields.getD 6 "")
    count := gpu.count + 1 }

/-- The fields of a line of nvidia-smi, if they are enough. -/
def nvidiaFields (line : String) : Option (List String) :=
  let fields := (GoText.trimSpace line).splitOn ", "
  if fields.length < 7 then none else some fields

/-- `parseNvidiaData`, from the lines of the output. -/
def parseNvidiaData (gm : GpuManager) (lines : List String) : GpuManager :=
  (lines.filterMap nvidiaFields).foldl (fun gm fields =>
    gm.collect (fields.getD 0 "")
      (.named (GoText.trimEnd (GoText.trimStart (fields.getD 1 "") "NVIDIA ") " Laptop GPU"))
      (addNvidiaFields parseFloat fields)) gm

/-- `RocmSmiJson`. -/
structure RocmSmiJson where
  id : String
  name : String
  temperature : String
  memoryUsed : String
  memoryTotal : String
  usage : String
  powerPackage : String
  powerSocket : String

/-- The power of a GPU in the output of rocm-smi. -/
def RocmSmiJson.power (v : RocmSmiJson) : ℚ :=
  parseFloat (if v.powerPackage ≠ "" then v.powerPackage else v.powerSocket)

/-- What a GPU in the output of rocm-smi changes. -/
def addRocmSmiJson (v : RocmSmiJson) (gpu : GpuData) : GpuData :=
  { gpu with
    temperature := parseFloat v.temperature
    memoryUsed := bytesToMegabytes (parseFloat v.memoryUsed)
    memoryTotal := bytesToMegabytes (parseFloat v.memoryTotal)
    usage := gpu.usage + parseFloat v.usage
    power := gpu.power + v.power parseFloat
    count := gpu.count + 1 }

/-- `parseAmdData`, from the values of the decoded output, in the order of the map. -/
def parseAmdData (gm : GpuManager) (rocmSmiInfo : List RocmSmiJson) : GpuManager :=
  rocmSmiInfo.foldl (fun gm v => gm.collect v.id (.named v.name) (addRocmSmiJson parseFloat v)) gm

/-- The groups that the four patterns capture in a line of tegrastats. -/
structure TegraMatches where
  ram : Option (String × String)
  gr3d : Option String
  temp : Option String
  power : Option (String × String)

/-- The usage in a line of tegrastats, zero where there is none. -/
def TegraMatches.usage (m : TegraMatches) : ℚ := (m.gr3d.map parseFloat).getD 0

/-- The power in a line of tegrastats, zero where there is none: the second of the two groups if the
first is empty. -/
def TegraMatches.powerWatt (m : TegraMatches) : ℚ :=
  (m.power.map fun p => parseFloat (if p.1 = "" then p.2 else p.1) / milliwattsInAWatt).getD 0

/-- What a line of tegrastats changes. -/
def addTegraLine (m : TegraMatches) (gpu : GpuData) : GpuData :=
  { gpu with
    memoryUsed := (m.ram.map fun r => parseFloat r.1).getD gpu.memoryUsed
    memoryTotal := (m.ram.map fun r => parseFloat r.2).getD gpu.memoryTotal
    usage := gpu.usage + m.usage parseFloat
    temperature := (m.temp.map parseFloat).getD gpu.temperature
    power := gpu.power + m.powerWatt parseFloat
    count := gpu.count + 1 }

/-- The parser that `getJetsonParser` returns. -/
def parseTegrastats (gm : GpuManager) (m : TegraMatches) : GpuManager :=
  gm.collect "0" (.named "GPU") (addTegraLine parseFloat m)

end Parsers

/-! ## GetCurrentData -/

/-- `calculateDeltaCount`. -/
def calculateDeltaCount (currentCount : UInt32) : Option GpuSnapshot → UInt32
  | some lastSnapshot => currentCount - lastSnapshot.count
  | none => currentCount

/-- `calculateDeltas`: of usage, power and package power. -/
def calculateDeltas (gpu : GpuData) : Option GpuSnapshot → ℚ × ℚ × ℚ
  | some lastSnapshot => (gpu.usage - lastSnapshot.usage, gpu.power - lastSnapshot.power,
      gpu.powerPkg - lastSnapshot.powerPkg)
  | none => (gpu.usage, gpu.power, gpu.powerPkg)

/-- What an engine's total has grown by. -/
def deltaEngine (lastSnapshot : Option GpuSnapshot) (name : String) (engine : ℚ) : ℚ :=
  match lastSnapshot.bind (·.engines) with
  | some engines => engine - valueAt engines name
  | none => engine

/-- The averages of the engines, not rounded. -/
def engineMeans (engines : GoMap ℚ) (lastSnapshot : Option GpuSnapshot) (deltaCount : UInt32) :
    GoMap ℚ :=
  mapValues (fun name engine => deltaEngine lastSnapshot name engine / deltaCount.toNat) engines

/-- `calculateIntelGPUUsage`: the averages of the engines and the usage. -/
def calculateIntelGPUUsage (engines : GoMap ℚ) (lastSnapshot : Option GpuSnapshot)
    (deltaCount : UInt32) : GoMap ℚ × ℚ :=
  let means := engineMeans engines lastSnapshot deltaCount
  (mapValues (fun _ => twoDecimals) means, twoDecimals (highest (means.entries.map fun e => e.2)))

/-- The new average of a GPU, if there are samples since the snapshot. -/
def newAverage (gpu : GpuData) (lastSnapshot : Option GpuSnapshot) : Option GpuData :=
  let deltaCount := calculateDeltaCount (UInt32.ofNat gpu.count) lastSnapshot
  let (deltaUsage, deltaPower, deltaPowerPkg) := calculateDeltas gpu lastSnapshot
  if deltaCount = 0 then none
  else
    let gpuAvg := { gpu with power := twoDecimals (deltaPower / deltaCount.toNat) }
    match gpu.engines with
    | some engines =>
      let (averages, usage) := calculateIntelGPUUsage engines lastSnapshot deltaCount
      some { gpuAvg with
        engines := some averages
        usage := usage
        powerPkg := twoDecimals (deltaPowerPkg / deltaCount.toNat) }
    | none => some { gpuAvg with usage := twoDecimals (deltaUsage / deltaCount.toNat) }

/-- `calculateGPUAverage`: without new samples a GPU that looks suspended has zero values, another
one its last average. -/
def calculateGPUAverage (gm : GpuManager) (cacheKey : UInt16) (id : String) (gpu : GpuData) :
    GpuData :=
  match newAverage gpu ((gm.lastSnapshots cacheKey).lookup id) with
  | some gpuAvg => gpuAvg
  | none =>
    if gpu.temperature = 0 ∧ gpu.memoryUsed = 0 then .named gpu.name
    else (gm.lastAvgData.lookup id).getD (.named "")

/-- `updateInstantaneousValues`. -/
def updateInstantaneousValues (gpuAvg gpu : GpuData) : GpuData :=
  { gpuAvg with
    temperature := twoDecimals gpu.temperature
    memoryUsed := twoDecimals gpu.memoryUsed
    memoryTotal := twoDecimals gpu.memoryTotal }

/-- The name of a GPU, with its id if another one has the same. -/
def displayName (gm : GpuManager) (id : String) (gpu gpuAvg : GpuData) : String :=
  if 1 < gm.gpuDataMap.entries.countP (fun e => e.2.name = gpu.name) then gpu.name ++ " " ++ id
  else gpuAvg.name

/-- What `GetCurrentData` returns for a GPU. -/
def currentData (gm : GpuManager) (cacheKey : UInt16) (id : String) (gpu : GpuData) : GpuData :=
  let gpuAvg := updateInstantaneousValues (calculateGPUAverage gm cacheKey id gpu) gpu
  { gpuAvg with name := displayName gm id gpu gpuAvg }

/-- `storeSnapshot`. -/
def snapshot (gpu : GpuData) : GpuSnapshot where
  count := UInt32.ofNat gpu.count
  usage := gpu.usage
  power := gpu.power
  powerPkg := gpu.powerPkg
  engines := gpu.engines

/-- **`GetCurrentData`**: the data, and the manager with the key's snapshots taken.  The loop reads
and writes for each GPU the entries of its own id only. -/
def getCurrentData (gm : GpuManager) (cacheKey : UInt16) : GoMap GpuData × GpuManager :=
  (mapValues (currentData gm cacheKey) gm.gpuDataMap,
    { gm with
      lastAvgData := gm.gpuDataMap.entries.foldl (fun averages e =>
        match newAverage e.2 ((gm.lastSnapshots cacheKey).lookup e.1) with
        | some gpuAvg => averages.insert e.1 gpuAvg
        | none => averages) gm.lastAvgData
      lastSnapshots := Function.update gm.lastSnapshots cacheKey
        (mapValues (fun _ => snapshot) gm.gpuDataMap ∪ gm.lastSnapshots cacheKey) })

/-! ## Samples and their totals -/

/-- A sample of a GPU. -/
inductive Sample
  | plain (usage power : ℚ)
  | intel (power powerPkg : ℚ) (engines : GoMap ℚ)

namespace Sample

/-- The usage, zero where the sample has none. -/
def usage : Sample → ℚ
  | plain usage _ => usage
  | intel .. => 0

def power : Sample → ℚ
  | plain _ power => power
  | intel power _ _ => power

/-- The package power, zero where the sample has none. -/
def powerPkg : Sample → ℚ
  | plain .. => 0
  | intel _ powerPkg _ => powerPkg

/-- The engines, if the sample has them. -/
def engines : Sample → Option (GoMap ℚ)
  | plain .. => none
  | intel _ _ engines => some engines

/-- An engine's value, zero where the sample has none. -/
def engine (name : String) (s : Sample) : ℚ := valueAt (s.engines.getD ∅) name

end Sample

/-- What the samples of a GPU add up to. -/
structure GpuTotals where
  count : ℕ
  usage : ℚ
  power : ℚ
  powerPkg : ℚ
  engines : Option (GoMap ℚ)

/-- The totals of a GPU. -/
def GpuData.totals (gpu : GpuData) : GpuTotals :=
  ⟨gpu.count, gpu.usage, gpu.power, gpu.powerPkg, gpu.engines⟩

/-- The totals as a snapshot. -/
def GpuTotals.snapshot (t : GpuTotals) : GpuSnapshot :=
  ⟨UInt32.ofNat t.count, t.usage, t.power, t.powerPkg, t.engines⟩

/-- A sample is added. -/
def GpuTotals.add (t : GpuTotals) (s : Sample) : GpuTotals where
  count := t.count + 1
  usage := t.usage + s.usage
  power := t.power + s.power
  powerPkg := t.powerPkg + s.powerPkg
  engines := match s.engines with
    | some engines => some (addEntries (t.engines.getD ∅) engines.entries)
    | none => t.engines

/-- **The totals of samples.** -/
def tally (samples : List Sample) : GpuTotals := samples.foldl GpuTotals.add ⟨0, 0, 0, 0, none⟩

@[simp] theorem tally_nil : tally [] = ⟨0, 0, 0, 0, none⟩ := rfl

@[simp] theorem tally_concat (samples : List Sample) (s : Sample) :
    tally (samples ++ [s]) = (tally samples).add s :=
  List.foldl_append

section Tally

variable (samples : List Sample)

theorem count_tally : (tally samples).count = samples.length := by
  induction samples using List.reverseRecOn with
  | nil => rfl
  | append_singleton samples s ih => simp [GpuTotals.add, ih]

/-- What every sample adds to, from zero, is the sum of what they add. -/
theorem total_tally (field : GpuTotals → ℚ) {value : Sample → ℚ}
    (hzero : field ⟨0, 0, 0, 0, none⟩ = 0) (hadd : ∀ t s, field (t.add s) = field t + value s) :
    field (tally samples) = (samples.map value).sum := by
  induction samples using List.reverseRecOn with
  | nil => exact hzero
  | append_singleton samples s ih =>
    rw [tally_concat, hadd, ih, List.map_append, List.sum_append, List.map_singleton,
      List.sum_singleton]

theorem usage_tally : (tally samples).usage = (samples.map Sample.usage).sum :=
  total_tally samples GpuTotals.usage rfl fun _ _ => rfl

theorem power_tally : (tally samples).power = (samples.map Sample.power).sum :=
  total_tally samples GpuTotals.power rfl fun _ _ => rfl

theorem powerPkg_tally : (tally samples).powerPkg = (samples.map Sample.powerPkg).sum :=
  total_tally samples GpuTotals.powerPkg rfl fun _ _ => rfl

/-- An engine's total is the sum of its values. -/
theorem engine_tally (name : String) :
    valueAt ((tally samples).engines.getD ∅) name = (samples.map (Sample.engine name)).sum := by
  refine total_tally samples (fun t => valueAt (t.engines.getD ∅) name) rfl fun t s => ?_
  cases s with
  | plain usage power => simp [GpuTotals.add, Sample.engines, Sample.engine, valueAt]
  | intel power powerPkg engines =>
    simp only [GpuTotals.add, Sample.engines, Sample.engine, Option.getD_some]
    rw [valueAt_addEntries, sum_filter_key engines.nodupKeys]
    rfl

/-- There are engines once a sample has them. -/
theorem engines_tally_eq_none_iff :
    (tally samples).engines = none ↔ ∀ s ∈ samples, s.engines = none := by
  induction samples using List.reverseRecOn with
  | nil => simp
  | append_singleton samples s ih =>
    rw [tally_concat, List.forall_mem_append, ← ih]
    cases s <;> simp [GpuTotals.add, Sample.engines]

/-- The engines are those the samples have. -/
theorem mem_engines_tally (name : String) :
    name ∈ (tally samples).engines.getD ∅ ↔ ∃ s ∈ samples, name ∈ s.engines.getD ∅ := by
  induction samples using List.reverseRecOn with
  | nil => simp
  | append_singleton samples s ih =>
    simp only [tally_concat, List.mem_append, List.mem_singleton, or_and_right, exists_or,
      exists_eq_left, ← ih]
    cases s with
    | plain usage power => simp [GpuTotals.add, Sample.engines]
    | intel power powerPkg engines =>
      simp only [GpuTotals.add, Sample.engines, Option.getD_some, mem_addEntries]
      refine or_congr_right ?_
      rw [← List.mem_map]
      rfl

end Tally

/-! ## What the manager keeps -/

/-- **The manager tracks the samples**: a GPU's entry has the totals of all its samples, and a key's
snapshot has those of the samples before the key's last call.  `all` has the samples of each GPU,
`since` those since the last call with a key. -/
structure Tracks (gm : GpuManager) (all : String → List Sample)
    (since : UInt16 → String → List Sample) : Prop where
  totals : ∀ id, ∀ gpu ∈ gm.gpuDataMap.lookup id, gpu.totals = tally (all id)
  absent : ∀ id, gm.gpuDataMap.lookup id = none → all id = []
  snapshot : ∀ key id, ∃ before, all id = before ++ since key id ∧
    ∀ snapshot ∈ (gm.lastSnapshots key).lookup id, snapshot = (tally before).snapshot
  fresh : ∀ key id, (gm.lastSnapshots key).lookup id = none → all id = since key id

theorem Tracks.new (tegrastats : Bool) :
    Tracks (.new tegrastats) (fun _ => []) fun _ _ => [] where
  totals id gpu hgpu := by
    unfold GpuManager.new at hgpu
    split_ifs at hgpu
    · by_cases hid : id = "0"
      · subst hid
        rw [AList.lookup_insert] at hgpu
        obtain rfl := Option.some.inj hgpu
        rfl
      · rw [AList.lookup_insert_ne hid] at hgpu
        exact absurd hgpu (by simp)
    · exact absurd hgpu (by simp)
  absent _ _ := rfl
  snapshot key id := ⟨[], rfl, fun snapshot h => absurd h (by simp [GpuManager.new])⟩
  fresh _ _ _ := rfl

/-- The samples of one GPU with one more. -/
def appendAt (samples : String → List Sample) (id : String) (s : Sample) : String → List Sample :=
  Function.update samples id (samples id ++ [s])

theorem appendAt_self (samples : String → List Sample) (id : String) (s : Sample) :
    appendAt samples id s id = samples id ++ [s] :=
  Function.update_self ..

theorem appendAt_of_ne (samples : String → List Sample) {id id' : String} (s : Sample)
    (h : id' ≠ id) : appendAt samples id s id' = samples id' :=
  Function.update_of_ne h ..

/-- **A collector that adds a sample is tracked.** -/
theorem Tracks.collect {gm : GpuManager} {all : String → List Sample}
    {since : UInt16 → String → List Sample} (h : Tracks gm all since) (id : String) (new : GpuData)
    {change : GpuData → GpuData} {s : Sample}
    (hchange : ∀ gpu, (change gpu).totals = gpu.totals.add s)
    (hnew : new.totals.add s = (tally []).add s) :
    Tracks (gm.collect id new change) (appendAt all id s) fun key => appendAt (since key) id s where
  totals id' gpu hgpu := by
    unfold GpuManager.collect at hgpu
    by_cases hid : id' = id
    · subst hid
      rw [AList.lookup_insert] at hgpu
      obtain rfl := Option.some.inj hgpu
      rw [appendAt_self, tally_concat]
      cases hold : gm.gpuDataMap.lookup id' with
      | none => rw [Option.getD_none, hchange, hnew, h.absent id' hold]
      | some old => rw [Option.getD_some, hchange, h.totals id' old hold]
    · rw [AList.lookup_insert_ne hid] at hgpu
      rw [appendAt_of_ne _ _ hid]
      exact h.totals id' gpu hgpu
  absent id' hnone := by
    unfold GpuManager.collect at hnone
    by_cases hid : id' = id
    · subst hid
      rw [AList.lookup_insert] at hnone
      exact absurd hnone (by simp)
    · rw [AList.lookup_insert_ne hid] at hnone
      rw [appendAt_of_ne _ _ hid]
      exact h.absent id' hnone
  snapshot key id' := by
    obtain ⟨before, hall, hsnapshot⟩ := h.snapshot key id'
    refine ⟨before, ?_, hsnapshot⟩
    by_cases hid : id' = id
    · subst hid
      rw [appendAt_self, appendAt_self, hall, List.append_assoc]
    · rw [appendAt_of_ne _ _ hid, appendAt_of_ne _ _ hid, hall]
  fresh key id' hnone := by
    have hsame := h.fresh key id' hnone
    by_cases hid : id' = id
    · subst hid
      rw [appendAt_self, appendAt_self, hsame]
    · rw [appendAt_of_ne _ _ hid, appendAt_of_ne _ _ hid, hsame]

/-- The snapshots of a key after a call with it. -/
theorem lookup_snapshots (gm : GpuManager) (key : UInt16) (id : String) :
    ((getCurrentData gm key).2.lastSnapshots key).lookup id =
      ((gm.gpuDataMap.lookup id).map snapshot).or ((gm.lastSnapshots key).lookup id) := by
  simp only [getCurrentData, Function.update_self]
  rw [lookup_union, lookup_mapValues]

/-- **A call takes the key's snapshots**, and leaves those of the other keys. -/
theorem Tracks.getCurrentData {gm : GpuManager} {all : String → List Sample}
    {since : UInt16 → String → List Sample} (h : Tracks gm all since) (key : UInt16) :
    Tracks (getCurrentData gm key).2 all (Function.update since key fun _ => []) where
  totals := h.totals
  absent := h.absent
  snapshot key' id := by
    by_cases hkey : key' = key
    · subst hkey
      refine ⟨all id, by simp, fun snap hsnap => ?_⟩
      rw [lookup_snapshots] at hsnap
      cases hgpu : gm.gpuDataMap.lookup id with
      | some gpu =>
        rw [hgpu] at hsnap
        obtain rfl := Option.some.inj hsnap
        rw [← h.totals id gpu hgpu]
        rfl
      | none =>
        -- a GPU that is not there has no samples, before the last call or since
        rw [hgpu] at hsnap
        obtain ⟨before, hall, hsnapshot⟩ := h.snapshot key' id
        rw [hsnapshot snap hsnap]
        have hnil := h.absent id hgpu
        rw [hnil] at hall ⊢
        rw [(List.append_eq_nil_iff.mp hall.symm).1]
    · obtain ⟨before, hall, hsnapshot⟩ := h.snapshot key' id
      refine ⟨before, ?_, fun snap hsnap => hsnapshot snap ?_⟩
      · rwa [Function.update_of_ne hkey]
      · simpa only [Gpu.getCurrentData, Function.update_of_ne hkey] using hsnap
  fresh key' id hnone := by
    by_cases hkey : key' = key
    · subst hkey
      rw [lookup_snapshots, Option.or_eq_none_iff, Option.map_eq_none_iff] at hnone
      rw [Function.update_self]
      exact h.absent id hnone.1
    · simp only [Gpu.getCurrentData, Function.update_of_ne hkey] at hnone
      rw [Function.update_of_ne hkey]
      exact h.fresh key' id hnone

/-! ## Runs -/

/-- What can happen: one of the collectors delivers, or the data is asked for. -/
inductive Event
  | intel (sample : IntelGpuStats)
  | nvidia (lines : List String)
  | amd (rocmSmiInfo : List RocmSmiJson)
  | tegra (groups : TegraMatches)
  | getCurrentData (cacheKey : UInt16)

section Runs

variable (parseFloat : String → ℚ)

/-- One step. -/
def step (gm : GpuManager) : Event → GpuManager
  | .intel sample => updateIntelFromStats gm sample
  | .nvidia lines => parseNvidiaData parseFloat gm lines
  | .amd rocmSmiInfo => parseAmdData parseFloat gm rocmSmiInfo
  | .tegra groups => parseTegrastats parseFloat gm groups
  | .getCurrentData cacheKey => (getCurrentData gm cacheKey).2

/-- **The manager after some events.** -/
def manager (tegrastats : Bool) (es : List Event) : GpuManager :=
  es.foldl (step parseFloat) (.new tegrastats)

/-- The samples an event brings, with the ids of their GPUs. -/
def Event.samples : Event → List (String × Sample)
  | .intel sample => [("i0", .intel sample.powerGPU sample.powerPkg sample.engines)]
  | .nvidia lines => (lines.filterMap nvidiaFields).map fun fields =>
      (fields.getD 0 "", .plain (parseFloat (fields.getD 5 "")) (parseFloat (fields.getD 6 "")))
  | .amd rocmSmiInfo => rocmSmiInfo.map fun v =>
      (v.id, .plain (parseFloat v.usage) (v.power parseFloat))
  | .tegra groups => [("0", .plain (groups.usage parseFloat) (groups.powerWatt parseFloat))]
  | .getCurrentData _ => []

/-- **The samples of a GPU**, in the order of their arrival. -/
def samplesOf (id : String) (es : List Event) : List Sample :=
  ((es.flatMap (Event.samples parseFloat)).filter (·.1 = id)).map (·.2)

end Runs

/-- The event is a call with the key. -/
def Event.calls (key : UInt16) : Event → Bool
  | .getCurrentData cacheKey => cacheKey = key
  | _ => false

/-- **The events since the last call with a key**, or since the start if there was none. -/
def sinceCall (key : UInt16) (es : List Event) : List Event :=
  (es.reverse.takeWhile fun e => !e.calls key).reverse

theorem sinceCall_concat (key : UInt16) (es : List Event) (e : Event) :
    sinceCall key (es ++ [e]) = if e.calls key then [] else sinceCall key es ++ [e] := by
  rw [sinceCall, List.reverse_concat, List.takeWhile_cons]
  split_ifs with h h' h'
  · simp [h'] at h
  · rw [List.reverse_cons]
    rfl
  · rfl
  · simp [h'] at h

/-- Samples are added, each at its GPU. -/
def appendAll (samples : String → List Sample) (new : List (String × Sample)) :
    String → List Sample :=
  fun id => samples id ++ (new.filter (·.1 = id)).map (·.2)

theorem appendAll_appendAt (samples : String → List Sample) (id : String) (s : Sample)
    (new : List (String × Sample)) :
    appendAll (appendAt samples id s) new = appendAll samples ((id, s) :: new) := by
  funext id'
  by_cases hid : id' = id
  · subst hid
    simp [appendAll, appendAt_self]
  · rw [appendAll, appendAt_of_ne _ _ hid, appendAll, List.filter_cons_of_neg]
    simpa using Ne.symm hid

theorem appendAll_nil (samples : String → List Sample) : appendAll samples [] = samples :=
  funext fun id => by simp [appendAll]

theorem appendAll_singleton (samples : String → List Sample) (id : String) (s : Sample) :
    appendAll samples [(id, s)] = appendAt samples id s := by
  rw [← appendAll_appendAt, appendAll_nil]

/-- **A collector that adds a sample for each item is tracked.** -/
theorem Tracks.foldl {β : Type} {id : β → String} {new : β → GpuData}
    {change : β → GpuData → GpuData} {sample : β → Sample}
    (hchange : ∀ b gpu, (change b gpu).totals = gpu.totals.add (sample b))
    (hnew : ∀ b, (new b).totals.add (sample b) = (tally []).add (sample b)) {gm : GpuManager}
    {all : String → List Sample} {since : UInt16 → String → List Sample}
    (h : Tracks gm all since) (items : List β) :
    Tracks (items.foldl (fun gm b => gm.collect (id b) (new b) (change b)) gm)
      (appendAll all (items.map fun b => (id b, sample b)))
      fun key => appendAll (since key) (items.map fun b => (id b, sample b)) := by
  induction items generalizing gm all since with
  | nil => simpa only [List.foldl_nil, List.map_nil, appendAll_nil] using h
  | cons b items ih =>
    have hrest := ih (h.collect (id b) (new b) (hchange b) (hnew b))
    simpa only [List.foldl_cons, List.map_cons, appendAll_appendAt] using hrest

theorem totals_addIntelSample (sample : IntelGpuStats) (gpu : GpuData) :
    (addIntelSample sample gpu).totals =
      gpu.totals.add (.intel sample.powerGPU sample.powerPkg sample.engines) := by
  simp [addIntelSample, GpuData.totals, GpuTotals.add, Sample.usage, Sample.power,
    Sample.powerPkg, Sample.engines]

section Runs

variable (parseFloat : String → ℚ)

theorem totals_addNvidiaFields (fields : List String) (gpu : GpuData) :
    (addNvidiaFields parseFloat fields gpu).totals = gpu.totals.add
      (.plain (parseFloat (fields.getD 5 "")) (parseFloat (fields.getD 6 ""))) := by
  simp [addNvidiaFields, GpuData.totals, GpuTotals.add, Sample.usage, Sample.power,
    Sample.powerPkg, Sample.engines]

theorem totals_addRocmSmiJson (v : RocmSmiJson) (gpu : GpuData) :
    (addRocmSmiJson parseFloat v gpu).totals =
      gpu.totals.add (.plain (parseFloat v.usage) (v.power parseFloat)) := by
  simp [addRocmSmiJson, GpuData.totals, GpuTotals.add, Sample.usage, Sample.power,
    Sample.powerPkg, Sample.engines]

theorem totals_addTegraLine (groups : TegraMatches) (gpu : GpuData) :
    (addTegraLine parseFloat groups gpu).totals =
      gpu.totals.add (.plain (groups.usage parseFloat) (groups.powerWatt parseFloat)) := by
  simp [addTegraLine, GpuData.totals, GpuTotals.add, Sample.usage, Sample.power,
    Sample.powerPkg, Sample.engines]

/-- **Every event is tracked.** -/
theorem Tracks.step {gm : GpuManager} {all : String → List Sample}
    {since : UInt16 → String → List Sample} (h : Tracks gm all since) (e : Event) :
    Tracks (step parseFloat gm e) (appendAll all (e.samples parseFloat)) fun key =>
      if e.calls key then fun _ => [] else appendAll (since key) (e.samples parseFloat) := by
  cases e with
  | intel sample =>
    have hsample := h.collect "i0" { GpuData.named "GPU" with engines := some ∅ }
      (totals_addIntelSample sample) rfl
    simp only [← appendAll_singleton] at hsample
    exact hsample
  | nvidia lines =>
    exact h.foldl (totals_addNvidiaFields parseFloat) (fun _ => rfl) (lines.filterMap nvidiaFields)
  | amd rocmSmiInfo =>
    exact h.foldl (totals_addRocmSmiJson parseFloat) (fun _ => rfl) rocmSmiInfo
  | tegra groups =>
    have hsample := h.collect "0" (GpuData.named "GPU")
      (totals_addTegraLine parseFloat groups) rfl
    simp only [← appendAll_singleton] at hsample
    exact hsample
  | getCurrentData cacheKey =>
    have hcall := h.getCurrentData cacheKey
    have hsince : (fun key => if Event.calls key (.getCurrentData cacheKey) then fun _ => [] else
        appendAll (since key) []) = Function.update since cacheKey fun _ => [] := by
      funext key
      by_cases hkey : key = cacheKey
      · subst hkey
        rw [Function.update_self]
        exact if_pos (decide_eq_true rfl)
      · rw [Function.update_of_ne hkey, appendAll_nil]
        exact if_neg fun hcalls => hkey (of_decide_eq_true hcalls).symm
    rw [← hsince, ← appendAll_nil all] at hcall
    exact hcall

theorem samplesOf_concat (id : String) (es : List Event) (e : Event) :
    samplesOf parseFloat id (es ++ [e]) =
      samplesOf parseFloat id es ++ ((e.samples parseFloat).filter (·.1 = id)).map (·.2) := by
  simp [samplesOf]

/-- **The manager tracks its samples**, after any events. -/
theorem tracks_manager (tegrastats : Bool) (es : List Event) :
    Tracks (manager parseFloat tegrastats es) (fun id => samplesOf parseFloat id es)
      fun key id => samplesOf parseFloat id (sinceCall key es) := by
  induction es using List.reverseRecOn with
  | nil => exact .new tegrastats
  | append_singleton es e ih =>
    have hstep := ih.step parseFloat e
    have hmanager : manager parseFloat tegrastats (es ++ [e]) =
        Gpu.step parseFloat (manager parseFloat tegrastats es) e := List.foldl_append
    rw [hmanager]
    convert hstep using 1
    · funext id
      exact samplesOf_concat parseFloat id es e
    · funext key id
      rw [sinceCall_concat]
      split_ifs
      · rfl
      · exact samplesOf_concat parseFloat id _ e

end Runs

/-! ## The averages -/

/-- The mean of a value over samples. -/
def mean (samples : List Sample) (value : Sample → ℚ) : ℚ :=
  (samples.map value).sum / samples.length

/-- **The averages over the samples `since`**, of a GPU with the samples `all`: the usage is that of
the samples if none has engines; else it is the highest average of an engine, or zero if none is
positive. -/
structure Averages (g : GpuData) (all since : List Sample) : Prop where
  power : g.power = twoDecimals (mean since Sample.power)
  powerPkg : g.powerPkg = twoDecimals (mean since Sample.powerPkg)
  plain : (∀ s ∈ all, s.engines = none) →
    g.engines = none ∧ g.usage = twoDecimals (mean since Sample.usage)
  engines : (∃ s ∈ all, s.engines ≠ none) → ∃ averages, g.engines = some averages ∧
    (∀ name, averages.lookup name = if ∃ s ∈ all, name ∈ s.engines.getD ∅
      then some (twoDecimals (mean since (Sample.engine name))) else none) ∧
    ∃ highest, IsGreatest (insert 0 (Set.range fun name => mean since (Sample.engine name))) highest
      ∧ g.usage = twoDecimals highest

theorem mean_eq_zero {samples : List Sample} {value : Sample → ℚ}
    (h : ∀ s ∈ samples, value s = 0) : mean samples value = 0 := by
  rw [mean, List.sum_eq_zero, zero_div]
  intro x hx
  obtain ⟨s, hs, rfl⟩ := List.mem_map.mp hx
  exact h s hs

theorem powerPkg_eq_zero : ∀ {s : Sample}, s.engines = none → s.powerPkg = 0
  | .plain .., _ => rfl

section Average

variable {gpu : GpuData} {before since : List Sample} {last : Option GpuSnapshot}
  (hgpu : gpu.totals = tally (before ++ since))
  (hlast : ∀ snapshot ∈ last, snapshot = (tally before).snapshot)
  (hnone : last = none → before = [])
include hgpu hlast hnone

/-- The count has grown by the samples since the snapshot. -/
theorem toNat_deltaCount (hcount : (before ++ since).length < 2 ^ 32) :
    (calculateDeltaCount (UInt32.ofNat gpu.count) last).toNat = since.length := by
  have hgpuCount : gpu.count = before.length + since.length := by
    rw [← List.length_append, ← count_tally, ← hgpu]
    rfl
  rw [List.length_append] at hcount
  cases last with
  | none =>
    rw [hnone rfl, List.length_nil, Nat.zero_add] at hgpuCount
    rw [calculateDeltaCount, UInt32.toNat_ofNat', hgpuCount]
    omega
  | some snapshot =>
    obtain rfl := hlast snapshot rfl
    rw [calculateDeltaCount, hgpuCount, UInt32.toNat_sub, UInt32.toNat_ofNat', GpuTotals.snapshot,
      UInt32.toNat_ofNat', count_tally]
    omega

/-- The totals have grown by the sums over the samples since the snapshot. -/
theorem deltas_eq : calculateDeltas gpu last = ((since.map Sample.usage).sum,
    (since.map Sample.power).sum, (since.map Sample.powerPkg).sum) := by
  have husage : gpu.usage = (tally (before ++ since)).usage := congrArg GpuTotals.usage hgpu
  have hpower : gpu.power = (tally (before ++ since)).power := congrArg GpuTotals.power hgpu
  have hpkg : gpu.powerPkg = (tally (before ++ since)).powerPkg := congrArg GpuTotals.powerPkg hgpu
  rw [usage_tally, List.map_append, List.sum_append] at husage
  rw [power_tally, List.map_append, List.sum_append] at hpower
  rw [powerPkg_tally, List.map_append, List.sum_append] at hpkg
  cases last with
  | none =>
    rw [hnone rfl] at husage hpower hpkg
    simp [calculateDeltas, husage, hpower, hpkg]
  | some snapshot =>
    obtain rfl := hlast snapshot rfl
    simp [calculateDeltas, GpuTotals.snapshot, usage_tally, power_tally, powerPkg_tally, husage,
      hpower, hpkg]

/-- …and so have those of the engines. -/
theorem deltaEngine_eq {engines : GoMap ℚ} (hengines : gpu.engines = some engines)
    {name : String} {engine : ℚ} (hengine : engines.lookup name = some engine) :
    deltaEngine last name engine = (since.map (Sample.engine name)).sum := by
  have htotal := engine_tally (before ++ since) name
  rw [← hgpu] at htotal
  have hvalue : valueAt (gpu.totals.engines.getD ∅) name = engine := by
    simp [GpuData.totals, hengines, valueAt, hengine]
  rw [hvalue, List.map_append, List.sum_append, ← engine_tally] at htotal
  unfold deltaEngine
  cases last with
  | none =>
    rw [hnone rfl] at htotal
    simpa [valueAt] using htotal
  | some snapshot =>
    obtain rfl := hlast snapshot rfl
    simp only [Option.bind_some, GpuTotals.snapshot]
    cases hbefore : (tally before).engines with
    | none =>
      rw [hbefore] at htotal
      simpa [valueAt] using htotal
    | some engines =>
      rw [hbefore, Option.getD_some] at htotal
      simp [htotal]

/-- The mean of an engine is there if a sample has the engine. -/
theorem lookup_engineMeans (hcount : (before ++ since).length < 2 ^ 32) {engines : GoMap ℚ}
    (hengines : gpu.engines = some engines) (name : String) :
    (engineMeans engines last (calculateDeltaCount (UInt32.ofNat gpu.count) last)).lookup name =
      if ∃ s ∈ before ++ since, name ∈ s.engines.getD ∅
      then some (mean since (Sample.engine name)) else none := by
  have htotals : gpu.engines = (tally (before ++ since)).engines := congrArg GpuTotals.engines hgpu
  have hmem : name ∈ engines ↔ ∃ s ∈ before ++ since, name ∈ s.engines.getD ∅ := by
    rw [← mem_engines_tally, ← htotals, hengines, Option.getD_some]
  rw [engineMeans, lookup_mapValues, toNat_deltaCount hgpu hlast hnone hcount]
  split_ifs with h
  · obtain ⟨engine, hengine⟩ := Option.isSome_iff_exists.mp
      (AList.lookup_isSome.mpr (hmem.mpr h))
    rw [hengine, Option.map_some, deltaEngine_eq hgpu hlast hnone hengines hengine]
    rfl
  · rw [AList.lookup_eq_none.mpr (mt hmem.mp h), Option.map_none]

/-- An engine that no sample has counts as zero. -/
theorem valueAt_engineMeans (hcount : (before ++ since).length < 2 ^ 32) {engines : GoMap ℚ}
    (hengines : gpu.engines = some engines) (name : String) :
    valueAt (engineMeans engines last (calculateDeltaCount (UInt32.ofNat gpu.count) last)) name =
      mean since (Sample.engine name) := by
  rw [valueAt, lookup_engineMeans hgpu hlast hnone hcount hengines]
  split_ifs with h
  · rfl
  · refine (mean_eq_zero fun s hs => ?_).symm
    have hnotMem : name ∉ s.engines.getD ∅ := fun hname =>
      h ⟨s, List.mem_append_right _ hs, hname⟩
    rw [Sample.engine, valueAt, AList.lookup_eq_none.mpr hnotMem, Option.getD_none]

/-- **The new average of a GPU.** -/
theorem averages_newAverage (hsince : since ≠ []) (hcount : (before ++ since).length < 2 ^ 32) :
    ∃ gpuAvg, newAverage gpu last = some gpuAvg ∧ Averages gpuAvg (before ++ since) since := by
  have hdelta := toNat_deltaCount hgpu hlast hnone hcount
  have hne : calculateDeltaCount (UInt32.ofNat gpu.count) last ≠ 0 := by
    intro hzero
    rw [hzero] at hdelta
    exact hsince (List.length_eq_zero_iff.mp hdelta.symm)
  have hengines : gpu.engines = (tally (before ++ since)).engines := congrArg GpuTotals.engines hgpu
  have hall : (∀ s ∈ before ++ since, s.engines = none) ↔ gpu.engines = none := by
    rw [hengines, engines_tally_eq_none_iff]
  simp only [newAverage, deltas_eq hgpu hlast hnone, if_neg hne, hdelta]
  cases hcase : gpu.engines with
  | none =>
    have hplain := hall.mpr hcase
    refine ⟨_, rfl, rfl, ?_, fun _ => ⟨rfl, rfl⟩, fun ⟨s, hs, hsome⟩ => absurd (hplain s hs) hsome⟩
    have hpkg : gpu.powerPkg = (tally (before ++ since)).powerPkg :=
      congrArg GpuTotals.powerPkg hgpu
    rw [mean_eq_zero fun s hs => powerPkg_eq_zero (hplain s (List.mem_append_right _ hs)),
      twoDecimals_zero]
    rw [powerPkg_tally, List.sum_eq_zero] at hpkg
    · exact hpkg
    · intro x hx
      obtain ⟨s, hs, rfl⟩ := List.mem_map.mp hx
      exact powerPkg_eq_zero (hplain s hs)
  | some engines =>
    refine ⟨_, rfl, rfl, rfl, fun hplain => ?_, fun _ => ⟨_, rfl, fun name => ?_, _, ?_, rfl⟩⟩
    · exact absurd ((hall.mp hplain).symm.trans hcase) (by simp)
    · rw [calculateIntelGPUUsage, lookup_mapValues,
        lookup_engineMeans hgpu hlast hnone hcount hcase]
      split_ifs <;> rfl
    · rw [← funext (valueAt_engineMeans hgpu hlast hnone hcount hcase)]
      exact isGreatest_valueAt _

end Average

section Runs

variable (parseFloat : String → ℚ)

/-- **The averages are isolated by key** — whatever the collectors deliver and whatever calls are
made with any keys, a call with `key` returns for every GPU that was sampled since the last call
with `key` the averages over exactly those samples. -/
theorem averages_getCurrentData (tegrastats : Bool) (es : List Event) (key : UInt16) (id : String)
    (hsince : samplesOf parseFloat id (sinceCall key es) ≠ [])
    (hcount : (samplesOf parseFloat id es).length < 2 ^ 32) :
    ∃ g, (getCurrentData (manager parseFloat tegrastats es) key).1.lookup id = some g ∧
      Averages g (samplesOf parseFloat id es) (samplesOf parseFloat id (sinceCall key es)) := by
  have h := tracks_manager parseFloat tegrastats es
  obtain ⟨before, hall, hsnapshot⟩ := h.snapshot key id
  cases hgpu : (manager parseFloat tegrastats es).gpuDataMap.lookup id with
  | none =>
    have hnil := h.absent id hgpu
    rw [hnil] at hall
    exact absurd (List.append_eq_nil_iff.mp hall.symm).2 hsince
  | some gpu =>
    have htotals := h.totals id gpu hgpu
    rw [hall] at htotals hcount ⊢
    have hbefore : ((manager parseFloat tegrastats es).lastSnapshots key).lookup id = none →
        before = [] := fun hnone =>
      List.append_left_eq_self.mp (hall.symm.trans (h.fresh key id hnone))
    obtain ⟨gpuAvg, havg, haverages⟩ :=
      averages_newAverage htotals hsnapshot hbefore hsince hcount
    refine ⟨currentData (manager parseFloat tegrastats es) key id gpu, ?_, ?_⟩
    · rw [getCurrentData, lookup_mapValues, hgpu, Option.map_some]
    · simp only [currentData, calculateGPUAverage, havg, updateInstantaneousValues]
      exact ⟨haverages.power, haverages.powerPkg, haverages.plain, haverages.engines⟩

end Runs

/-- A sample of `intel_gpu_top` with one engine. -/
def exampleSample (engine : ℚ) : IntelGpuStats :=
  ⟨2, 5, (∅ : GoMap ℚ).insert "Render/3D" engine⟩

/-- Two samples, with a call for another key between them. -/
def exampleEvents : List Event :=
  [.intel (exampleSample 10), .getCurrentData 1, .intel (exampleSample 20)]

theorem averages_getCurrentData_example :
    ∃ g, (getCurrentData (manager (fun _ => 0) false exampleEvents) 0).1.lookup "i0" = some g ∧
      (samplesOf (fun _ => 0) "i0" (sinceCall 0 exampleEvents)).length = 2 ∧
      Averages g (samplesOf (fun _ => 0) "i0" exampleEvents)
        (samplesOf (fun _ => 0) "i0" (sinceCall 0 exampleEvents)) := by
  have hlength : (samplesOf (fun _ => 0) "i0" (sinceCall 0 exampleEvents)).length = 2 := by
    decide +kernel
  obtain ⟨g, hg, haverages⟩ := averages_getCurrentData (fun _ => 0) false exampleEvents 0 "i0"
    (fun hnil => absurd hlength (by simp [hnil])) (by decide +kernel)
  exact ⟨g, hg, hlength, haverages⟩

/-- An engine with a negative value: the usage is zero, not the highest average of an engine. -/
theorem usage_not_highest_average :
    ¬ ∀ (parseFloat : String → ℚ) (tegrastats : Bool) (es : List Event) (key : UInt16)
      (id : String) (g : GpuData), samplesOf parseFloat id (sinceCall key es) ≠ [] →
      (samplesOf parseFloat id es).length < 2 ^ 32 →
      (∃ s ∈ samplesOf parseFloat id es, s.engines ≠ none) →
      (getCurrentData (manager parseFloat tegrastats es) key).1.lookup id = some g →
      ∃ highest, IsGreatest {m | ∃ s ∈ samplesOf parseFloat id es, ∃ name ∈ s.engines.getD ∅,
        mean (samplesOf parseFloat id (sinceCall key es)) (Sample.engine name) = m} highest ∧
        g.usage = twoDecimals highest := by
  intro h
  obtain ⟨g, hg, husage⟩ : ∃ g, (getCurrentData (manager (fun _ => 0) false
      [.intel (exampleSample (-1))]) 0).1.lookup "i0" = some g ∧ g.usage = 0 :=
    Option.map_eq_some_iff.mp (by decide +kernel)
  have hsamples : samplesOf (fun _ => 0) "i0" [.intel (exampleSample (-1))] =
      [.intel 2 5 (exampleSample (-1)).engines] := rfl
  have hsince : samplesOf (fun _ => 0) "i0" (sinceCall 0 [.intel (exampleSample (-1))]) =
      [.intel 2 5 (exampleSample (-1)).engines] := rfl
  obtain ⟨highest, hgreatest, hhighest⟩ := h (fun _ => 0) false [.intel (exampleSample (-1))] 0 "i0"
    g (by simp [hsince]) (by simp [hsamples]) ⟨_, List.mem_cons_self, by simp [Sample.engines]⟩ hg
  obtain ⟨s, hs, name, hname, hmean⟩ := hgreatest.1
  obtain rfl := List.mem_singleton.mp (hsamples ▸ hs)
  have hname : name = "Render/3D" := (AList.mem_insert (∅ : GoMap ℚ)).mp hname |>.resolve_right
    (AList.notMem_empty name)
  rw [hsince, hname] at hmean
  have hvalue :
      mean [.intel 2 5 (exampleSample (-1)).engines] (Sample.engine "Render/3D") = -1 := by
    decide +kernel
  rw [hvalue] at hmean
  rw [husage, ← hmean] at hhighest
  exact absurd hhighest (by decide +kernel)

end Gpu

end Agent

end Beszel
