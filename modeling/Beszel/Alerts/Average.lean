import Beszel.Alerts.System
import Mathlib.Algebra.BigOperators.Group.List.Lemmas
import Mathlib.Tactic.Linarith

/-!
# Alerts/Average — what the averages of the system alerts are averages of

    records ──decode into one struct──▸ readings ──▸ average
    records ──each on its own─────────▸ metrics  ──▸ mean

The value an alert is decided on should be the mean of its metric over the records of its window,
each record read by itself; for disks and sensors the highest of their means.  The loop reads the
records through one struct, so that a record without a field contributes what an earlier record had
there; it takes the extra disks from the current sample, and adds one with the key `root` to the
root disk; its highest mean is never below zero; and it counts in eight bits.  `averages_iff` says
exactly when none of this shows.
-/

namespace Beszel

open Machinery

namespace SystemAlerts

/-- The alerts whose average is the highest of the averages of their keys. -/
def AlertName.keyed : AlertName → Bool
  | .disk | .temperature => true
  | _ => false

/-! ## The metric of a record

A record has a value for each disk or sensor, the alerts without keys have one for the system.
`none` is a record that is not counted. -/

/-- What a value is of: the system as a whole, or its root disk; or an extra disk or a sensor. -/
inductive Key
  | whole
  | named (k : String)

/-- The percentage of a disk, zero if it is not there. -/
def pctAt (m : GoMap FsStats) (k : String) : ℚ := ((m.lookup k).map FsStats.usedPct).getD 0

/-- The entry of an optional map. -/
def entry {α : Type} (m : Option (GoMap α)) (k : String) : Option α := m.bind (·.lookup k)

/-- The record has data of some GPU. -/
def hasGpu (json : StatsJson) : Bool :=
  match json.g with
  | none => false
  | some m => !m.entries.isEmpty

/-- The highest usage in a map of GPUs. -/
def topUsage (m : GoMap ℚ) : ℚ := (m.entries.map fun e => e.2).max?.getD 0

/-- The highest usage in a map of GPUs, from zero. -/
def maxUsage (m : GoMap ℚ) : ℚ := highest (m.entries.map fun e => e.2)

/-- A value of the system. -/
def ofSystem (v : ℚ) : Key → Option ℚ
  | .whole => some v
  | .named _ => none

/-- The percentages of the disks of a record. -/
def ofDisks (json : StatsJson) : Key → Option ℚ
  | .whole => some (json.dp.getD 0)
  | .named k => (entry json.efs k).map FsStats.usedPct

/-- The temperatures of the sensors of a record. -/
def ofSensors (json : StatsJson) : Key → Option ℚ
  | .whole => none
  | .named k => entry json.t k

/-- **The metric of a record, from its own JSON**: a field that is not there counts as zero. -/
def metric (json : StatsJson) : AlertName → Option (Key → Option ℚ)
  | .cpu => some (ofSystem (json.cpu.getD 0))
  | .memory => some (ofSystem (json.mp.getD 0))
  | .bandwidth => some (ofSystem (json.ns.getD 0 + json.nr.getD 0))
  | .disk => some (ofDisks json)
  | .temperature => some (ofSensors json)
  | .loadAvg1 => some (ofSystem ((json.la.map (·.1)).getD 0))
  | .loadAvg5 => some (ofSystem ((json.la.map (·.2.1)).getD 0))
  | .loadAvg15 => some (ofSystem ((json.la.map (·.2.2)).getD 0))
  | .gpu => if hasGpu json then some (ofSystem (topUsage (json.g.getD ∅))) else none
  | .battery => some (ofSystem ((json.bat.map fun b => (b.1.toNat : ℚ)).getD 0))
  | .other _ => none

section Mean

variable (ms : List (Key → Option ℚ))

/-- The disks or sensors that some record has. -/
def keys : Set Key := {κ | ∃ m ∈ ms, (m κ).isSome}

/-- The sum of a key: what a record does not have counts as zero. -/
def sumOf (κ : Key) : ℚ := (ms.map fun m => (m κ).getD 0).sum

/-- **The arithmetic mean of the metrics**; over disks or sensors, the highest of their means, and
zero if there are none. -/
def IsMean (v : ℚ) : Prop :=
  IsGreatest (Set.image (fun κ => sumOf ms κ / ms.length) (keys ms)) v ∨ keys ms = ∅ ∧ v = 0

end Mean

/-! ## What the loop reads -/

/-- The entry of the sums in which the loop keeps a key. -/
def Key.slot : Key → String
  | .whole => "root"
  | .named k => k

/-- What the loop adds to an alert for a decoded record. -/
def reading (extraFs : GoMap FsStats) (stats : SystemAlertStats) : AlertName → Option (String → ℚ)
  | .cpu => some fun _ => stats.cpu
  | .memory => some fun _ => stats.mem
  | .bandwidth => some fun _ => stats.netSent + stats.netRecv
  | .disk => some fun k => (if k = "root" then stats.disk else 0) + pctAt extraFs k
  | .temperature => some fun k => valueAt stats.temperatures k
  | .loadAvg1 => some fun _ => stats.loadAvg.1
  | .loadAvg5 => some fun _ => stats.loadAvg.2.1
  | .loadAvg15 => some fun _ => stats.loadAvg.2.2
  | .gpu => if stats.gpu.entries = [] then none else some fun _ => maxUsage stats.gpu
  | .battery => some fun _ => (stats.battery.1.toNat : ℚ)
  | .other _ => none

/-! ## One alert through the loop -/

section Loop

variable {extraFs : GoMap FsStats} {stats : SystemAlertStats} {a : SystemAlertData}

/-- The fields of an alert the loop does not touch. -/
structure SameAlert (a b : SystemAlertData) : Prop where
  name : b.name = a.name
  time : b.time = a.time
  min : b.min = a.min

theorem SameAlert.refl (a : SystemAlertData) : SameAlert a a := ⟨rfl, rfl, rfl⟩

theorem SameAlert.trans {a b c : SystemAlertData} (hab : SameAlert a b) (hbc : SameAlert b c) :
    SameAlert a c :=
  ⟨hbc.name.trans hab.name, hbc.time.trans hab.time, hbc.min.trans hab.min⟩

theorem sameAlert_accumulate : SameAlert a (a.accumulate extraFs stats) := by
  unfold SystemAlertData.accumulate
  split <;> first | exact ⟨rfl, rfl, rfl⟩ | (split_ifs <;> exact ⟨rfl, rfl, rfl⟩)

theorem sameAlert_add {created : ℤ} : SameAlert a (a.add extraFs created stats) := by
  unfold SystemAlertData.add
  split_ifs
  · exact .refl a
  · exact sameAlert_accumulate

theorem sameAlert_finish : SameAlert a a.finish := by
  unfold SystemAlertData.finish
  split <;> exact ⟨rfl, rfl, rfl⟩

theorem count_finish : a.finish.count = a.count := by
  unfold SystemAlertData.finish
  split <;> rfl

/-- The sum of readings under a key. -/
def total (rs : List (String → ℚ)) (k : String) : ℚ := (rs.map (· k)).sum

/-- **The alert has added up these readings.** -/
structure Tallied (a : SystemAlertData) (rs : List (String → ℚ)) : Prop where
  count : a.count = UInt8.ofNat rs.length
  val : a.name.keyed = false → a.val = total rs ""
  sums : a.name.keyed = true → ∀ k, valueAt a.mapSums k = total rs k

theorem total_append (rs : List (String → ℚ)) (r : String → ℚ) (k : String) :
    total (rs ++ [r]) k = total rs k + r k := by
  simp [total]

theorem Tallied.addValue {rs : List (String → ℚ)} (h : Tallied a rs) {v : ℚ}
    (hname : a.name.keyed = false) : Tallied (a.addValue v) (rs ++ [fun _ => v]) where
  count := by simp [SystemAlertData.addValue, h.count, UInt8.ofNat_add]
  val _ := by
    rw [total_append, ← h.val hname]
    rfl
  sums hk := nomatch hname.symm.trans hk

theorem Tallied.addToSums {rs : List (String → ℚ)} (h : Tallied a rs)
    {es : List (Σ _ : String, ℚ)} {r : String → ℚ} (hname : a.name.keyed = true)
    (hr : ∀ k, ((es.filter fun e => e.1 = k).map fun e => e.2).sum = r k) :
    Tallied (a.addToSums es) (rs ++ [r]) where
  count := by simp [SystemAlertData.addToSums, h.count, UInt8.ofNat_add]
  val hk := nomatch hk.symm.trans hname
  sums _ k := by
    rw [total_append, ← h.sums hname k, ← hr k]
    exact valueAt_addEntries _ _ _

theorem total_pctAt (m : GoMap FsStats) (k : String) :
    (((m.entries.map fun e => (⟨e.1, e.2.usedPct⟩ : Σ _ : String, ℚ)).filter
      fun e => e.1 = k).map fun e => e.2).sum = pctAt m k := by
  have hkeys : (m.entries.map fun e => (⟨e.1, e.2.usedPct⟩ : Σ _ : String, ℚ)).NodupKeys := by
    have := m.nodupKeys
    rw [List.NodupKeys, List.keys] at this ⊢
    rwa [List.map_map]
  rw [sum_filter_key hkeys, pctAt, AList.lookup]
  congr 1
  induction m.entries with
  | nil => rfl
  | cons e es ih =>
    by_cases h : e.1 = k
    · subst h
      rw [List.map_cons, List.dlookup_cons_eq, ← Sigma.eta e, List.dlookup_cons_eq]
      rfl
    · rw [List.dlookup_cons_ne es e (Ne.symm h), ← ih, List.map_cons]
      exact List.dlookup_cons_ne _ _ (Ne.symm h)

/-- A record that is not counted leaves the alert alone. -/
theorem accumulate_of_none (h : reading extraFs stats a.name = none) :
    a.accumulate extraFs stats = a := by
  unfold SystemAlertData.accumulate
  split <;> rename_i hname <;> rw [hname] at h
  all_goals first | rfl | cases h | skip
  simp only [reading] at h
  split_ifs at h ⊢ with hg
  rfl

/-- **A record that is counted adds its reading.** -/
theorem Tallied.accumulate {rs : List (String → ℚ)} (h : Tallied a rs) {r : String → ℚ}
    (hr : reading extraFs stats a.name = some r) :
    Tallied (a.accumulate extraFs stats) (rs ++ [r]) := by
  unfold SystemAlertData.accumulate
  split <;> rename_i hname <;> have hkeyed := congrArg AlertName.keyed hname <;> rw [hname] at hr
  case h_4 =>
    obtain rfl := Option.some.inj hr
    refine h.addToSums hkeyed fun k => ?_
    by_cases hk : k = "root"
    · subst hk
      rw [List.filter_cons_of_pos (by simp), List.map_cons, List.sum_cons, total_pctAt]
      simp
    · rw [List.filter_cons_of_neg (by simpa using Ne.symm hk), total_pctAt]
      simp [hk]
  case h_5 =>
    obtain rfl := Option.some.inj hr
    exact h.addToSums hkeyed fun k => sum_filter_key stats.temperatures.nodupKeys k
  case h_9 =>
    simp only [reading] at hr
    split_ifs at hr ⊢
    obtain rfl := Option.some.inj hr
    exact h.addValue hkeyed
  case h_11 => cases hr
  all_goals
    obtain rfl := Option.some.inj hr
    exact h.addValue hkeyed

/-- What the loop reads of a window, from the struct it starts with. -/
def readings (extraFs : GoMap FsStats) (name : AlertName) (time : ℤ) :
    SystemAlertStats → List (ℤ × StatsJson) → List (String → ℚ)
  | _, [] => []
  | stats, (created, json) :: rows =>
    (if created - 10000 < time then []
      else (reading extraFs (stats.unmarshal json) name).toList) ++
      readings extraFs name time (stats.unmarshal json) rows

/-- One alert through the rest of the loop. -/
def runOne (extraFs : GoMap FsStats) :
    SystemAlertStats → SystemAlertData → List (ℤ × StatsJson) → SystemAlertData
  | _, a, [] => a
  | stats, a, (created, json) :: rows =>
    runOne extraFs (stats.unmarshal json) (a.add extraFs created (stats.unmarshal json)) rows

theorem sameAlert_runOne (stats : SystemAlertStats) (a : SystemAlertData)
    (rows : List (ℤ × StatsJson)) : SameAlert a (runOne extraFs stats a rows) := by
  induction rows generalizing stats a with
  | nil => exact .refl a
  | cons row rows ih => exact sameAlert_add.trans (ih _ _)

/-- **The loop adds up the readings.** -/
theorem Tallied.runOne {rs : List (String → ℚ)} (h : Tallied a rs) (rows : List (ℤ × StatsJson)) :
    Tallied (runOne extraFs stats a rows) (rs ++ readings extraFs a.name a.time stats rows) := by
  induction rows generalizing stats a rs with
  | nil => simpa [SystemAlerts.runOne, readings] using h
  | cons row rows ih =>
    obtain ⟨created, json⟩ := row
    rw [readings, ← List.append_assoc]
    have hsame : SameAlert a (a.add extraFs created (stats.unmarshal json)) := sameAlert_add
    have hstep : Tallied (a.add extraFs created (stats.unmarshal json))
        (rs ++ if created - 10000 < a.time then []
          else (reading extraFs (stats.unmarshal json) a.name).toList) := by
      unfold SystemAlertData.add
      split_ifs
      · simpa using h
      · cases hr : reading extraFs (stats.unmarshal json) a.name with
        | none => simpa [accumulate_of_none hr] using h
        | some r => exact h.accumulate hr
    have hrest := @ih (stats.unmarshal json) _ _ hstep
    rwa [hsame.name, hsame.time] at hrest

/-- The rows the loop decodes. -/
def decoded (rows : List StatsRow) : List (ℤ × StatsJson) :=
  rows.filterMap fun row =>
    match row.stats with
    | .error _ => none
    | .ok json => some (row.created, json)

/-- **The loop treats the alerts one by one.** -/
theorem averageLoop_eq_map {alerts alerts' : List SystemAlertData} {rows : List StatsRow}
    (h : averageLoop extraFs false stats alerts rows = .ok alerts') :
    alerts' = alerts.map (runOne extraFs stats · (decoded rows)) := by
  induction rows generalizing stats alerts with
  | nil =>
    obtain rfl : alerts = alerts' := Except.ok.inj h
    exact (List.map_id alerts).symm
  | cons row rows ih =>
    rw [averageLoop] at h
    cases hrow : row.stats with
    | error err => simp [hrow] at h
    | ok json =>
      rw [hrow] at h
      have hdec : decoded (row :: rows) = (row.created, json) :: decoded rows := by
        simp [decoded, hrow]
      rw [ih h, List.map_map, hdec]
      rfl

/-- The first iteration drops the value of the sample. -/
theorem averageLoop_first {alerts alerts' : List SystemAlertData} {rows : List StatsRow}
    (hrows : rows ≠ []) (h : averageLoop extraFs true stats alerts rows = .ok alerts') :
    averageLoop extraFs false stats (alerts.map (·.reset true)) rows = .ok alerts' := by
  obtain ⟨row, rows, rfl⟩ := List.exists_cons_of_ne_nil hrows
  rw [averageLoop] at h ⊢
  cases hrow : row.stats with
  | error err => simp [hrow] at h
  | ok json =>
    rw [hrow] at h
    simp only [List.map_map]
    exact h

end Loop

/-! ## What the struct holds

After decoding a list of records, a field of the struct is the latest value a record gave it. -/

section Decoding

/-- The struct after decoding these records. -/
def decodeAll (jsons : List StatsJson) : SystemAlertStats :=
  jsons.foldl SystemAlertStats.unmarshal .zero

/-- The latest value the records give for a field. -/
def latest {α : Type} (field : StatsJson → Option α) (jsons : List StatsJson) : Option α :=
  jsons.reverse.findSome? field

@[simp] theorem latest_nil {α : Type} (field : StatsJson → Option α) : latest field [] = none := rfl

@[simp] theorem latest_concat {α : Type} (field : StatsJson → Option α) (jsons : List StatsJson)
    (json : StatsJson) : latest field (jsons ++ [json]) = (field json).or (latest field jsons) := by
  unfold latest
  rw [List.reverse_append, List.reverse_singleton, List.singleton_append, List.findSome?_cons]
  cases field json <;> rfl

@[simp] theorem decodeAll_concat (jsons : List StatsJson) (json : StatsJson) :
    decodeAll (jsons ++ [json]) = (decodeAll jsons).unmarshal json := by
  simp [decodeAll]

/-- A field that `unmarshal` sets when it is there and keeps otherwise holds the latest value. -/
theorem decodeAll_field {α : Type} (π : SystemAlertStats → α) (field : StatsJson → Option α)
    (hstep : ∀ stats json, π (stats.unmarshal json) = (field json).getD (π stats))
    (jsons : List StatsJson) :
    π (decodeAll jsons) = (latest field jsons).getD (π .zero) := by
  induction jsons using List.reverseRecOn with
  | nil => rfl
  | append_singleton jsons json ih =>
    rw [decodeAll_concat, hstep, ih, latest_concat]
    cases field json <;> rfl

/-- The same for the entries of a map. -/
theorem decodeAll_lookup (π : SystemAlertStats → GoMap ℚ) (field : StatsJson → Option (GoMap ℚ))
    (hzero : π .zero = ∅)
    (hstep : ∀ stats json, π (stats.unmarshal json) =
      SystemAlertStats.unmarshalMap (π stats) (field json))
    (jsons : List StatsJson) (k : String) :
    (π (decodeAll jsons)).lookup k = latest (fun json => entry (field json) k) jsons := by
  induction jsons using List.reverseRecOn with
  | nil => rw [show decodeAll [] = .zero from rfl, hzero, latest_nil, AList.lookup_empty]
  | append_singleton jsons json ih =>
    rw [decodeAll_concat, hstep, latest_concat, ← ih]
    cases field json with
    | none => rfl
    | some m =>
      change (m ∪ π (decodeAll jsons)).lookup k = (m.lookup k).or _
      exact lookup_union m _ k

theorem decodeAll_temperatures (jsons : List StatsJson) (k : String) :
    (decodeAll jsons).temperatures.lookup k = latest (fun json => entry json.t k) jsons :=
  decodeAll_lookup (·.temperatures) (·.t) rfl (fun _ _ => rfl) jsons k

theorem decodeAll_gpu (jsons : List StatsJson) (k : String) :
    (decodeAll jsons).gpu.lookup k = latest (fun json => entry json.g k) jsons :=
  decodeAll_lookup (·.gpu) (·.g) rfl (fun _ _ => rfl) jsons k

/-- A map without entries looks nothing up. -/
theorem entries_eq_nil_iff {m : GoMap ℚ} : m.entries = [] ↔ ∀ k, m.lookup k = none := by
  constructor
  · intro h k
    rw [AList.lookup, h]
    rfl
  · intro h
    rw [List.eq_nil_iff_forall_not_mem]
    intro e he
    have := AList.mem_lookup_iff.mpr he
    rw [h e.1] at this
    exact nomatch this

theorem hasGpu_eq_false_iff {json : StatsJson} :
    hasGpu json = false ↔ ∀ k, entry json.g k = none := by
  unfold hasGpu entry
  cases json.g with
  | none => simp
  | some m => simp [entries_eq_nil_iff]

/-- The struct has a GPU exactly when one of the records had. -/
theorem decodeAll_gpu_eq_nil {jsons : List StatsJson} :
    (decodeAll jsons).gpu.entries = [] ↔ ∀ json ∈ jsons, hasGpu json = false := by
  rw [entries_eq_nil_iff]
  simp only [decodeAll_gpu, latest, List.findSome?_eq_none_iff, List.mem_reverse,
    hasGpu_eq_false_iff]
  tauto

end Decoding

/-! ## When a record contributes its own metric -/

section Fresh

/-- **What a record contributes without having it**: the latest value before it of a field it
omits. -/
def stale (field : StatsJson → Option ℚ) (earlier : List StatsJson) (json : StatsJson) : ℚ :=
  if (field json).isSome then 0 else (latest field earlier).getD 0

/-- A field as the struct has it is the record's own value and what is stale. -/
theorem getD_or (field : StatsJson → Option ℚ) (earlier : List StatsJson) (json : StatsJson) :
    ((field json).or (latest field earlier)).getD 0 =
      (field json).getD 0 + stale field earlier json := by
  unfold stale
  cases field json <;> simp

/-- A field of the struct, for the record decoded last. -/
theorem decodeAll_own (π : SystemAlertStats → ℚ) (field : StatsJson → Option ℚ)
    (hzero : π .zero = 0)
    (hstep : ∀ stats json, π (stats.unmarshal json) = (field json).getD (π stats))
    (earlier : List StatsJson) (json : StatsJson) :
    π (decodeAll (earlier ++ [json])) = (field json).getD 0 + stale field earlier json := by
  rw [decodeAll_field π field hstep, latest_concat, hzero, getD_or]

/-- **What the loop reads of a record**, by what it and the records before it have. -/
def shown (extraFs : GoMap FsStats) (earlier : List StatsJson) (json : StatsJson) :
    AlertName → Option (String → ℚ)
  | .cpu => some fun _ => json.cpu.getD 0 + stale (·.cpu) earlier json
  | .memory => some fun _ => json.mp.getD 0 + stale (·.mp) earlier json
  | .bandwidth => some fun _ => json.ns.getD 0 + json.nr.getD 0 +
      (stale (·.ns) earlier json + stale (·.nr) earlier json)
  | .disk => some fun k => (if k = "root" then json.dp.getD 0 + stale (·.dp) earlier json else 0) +
      pctAt extraFs k
  | .temperature => some fun k =>
      (entry json.t k).getD 0 + stale (fun j => entry j.t k) earlier json
  | .loadAvg1 => some fun _ => (json.la.map (·.1)).getD 0 + stale (·.la.map (·.1)) earlier json
  | .loadAvg5 => some fun _ => (json.la.map (·.2.1)).getD 0 + stale (·.la.map (·.2.1)) earlier json
  | .loadAvg15 => some fun _ =>
      (json.la.map (·.2.2)).getD 0 + stale (·.la.map (·.2.2)) earlier json
  | .gpu =>
    if (earlier ++ [json]).any hasGpu then
      some fun _ => maxUsage (decodeAll (earlier ++ [json])).gpu
    else none
  | .battery => some fun _ => (json.bat.map fun b => (b.1.toNat : ℚ)).getD 0 +
      stale (·.bat.map fun b => (b.1.toNat : ℚ)) earlier json
  | .other _ => none

theorem reading_decodeAll {extraFs : GoMap FsStats} (earlier : List StatsJson) (json : StatsJson)
    (name : AlertName) :
    reading extraFs (decodeAll (earlier ++ [json])) name = shown extraFs earlier json name := by
  have hla : ∀ (f : ℚ × ℚ × ℚ → ℚ) (stats : SystemAlertStats) (j : StatsJson),
      f (stats.unmarshal j).loadAvg = (j.la.map f).getD (f stats.loadAvg) := by
    intro f stats j
    cases hj : j.la <;> simp [SystemAlertStats.unmarshal, hj]
  cases name with
  | cpu =>
    simp only [reading, shown]
    rw [decodeAll_own (·.cpu) (·.cpu) rfl (fun _ _ => rfl)]
  | memory =>
    simp only [reading, shown]
    rw [decodeAll_own (·.mem) (·.mp) rfl (fun _ _ => rfl)]
  | bandwidth =>
    simp only [reading, shown]
    rw [decodeAll_own (·.netSent) (·.ns) rfl (fun _ _ => rfl),
      decodeAll_own (·.netRecv) (·.nr) rfl (fun _ _ => rfl), add_add_add_comm]
  | disk =>
    simp only [reading, shown]
    rw [decodeAll_own (·.disk) (·.dp) rfl (fun _ _ => rfl)]
  | temperature =>
    simp only [reading, shown, Option.some_inj, funext_iff]
    intro k
    rw [valueAt, decodeAll_temperatures, latest_concat,
      getD_or (fun j => entry j.t k) earlier json]
  | loadAvg1 =>
    simp only [reading, shown]
    rw [decodeAll_own (·.loadAvg.1) (·.la.map (·.1)) rfl (hla (·.1))]
  | loadAvg5 =>
    simp only [reading, shown]
    rw [decodeAll_own (·.loadAvg.2.1) (·.la.map (·.2.1)) rfl (hla (·.2.1))]
  | loadAvg15 =>
    simp only [reading, shown]
    rw [decodeAll_own (·.loadAvg.2.2) (·.la.map (·.2.2)) rfl (hla (·.2.2))]
  | gpu =>
    have hnil : (decodeAll (earlier ++ [json])).gpu.entries = [] ↔
        ¬ (earlier ++ [json]).any hasGpu = true := by
      rw [decodeAll_gpu_eq_nil, List.any_eq_true]
      push Not
      exact forall₂_congr fun j _ => by rw [ne_eq, Bool.not_eq_true]
    simp only [reading, shown, hnil, ite_not]
  | battery =>
    simp only [reading, shown]
    rw [decodeAll_own (fun stats => (stats.battery.1.toNat : ℚ))
      (·.bat.map fun b => (b.1.toNat : ℚ)) rfl]
    intro stats j
    cases hj : j.bat <;> simp [SystemAlertStats.unmarshal, hj]
  | other name => rfl

/-- **A reading is a record's own metric**: the loop adds to the sum of a key what the record has
for it, and to the other sums nothing. -/
structure Own (name : AlertName) (K : Set Key) (r : String → ℚ) (m : Key → Option ℚ) : Prop where
  keys : ∀ κ ∈ K, r κ.slot = (m κ).getD 0
  rest : name.keyed = true → ∀ s, (∀ κ ∈ K, κ.slot ≠ s) → r s = 0

/-- **The record contributes its own metric**, and is counted if it has one.  `K` are the disks or
sensors of the window. -/
def Contributes (extraFs : GoMap FsStats) (name : AlertName) (K : Set Key)
    (earlier : List StatsJson) (json : StatsJson) : Prop :=
  Option.Rel (Own name K) (reading extraFs (decodeAll (earlier ++ [json])) name)
    (metric json name)

/-- **Nothing stale and nothing foreign shows in a record**, by what it and the records before it
have. -/
def Fresh (extraFs : GoMap FsStats) (K : Set Key) (earlier : List StatsJson) (json : StatsJson) :
    AlertName → Prop
  | .cpu => stale (·.cpu) earlier json = 0
  | .memory => stale (·.mp) earlier json = 0
  | .bandwidth => stale (·.ns) earlier json + stale (·.nr) earlier json = 0
  | .disk =>
    stale (·.dp) earlier json + pctAt extraFs "root" = 0 ∧
      (.named "root" ∈ K → pctAt (json.efs.getD ∅) "root" = json.dp.getD 0) ∧
        ∀ k, k ≠ "root" → pctAt extraFs k = pctAt (json.efs.getD ∅) k
  | .temperature => ∀ k, stale (fun j => entry j.t k) earlier json = 0
  | .loadAvg1 => stale (·.la.map (·.1)) earlier json = 0
  | .loadAvg5 => stale (·.la.map (·.2.1)) earlier json = 0
  | .loadAvg15 => stale (·.la.map (·.2.2)) earlier json = 0
  | .gpu =>
    if hasGpu json then
      0 ≤ topUsage (json.g.getD ∅) ∧
        ∀ k, stale (fun j => entry j.g k) earlier json ≤ topUsage (json.g.getD ∅)
    else ∀ j ∈ earlier, hasGpu j = false
  | .battery => stale (·.bat.map fun b => (b.1.toNat : ℚ)) earlier json = 0
  | .other _ => True

/-- The highest usage is the greatest of the entries and zero. -/
theorem isGreatest_maxUsage (m : GoMap ℚ) :
    IsGreatest (insert 0 (Set.range (valueAt m))) (maxUsage m) := isGreatest_valueAt m

theorem maxUsage_nonneg (m : GoMap ℚ) : 0 ≤ maxUsage m := (isGreatest_maxUsage m).2 (Or.inl rfl)

theorem le_maxUsage (m : GoMap ℚ) (k : String) : valueAt m k ≤ maxUsage m :=
  (isGreatest_maxUsage m).2 (Or.inr ⟨k, rfl⟩)

/-- The highest usage is bounded by what bounds the entries. -/
theorem maxUsage_le {m : GoMap ℚ} {b : ℚ} (hb : 0 ≤ b) (h : ∀ k, valueAt m k ≤ b) :
    maxUsage m ≤ b := by
  rcases (isGreatest_maxUsage m).1 with h0 | ⟨k, hk⟩
  · rwa [h0]
  · exact hk ▸ h k

/-- With a record's own GPUs in the struct, the older ones show when one of them is higher. -/
theorem maxUsage_decodeAll {earlier : List StatsJson} {json : StatsJson} :
    maxUsage (decodeAll (earlier ++ [json])).gpu = maxUsage (json.g.getD ∅) ↔
      ∀ k, stale (fun j => entry j.g k) earlier json ≤ maxUsage (json.g.getD ∅) := by
  have hlookup : ∀ k, valueAt (decodeAll (earlier ++ [json])).gpu k =
      (entry json.g k).getD 0 + stale (fun j => entry j.g k) earlier json := by
    intro k
    rw [valueAt, decodeAll_gpu, latest_concat]
    exact getD_or (fun j => entry j.g k) earlier json
  have hown : ∀ k, (entry json.g k).getD 0 = valueAt (json.g.getD ∅) k := by
    intro k
    cases json.g <;> rfl
  have hsplit : ∀ k,
      (entry json.g k).getD 0 = 0 ∨ stale (fun j => entry j.g k) earlier json = 0 := by
    intro k
    unfold stale
    cases hk : entry json.g k
    · exact Or.inl rfl
    · exact Or.inr (by simp [hk])
  constructor
  · intro h k
    rcases hsplit k with hk | hk
    · have hle := le_maxUsage (decodeAll (earlier ++ [json])).gpu k
      rwa [hlookup, hk, zero_add, h] at hle
    · rw [hk]
      exact maxUsage_nonneg _
  · intro h
    refine le_antisymm (maxUsage_le (maxUsage_nonneg _) fun k => ?_)
      (maxUsage_le (maxUsage_nonneg _) fun k => ?_)
    · rw [hlookup]
      rcases hsplit k with hk | hk
      · rw [hk, zero_add]
        exact h k
      · rw [hk, add_zero, hown]
        exact le_maxUsage _ k
    · rw [← hown]
      rcases hsplit k with hk | hk
      · rw [hk]
        exact maxUsage_nonneg _
      · have hle := le_maxUsage (decodeAll (earlier ++ [json])).gpu k
        rwa [hlookup, hk, add_zero] at hle

/-- The highest usage from zero is the highest if that is not below zero. -/
theorem maxUsage_eq_topUsage {m : GoMap ℚ} (hne : m.entries ≠ []) (h0 : 0 ≤ topUsage m) :
    maxUsage m = topUsage m := by
  obtain ⟨top, htop⟩ : ∃ top, (m.entries.map fun e => e.2).max? = some top :=
    Option.ne_none_iff_exists'.mp (by simpa [List.max?_eq_none_iff] using hne)
  have htop' : topUsage m = top := by rw [topUsage, htop, Option.getD_some]
  obtain ⟨hmem, hle⟩ := List.max?_eq_some_iff.mp htop
  refine (isGreatest_highest _).unique ⟨Or.inr (htop' ▸ hmem), ?_⟩
  rintro v (rfl | hv)
  · exact h0
  · exact htop' ▸ hle v hv

/-- With a record's own GPUs in the struct, it shows its highest usage. -/
theorem maxUsage_decodeAll_top {earlier : List StatsJson} {json : StatsJson}
    (hgpu : hasGpu json = true) :
    maxUsage (decodeAll (earlier ++ [json])).gpu = topUsage (json.g.getD ∅) ↔
      0 ≤ topUsage (json.g.getD ∅) ∧
        ∀ k, stale (fun j => entry j.g k) earlier json ≤ topUsage (json.g.getD ∅) := by
  have hne : (json.g.getD ∅).entries ≠ [] := by
    unfold hasGpu at hgpu
    split at hgpu
    · exact absurd hgpu Bool.false_ne_true
    · rename_i m hm
      simpa [hm] using hgpu
  constructor
  · intro h
    have h0 : 0 ≤ topUsage (json.g.getD ∅) := h ▸ maxUsage_nonneg _
    rw [← maxUsage_eq_topUsage hne h0] at h ⊢
    exact ⟨maxUsage_nonneg _, maxUsage_decodeAll.mp h⟩
  · rintro ⟨h0, h⟩
    rw [← maxUsage_eq_topUsage hne h0] at h ⊢
    exact maxUsage_decodeAll.mpr h

/-- What the keys of a window are: they are those of its records. -/
structure Covers (name : AlertName) (K : Set Key) (json : StatsJson) : Prop where
  own : ∀ m, metric json name = some m → ∀ κ, (m κ).isSome → κ ∈ K
  some : ∀ κ ∈ K, ∃ j m, metric j name = some m ∧ (m κ).isSome

section Contributes

variable {name : AlertName} {K : Set Key} {earlier : List StatsJson} {json j : StatsJson}
  {m : Key → Option ℚ} {κ : Key}

/-- An alert without keys has a value of the system only. -/
theorem metric_eq_ofSystem (hk : name.keyed = false) (hm : metric j name = some m) :
    ∃ v, m = ofSystem v := by
  cases name with
  | disk | temperature => exact absurd hk (by decide)
  | other name => exact absurd hm.symm (Option.some_ne_none m)
  | gpu =>
    rw [metric, Option.ite_none_right_eq_some] at hm
    exact ⟨_, (Option.some.inj hm.2).symm⟩
  | _ => exact ⟨_, (Option.some.inj hm).symm⟩

theorem eq_whole_of_isSome (hk : name.keyed = false) (hm : metric j name = some m)
    (hκ : (m κ).isSome) : κ = .whole := by
  obtain ⟨v, rfl⟩ := metric_eq_ofSystem hk hm
  cases κ with
  | whole => rfl
  | named k => exact absurd hκ Bool.false_ne_true

/-- An alert without keys reads the metric if it reads its value. -/
theorem rel_ofSystem {v w : ℚ} (hk : name.keyed = false) (hcovers : Covers name K json)
    (hm : metric json name = some (ofSystem w)) :
    Option.Rel (Own name K) (some fun _ => v) (some (ofSystem w)) ↔ v = w := by
  have hwhole : Key.whole ∈ K := hcovers.own _ hm _ rfl
  constructor
  · rintro (⟨⟨hkeys, -⟩⟩)
    exact hkeys _ hwhole
  · rintro rfl
    refine .some ⟨fun κ hκ => ?_, fun hk' => absurd (hk.symm.trans hk') Bool.false_ne_true⟩
    obtain ⟨j, m', hm', hsome⟩ := hcovers.some κ hκ
    rw [eq_whole_of_isSome hk hm' hsome]
    rfl

/-- The readings of the disks. -/
theorem rel_ofDisks {extraFs : GoMap FsStats} (hcovers : Covers .disk K json) :
    Option.Rel (Own .disk K) (shown extraFs earlier json .disk) (some (ofDisks json)) ↔
      Fresh extraFs K earlier json .disk := by
  have hwhole : Key.whole ∈ K := hcovers.own _ rfl _ rfl
  have hpct (k : String) : (ofDisks json (.named k)).getD 0 = pctAt (json.efs.getD ∅) k := by
    cases hefs : json.efs <;> simp [ofDisks, pctAt, entry, hefs]
  have hroot : json.dp.getD 0 + stale (·.dp) earlier json + pctAt extraFs "root" =
      (ofDisks json .whole).getD 0 ↔ stale (·.dp) earlier json + pctAt extraFs "root" = 0 := by
    rw [add_assoc]
    exact add_eq_left
  constructor
  · rintro ⟨⟨hkeys, hrest⟩⟩
    have hsum := hkeys _ hwhole
    simp only [Key.slot, if_true] at hsum
    refine ⟨hroot.mp hsum, fun hmem => ?_, fun k hk => ?_⟩
    · have hnamed := hkeys _ hmem
      simp only [Key.slot, if_true] at hnamed
      rw [← hpct, ← hnamed, hsum]
      rfl
    · by_cases hmem : Key.named k ∈ K
      · have hnamed := hkeys _ hmem
        rw [Key.slot, if_neg hk, zero_add] at hnamed
        rw [hnamed, hpct]
      · have hnone := hrest rfl k fun κ hκ hslot => by
          cases κ with
          | whole => exact hk hslot.symm
          | named k' => exact hmem (hslot ▸ hκ)
        simp only [if_neg hk, zero_add] at hnone
        have hown : ¬ (ofDisks json (.named k)).isSome := fun h => hmem (hcovers.own _ rfl _ h)
        rw [hnone, ← hpct, Option.not_isSome_iff_eq_none.mp hown, Option.getD_none]
  · rintro ⟨hstale, hboth, hextra⟩
    have hsum := hroot.mpr hstale
    refine .some ⟨fun κ hκ => ?_, fun _ s hs => ?_⟩
    · cases κ with
      | whole => simpa only [Key.slot, if_true] using hsum
      | named k =>
        rw [hpct]
        by_cases hk : k = "root"
        · subst hk
          simp only [Key.slot, if_true]
          rw [hsum, hboth hκ]
          rfl
        · rw [Key.slot, if_neg hk, zero_add]
          exact hextra k hk
    · have hne : s ≠ "root" := fun h => hs _ hwhole h.symm
      have hown : ¬ (ofDisks json (.named s)).isSome := fun h => hs _ (hcovers.own _ rfl _ h) rfl
      simp only [if_neg hne, zero_add]
      rw [hextra s hne, ← hpct, Option.not_isSome_iff_eq_none.mp hown, Option.getD_none]

/-- The readings of the sensors. -/
theorem rel_ofSensors {extraFs : GoMap FsStats} (hcovers : Covers .temperature K json) :
    Option.Rel (Own .temperature K) (shown extraFs earlier json .temperature)
        (some (ofSensors json)) ↔ Fresh extraFs K earlier json .temperature := by
  constructor
  · rintro ⟨⟨hkeys, hrest⟩⟩ k
    by_cases hmem : Key.named k ∈ K
    · exact add_eq_left.mp (hkeys _ hmem)
    · have hnone := hrest rfl k fun κ hκ hslot => by
        cases κ with
        | whole =>
          obtain ⟨j, m, hm, hsome⟩ := hcovers.some _ hκ
          obtain rfl := Option.some.inj hm
          exact absurd hsome Bool.false_ne_true
        | named k' => exact hmem (hslot ▸ hκ)
      have hown : ¬ (entry json.t k).isSome := fun h => hmem (hcovers.own _ rfl (.named k) h)
      simpa only [Option.not_isSome_iff_eq_none.mp hown, Option.getD_none, zero_add] using hnone
  · intro hstale
    refine .some ⟨fun κ hκ => ?_, fun _ s hs => ?_⟩
    · cases κ with
      | whole =>
        obtain ⟨j, m, hm, hsome⟩ := hcovers.some _ hκ
        obtain rfl := Option.some.inj hm
        exact absurd hsome Bool.false_ne_true
      | named k => exact add_eq_left.mpr (hstale k)
    · have hown : ¬ (entry json.t s).isSome := fun h => hs _ (hcovers.own _ rfl (.named s) h) rfl
      simp only [Option.not_isSome_iff_eq_none.mp hown, Option.getD_none, zero_add]
      exact hstale s

/-- **A record contributes its own metric exactly when nothing stale or foreign shows in it.** -/
theorem contributes_iff_fresh {extraFs : GoMap FsStats} (hcovers : Covers name K json) :
    Contributes extraFs name K earlier json ↔ Fresh extraFs K earlier json name := by
  unfold Contributes
  rw [reading_decodeAll]
  cases name with
  | disk => exact rel_ofDisks hcovers
  | temperature => exact rel_ofSensors hcovers
  | gpu =>
    simp only [shown, metric, Fresh]
    by_cases hown : hasGpu json = true
    · have hany : (earlier ++ [json]).any hasGpu = true := by simp [hown]
      rw [if_pos hany, if_pos hown, if_pos hown, ← maxUsage_decodeAll_top hown]
      exact rel_ofSystem rfl hcovers (if_pos hown)
    · rw [if_neg hown, if_neg hown]
      by_cases hany : (earlier ++ [json]).any hasGpu = true
      · rw [if_pos hany]
        refine iff_of_false (fun h => by cases h) fun h => ?_
        obtain ⟨j, hj, hgpu⟩ := List.any_eq_true.mp hany
        rcases List.mem_append.mp hj with hj | hj
        · exact Bool.false_ne_true ((h j hj).symm.trans hgpu)
        · exact hown (List.mem_singleton.mp hj ▸ hgpu)
      · rw [if_neg hany]
        refine iff_of_true .none fun j hj => ?_
        by_contra hgpu
        exact hany (List.any_eq_true.mpr ⟨j, List.mem_append_left _ hj, by simpa using hgpu⟩)
  | other name => exact iff_of_true .none trivial
  | _ => exact (rel_ofSystem rfl hcovers rfl).trans add_eq_left

end Contributes

end Fresh

/-! ## The value of an alert -/

section Value

/-- The readings averaged with a divisor, as the code does: the value of an alert without keys, the
highest value over the sums of one with keys, from zero. -/
def AverageOver (name : AlertName) (rs : List (String → ℚ)) (n : ℕ) (v : ℚ) : Prop :=
  if name.keyed then IsGreatest (insert 0 (Set.range fun k => total rs k / n)) v
  else v = total rs "" / n

/-- Nothing to divide: the metrics add up to zero, for every disk or sensor to at most zero. -/
def Quiet (name : AlertName) (ms : List (Key → Option ℚ)) : Prop :=
  if name.keyed then ∀ κ ∈ keys ms, sumOf ms κ ≤ 0 else sumOf ms .whole = 0

/-- Not every disk or sensor is below zero. -/
def SomeNonneg (name : AlertName) (ms : List (Key → Option ℚ)) : Prop :=
  name.keyed = true → (keys ms).Nonempty → ∃ κ ∈ keys ms, 0 ≤ sumOf ms κ

theorem highestEntry_fst (es : List (Σ _ : String, ℚ)) :
    (highestEntry es).1 = highest (es.map fun e => e.2) := by
  suffices h : ∀ best : ℚ × Option String,
      (es.foldl (fun best e => if e.2 > best.1 then (e.2, some e.1) else best) best).1 =
        (es.map fun e => e.2).foldl (fun m v => if v > m then v else m) best.1 from h (0, none)
  induction es with
  | nil => exact fun _ => rfl
  | cons e es ih =>
    intro best
    rw [List.foldl_cons, List.map_cons, List.foldl_cons, ih]
    split_ifs <;> rfl

/-- The value of an alert with keys: the highest sum, divided. -/
theorem finish_keyed {a : SystemAlertData} (hk : a.name.keyed = true) :
    a.finish.val = highest (a.mapSums.entries.map fun e => e.2) / (a.count.toNat : ℚ) := by
  have hmono : Monotone fun v : ℚ => v / (a.count.toNat : ℚ) := fun v w hvw =>
    div_le_div_of_nonneg_right hvw (Nat.cast_nonneg _)
  unfold SystemAlertData.finish
  split
  · exact congrArg (· / (a.count.toNat : ℚ)) (highestEntry_fst _)
  · rw [← highest_map hmono (zero_div _), List.map_map]
    refine (highestEntry_fst _).trans ?_
    rw [List.map_map]
    rfl
  · rename_i hdisk htemp
    unfold AlertName.keyed at hk
    split at hk
    · exact absurd ‹_› hdisk
    · exact absurd ‹_› htemp
    · cases hk

/-- **The last loop divides by the eight-bit count.** -/
theorem Tallied.averageOver {a : SystemAlertData} {rs : List (String → ℚ)} (h : Tallied a rs) :
    AverageOver a.name rs (rs.length % 256) a.finish.val := by
  have hcount : a.count.toNat = rs.length % 256 := by
    rw [h.count, UInt8.toNat_ofNat']
  unfold AverageOver
  split_ifs with hk
  · rw [finish_keyed hk, hcount]
    have hmono : Monotone fun v : ℚ => v / ((rs.length % 256 : ℕ) : ℚ) := fun v w hvw =>
      div_le_div_of_nonneg_right hvw (Nat.cast_nonneg _)
    have hsums : valueAt a.mapSums = total rs := funext (h.sums hk)
    have := hmono.map_isGreatest (isGreatest_valueAt a.mapSums)
    rw [Set.image_insert_eq, zero_div, ← Set.range_comp, hsums] at this
    exact this
  · have hk' : a.name.keyed = false := by simpa using hk
    unfold SystemAlertData.finish
    split
    · rename_i hname
      simp [hname, AlertName.keyed] at hk'
    · rename_i hname
      simp [hname, AlertName.keyed] at hk'
    · rw [← hcount, ← h.val hk']

section Sums

variable {name : AlertName} {rs : List (String → ℚ)} {ms : List (Key → Option ℚ)} {v : ℚ}

/-- Where the readings are the metrics, so are their sums. -/
theorem total_slot {K : Set Key} (h : List.Forall₂ (Own name K) rs ms) {κ : Key} (hκ : κ ∈ K) :
    total rs κ.slot = sumOf ms κ := by
  induction h with
  | nil => rfl
  | cons hown _ ih => exact congrArg₂ (· + ·) (hown.keys κ hκ) ih

theorem total_rest {K : Set Key} (h : List.Forall₂ (Own name K) rs ms) (hk : name.keyed = true)
    {s : String} (hs : ∀ κ ∈ K, κ.slot ≠ s) : total rs s = 0 := by
  induction h with
  | nil => rfl
  | cons hown _ ih => exact (congrArg₂ (· + ·) (hown.rest hk s hs) ih).trans (add_zero 0)

/-- The highest of the sums, from zero, is that over the keys. -/
theorem insert_range_total {K : Set Key} (h : List.Forall₂ (Own name K) rs ms)
    (hk : name.keyed = true) (n : ℚ) :
    (insert 0 (Set.range fun s => total rs s / n) : Set ℚ) =
      insert 0 (Set.image (fun κ => sumOf ms κ / n) K) := by
  ext x
  constructor
  · rintro (rfl | ⟨s, rfl⟩)
    · exact Or.inl rfl
    · by_cases hs : ∃ κ ∈ K, κ.slot = s
      · obtain ⟨κ, hκ, rfl⟩ := hs
        exact Or.inr ⟨κ, hκ, by simp only [total_slot h hκ]⟩
      · push Not at hs
        left
        simp only [total_rest h hk hs, zero_div]
  · rintro (rfl | ⟨κ, hκ, rfl⟩)
    · exact Or.inl rfl
    · exact Or.inr ⟨κ.slot, by simp only [total_slot h hκ]⟩

/-- Metrics that are there have keys, of the system only for an alert without. -/
structure KeysOf (name : AlertName) (ms : List (Key → Option ℚ)) : Prop where
  whole : name.keyed = false → ∀ κ ∈ keys ms, κ = .whole
  mem : name.keyed = false → ms ≠ [] → .whole ∈ keys ms

/-- **Dividing by the count modulo 256 gives the mean** exactly when there are fewer than 256
records or nothing to divide, and not every disk or sensor is below zero. -/
theorem isMean_iff (hkeys : KeysOf name ms) (h : List.Forall₂ (Own name (keys ms)) rs ms)
    (hconst : name.keyed = false → total rs "" = total rs "root")
    (hv : AverageOver name rs (rs.length % 256) v) :
    IsMean ms v ↔ (ms.length < 256 ∨ Quiet name ms) ∧ SomeNonneg name ms := by
  rw [h.length_eq] at hv
  have hm0 : (0 : ℚ) ≤ ((ms.length % 256 : ℕ) : ℚ) := Nat.cast_nonneg _
  have hmod (hlt : ¬ ms.length < 256) : ((ms.length % 256 : ℕ) : ℚ) < ms.length := by
    exact_mod_cast (by omega : ms.length % 256 < ms.length)
  unfold AverageOver at hv
  split_ifs at hv with hk
  · rw [insert_range_total h hk] at hv
    have hquiet : Quiet name ms ↔ ∀ κ : keys ms, sumOf ms κ ≤ 0 := by
      rw [Quiet, if_pos hk, Subtype.forall]
    rcases Set.eq_empty_or_nonempty (keys ms) with hempty | hne
    · -- without disks or sensors the average is zero
      have hv0 : v = 0 := by simpa [hempty] using hv.1
      refine iff_of_true (Or.inr ⟨hempty, hv0⟩) ⟨Or.inr (hquiet.mpr fun κ => ?_), fun _ hne => ?_⟩
      · exact absurd hempty (Set.Nonempty.ne_empty ⟨κ, κ.2⟩)
      · exact absurd hempty hne.ne_empty
    · obtain ⟨κ₀, m₀, hm₀, -⟩ := id hne
      have hn : (0 : ℚ) < ms.length := Nat.cast_pos.mpr (List.length_pos_of_mem hm₀)
      have hfrom : IsGreatest (insert 0 (Set.image (fun κ => sumOf ms κ / ms.length) (keys ms))) v ↔
          ms.length < 256 ∨ Quiet name ms := by
        by_cases hlt : ms.length < 256
        · rw [Nat.mod_eq_of_lt hlt] at hv
          exact iff_of_true hv (Or.inl hlt)
        · rw [or_iff_right hlt, hquiet]
          rw [Set.image_eq_range] at hv ⊢
          exact isGreatest_div_iff hm0 (hmod hlt) hv
      have hsome : SomeNonneg name ms ↔
          ∃ x ∈ Set.image (fun κ => sumOf ms κ / ms.length) (keys ms), 0 ≤ x := by
        rw [Set.exists_mem_image]
        simp only [SomeNonneg, hk, hne, forall_const, le_div_iff₀ hn, zero_mul]
      rw [IsMean, or_iff_left fun h => hne.ne_empty h.1, ← hfrom, hsome]
      exact isGreatest_insert_iff (hv.2 (Or.inl rfl))
  · have hk' : name.keyed = false := by simpa using hk
    have hsome : SomeNonneg name ms := fun hk' => absurd hk' hk
    rw [and_iff_left hsome]
    rcases eq_or_ne ms [] with rfl | hne
    · obtain rfl := List.forall₂_nil_right_iff.mp h
      have hv0 : v = 0 := by simpa using hv
      refine iff_of_true (Or.inr ⟨?_, hv0⟩) (Or.inl (by decide))
      exact Set.eq_empty_of_forall_notMem fun κ hκ => List.not_mem_nil hκ.choose_spec.1
    · have hwhole : keys ms = {.whole} :=
        Set.Subset.antisymm (hkeys.whole hk') (Set.singleton_subset_iff.mpr (hkeys.mem hk' hne))
      have htotal : total rs "" = sumOf ms .whole :=
        (hconst hk').trans (total_slot h (hkeys.mem hk' hne))
      have hsingle (x : ℚ) : IsGreatest {x} v ↔ v = x := by
        constructor
        · exact fun h => h.1
        · rintro rfl
          exact isGreatest_singleton
      rw [IsMean, hwhole, Set.image_singleton, hsingle, or_iff_left (by simp), hv, htotal, Quiet,
        if_neg hk]
      by_cases hlt : ms.length < 256
      · exact iff_of_true (by rw [Nat.mod_eq_of_lt hlt]) (Or.inl hlt)
      · rw [or_iff_right hlt, div_eq_div_iff_eq_zero hm0 (hmod hlt)]

end Sums

end Value

/-! ## The records of a window -/

section Window

variable {extraFs : GoMap FsStats} {name : AlertName} {time : ℤ}

/-- **Every record of the window, with the records decoded before it**, whether those are in the
window or not. -/
def Each (time : ℤ) (rows : List (ℤ × StatsJson)) (P : List StatsJson → StatsJson → Prop) : Prop :=
  ∀ earlier created json later, rows = earlier ++ (created, json) :: later →
    ¬ created - 10000 < time → P (earlier.map Prod.snd) json

theorem each_nil {P : List StatsJson → StatsJson → Prop} : Each time [] P := by
  rintro earlier created json later hrows -
  exact absurd hrows (by simp)

theorem each_cons {created : ℤ} {json : StatsJson} {rows : List (ℤ × StatsJson)}
    {P : List StatsJson → StatsJson → Prop} :
    Each time ((created, json) :: rows) P ↔
      (¬ created - 10000 < time → P [] json) ∧
        Each time rows fun earlier json' => P (json :: earlier) json' := by
  constructor
  · intro h
    refine ⟨fun hw => h [] created json rows rfl hw, fun earlier created' json' later hrows => ?_⟩
    exact h ((created, json) :: earlier) created' json' later (by rw [hrows, List.cons_append])
  · rintro ⟨hhead, htail⟩ earlier created' json' later hrows hw
    rcases List.cons_eq_append_iff.mp hrows with ⟨rfl, h⟩ | ⟨earlier', rfl, h⟩
    · obtain ⟨h, -⟩ := List.cons.inj h
      obtain ⟨rfl, rfl⟩ := Prod.mk.inj h
      exact hhead hw
    · exact htail earlier' created' json' later h hw

/-- The metrics of the records of a window that have one. -/
def metrics (name : AlertName) (time : ℤ) (rows : List (ℤ × StatsJson)) : List (Key → Option ℚ) :=
  rows.filterMap fun row => if row.1 - 10000 < time then none else metric row.2 name

/-- The loop counts the record: a GPU alert needs a GPU in it or before it, the others count
every record. -/
def counts (earlier : List StatsJson) (json : StatsJson) : AlertName → Bool
  | .gpu => (earlier ++ [json]).any hasGpu
  | .other _ => false
  | _ => true

/-- The number of records of the window that are counted. -/
def counted (name : AlertName) (time : ℤ) : List StatsJson → List (ℤ × StatsJson) → ℕ
  | _, [] => 0
  | earlier, (created, json) :: rows =>
    (if created - 10000 < time then 0 else if counts earlier json name then 1 else 0) +
      counted name time (earlier ++ [json]) rows

theorem isSome_reading (earlier : List StatsJson) (json : StatsJson) :
    (reading extraFs (decodeAll (earlier ++ [json])) name).isSome = counts earlier json name := by
  cases name with
  | gpu =>
    have hnil : (decodeAll (earlier ++ [json])).gpu.entries = [] ↔ _ := decodeAll_gpu_eq_nil
    simp only [reading, counts]
    split_ifs with h
    · rw [Option.isSome_none, eq_comm, List.any_eq_false]
      exact fun j hj => by simp [hnil.mp h j hj]
    · rw [Option.isSome_some, eq_comm, List.any_eq_true]
      by_contra hno
      refine h (hnil.mpr fun j hj => ?_)
      by_contra hj'
      exact hno ⟨j, hj, by simpa using hj'⟩
  | _ => rfl

theorem length_readings (earlier : List StatsJson) (rows : List (ℤ × StatsJson)) :
    (readings extraFs name time (decodeAll earlier) rows).length =
      counted name time earlier rows := by
  induction rows generalizing earlier with
  | nil => rfl
  | cons row rows ih =>
    obtain ⟨created, json⟩ := row
    rw [readings, counted, List.length_append, ← decodeAll_concat, ih, ← isSome_reading]
    congr 1
    split_ifs with hw hsome
    · rfl
    · obtain ⟨r, hr⟩ := Option.isSome_iff_exists.mp hsome
      rw [hr]
      rfl
    · rw [Option.not_isSome_iff_eq_none.mp hsome]
      rfl

/-- The keys of a window cover those of its records. -/
theorem covers_metrics {created : ℤ} {json : StatsJson} {rows : List (ℤ × StatsJson)}
    (hrow : (created, json) ∈ rows) (hw : ¬ created - 10000 < time) :
    Covers name (keys (metrics name time rows)) json where
  own m hm κ hκ := ⟨m, List.mem_filterMap.mpr ⟨_, hrow, (if_neg hw).trans hm⟩, hκ⟩
  some κ hκ := by
    obtain ⟨m, hm, hsome⟩ := hκ
    obtain ⟨row, -, hrow⟩ := List.mem_filterMap.mp hm
    split_ifs at hrow
    exact ⟨row.2, m, hrow, hsome⟩

theorem keysOf_metrics (rows : List (ℤ × StatsJson)) : KeysOf name (metrics name time rows) where
  whole hk κ hκ := by
    obtain ⟨m, hm, hsome⟩ := hκ
    obtain ⟨row, -, hrow⟩ := List.mem_filterMap.mp hm
    split_ifs at hrow
    exact eq_whole_of_isSome hk hrow hsome
  mem hk hne := by
    obtain ⟨m, hm⟩ := List.exists_mem_of_ne_nil _ hne
    obtain ⟨row, -, hrow⟩ := List.mem_filterMap.mp hm
    split_ifs at hrow
    obtain ⟨v, rfl⟩ := metric_eq_ofSystem hk hrow
    exact ⟨_, hm, rfl⟩

/-- Every record of a window contributes its own metric where nothing stale or foreign shows. -/
theorem each_contributes_iff {rows : List (ℤ × StatsJson)} :
    Each time rows (Contributes extraFs name (keys (metrics name time rows))) ↔
      Each time rows fun earlier json =>
        Fresh extraFs (keys (metrics name time rows)) earlier json name := by
  refine forall₄_congr fun earlier created json later => forall_congr' fun hrows => ?_
  refine forall_congr' fun hw => contributes_iff_fresh (covers_metrics ?_ hw)
  rw [hrows]
  exact List.mem_append_right _ List.mem_cons_self

/-- Where every record contributes its own metric, the loop reads the metrics. -/
theorem forall₂_readings {K : Set Key} (earlier : List StatsJson) {rows : List (ℤ × StatsJson)}
    (h : Each time rows fun earlier' json =>
      Contributes extraFs name K (earlier ++ earlier') json) :
    List.Forall₂ (Own name K) (readings extraFs name time (decodeAll earlier) rows)
      (metrics name time rows) := by
  induction rows generalizing earlier with
  | nil => exact .nil
  | cons row rows ih =>
    obtain ⟨created, json⟩ := row
    obtain ⟨hhead, htail⟩ := each_cons.mp h
    have hrest := ih (earlier ++ [json]) (by simpa using htail)
    rw [readings, metrics, List.filterMap_cons, ← decodeAll_concat]
    split_ifs with hw
    · exact hrest
    · have hrel := hhead hw
      rw [List.append_nil, Contributes] at hrel
      generalize reading extraFs (decodeAll (earlier ++ [json])) name = r at hrel
      generalize metric json name = m at hrel
      cases hrel with
      | none => exact hrest
      | some hown => exact .cons hown hrest

/-- The readings of an alert without keys are the same for all of them. -/
theorem total_readings_const (hk : name.keyed = false) (stats : SystemAlertStats)
    (rows : List (ℤ × StatsJson)) (s t : String) :
    total (readings extraFs name time stats rows) s =
      total (readings extraFs name time stats rows) t := by
  have hconst (stats : SystemAlertStats) : ∀ r ∈ reading extraFs stats name, r s = r t := by
    intro r hr
    cases name with
    | disk | temperature => exact absurd hk (by decide)
    | other name => exact absurd hr.symm (Option.some_ne_none r)
    | gpu =>
      simp only [reading, Option.mem_def, Option.ite_none_left_eq_some] at hr
      obtain rfl := Option.some.inj hr.2
      rfl
    | _ =>
      obtain rfl := Option.some.inj hr
      rfl
  induction rows generalizing stats with
  | nil => rfl
  | cons row rows ih =>
    obtain ⟨created, json⟩ := row
    simp only [readings, total, List.map_append, List.sum_append]
    refine congrArg₂ (· + ·) ?_ (ih _)
    split_ifs
    · rfl
    · cases hr : reading extraFs (stats.unmarshal json) name with
      | none => rfl
      | some r => simp [hconst _ r hr]

end Window

/-! ## The averages of a call -/

/-- The rows the call decodes. -/
def Input.records (inp : Input) : List (ℤ × StatsJson) :=
  match inp.window with
  | .error _ => []
  | .ok rows => decoded rows

/-- The metrics of an alert in its window. -/
def Input.metrics (inp : Input) (name : AlertName) (time : ℤ) : List (Key → Option ℚ) :=
  SystemAlerts.metrics name time inp.records

/-- **The averages are those of the records**: where an alert has enough records to be compared
with its threshold, each record of its window contributes its own metric, and the value compared is
their mean. -/
def Averages (inp : Input) (a : SystemAlertData) : Prop :=
  a.enough = true →
    Each a.time inp.records
        (Contributes inp.data.stats.extraFs a.name (keys (inp.metrics a.name a.time))) ∧
      IsMean (inp.metrics a.name a.time) a.val

/-- **Nothing disturbs the average** of an alert: with enough records to be compared, none of them
shows a value it does not have; they are fewer than 256 or have nothing to divide; and not every
disk or sensor is below zero. -/
def Undisturbed (inp : Input) (name : AlertName) (time : ℤ) (min : UInt8) : Prop :=
  5 * min.toNat ≤ 6 * (counted name time [] inp.records % 256) →
    (Each time inp.records fun earlier json =>
      Fresh inp.data.stats.extraFs (keys (inp.metrics name time)) earlier json name) ∧
      (counted name time [] inp.records < 256 ∨ Quiet name (inp.metrics name time)) ∧
        SomeNonneg name (inp.metrics name time)

/-- An alert that waits for an average starts with empty sums. -/
theorem wait_empty {now : ℤ} {data : CombinedData} {r : AlertRecord} {a : SystemAlertData}
    (h : screen now data r = .wait a) : a.count = 0 ∧ a.mapSums = ∅ := by
  unfold screen at h
  split at h
  · cases h
  · dsimp only at h
    split_ifs at h
    all_goals
      obtain rfl := Screened.wait.inj h
      exact ⟨rfl, rfl⟩

theorem validAlerts_empty {now : ℤ} {data : CombinedData} {alerts : List AlertRecord}
    {a : SystemAlertData} (ha : a ∈ validAlerts now data alerts) : a.count = 0 ∧ a.mapSums = ∅ := by
  obtain ⟨r, -, hr⟩ := List.mem_filterMap.mp ha
  split at hr
  · rename_i a' hwait
    obtain rfl := Option.some.inj hr
    exact wait_empty hwait
  · cases hr

/-- **What an averaged alert is**: an alert with nothing added up, through the loop and the last
division. -/
theorem averaged_cases {inp : Input} {b : SystemAlertData}
    (hb : b ∈ (handleSystemAlerts inp).averaged) :
    ∃ a, Tallied a [] ∧ b = (runOne inp.data.stats.extraFs .zero a inp.records).finish := by
  unfold handleSystemAlerts at hb
  split_ifs at hb with halerts
  · cases hb
  dsimp only at hb
  split at hb
  · cases hb
  · cases hb
  · rename_i oldest rows hwindow
    split_ifs at hb
    · cases hb
    split at hb
    · cases hb
    · rename_i alerts hloop
      have hrecords : inp.records = decoded (oldest :: rows) := by
        rw [Input.records, hwindow]
      rw [averageLoop_eq_map (averageLoop_first (List.cons_ne_nil oldest rows) hloop),
        List.map_map, List.map_map, ← hrecords] at hb
      obtain ⟨a, ha, rfl⟩ := List.mem_map.mp hb
      obtain ⟨hcount, hsums⟩ := validAlerts_empty (List.mem_of_mem_filter ha)
      refine ⟨a.reset true, ⟨hcount, fun _ => rfl, fun _ k => ?_⟩, rfl⟩
      change valueAt a.mapSums k = 0
      rw [hsums]
      rfl

/-- **When the averages are those of the records.**  The value an alert is compared with is the mean
of its metric over the records, each by itself, exactly when nothing disturbs it. -/
theorem averages_iff (inp : Input) :
    ∀ b ∈ (handleSystemAlerts inp).averaged,
      Averages inp b ↔ Undisturbed inp b.name b.time b.min := by
  intro b hb
  obtain ⟨a, ha, rfl⟩ := averaged_cases hb
  have hrun : Tallied (runOne inp.data.stats.extraFs .zero a inp.records)
      (readings inp.data.stats.extraFs a.name a.time .zero inp.records) := ha.runOne inp.records
  set a' := runOne inp.data.stats.extraFs .zero a inp.records
  have hsame : SameAlert a a' := sameAlert_runOne _ _ _
  have hfin : SameAlert a' a'.finish := sameAlert_finish
  have hmean : AverageOver a'.name _ _ a'.finish.val := hrun.averageOver
  rw [← hsame.name, ← hsame.time, ← hfin.name, ← hfin.time] at hrun hmean
  have hlength : (readings inp.data.stats.extraFs a'.finish.name a'.finish.time .zero
      inp.records).length = counted a'.finish.name a'.finish.time [] inp.records :=
    length_readings [] inp.records
  have henough : a'.finish.enough = true ↔ 5 * a'.finish.min.toNat ≤
      6 * (counted a'.finish.name a'.finish.time [] inp.records % 256) := by
    rw [SystemAlertData.enough, decide_eq_true_iff, count_finish, hrun.count, UInt8.toNat_ofNat',
      hlength]
  refine imp_congr henough ?_
  rw [Input.metrics, each_contributes_iff]
  refine and_congr_right fun hfresh => ?_
  have hread := forall₂_readings [] (each_contributes_iff.mpr hfresh)
  rw [← hlength, show SystemAlertStats.zero = decodeAll [] from rfl, hread.length_eq]
  rw [show SystemAlertStats.zero = decodeAll [] from rfl] at hmean
  exact isMean_iff (keysOf_metrics _) hread (fun hk => total_readings_const hk _ _ _ _) hmean

/-! ### A quiet network that stays loud -/

/-- A record with this rate of sent data, which an idle network leaves out. -/
def netRow (created : ℤ) (ns : Option ℚ) : StatsRow where
  created := created
  stats := .ok
    { cpu := some 5, mp := some 40, dp := some 60, ns := ns, nr := none, g := none, t := none,
      efs := none, la := some (0, 0, 0), bat := none }

/-- A triggered bandwidth alert over two minutes, and the records of the last three: 30 MB/s twice,
then nothing. -/
def idleNetwork : Input where
  now := 600000
  data := ⟨.zero, .zero⟩
  alerts := [⟨"alert1", .bandwidth, 20, 2, true⟩]
  rows := .ok [netRow 415000 (some 30), netRow 475000 (some 30), netRow 535000 none,
    netRow 595000 none]

/-- **The averages repeat a rate that the records no longer have**: the two records of the window
are idle, and their average is 30 MB/s. -/
theorem averages_fail_on_idle_network :
    ¬ ∀ inp : Input, ∀ b ∈ (handleSystemAlerts inp).averaged, Averages inp b := by
  intro h
  obtain ⟨b, hb, hname, htime, henough, hval⟩ :
      ∃ b ∈ (handleSystemAlerts idleNetwork).averaged,
        b.name = .bandwidth ∧ b.time = 480000 ∧ b.enough = true ∧ b.val = 30 := by
    decide +kernel
  have hmean := (h idleNetwork b hb henough).2
  have hsum (κ : Key) : sumOf (idleNetwork.metrics .bandwidth 480000) κ = 0 := by
    cases κ with
    | whole => decide +kernel
    | named k =>
      have hnamed : ∀ m ∈ idleNetwork.metrics .bandwidth 480000, (m (.named k)).getD 0 = 0 := by
        intro m hm
        obtain ⟨row, -, hrow⟩ := List.mem_filterMap.mp hm
        split_ifs at hrow
        obtain rfl := Option.some.inj hrow
        rfl
      rw [sumOf, List.map_congr_left hnamed]
      simp
  rw [hname, htime, hval, IsMean] at hmean
  rcases hmean with ⟨⟨κ, -, hκ⟩, -⟩ | ⟨-, hzero⟩
  · simp only [hsum, zero_div] at hκ
    exact absurd hκ (by decide)
  · exact absurd hzero (by decide)

/-- The same alert while the network is busy. -/
def busyNetwork : Input :=
  { idleNetwork with
    rows := .ok [netRow 415000 (some 30), netRow 475000 (some 30), netRow 535000 (some 10),
      netRow 595000 (some 20)] }

/-- Records that all have their rate are averaged as they are. -/
theorem averages_busy_network :
    ∃ b ∈ (handleSystemAlerts busyNetwork).averaged,
      b.enough = true ∧ b.val = 15 ∧ Averages busyNetwork b := by
  obtain ⟨b, hb, hname, htime, hval, henough⟩ :
      ∃ b ∈ (handleSystemAlerts busyNetwork).averaged,
        b.name = .bandwidth ∧ b.time = 480000 ∧ b.val = 15 ∧ b.enough = true := by
    decide +kernel
  refine ⟨b, hb, henough, hval, (averages_iff busyNetwork b hb).mpr fun _ => ?_⟩
  rw [hname, htime]
  refine ⟨?_, Or.inl (by decide +kernel), fun hk => absurd hk (by decide)⟩
  have hrecords : busyNetwork.records = decoded
      [netRow 415000 (some 30), netRow 475000 (some 30), netRow 535000 (some 10),
        netRow 595000 (some 20)] := rfl
  rw [hrecords]
  simp only [decoded, netRow, List.filterMap_cons, List.filterMap_nil, each_cons]
  refine ⟨fun h => absurd h (by decide), fun h => absurd h (by decide), fun _ => ?_, fun _ => ?_,
    each_nil⟩
  all_goals
    rw [Fresh]
    decide +kernel

end SystemAlerts

end Beszel
