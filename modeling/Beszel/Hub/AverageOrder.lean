import Beszel.Hub.SystemColumns

/-!
# Hub/AverageOrder — the order of the records

The query that selects the records does not order them.  Sums and maxima do not depend on the order;
the charge state of the battery is overwritten by every record, and the name of a GPU is set by the
first that has it.  Everything else is the same for every order: `orderFree_averageSystemStats`.
-/

namespace Beszel

open Machinery

namespace SystemAverages

/-! ## Equal records -/

/-- A record without its maps. -/
def Stats.flat (s : Stats) : Stats :=
  { s with temperatures := none, extraFs := ∅, gpuData := ∅, networkInterfaces := ∅ }

/-- A GPU without its engines. -/
def GPUData.flat (gpu : GPUData) : GPUData := { gpu with engines := ∅ }

/-- Two GPUs are the same, as finite maps. -/
structure GPUData.Same (gpu gpu' : GPUData) : Prop where
  flat : gpu.flat = gpu'.flat
  engines : ∀ engineKey, gpu.engines.lookup engineKey = gpu'.engines.lookup engineKey

/-- **Two records are the same**, as finite maps. -/
structure Stats.Same (s s' : Stats) : Prop where
  flat : s.flat = s'.flat
  temperatures : ∀ key,
    s.temperatures.map (·.lookup key) = s'.temperatures.map (·.lookup key)
  extraFs : ∀ key, s.extraFs.lookup key = s'.extraFs.lookup key
  networkInterfaces : ∀ key, s.networkInterfaces.lookup key = s'.networkInterfaces.lookup key
  gpuData : ∀ id, Option.Rel GPUData.Same (s.gpuData.lookup id) (s'.gpuData.lookup id)

/-- A record without what depends on the order: the charge state and the names of the GPUs. -/
def Stats.orderFree (s : Stats) : Stats :=
  { s with
    battery := (s.battery.1, 0)
    gpuData := mapValues (fun _ gpu => { gpu with name := "" }) s.gpuData }

/-! ## What is not in a map -/

theorem max3_right_comm (m a b c d : ℚ) :
    max3 (max3 m a b) c d = max3 (max3 m c d) a b := by
  simp only [max3, max_assoc]
  rw [max_left_comm b, max_left_comm a]
  simp only [max_comm, max_left_comm]

theorem max3_right_comm_uint64 (m a b c d : UInt64) :
    max3 (max3 m a b) c d = max3 (max3 m c d) a b := by
  have h := max3_right_comm m.toNat a.toNat b.toNat c.toNat d.toNat
  rw [← toNat_max3, ← toNat_max3, ← toNat_max3, ← toNat_max3] at h
  exact UInt64.toNat_inj.mp (by exact_mod_cast h)

/-- The sums without the maps and the charge state. -/
def Sums.flat (s : Sums) : Sums := { s with sum := s.sum.orderFree.flat }

/-- **Two records are added in either order.** -/
theorem flat_add_right_comm (s : Sums) (a b : Stats) :
    ((s.add a).add b).flat = ((s.add b).add a).flat := by
  unfold Sums.flat Sums.add Stats.orderFree Stats.flat
  simp only [Sums.mk.injEq, add_right_comm, max3_right_comm, max3_right_comm_uint64,
    addSlice_right_comm, true_and]
  split_ifs <;> rfl

/-- What is not in a map is added to what is not. -/
theorem flat_add (s : Sums) (a : Stats) : (s.add a).flat = (s.flat.add a).flat := by
  simp only [Sums.flat, Sums.add, Stats.orderFree, Stats.flat]

/-- What is not in a map is averaged from what is not. -/
theorem flat_average (s : Sums) (count : ℕ) :
    (s.average count).orderFree.flat = (s.flat.average count).orderFree.flat := by
  unfold Sums.average
  by_cases hcount : count = 0
  · rw [if_pos hcount, if_pos hcount]
    rfl
  · rw [if_neg hcount, if_neg hcount]
    simp only [Sums.flat, Stats.orderFree, Stats.flat]

theorem eq_nil_iff_of_perm {α : Type} {l l' : List α} (h : l.Perm l') : l = [] ↔ l' = [] :=
  ⟨fun hnil => List.nil_perm.mp (hnil ▸ h), fun hnil => List.perm_nil.mp (hnil ▸ h)⟩

section Perm

variable {records records' : List Record} (h : records.Perm records')
include h

theorem perm_decoded : (decoded records).Perm (decoded records') := h.filterMap id

theorem flat_perm :
    (averageSystemStats records).orderFree.flat = (averageSystemStats records').orderFree.flat := by
  have hflat : (accumulateTotals records).flat = (accumulateTotals records').flat := by
    rw [accumulateTotals_eq, accumulateTotals_eq]
    exact foldl_perm Sums.add Sums.flat flat_add flat_add_right_comm (perm_decoded h) .zero
  rw [averageSystemStats, averageSystemStats, flat_average, hflat, ← flat_average, h.length_eq]

/-! ## The maps -/

/-- **An average does not depend on the order.** -/
theorem read_perm (q : Quantity) :
    q.read (averageSystemStats records) = q.read (averageSystemStats records') := by
  have hcolumn : (q.column records).Perm (q.column records') := (perm_decoded h).filterMap q.read
  have hdivisor : q.divisor records = q.divisor records' := by
    cases q with
    | temperature key => exact ((perm_decoded h).filterMap Stats.temperatures).length_eq
    | _ => exact h.length_eq
  rw [read_averageSystemStats, read_averageSystemStats, hdivisor]
  unfold Quantity.average
  simp only [eq_nil_iff_of_perm hcolumn, hcolumn.sum_eq]

theorem extraFs_perm (key : String) :
    (averageSystemStats records).extraFs.lookup key =
      (averageSystemStats records').extraFs.lookup key := by
  have hadd : ∀ fs value value' : FsStats,
      (fs.add value).add value' = (fs.add value').add value := by
    intro fs value value'
    simp only [FsStats.add, add_right_comm, max3_right_comm, max3_right_comm_uint64]
  rw [lookup_extraFs_averageSystemStats, lookup_extraFs_averageSystemStats, h.length_eq,
    total_perm (fun _ _ => rfl) hadd ((perm_decoded h).filterMap _)]

theorem networkInterfaces_perm (key : String) :
    (averageSystemStats records).networkInterfaces.lookup key =
      (averageSystemStats records').networkInterfaces.lookup key := by
  have hmax : ∀ a b c : UInt64, max (max a b) c = max (max a c) b := by
    intro a b c
    rw [← UInt64.toNat_inj]
    simp only [toNat_max, max_right_comm]
  have hadd : ∀ v value value' : Interface,
      addInterface (addInterface v value) value' = addInterface (addInterface v value') value := by
    intro v value value'
    simp only [addInterface, add_right_comm, hmax]
  rw [lookup_networkInterfaces_averageSystemStats, lookup_networkInterfaces_averageSystemStats,
    h.length_eq, total_perm (fun _ _ => rfl) hadd ((perm_decoded h).filterMap _)]

theorem temperatures_perm (key : String) :
    (averageSystemStats records).temperatures.map (·.lookup key) =
      (averageSystemStats records').temperatures.map (·.lookup key) := by
  have hnone : (averageSystemStats records).temperatures = none ↔
      (averageSystemStats records').temperatures = none := by
    rw [temperatures_averageSystemStats, temperatures_averageSystemStats]
    exact eq_nil_iff_of_perm ((perm_decoded h).filterMap Stats.temperatures)
  have hread := read_perm h (.temperature key)
  simp only [Quantity.read] at hread
  cases ht : (averageSystemStats records).temperatures with
  | none => rw [hnone.mp ht]
  | some t =>
    obtain ⟨t', ht'⟩ := Option.ne_none_iff_exists'.mp fun hc => by
      rw [hnone.mpr hc] at ht
      cases ht
    rw [ht, ht', Option.bind_some, Option.bind_some] at hread
    rw [ht', Option.map_some, Option.map_some, hread]

theorem gpuData_perm (id : String) :
    Option.Rel GPUData.Same ((averageSystemStats records).orderFree.gpuData.lookup id)
      ((averageSystemStats records').orderFree.gpuData.lookup id) := by
  have hfields : ∀ f : GpuField,
      ((averageSystemStats records).gpuData.lookup id).map f.read =
        ((averageSystemStats records').gpuData.lookup id).map f.read :=
    fun f => read_perm h (.gpu id f)
  have hengines := fun engineKey => read_perm h (.engine id engineKey)
  have hpower := gpuName_averageSystemStats records id
  have hpower' := gpuName_averageSystemStats records' id
  simp only [Quantity.read] at hengines
  unfold Stats.orderFree
  rw [lookup_mapValues, lookup_mapValues]
  cases hgpu : (averageSystemStats records).gpuData.lookup id with
  | none =>
    have hnone := hfields .usage
    rw [hgpu, Option.map_none, eq_comm, Option.map_eq_none_iff] at hnone
    rw [hnone]
    exact .none
  | some gpu =>
    have hsome := hfields .usage
    rw [hgpu, Option.map_some, eq_comm, Option.map_eq_some_iff] at hsome
    obtain ⟨gpu', hgpu', -⟩ := hsome
    rw [hgpu'] at hpower' ⊢
    rw [hgpu] at hpower
    simp only [hgpu, hgpu', Option.map_some, Option.some_inj, Option.bind_some] at hfields hengines
    refine .some ⟨?_, hengines⟩
    have hpkg : gpu.powerPkg = 0 ∧ gpu'.powerPkg = 0 := by
      constructor
      · obtain ⟨_, _, h0⟩ := Option.map_eq_some_iff.mp hpower.symm
        exact (congrArg Prod.snd h0).symm
      · obtain ⟨_, _, h0⟩ := Option.map_eq_some_iff.mp hpower'.symm
        exact (congrArg Prod.snd h0).symm
    simp only [GPUData.flat, GPUData.mk.injEq, hpkg, and_true, true_and]
    exact ⟨hfields .temperature, hfields .memoryUsed, hfields .memoryTotal, hfields .usage,
      hfields .power, hfields .count⟩

end Perm

/-- **The order of the records** only decides the charge state, which is that of the last sample,
and the names of the GPUs, which are the first ones. -/
theorem orderFree_averageSystemStats (records records' : List Record)
    (h : records.Perm records') :
    (averageSystemStats records).orderFree.Same (averageSystemStats records').orderFree ∧
      (averageSystemStats records).battery.2 =
        ((decoded records).getLast?.map (·.battery.2)).getD 0 ∧
      ∀ id, ((averageSystemStats records).gpuData.lookup id).map (·.name) =
        ((decoded records).filterMap (·.gpuData.lookup id)).head?.map (·.name) := by
  refine ⟨?_, chargeState_averageSystemStats records, fun id => ?_⟩
  · exact
      { flat := flat_perm h
        temperatures := temperatures_perm h
        extraFs := extraFs_perm h
        networkInterfaces := networkInterfaces_perm h
        gpuData := gpuData_perm h }
  · have hname := congrArg (Option.map Prod.fst) (gpuName_averageSystemStats records id)
    rw [Option.map_map, Option.map_map] at hname
    exact hname

/-- A record that is charging and one that is not. -/
theorem orderFree_averageSystemStats_battery :
    (averageSystemStats [some { Stats.zero with battery := (50, 1) },
        some { Stats.zero with battery := (60, 2) }]).orderFree.Same
      (averageSystemStats [some { Stats.zero with battery := (60, 2) },
        some { Stats.zero with battery := (50, 1) }]).orderFree :=
  (orderFree_averageSystemStats _ _ (.swap _ _ [])).1

/-- In the other order the average has the other charge state. -/
theorem not_same_of_perm :
    ¬ ∀ records records' : List Record, records.Perm records' →
      (averageSystemStats records).Same (averageSystemStats records') := by
  intro h
  have hsame := h [some { Stats.zero with battery := (50, 1) },
    some { Stats.zero with battery := (60, 2) }] _ (.swap _ _ [])
  have hbattery : (averageSystemStats [some { Stats.zero with battery := (50, 1) },
      some { Stats.zero with battery := (60, 2) }]).battery =
    (averageSystemStats [some { Stats.zero with battery := (60, 2) },
      some { Stats.zero with battery := (50, 1) }]).battery :=
    congrArg Stats.battery hsame.flat
  revert hbattery
  decide +kernel

end SystemAverages

end Beszel
