import Beszel.Hub.AverageBounds

/-!
# Hub/AverageCopies — what the average of copies of one record keeps

The average of `n` copies of a record is the record again, but for what the loop forgets: the three
old load averages and the power of a GPU's package are never added up.  Counters that `n` copies sum
beyond a `uint64` are lost too, and so are peaks where all is negative.
-/

namespace Beszel

open Machinery

namespace SystemAverages

/-- Two values agree up to two decimals; whole numbers then agree. -/
def Near : Option ℚ → Option ℚ → Prop := Option.Rel fun x y => |y - x| ≤ 1 / 200

/-- The power of a GPU's package. -/
def powerPkg (id : String) (s : Stats) : Option ℚ := (s.gpuData.lookup id).map (·.powerPkg)

/-- **`r` agrees with `s`** in everything that is stored: peaks may be raised to the current
values. -/
structure Agrees (s r : Stats) : Prop where
  quantity : ∀ q : Quantity, Near (q.read s) (q.read r)
  peak : ∀ p : Peak, p.peak r = (p.read s).map fun v => max v.1 v.2
  interfaceTotals : ∀ key, (r.networkInterfaces.lookup key).map (·.2.2) =
    (s.networkInterfaces.lookup key).map (·.2.2)
  chargeState : r.battery.2 = s.battery.2
  gpuName : ∀ id, (r.gpuData.lookup id).map (·.name) = (s.gpuData.lookup id).map (·.name)
  powerPkg : ∀ id, Near (powerPkg id s) (powerPkg id r)
  loadAvg1 : |r.loadAvg1 - s.loadAvg1| ≤ 1 / 200
  loadAvg5 : |r.loadAvg5 - s.loadAvg5| ≤ 1 / 200
  loadAvg15 : |r.loadAvg15 - s.loadAvg15| ≤ 1 / 200

/-- **What is lost is zero**, up to two decimals, in a record of which `n` copies are averaged. -/
structure Kept (n : ℕ) (s : Stats) : Prop where
  counter : ∀ q : Quantity, q.wraps → ∀ v, q.read s = some v → n * v < 2 ^ 64
  peak : ∀ p : Peak, ∀ v, p.read s = some v → 0 ≤ max v.1 v.2
  powerPkg : ∀ id, ∀ x, SystemAverages.powerPkg id s = some x → |x| ≤ 1 / 200
  loadAvg1 : |s.loadAvg1| ≤ 1 / 200
  loadAvg5 : |s.loadAvg5| ≤ 1 / 200
  loadAvg15 : |s.loadAvg15| ≤ 1 / 200

section Copies

variable {n : ℕ} (hn : n ≠ 0) (s : Stats)

/-- What `n` copies carry. -/
theorem filterMap_replicate {α β : Type} (f : α → Option β) (a : α) (n : ℕ) :
    (List.replicate n a).filterMap f = ((f a).map (List.replicate n)).getD [] := by
  cases hf : f a with
  | none =>
    induction n with
    | zero => rfl
    | succ n ih => rw [List.replicate_succ, List.filterMap_cons_none hf, ih]; rfl
  | some b => rw [List.filterMap_replicate_of_some hf]; rfl

theorem decoded_replicate : decoded (List.replicate n (some s)) = List.replicate n s :=
  List.filterMap_replicate_of_some rfl

theorem column_replicate (q : Quantity) :
    q.column (List.replicate n (some s)) =
      ((q.read s).map (List.replicate n)).getD [] := by
  rw [Quantity.column, decoded_replicate, filterMap_replicate]

/-- The divisor of what `n` copies carry. -/
theorem divisor_replicate {q : Quantity} {v : ℚ} (h : q.read s = some v) :
    q.divisor (List.replicate n (some s)) = n := by
  cases q with
  | temperature key =>
    obtain ⟨t, ht, -⟩ := Option.bind_eq_some_iff.mp h
    simp only [Quantity.divisor]
    rw [decoded_replicate, List.filterMap_replicate_of_some ht, List.length_replicate]
  | _ => exact List.length_replicate

include hn

/-- **The average of copies.** -/
theorem read_copies (q : Quantity) :
    q.read (averageSystemStats (List.replicate n (some s))) =
      (q.read s).map fun v => q.round (q.wrap (n * v) / n) := by
  rw [read_averageSystemStats, Quantity.average, column_replicate]
  cases hq : q.read s with
  | none =>
    cases q with
    | field | counter | battery => cases hq
    | _ => rfl
  | some v =>
    rw [divisor_replicate s hq, Option.map_some, Option.getD_some,
      if_neg (by simpa using hn), List.sum_replicate, nsmul_eq_mul]
    rfl

/-- A copied value is rounded to its place. -/
theorem round_copies {q : Quantity} {v : ℚ} (h : q.read s = some v) (hq : ¬q.wraps) :
    |q.round (q.wrap (n * v) / n) - v| ≤ 1 / 200 := by
  have hn' : (n : ℚ) ≠ 0 := Nat.cast_ne_zero.mpr hn
  rw [Quantity.wrap, if_neg hq, mul_div_cancel_left₀ v hn']
  cases q with
  | battery =>
    obtain rfl := Option.some.inj h
    simp [Quantity.round]
  | core i =>
    obtain ⟨m, rfl, -⟩ := Quantity.read_core_le h
    have hround : mathRound (m : ℚ) = m := mathRound_intCast m
    simp [Quantity.round, hround]
  | counter | fsCounter | interface => exact absurd rfl hq
  | field | temperature | fs | gpu | engine | breakdown => exact abs_twoDecimals_sub_le v

/-- **A copied counter** is kept if its sum fits, and else is off by one at least. -/
theorem round_copies_counter {q : Quantity} {v : ℚ} (h : q.read s = some v)
    (hq : q.wraps = true) :
    |q.round (q.wrap (n * v) / n) - v| ≤ 1 / 200 ↔ n * v < 2 ^ 64 := by
  obtain ⟨m, rfl⟩ := Quantity.read_wraps hq h
  have hround : q.round (q.wrap ((n : ℚ) * m) / n) = ((n * m % 2 ^ 64 / n : ℕ) : ℚ) := by
    rw [natCast_div, Quantity.wrap, if_pos hq]
    have hfloor : ⌊(n : ℚ) * m⌋ = ((n * m : ℕ) : ℤ) := by
      rw [← Nat.cast_mul, Int.floor_natCast]
    have hmod : ((n * m : ℕ) : ℤ) % 2 ^ 64 = ((n * m % 2 ^ 64 : ℕ) : ℤ) := by push_cast; rfl
    rw [hfloor, hmod, Int.cast_natCast]
    cases q with
    | counter | fsCounter | interface => rfl
    | _ => cases hq
  rw [hround]
  constructor
  · intro hnear
    by_contra hlarge
    have hlarge : 2 ^ 64 ≤ n * m := by
      have := not_lt.mp hlarge
      exact_mod_cast this
    have hlt : n * m % 2 ^ 64 / n < m := by
      rw [Nat.div_lt_iff_lt_mul (Nat.pos_of_ne_zero hn), mul_comm m n]
      exact (Nat.mod_lt _ (by norm_num)).trans_le hlarge
    have hlt : ((n * m % 2 ^ 64 / n : ℕ) : ℚ) + 1 ≤ m := by exact_mod_cast hlt
    have := (abs_le.mp hnear).1
    linarith
  · intro hsmall
    have hsmall : n * m < 2 ^ 64 := by exact_mod_cast hsmall
    rw [Nat.mod_eq_of_lt hsmall, Nat.mul_div_cancel_left m (Nat.pos_of_ne_zero hn), sub_self,
      abs_zero]
    norm_num

/-- **The peak of copies** is raised to the current value, and to zero. -/
theorem peak_copies (p : Peak) :
    p.peak (averageSystemStats (List.replicate n (some s))) =
      (p.read s).map fun v => max 0 (max v.1 v.2) := by
  have hidem : ∀ v, Peak.raise (Peak.raise 0 v) v = Peak.raise 0 v := by
    intro v
    simp [Peak.raise, max3]
  rw [peak_averageSystemStats, Peak.column, decoded_replicate, filterMap_replicate]
  cases hp : p.read s with
  | none =>
    cases p with
    | field => cases hp
    | fs => rfl
  | some v =>
    rw [Option.map_some, Option.getD_some, if_neg (by simpa using hn),
      foldl_replicate (hidem v) hn, Option.map_some, ← max_assoc]
    rfl

/-- The totals of an interface are kept. -/
theorem interfaceTotals_copies (key : String) :
    ((averageSystemStats (List.replicate n (some s))).networkInterfaces.lookup key).map (·.2.2) =
      (s.networkInterfaces.lookup key).map (·.2.2) := by
  have hmax : ∀ a : UInt64, max 0 a = a ∧ max a a = a := by
    intro a
    have hif : ∀ a b : UInt64, max a b = if a ≤ b then b else a := fun _ _ => rfl
    exact ⟨by rw [hif, if_pos (UInt64.zero_le)], by rw [hif, ite_self]⟩
  rw [lookup_networkInterfaces_averageSystemStats, decoded_replicate, filterMap_replicate,
    Option.map_map]
  have hread : ((·.2.2) : Interface → UInt64 × UInt64) ∘ averageInterface
      (List.replicate n (some s)).length = (·.2.2) := rfl
  rw [hread, map_total _ _ (fun v : Interface => v.2.2) (fun v : Interface => v.2.2)
    (fun m v => (max m.1 v.1, max m.2 v.2)) (0, 0) (fun _ => rfl) (fun _ _ => rfl)]
  cases s.networkInterfaces.lookup key with
  | none => rfl
  | some v =>
    rw [Option.map_some, Option.getD_some, if_neg (by simpa using hn), List.map_replicate,
      foldl_replicate _ hn, (hmax _).1, (hmax _).1]
    · rfl
    · simp only [(hmax _).1, (hmax _).2]

theorem head?_replicate_filterMap {β : Type} (f : Stats → Option β) :
    ((List.replicate n s).filterMap f).head? = f s := by
  rw [filterMap_replicate]
  cases f s with
  | none => rfl
  | some b => exact List.head?_replicate.trans (if_neg hn)

/-- The name of a GPU is kept, the power of its package is not. -/
theorem gpuName_copies (id : String) :
    ((averageSystemStats (List.replicate n (some s))).gpuData.lookup id).map
      (fun gpu => (gpu.name, gpu.powerPkg)) =
      (s.gpuData.lookup id).map fun gpu => (gpu.name, 0) := by
  rw [gpuName_averageSystemStats, decoded_replicate, head?_replicate_filterMap hn]

/-- The charge state is kept. -/
theorem chargeState_copies :
    (averageSystemStats (List.replicate n (some s))).battery.2 = s.battery.2 := by
  rw [chargeState_averageSystemStats, decoded_replicate, List.getLast?_replicate, if_neg hn]
  rfl

/-- A quantity agrees if it does not overflow. -/
theorem near_copies (q : Quantity) :
    Near (q.read s) (q.read (averageSystemStats (List.replicate n (some s)))) ↔
      (q.wraps → ∀ v, q.read s = some v → n * v < 2 ^ 64) := by
  rw [read_copies hn]
  cases hq : q.read s with
  | none => exact ⟨fun _ _ v hv => (nomatch hv), fun _ => .none⟩
  | some v =>
    rw [Option.map_some, Near, Option.rel_some_some]
    constructor
    · rintro hnear hwraps v' hv'
      obtain rfl := Option.some.inj hv'
      exact (round_copies_counter hn s hq hwraps).mp hnear
    · intro h
      by_cases hwraps : q.wraps = true
      · exact (round_copies_counter hn s hq hwraps).mpr (h hwraps v rfl)
      · exact round_copies hn s hq hwraps

/-- A peak agrees if the peak or the current value is not negative. -/
theorem peak_copies_iff (p : Peak) :
    p.peak (averageSystemStats (List.replicate n (some s))) =
      (p.read s).map (fun v => max v.1 v.2) ↔
      ∀ v, p.read s = some v → 0 ≤ max v.1 v.2 := by
  rw [peak_copies hn]
  cases hp : p.read s with
  | none => exact ⟨fun _ v hv => (nomatch hv), fun _ => rfl⟩
  | some v =>
    rw [Option.map_some, Option.map_some, Option.some_inj, max_eq_right_iff]
    exact ⟨fun h v' hv' => Option.some.inj hv' ▸ h, fun h => h v rfl⟩

/-- The power of a GPU's package agrees if it is zero. -/
theorem powerPkg_copies (id : String) :
    Near (powerPkg id s) (powerPkg id (averageSystemStats (List.replicate n (some s)))) ↔
      ∀ x, powerPkg id s = some x → |x| ≤ 1 / 200 := by
  have hpower : powerPkg id (averageSystemStats (List.replicate n (some s))) =
      (s.gpuData.lookup id).map fun _ => 0 := by
    have h := congrArg (Option.map Prod.snd) (gpuName_copies hn s id)
    rw [Option.map_map, Option.map_map] at h
    exact h
  rw [hpower, powerPkg]
  cases s.gpuData.lookup id with
  | none => exact ⟨fun _ x hx => (nomatch hx), fun _ => .none⟩
  | some gpu =>
    rw [Option.map_some, Option.map_some, Near, Option.rel_some_some, zero_sub, abs_neg]
    exact ⟨fun h x hx => Option.some.inj hx ▸ h, fun h => h _ rfl⟩

end Copies

/-- **The average of copies agrees with the record** if and only if what is lost is zero. -/
theorem agrees_iff_kept {n : ℕ} (hn : 1 ≤ n) (s : Stats) :
    Agrees s (averageSystemStats (List.replicate n (some s))) ↔ Kept n s := by
  have hn : n ≠ 0 := Nat.one_le_iff_ne_zero.mp hn
  have hload := loadAvg_averageSystemStats (List.replicate n (some s))
  obtain ⟨h1, h5, h15⟩ : _ ∧ _ ∧ _ := by simpa only [Prod.mk.injEq] using hload
  have hzero : ∀ x : ℚ, |0 - x| ≤ 1 / 200 ↔ |x| ≤ 1 / 200 := by
    intro x
    rw [zero_sub, abs_neg]
  constructor
  · intro h
    exact
      { counter := fun q => (near_copies hn s q).mp (h.quantity q)
        peak := fun p => (peak_copies_iff hn s p).mp (h.peak p)
        powerPkg := fun id => (powerPkg_copies hn s id).mp (h.powerPkg id)
        loadAvg1 := (hzero _).mp (h1 ▸ h.loadAvg1)
        loadAvg5 := (hzero _).mp (h5 ▸ h.loadAvg5)
        loadAvg15 := (hzero _).mp (h15 ▸ h.loadAvg15) }
  · intro h
    exact
      { quantity := fun q => (near_copies hn s q).mpr (h.counter q)
        peak := fun p => (peak_copies_iff hn s p).mpr (h.peak p)
        interfaceTotals := interfaceTotals_copies hn s
        chargeState := chargeState_copies hn s
        gpuName := fun id => by
          have hname := congrArg (Option.map Prod.fst) (gpuName_copies hn s id)
          rwa [Option.map_map, Option.map_map] at hname
        powerPkg := fun id => (powerPkg_copies hn s id).mpr (h.powerPkg id)
        loadAvg1 := by rw [h1, hzero]; exact h.loadAvg1
        loadAvg5 := by rw [h5, hzero]; exact h.loadAvg5
        loadAvg15 := by rw [h15, hzero]; exact h.loadAvg15 }

/-- A busy minute has nothing that is lost. -/
theorem kept_busy : Kept 3 busy where
  counter q hq v hv := by
    cases q with
    | counter c =>
      obtain rfl := Option.some.inj hv
      cases c <;> decide +kernel
    | fsCounter key c =>
      obtain ⟨fs, hfs, rfl⟩ := Option.map_eq_some_iff.mp hv
      simp only [busy, lookup_insert_empty] at hfs
      split_ifs at hfs
      obtain rfl := Option.some.inj hfs
      cases c <;> decide +kernel
    | interface key c =>
      obtain ⟨value, hvalue, rfl⟩ := Option.map_eq_some_iff.mp hv
      simp only [busy, lookup_insert_empty] at hvalue
      split_ifs at hvalue
      obtain rfl := Option.some.inj hvalue
      cases c <;> decide +kernel
    | _ => cases hq
  peak p v hv := by
    cases p with
    | field p =>
      obtain rfl := Option.some.inj hv
      cases p <;> norm_num [PeakField.peak, PeakField.current, busy, Stats.zero]
    | fs key p =>
      obtain ⟨fs, hfs, rfl⟩ := Option.map_eq_some_iff.mp hv
      simp only [busy, lookup_insert_empty] at hfs
      split_ifs at hfs
      obtain rfl := Option.some.inj hfs
      cases p <;> norm_num [FsPeak.peak, FsPeak.current, FsStats.zero]
  powerPkg id x hx := by
    obtain ⟨gpu, hgpu, rfl⟩ := Option.map_eq_some_iff.mp hx
    simp only [busy, lookup_insert_empty] at hgpu
    split_ifs at hgpu
    obtain rfl := Option.some.inj hgpu
    norm_num [GPUData.named]
  loadAvg1 := by norm_num [busy, Stats.zero]
  loadAvg5 := by norm_num [busy, Stats.zero]
  loadAvg15 := by norm_num [busy, Stats.zero]

/-- Three copies of a busy minute. -/
theorem agrees_iff_kept_busy : Agrees busy (averageSystemStats (List.replicate 3 (some busy))) :=
  (agrees_iff_kept (by decide) busy).mpr kept_busy

/-- A GPU whose package draws 8 W: in the average it draws nothing. -/
theorem not_agrees :
    let gpu : GPUData := { GPUData.named "GPU" with powerPkg := 8 }
    let s : Stats := { Stats.zero with gpuData := (∅ : GoMap GPUData).insert "i0" gpu }
    ¬ Agrees s (averageSystemStats [some s]) := by
  intro gpu s h
  have hs : powerPkg "i0" s = some 8 := by decide +kernel
  have haverage : powerPkg "i0" (averageSystemStats [some s]) = some 0 := by decide +kernel
  have hpower := h.powerPkg "i0"
  rw [hs, haverage, Near, Option.rel_some_some] at hpower
  revert hpower
  decide +kernel

end SystemAverages

end Beszel
