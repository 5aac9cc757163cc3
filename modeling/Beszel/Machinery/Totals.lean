import Mathlib.Data.List.AList
import Mathlib.Algebra.BigOperators.Group.List.Basic
import Mathlib.Algebra.Order.Field.Rat
import Mathlib.Order.Bounds.Basic

/-!
# Machinery/Totals — running totals kept in a map, and the highest of a list

A map of totals grows by the entries of other maps: a key that is new starts at zero.  Read at a
key, with zero for a key that is not there, the total is the sum of what was added under it
(`valueAt_addEntries`), whatever the order of the entries.  `highest` is the running maximum from
zero, the greatest of the values and zero (`isGreatest_highest`); over a map of totals it is the
greatest of what the keys have (`isGreatest_valueAt`).
-/

namespace Machinery

/-! ## Totals -/

section Totals

variable {κ M : Type*} [DecidableEq κ] [AddCommMonoid M]

/-- The value under a key, zero where there is none. -/
def valueAt (m : AList fun _ : κ => M) (k : κ) : M := (m.lookup k).getD 0

/-- **Adding entries to a map of totals.** -/
def addEntries (m : AList fun _ : κ => M) : List (Σ _ : κ, M) → AList fun _ : κ => M
  | [] => m
  | e :: es => addEntries (m.insert e.1 (valueAt m e.1 + e.2)) es

theorem valueAt_insert (m : AList fun _ : κ => M) (k k' : κ) (v : M) :
    valueAt (m.insert k v) k' = if k' = k then v else valueAt m k' := by
  unfold valueAt
  split_ifs with h
  · rw [h, AList.lookup_insert, Option.getD_some]
  · rw [AList.lookup_insert_ne h]

/-- **The total under a key grows by the sum of the entries under it.** -/
theorem valueAt_addEntries (m : AList fun _ : κ => M) (es : List (Σ _ : κ, M)) (k : κ) :
    valueAt (addEntries m es) k =
      valueAt m k + ((es.filter fun e => e.1 = k).map fun e => e.2).sum := by
  induction es generalizing m with
  | nil => simp [addEntries]
  | cons e es ih =>
    rw [addEntries, ih, valueAt_insert]
    by_cases h : k = e.1
    · simp [h, add_assoc]
    · simp [h, Ne.symm h]

/-- The keys are those of the map and of the entries. -/
theorem mem_addEntries {m : AList fun _ : κ => M} {es : List (Σ _ : κ, M)} {k : κ} :
    k ∈ addEntries m es ↔ k ∈ m ∨ ∃ e ∈ es, e.1 = k := by
  induction es generalizing m with
  | nil => simp [addEntries]
  | cons e es ih =>
    rw [addEntries, ih, AList.mem_insert, List.exists_mem_cons_iff, or_comm (a := k = e.1),
      or_assoc, eq_comm (a := k)]

/-- Entries with distinct keys hold one value for each. -/
theorem sum_filter_key {es : List (Σ _ : κ, M)} (hes : es.NodupKeys) (k : κ) :
    ((es.filter fun e => e.1 = k).map fun e => e.2).sum = (es.dlookup k).getD 0 := by
  induction es with
  | nil => rfl
  | cons e es ih =>
    obtain ⟨k', v⟩ := e
    obtain ⟨hk, hes⟩ := List.nodupKeys_cons.mp hes
    by_cases h : k' = k
    · subst h
      have hnone : es.filter (fun e => e.1 = k') = [] := by
        rw [List.filter_eq_nil_iff]
        intro e he heq
        exact hk (of_decide_eq_true heq ▸ List.mem_map.mpr ⟨e, he, rfl⟩)
      simp [hnone]
    · rw [List.filter_cons_of_neg (by simpa using h), ih hes, List.dlookup_cons_ne _ _ (Ne.symm h)]

end Totals

/-! ## The highest value -/

section Highest

variable {α : Type*} [LinearOrder α]

/-- **The running maximum from zero**, with the strict comparison a loop makes. -/
def highest [Zero α] (l : List α) : α := l.foldl (fun m v => if v > m then v else m) 0

theorem foldl_max (l : List α) (m : α) :
    l.foldl (fun m v => if v > m then v else m) m = l.foldl max m := by
  congr 1
  funext m v
  rw [max_def]
  split_ifs with h h' h'
  · rfl
  · exact absurd h.le h'
  · exact le_antisymm h' (not_lt.mp h)
  · rfl

/-- The highest value is the greatest of the values and the start. -/
theorem isGreatest_foldl_max (l : List α) (m : α) :
    IsGreatest (insert m {v | v ∈ l}) (l.foldl max m) := by
  induction l generalizing m with
  | nil => exact ⟨Or.inl rfl, by rintro v (rfl | h); exacts [le_rfl, nomatch h]⟩
  | cons v l ih =>
    obtain ⟨hmem, hub⟩ := ih (max m v)
    refine ⟨?_, ?_⟩
    · rcases hmem with h | h
      · rcases max_choice m v with h' | h'
        · exact Or.inl (h.trans h')
        · exact Or.inr (List.mem_cons.mpr (Or.inl (h.trans h')))
      · exact Or.inr (List.mem_cons_of_mem v h)
    · rintro w (rfl | h)
      · exact (le_max_left w v).trans (hub (Or.inl rfl))
      · rcases List.mem_cons.mp h with rfl | h
        · exact (le_max_right m w).trans (hub (Or.inl rfl))
        · exact hub (Or.inr h)

/-- **The running maximum is the greatest of the values and zero.** -/
theorem isGreatest_highest [Zero α] (l : List α) :
    IsGreatest (insert 0 {v | v ∈ l}) (highest l) := by
  unfold highest
  rw [foldl_max]
  exact isGreatest_foldl_max l 0

/-- A monotone map that keeps zero keeps the highest value. -/
theorem highest_map [Zero α] {f : α → α} (hf : Monotone f) (h0 : f 0 = 0) (l : List α) :
    highest (l.map f) = f (highest l) := by
  refine (isGreatest_highest (l.map f)).unique ?_
  have himage : insert 0 {v | v ∈ l.map f} = Set.image f (insert 0 {v | v ∈ l}) := by
    rw [Set.image_insert_eq, h0]
    congr 1
    ext v
    exact List.mem_map
  rw [himage]
  exact hf.map_isGreatest (isGreatest_highest l)

/-- **The greatest value from a start is the greatest of the values** if one of them reaches the
start. -/
theorem isGreatest_insert_iff {s : Set α} {a v : α} (h : a ≤ v) :
    IsGreatest s v ↔ IsGreatest (insert a s) v ∧ ∃ x ∈ s, a ≤ x := by
  constructor
  · rintro ⟨hmem, hub⟩
    refine ⟨⟨Or.inr hmem, ?_⟩, v, hmem, h⟩
    rintro x (rfl | hx)
    · exact h
    · exact hub hx
  · rintro ⟨⟨hmem, hub⟩, x, hx, hax⟩
    refine ⟨?_, fun y hy => hub (Or.inr hy)⟩
    rcases hmem with rfl | hmem
    · rwa [le_antisymm hax (hub (Or.inr hx))]
    · exact hmem

/-- **The highest entry of a map** is the greatest of its values, read with zero for a key that is
not there. -/
theorem isGreatest_valueAt {κ : Type*} [DecidableEq κ] [AddCommMonoid α]
    (m : AList fun _ : κ => α) :
    IsGreatest (insert 0 (Set.range (valueAt m))) (highest (m.entries.map fun e => e.2)) := by
  obtain ⟨hmem, hub⟩ := isGreatest_highest (m.entries.map fun e => e.2)
  refine ⟨?_, ?_⟩
  · rcases hmem with h | h
    · exact Or.inl h
    · obtain ⟨e, he, hev⟩ := List.mem_map.mp h
      refine Or.inr ⟨e.1, ?_⟩
      rw [valueAt, AList.mem_lookup_iff.mpr he, Option.getD_some, hev]
  · rintro v (rfl | ⟨k, rfl⟩)
    · exact hub (Or.inl rfl)
    · unfold valueAt
      cases hk : m.lookup k with
      | none => exact hub (Or.inl rfl)
      | some v => exact hub (Or.inr (List.mem_map.mpr ⟨⟨k, v⟩, AList.mem_lookup_iff.mp hk, rfl⟩))

end Highest

/-! ## A divisor that is too small -/

section Divisor

variable {ι : Type*} {f : ι → ℚ} {m n t v : ℚ}

/-- Two divisors give the same quotient of zero only. -/
theorem div_eq_div_iff_eq_zero (hm : 0 ≤ m) (hmn : m < n) : t / m = t / n ↔ t = 0 := by
  refine ⟨fun h => ?_, fun h => by rw [h, zero_div, zero_div]⟩
  have hn : n ≠ 0 := (hm.trans_lt hmn).ne'
  rcases hm.eq_or_lt with rfl | hm
  · rw [div_zero] at h
    exact (div_eq_zero_iff.mp h.symm).resolve_right hn
  · rw [div_eq_div_iff hm.ne' hn] at h
    exact (mul_eq_mul_left_iff.mp h).resolve_left hmn.ne'

/-- Two divisors give the same highest quotient only where no value is positive. -/
theorem isGreatest_div_iff (hm : 0 ≤ m) (hmn : m < n)
    (h : IsGreatest (insert 0 (Set.range fun i => f i / m)) v) :
    IsGreatest (insert 0 (Set.range fun i => f i / n)) v ↔ ∀ i, f i ≤ 0 := by
  have hn : 0 < n := hm.trans_lt hmn
  constructor
  · intro h' i
    by_contra hi
    rw [not_le] at hi
    -- the highest quotient is positive, so one of the values gives it with the larger divisor
    have hv : 0 < v := (div_pos hi hn).trans_le (h'.2 (Or.inr ⟨i, rfl⟩))
    obtain ⟨j, hj⟩ : ∃ j, f j / n = v := h'.1.resolve_left hv.ne'
    have hfj : 0 < f j := by
      have := mul_pos hv hn
      rwa [← hj, div_mul_cancel₀ _ hn.ne'] at this
    rcases hm.eq_or_lt with rfl | hm
    · rcases h.1 with h0 | ⟨l, hl⟩
      · exact hv.ne' h0
      · exact hv.ne' (hl.symm.trans (div_zero _))
    · have hlt : f j / n < f j / m := div_lt_div_of_pos_left hfj hm hmn
      exact absurd (h.2 (Or.inr ⟨j, rfl⟩)) (not_le.mpr (hj ▸ hlt))
  · intro hf
    have hv : v = 0 := by
      refine le_antisymm ?_ (h.2 (Or.inl rfl))
      rcases h.1 with h0 | ⟨j, hj⟩
      · exact h0.le
      · exact hj ▸ div_nonpos_of_nonpos_of_nonneg (hf j) hm
    refine ⟨Or.inl hv, ?_⟩
    rintro w (rfl | ⟨j, rfl⟩)
    · exact hv.ge
    · exact (div_nonpos_of_nonpos_of_nonneg (hf j) hn.le).trans hv.ge

end Divisor

end Machinery
