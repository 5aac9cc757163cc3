import Mathlib.Algebra.BigOperators.Group.List.Lemmas
import Mathlib.Algebra.Order.BigOperators.Group.List
import Mathlib.Algebra.Order.Field.Rat
import Mathlib.Data.List.AList
import Mathlib.Data.Rat.Floor
import Mathlib.Data.UInt
import Mathlib.Tactic.FieldSimp
import Mathlib.Tactic.Linarith
import Mathlib.Tactic.Positivity

/-!
# Machinery/Columns — a loop over records, read one column at a time

    records ──fold──▸ totals            column k = what the records have at k
       ╰──column k──▸ values ──fold──▸ total at k

A loop that adds records up field by field, map by map and slice by slice is, read at any one
place, a loop over the values that the records have there: `foldl_eq_add_sum` for a field,
`lookup_foldl_accumulate` for the entry of a map and `getElem?_foldl_addSlice` for that of a slice.
What is read of a column then does not depend on the other columns, nor on the order of the records
where the total of a list does not.
-/

namespace Machinery

/-! ## Fields -/

/-- **A field that every record adds to.** -/
theorem foldl_eq_add_sum {α σ M : Type*} [AddMonoid M] (step : σ → α → σ) (field : σ → M)
    (value : α → M) (h : ∀ s a, field (step s a) = field s + value a) (s : σ) (l : List α) :
    field (l.foldl step s) = field s + (l.map value).sum := by
  induction l generalizing s with
  | nil => simp
  | cons a l ih => rw [List.foldl_cons, ih, h, List.map_cons, List.sum_cons, add_assoc]

/-- A part of the state that changes on its own. -/
theorem foldl_eq_foldl_map {α β σ τ : Type*} (step : σ → α → σ) (field : σ → τ)
    (value : α → β) (add : τ → β → τ) (h : ∀ s a, field (step s a) = add (field s) (value a))
    (s : σ) (l : List α) : field (l.foldl step s) = (l.map value).foldl add (field s) := by
  induction l generalizing s with
  | nil => rfl
  | cons a l ih => rw [List.foldl_cons, ih, h, List.map_cons, List.foldl_cons]

/-- A part of the state that no record changes. -/
theorem foldl_unchanged {α σ τ : Type*} (step : σ → α → σ) (field : σ → τ)
    (h : ∀ s a, field (step s a) = field s) (s : σ) (l : List α) :
    field (l.foldl step s) = field s := by
  induction l generalizing s with
  | nil => rfl
  | cons a l ih => rw [List.foldl_cons, ih, h]

/-- A part of the state that every record overwrites has what the last one wrote. -/
theorem foldl_overwritten {α σ τ : Type*} (step : σ → α → σ) (field : σ → τ) (value : α → τ)
    (h : ∀ s a, field (step s a) = value a) (s : σ) (l : List α) :
    field (l.foldl step s) = (l.getLast?.map value).getD (field s) := by
  induction l using List.reverseRecOn with
  | nil => rfl
  | append_singleton l a => rw [List.foldl_concat, h, List.getLast?_concat]; rfl

/-- A step that repeating does not change is made once. -/
theorem foldl_replicate {α σ : Type*} {step : σ → α → σ} {s : σ} {a : α}
    (h : step (step s a) a = step s a) {n : ℕ} (hn : n ≠ 0) :
    (List.replicate n a).foldl step s = step s a := by
  induction n with
  | zero => exact absurd rfl hn
  | succ n ih =>
    rw [List.replicate_succ', List.foldl_concat]
    rcases eq_or_ne n 0 with rfl | hn
    · rfl
    · rw [ih hn, h]

/-! ## Totals that start with the first value -/

section Started

variable {α β : Type*} (start : α → β) (add : β → α → β)

/-- A value is added to a total, or starts one. -/
def addOne (total : Option β) (a : α) : Option β := some (add (total.getD (start a)) a)

/-- **The total of a column**, if there is anything in it. -/
def total (column : List α) : Option β :=
  column.head?.map fun a => column.foldl add (start a)

theorem foldl_addOne (b : β) (column : List α) :
    column.foldl (addOne start add) (some b) = some (column.foldl add b) := by
  induction column generalizing b with
  | nil => rfl
  | cons a column ih => exact ih (add b a)

theorem foldl_addOne_none (column : List α) :
    column.foldl (addOne start add) none = total start add column := by
  cases column with
  | nil => rfl
  | cons a column => exact foldl_addOne start add (add (start a) a) column

/-- **What is read of a total** is a total of what is read. -/
theorem map_total {γ δ : Type*} (read : β → γ) (value : α → δ) (raise : γ → δ → γ) (c : γ)
    (hstart : ∀ a, read (start a) = c) (hadd : ∀ b a, read (add b a) = raise (read b) (value a))
    (column : List α) :
    (total start add column).map read =
      if column = [] then none else some ((column.map value).foldl raise c) := by
  cases column with
  | nil => rfl
  | cons a column =>
    rw [if_neg (List.cons_ne_nil _ _), total, List.head?_cons, Option.map_some, Option.map_some,
      foldl_eq_foldl_map add read value raise hadd, hstart]

/-- What is read of a total, where it is a sum. -/
theorem map_total_add {M : Type*} [AddMonoid M] (read : β → M) (value : α → M)
    (hstart : ∀ a, read (start a) = 0) (hadd : ∀ b a, read (add b a) = read b + value a)
    (column : List α) :
    (total start add column).map read =
      if column = [] then none else some (column.map value).sum := by
  rw [map_total start add read value (· + ·) 0 hstart hadd, List.sum_eq_foldl]

/-- A total of the values themselves. -/
theorem total_zero_add {M : Type*} [AddMonoid M] (column : List M) :
    total (fun _ => 0) (· + ·) column = if column = [] then none else some column.sum := by
  have h := map_total_add (fun _ : M => (0 : M)) (· + ·) id id (fun _ => rfl) (fun _ _ => rfl)
    column
  rwa [Option.map_id, List.map_id] at h

end Started

/-! ## Maps -/

section Maps

variable {κ α β : Type*} [DecidableEq κ] (start : α → β) (add : β → α → β)

/-- **Adding the entries of a map to a map of totals.** -/
def accumulate (m : AList fun _ : κ => β) : List (Σ _ : κ, α) → AList fun _ : κ => β
  | [] => m
  | e :: es => accumulate (m.insert e.1 (add ((m.lookup e.1).getD (start e.2)) e.2)) es

theorem lookup_accumulate {es : List (Σ _ : κ, α)} (hes : es.NodupKeys)
    (m : AList fun _ : κ => β) (k : κ) :
    (accumulate start add m es).lookup k =
      (es.dlookup k).toList.foldl (addOne start add) (m.lookup k) := by
  induction es generalizing m with
  | nil => rfl
  | cons e es ih =>
    obtain ⟨k', a⟩ := e
    obtain ⟨hk', hes⟩ := List.nodupKeys_cons.mp hes
    rw [accumulate, ih hes]
    by_cases h : k = k'
    · subst h
      rw [List.dlookup_cons_eq, List.dlookup_eq_none.mpr hk', AList.lookup_insert]
      rfl
    · rw [List.dlookup_cons_ne _ _ h, AList.lookup_insert_ne h]

/-- **The entry of a key is the total of its column.** -/
theorem lookup_foldl_accumulate (ms : List (AList fun _ : κ => α)) (k : κ) :
    (ms.foldl (fun m m' => accumulate start add m m'.entries) ∅).lookup k =
      total start add (ms.filterMap (·.lookup k)) := by
  have hfold : ∀ m : AList fun _ : κ => β,
      (ms.foldl (fun m m' => accumulate start add m m'.entries) m).lookup k =
        (ms.filterMap (·.lookup k)).foldl (addOne start add) (m.lookup k) := by
    induction ms with
    | nil => exact fun m => rfl
    | cons m' ms ih =>
      intro m
      rw [List.foldl_cons, ih, lookup_accumulate start add m'.nodupKeys, List.filterMap_cons]
      have hlookup : m'.entries.dlookup k = m'.lookup k := rfl
      rw [hlookup]
      cases m'.lookup k <;> rfl
  rw [hfold, AList.lookup_empty, foldl_addOne_none]

end Maps

section Keyed

variable {κ α β : Type*} [DecidableEq κ] (start : α → β) (add : β → α → β) (key : α → κ)

/-- **A loop that adds to the entry of a value's key**: the entry is the total of the values with
the key, which may be several. -/
theorem lookup_foldl_insert (l : List α) (m : AList fun _ : κ => β) (k : κ) :
    (l.foldl (fun m a => m.insert (key a) (add ((m.lookup (key a)).getD (start a)) a)) m).lookup k =
      (l.filter fun a => key a = k).foldl (addOne start add) (m.lookup k) := by
  induction l generalizing m with
  | nil => rfl
  | cons a l ih =>
    rw [List.foldl_cons, ih]
    by_cases h : key a = k
    · rw [List.filter_cons_of_pos (by simpa using h), List.foldl_cons, h, AList.lookup_insert]
      rfl
    · rw [List.filter_cons_of_neg (by simpa using h), AList.lookup_insert_ne (Ne.symm h)]

end Keyed

/-! ## Slices -/

section Slices

variable {M : Type*} [AddMonoid M]

/-- **Adding a slice to a slice of totals**, which grows where it is shorter. -/
def addSlice : List M → List M → List M
  | [], ys => ys
  | xs, [] => xs
  | x :: xs, y :: ys => (x + y) :: addSlice xs ys

theorem getElem?_addSlice (xs ys : List M) (i : ℕ) :
    (addSlice xs ys)[i]? = ys[i]?.toList.foldl (addOne (fun _ => 0) (· + ·)) xs[i]? := by
  induction xs, ys using addSlice.induct generalizing i with
  | case1 ys =>
    rw [addSlice, List.getElem?_nil]
    cases ys[i]? <;> simp [addOne]
  | case2 xs hne =>
    rw [addSlice, List.getElem?_nil]
    · rfl
    · exact hne
  | case3 x xs y ys ih =>
    rw [addSlice]
    cases i with
    | zero => rfl
    | succ i => simpa using ih i

/-- **The entry of a place is the sum of its column.** -/
theorem getElem?_foldl_addSlice (ls : List (List M)) (i : ℕ) :
    (ls.foldl addSlice [])[i]? =
      total (fun _ => 0) (· + ·) (ls.filterMap fun l => l[i]?) := by
  have hfold : ∀ l : List M, (ls.foldl addSlice l)[i]? =
      (ls.filterMap fun l => l[i]?).foldl (addOne (fun _ => 0) (· + ·)) l[i]? := by
    induction ls with
    | nil => exact fun l => rfl
    | cons l' ls ih =>
      intro l
      rw [List.foldl_cons, ih, getElem?_addSlice, List.filterMap_cons]
      cases l'[i]? <;> rfl
  rw [hfold, List.getElem?_nil, foldl_addOne_none]

end Slices

/-! ## Order -/

section Order

variable {α β σ : Type*}

/-- **A part of the state that two records change in either order**, and that depends on itself
only, does not depend on the order of the records. -/
theorem foldl_perm (step : σ → α → σ) (part : σ → σ)
    (hpart : ∀ s a, part (step s a) = part (step (part s) a))
    (hcomm : ∀ s a b, part (step (step s a) b) = part (step (step s b) a)) {l l' : List α}
    (h : l.Perm l') (s : σ) : part (l.foldl step s) = part (l'.foldl step s) := by
  have hcongr : ∀ (l : List α) (s s' : σ), part s = part s' →
      part (l.foldl step s) = part (l.foldl step s') := by
    intro l
    induction l with
    | nil => exact fun s s' hs => hs
    | cons a l ih => exact fun s s' hs => ih _ _ (by rw [hpart, hs, ← hpart])
  induction h generalizing s with
  | nil => rfl
  | cons a _ ih => exact ih (step s a)
  | swap a b l => exact hcongr l _ _ (hcomm s b a)
  | trans _ _ ih ih' => exact (ih s).trans (ih' s)

/-- A total does not depend on the order, if it starts with the same for all values. -/
theorem total_perm {start : α → β} {add : β → α → β} (hstart : ∀ a a', start a = start a')
    (hcomm : ∀ b a a', add (add b a) a' = add (add b a') a) {column column' : List α}
    (h : column.Perm column') : total start add column = total start add column' := by
  have : RightCommutative add := ⟨hcomm⟩
  cases column with
  | nil => rw [List.nil_perm.mp h]
  | cons a column =>
    obtain ⟨a', column'', rfl⟩ := List.exists_cons_of_ne_nil fun hnil =>
      List.cons_ne_nil a column (List.perm_nil.mp (hnil ▸ h))
    unfold total
    rw [List.head?_cons, List.head?_cons, Option.map_some, Option.map_some, h.foldl_eq,
      hstart a a']

theorem addSlice_right_comm {M : Type*} [AddCommMonoid M] (xs ys zs : List M) :
    addSlice (addSlice xs ys) zs = addSlice (addSlice xs zs) ys := by
  refine List.ext_getElem? fun i => ?_
  simp only [getElem?_addSlice]
  cases ys[i]? with
  | none => rfl
  | some y =>
    cases zs[i]? with
    | none => rfl
    | some z => exact congrArg some (add_right_comm _ y z)

end Order

/-! ## Machine integers -/

section Counters

/-- The sum of counters is kept modulo `2 ^ 64`. -/
theorem toNat_sum (us : List UInt64) : us.sum.toNat = (us.map UInt64.toNat).sum % 2 ^ 64 := by
  induction us with
  | nil => rfl
  | cons u us ih =>
    rw [List.sum_cons, List.map_cons, List.sum_cons, UInt64.toNat_add, ih, Nat.add_mod_mod]

/-- The sum of what is read as a natural number. -/
theorem sum_map_natCast {α : Type*} (read : α → ℕ) (l : List α) :
    (l.map fun a => (read a : ℚ)).sum = ((l.map read).sum : ℕ) := by
  induction l with
  | nil => rfl
  | cons a l ih => simp [ih]

/-- Division of natural numbers is rounded down. -/
theorem natCast_div (a b : ℕ) : ((a / b : ℕ) : ℚ) = ⌊(a : ℚ) / b⌋ := by
  rw [Rat.floor_natCast_div_natCast]
  norm_cast

/-- **Rates that are rounded down one by one** lose less than one each against that of the total,
and one of them nothing. -/
theorem sum_div (l : List ℕ) (m : ℕ) :
    (l.map (· / m)).sum ≤ l.sum / m ∧ l.sum / m ≤ (l.map (· / m)).sum + (l.length - 1) := by
  rcases Nat.eq_zero_or_pos m with rfl | hm
  · simp
  · induction l with
    | nil => simp
    | cons a l ih =>
      have hadd := Nat.add_div (a := a) (b := l.sum) hm
      simp only [List.map_cons, List.sum_cons, List.length_cons, Nat.add_sub_cancel]
      cases l with
      | nil => simp
      | cons b l =>
        simp only [List.length_cons, Nat.add_sub_cancel] at ih ⊢
        split_ifs at hadd <;> omega

end Counters

/-! ## Means -/

section Means

variable {l : List ℚ}

/-- A mean is not below all its values. -/
theorem exists_le_mean (hl : l ≠ []) : ∃ x ∈ l, x ≤ l.sum / l.length := by
  by_contra h
  push Not at h
  have hlen : (0 : ℚ) < l.length := by exact_mod_cast List.length_pos_iff.mpr hl
  have hlt : (l.map fun _ => l.sum / l.length).sum < (l.map id).sum :=
    List.sum_lt_sum_of_ne_nil hl _ _ h
  rw [List.map_const', List.sum_replicate, List.map_id, nsmul_eq_mul, mul_div_cancel₀ _ hlen.ne']
    at hlt
  exact lt_irrefl _ hlt

/-- A mean is not above all its values. -/
theorem exists_mean_le (hl : l ≠ []) : ∃ x ∈ l, l.sum / l.length ≤ x := by
  have hneg : (l.map Neg.neg).sum = -l.sum := (map_list_sum negAddMonoidHom l).symm
  obtain ⟨x, hx, hle⟩ := exists_le_mean (l := l.map Neg.neg) (by simpa using hl)
  obtain ⟨y, hy, rfl⟩ := List.mem_map.mp hx
  rw [hneg, List.length_map, neg_div, neg_le_neg_iff] at hle
  exact ⟨y, hy, hle⟩

end Means

end Machinery
