import Mathlib.Data.List.Basic
import Mathlib.Data.List.Nodup
import Mathlib.Data.Option.Basic

/-!
# Machinery/Table — rows with a key

A table is a list of rows, each with a key.  `lookup` finds the first row of a key, `replace` saves
over the rows of a key that are there, `store` sets the one row of a key whether or not it is there,
`put` does so in the place of the old row, `remove` deletes the rows of a key.  The lemmas say what
a later `lookup` sees.
-/

namespace Machinery

namespace Table

variable {α κ : Type*} [DecidableEq κ] (key : α → κ)

/-- The first row with the key. -/
def lookup (t : List α) (k : κ) : Option α := t.find? (key · = k)

/-- The row `a` in the place of every row of its key. -/
def replace (t : List α) (a : α) : List α := t.map fun b => if key b = key a then a else b

/-- No row has the key. -/
def remove (t : List α) (k : κ) : List α := t.filter (key · ≠ k)

/-- The row `a` is the one row of its key. -/
def store (t : List α) (a : α) : List α := a :: remove key t (key a)

/-- The row `a` in the place of the row of its key, or behind all rows where there is none. -/
def put (t : List α) (a : α) : List α :=
  if (lookup key t (key a)).isSome then replace key t a else t ++ [a]

variable {key} {t : List α} {a : α} {k : κ}

theorem key_of_lookup (h : lookup key t k = some a) : key a = k := by
  simpa using List.find?_some h

theorem mem_of_lookup (h : lookup key t k = some a) : a ∈ t := List.mem_of_find?_eq_some h

/-- **A row is found under its key** in a table whose keys are unique. -/
theorem lookup_of_mem (hkeys : (t.map key).Nodup) (ha : a ∈ t) :
    lookup key t (key a) = some a := by
  obtain ⟨b, hb⟩ : ∃ b, lookup key t (key a) = some b := by
    rw [← Option.isSome_iff_exists, lookup, List.find?_isSome]
    exact ⟨a, ha, decide_eq_true rfl⟩
  rw [hb, List.inj_on_of_nodup_map hkeys (mem_of_lookup hb) ha (key_of_lookup hb)]

/-- **The rows of a key** are the one that is found, where keys are unique. -/
theorem filter_key (hkeys : (t.map key).Nodup) :
    t.filter (key · = k) = (lookup key t k).toList := by
  induction t with
  | nil => rfl
  | cons b t ih =>
    rw [List.map_cons, List.nodup_cons] at hkeys
    unfold lookup
    by_cases hb : key b = k
    · rw [List.filter_cons_of_pos (by simpa using hb), List.find?_cons_of_pos (by simpa using hb)]
      refine congrArg (b :: ·) (List.filter_eq_nil_iff.mpr fun c hc hck => hkeys.1 ?_)
      rw [hb, ← of_decide_eq_true hck]
      exact List.mem_map_of_mem hc
    · rw [List.filter_cons_of_neg (by simpa using hb), List.find?_cons_of_neg (by simpa using hb)]
      exact ih hkeys.2

/-- **The order of the rows does not matter** where keys are unique. -/
theorem lookup_perm {t' : List α} (hkeys : (t.map key).Nodup) (h : t.Perm t') :
    lookup key t k = lookup key t' k := by
  have hperm := h.filter (key · = k)
  rw [filter_key hkeys, filter_key ((h.map key).nodup_iff.mp hkeys)] at hperm
  cases hlookup : lookup key t k with
  | none =>
    rw [hlookup] at hperm
    exact (Option.toList_eq_nil_iff.mp (List.nil_perm.mp hperm)).symm
  | some a =>
    rw [hlookup] at hperm
    exact (Option.toList_eq_singleton_iff.mp (List.singleton_perm.mp hperm).symm).symm

theorem key_ne_of_lookup_eq_none (h : lookup key t k = none) : ∀ a ∈ t, key a ≠ k := by
  simpa [lookup] using h

/-- **Saving over a row** changes what is found under its key, if anything was. -/
theorem lookup_replace :
    lookup key (replace key t a) k
      = if key a = k then (lookup key t k).map fun _ => a else lookup key t k := by
  unfold lookup replace
  induction t with
  | nil => simp
  | cons b t ih =>
    rw [List.map_cons]
    by_cases hk : key b = k
    · -- the row found before is saved over exactly if it has the key of `a`
      rw [List.find?_cons_of_pos (l := t) (by simpa using hk)]
      by_cases hb : key b = key a
      · have hak : key a = k := hb.symm.trans hk
        rw [if_pos hb, if_pos hak, List.find?_cons_of_pos (by simpa using hak)]
        rfl
      · have hak : key a ≠ k := fun h => hb (hk.trans h.symm)
        rw [if_neg hb, if_neg hak, List.find?_cons_of_pos (by simpa using hk)]
    · rw [List.find?_cons_of_neg (l := t) (by simpa using hk), ← ih, List.find?_cons_of_neg]
      split_ifs with hb
      · simpa using fun h => hk (hb.trans h)
      · simpa using hk

/-- A row of another table behind this one is found only where this one has nothing. -/
theorem lookup_append_of_some {t' : List α} (h : lookup key t k = some a) :
    lookup key (t ++ t') k = some a := by
  unfold lookup at *
  rw [List.find?_append, h]
  rfl

theorem mem_remove {b : α} : b ∈ remove key t k ↔ b ∈ t ∧ key b ≠ k := by simp [remove]

theorem mem_store {b : α} : b ∈ store key t a ↔ b = a ∨ (b ∈ t ∧ key b ≠ key a) := by
  simp [store, mem_remove]

/-- Removing the rows of a key, nothing is found under it and the same as before under others. -/
theorem lookup_remove {k' : κ} :
    lookup key (remove key t k) k' = if k' = k then none else lookup key t k' := by
  unfold lookup remove
  rw [List.find?_filter]
  split_ifs with h
  · rw [List.find?_eq_none]
    intro a _
    simp only [decide_eq_true_eq, not_and]
    exact fun hne heq => hne (heq.trans h)
  · congr 1
    funext a
    by_cases ha : key a = k'
    · simp [ha, h]
    · simp [ha]

/-- A search that ends at a row of another key still ends there after a removal. -/
theorem find?_remove {p : α → Bool} (h : t.find? p = some a) (hk : key a ≠ k) :
    (remove key t k).find? p = some a := by
  obtain ⟨ha, l₁, l₂, rfl, hl⟩ := List.find?_eq_some_iff_append.mp h
  refine List.find?_eq_some_iff_append.mpr ⟨ha, remove key l₁ k, remove key l₂ k, ?_, ?_⟩
  · simp [remove, hk]
  · exact fun x hx => hl x (mem_remove.mp hx).1

/-- …and after a save of a row that the search does not look for. -/
theorem find?_replace {p : α → Bool} {b : α} (h : t.find? p = some a) (hk : key a ≠ key b)
    (hb : p b = false) : (replace key t b).find? p = some a := by
  obtain ⟨ha, l₁, l₂, rfl, hl⟩ := List.find?_eq_some_iff_append.mp h
  refine List.find?_eq_some_iff_append.mpr ⟨ha, replace key l₁ b, replace key l₂ b, ?_, ?_⟩
  · simp [replace, hk]
  · intro x hx
    obtain ⟨y, hy, rfl⟩ := List.mem_map.mp hx
    split_ifs
    · rw [hb]
      rfl
    · exact hl y hy

theorem mem_replace {b : α} (h : b ∈ replace key t a) : b = a ∨ (b ∈ t ∧ key b ≠ key a) := by
  obtain ⟨c, hc, rfl⟩ := List.mem_map.mp h
  split_ifs with hk
  · exact .inl rfl
  · exact .inr ⟨hc, hk⟩

/-- The rows of other keys stay. -/
theorem mem_replace_of_ne {b : α} (hb : b ∈ t) (h : key b ≠ key a) : b ∈ replace key t a :=
  List.mem_map.mpr ⟨b, hb, if_neg h⟩

/-- The row is in the place of one of its key. -/
theorem mem_replace_self {b : α} (hb : b ∈ t) (h : key b = key a) : a ∈ replace key t a :=
  List.mem_map.mpr ⟨b, hb, if_pos h⟩

/-- What is sorted out by a condition on other keys stays. -/
theorem filter_replace {p : α → Bool} (hp : ∀ b, key b = key a → p b = false) :
    (replace key t a).filter p = t.filter p := by
  induction t with
  | nil => rfl
  | cons b t ih =>
    rw [replace, List.map_cons] at *
    by_cases hb : key b = key a
    · rw [if_pos hb, List.filter_cons_of_neg (by simp [hp a rfl]),
        List.filter_cons_of_neg (by simp [hp b hb])]
      exact ih
    · rw [if_neg hb, List.filter_cons, List.filter_cons, ih]

/-- The row stored last is found under its key. -/
theorem lookup_store :
    lookup key (store key t a) k = if key a = k then some a else lookup key t k := by
  split_ifs with h
  · exact List.find?_cons_of_pos (by simpa using h)
  · have hremove : lookup key (remove key t (key a)) k = lookup key t k := by
      rw [lookup_remove, if_neg (Ne.symm h)]
    rw [← hremove]
    exact List.find?_cons_of_neg (by simpa using h)

/-- Where each row is found under its key from then on, the last row of a key is found under it. -/
theorem lookup_foldl {f : List α → α → List α}
    (hf : ∀ t a, lookup key (f t a) k = if key a = k then some a else lookup key t k)
    (l : List α) : lookup key (l.foldl f t) k = (lookup key l.reverse k).or (lookup key t k) := by
  induction l generalizing t with
  | nil => rfl
  | cons a l ih =>
    rw [List.foldl_cons, ih, hf, List.reverse_cons]
    unfold lookup
    rw [List.find?_append, Option.or_assoc]
    congr 1
    split_ifs with h
    · rw [List.find?_cons_of_pos (by simpa using h)]
      rfl
    · rw [List.find?_cons_of_neg (by simpa using h)]
      rfl

/-- **Storing one row after the other**, the last row of a key is found under it. -/
theorem lookup_foldl_store (l : List α) :
    lookup key (l.foldl (store key) t) k = (lookup key l.reverse k).or (lookup key t k) :=
  lookup_foldl (fun _ _ => lookup_store) l

theorem nodup_remove (h : (t.map key).Nodup) : ((remove key t k).map key).Nodup :=
  h.sublist (List.filter_sublist.map _)

/-- Stored rows have unique keys. -/
theorem nodup_store (h : (t.map key).Nodup) : ((store key t a).map key).Nodup := by
  rw [store, List.map_cons, List.nodup_cons]
  refine ⟨fun ha => ?_, nodup_remove h⟩
  obtain ⟨b, hb, hkey⟩ := List.mem_map.mp ha
  exact (mem_remove.mp hb).2 hkey

theorem nodup_foldl_store (h : (t.map key).Nodup) (l : List α) :
    ((l.foldl (store key) t).map key).Nodup := by
  induction l generalizing t with
  | nil => exact h
  | cons a l ih => exact ih (nodup_store h)

/-- Saving over rows leaves the keys. -/
theorem map_key_replace : (replace key t a).map key = t.map key := by
  rw [replace, List.map_map]
  refine List.map_congr_left fun b _ => ?_
  rw [Function.comp_apply]
  split_ifs with h
  · exact h.symm
  · rfl

/-- Saving a row over itself changes nothing. -/
theorem replace_of_mem (hkeys : (t.map key).Nodup) (ha : a ∈ t) : replace key t a = t := by
  unfold replace
  conv_rhs => rw [← List.map_id t]
  refine List.map_congr_left fun b hb => ?_
  split_ifs with h
  · exact (List.inj_on_of_nodup_map hkeys hb ha h).symm
  · rfl

/-! ## Rows in the order of their first store -/

/-- The row put last is found under its key. -/
theorem lookup_put : lookup key (put key t a) k = if key a = k then some a else lookup key t k := by
  unfold put
  split_ifs with hsome hk hk
  · obtain ⟨b, hb⟩ := Option.isSome_iff_exists.mp hsome
    rw [lookup_replace, if_pos hk, ← hk, hb]
    rfl
  · rw [lookup_replace, if_neg hk]
  · rw [Option.not_isSome_iff_eq_none] at hsome
    subst hk
    unfold lookup at *
    rw [List.find?_append, hsome, List.find?_cons_of_pos (by simp)]
    rfl
  · unfold lookup
    rw [List.find?_append, List.find?_cons_of_neg (by simpa using hk), List.find?_nil,
      Option.or_none]

/-- **Putting one row after the other**, the last row of a key is found under it. -/
theorem lookup_foldl_put (l : List α) :
    lookup key (l.foldl (put key) t) k = (lookup key l.reverse k).or (lookup key t k) :=
  lookup_foldl (fun _ _ => lookup_put) l

theorem nodup_put (h : (t.map key).Nodup) : ((put key t a).map key).Nodup := by
  unfold put
  split_ifs with hsome
  · rwa [map_key_replace]
  · rw [List.map_append, List.nodup_append]
    refine ⟨h, List.nodup_singleton _, fun k hk k' hk' => ?_⟩
    obtain rfl := List.mem_singleton.mp hk'
    obtain ⟨b, hb, rfl⟩ := List.mem_map.mp hk
    exact key_ne_of_lookup_eq_none (Option.not_isSome_iff_eq_none.mp hsome) b hb

theorem nodup_foldl_put (h : (t.map key).Nodup) (l : List α) :
    ((l.foldl (put key) t).map key).Nodup := by
  induction l generalizing t with
  | nil => exact h
  | cons a l ih => exact ih (nodup_put h)

/-- What is put came from the table or is the row. -/
theorem mem_put {b : α} (h : b ∈ put key t a) : b = a ∨ b ∈ t := by
  unfold put at h
  split_ifs at h
  · exact (mem_replace h).imp_right And.left
  · exact (List.mem_append.mp h).symm.imp_left List.mem_singleton.mp

/-- Keys that agree on the rows find the same one. -/
theorem lookup_congr {κ' : Type*} [DecidableEq κ'] {key' : α → κ'} {k' : κ'}
    (h : ∀ a ∈ t, key a = k ↔ key' a = k') : lookup key t k = lookup key' t k' := by
  induction t with
  | nil => rfl
  | cons b t ih =>
    have hrest := ih fun a ha => h a (List.mem_cons_of_mem _ ha)
    unfold lookup at *
    rw [List.find?_cons, List.find?_cons, hrest, decide_eq_decide.mpr (h b List.mem_cons_self)]

theorem mem_foldl_put {b : α} {l : List α} (h : b ∈ l.foldl (put key) t) : b ∈ l ∨ b ∈ t := by
  induction l generalizing t with
  | nil => exact .inr h
  | cons a l ih =>
    rcases ih h with hb | hb
    · exact .inl (List.mem_cons_of_mem _ hb)
    · rcases mem_put hb with rfl | hb
      · exact .inl List.mem_cons_self
      · exact .inr hb

/-! ## One row -/

section UpdateFirst

variable {p : α → Prop} [DecidablePred p]

/-- The first row that meets a condition is changed. -/
def updateFirst (p : α → Prop) [DecidablePred p] (f : α → α) (t : List α) : List α :=
  t.replaceF fun a => if p a then some (f a) else none

theorem updateFirst_singleton (f : α → α) {a : α} (h : p a) : updateFirst p f [a] = [f a] := by
  have hfound : (if p a then some (f a) else none) = some (f a) := if_pos h
  exact List.replaceF_cons_of_some _ hfound

/-- **The row that is changed**, with those before and after it. -/
theorem exists_updateFirst (f : α → α) (h : ∃ a ∈ t, p a) :
    ∃ l a l', t = l ++ a :: l' ∧ p a ∧ (∀ b ∈ l, ¬ p b) ∧
      updateFirst p f t = l ++ f a :: l' := by
  obtain ⟨a, ha, hp⟩ := h
  obtain ⟨b, b', l, l', hbefore, hb, hsplit, hupdate⟩ := List.exists_of_replaceF
    (p := fun a => if p a then some (f a) else none) ha (if_pos hp)
  by_cases hpb : p b
  · rw [if_pos hpb] at hb
    cases hb
    refine ⟨l, b, l', hsplit, hpb, fun c hc hpc => ?_, hupdate⟩
    have hnone := hbefore c hc
    rw [if_pos hpc] at hnone
    cases hnone
  · rw [if_neg hpb] at hb
    cases hb

end UpdateFirst

end Table

end Machinery
