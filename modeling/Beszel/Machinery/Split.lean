import Mathlib.Tactic.SplitIfs

/-!
# Machinery/Split — what stands between separators

    a ␣ ␣ b ␣ c ──splitOnP──▸ [a] [] [b] [c] ──non-empty──▸ fields

A list is split at every separator; its fields are the parts with something in them.
-/

namespace Machinery

variable {α : Type*} {p : α → Bool} {l part : List α}

/-- A part is a part of the first piece, or one of the rest. -/
theorem mem_splitOnP_cons {c : α} (h : part ∈ (c :: l).splitOnP p) :
    part = [] ∨ part ∈ l.splitOnP p ∨
      p c = false ∧ ∃ first ∈ l.splitOnP p, part = c :: first := by
  rw [List.splitOnP_cons_eq_if_modifyHead] at h
  split_ifs at h with hc
  · exact (List.mem_cons.mp h).imp_right .inl
  · obtain ⟨first, rest, hsplit⟩ := List.exists_cons_of_ne_nil (List.splitOnP_ne_nil p l)
    rw [hsplit, List.modifyHead_cons] at h
    rw [hsplit]
    rcases List.mem_cons.mp h with h | h
    · exact .inr (.inr ⟨Bool.eq_false_iff.mpr hc, first, List.mem_cons_self, h⟩)
    · exact .inr (.inl (List.mem_cons_of_mem _ h))

/-- There is no separator in a part. -/
theorem not_of_mem_splitOnP (h : part ∈ l.splitOnP p) : ∀ c ∈ part, p c = false := by
  induction l generalizing part with
  | nil =>
    obtain rfl := List.mem_singleton.mp h
    exact fun _ hc => absurd hc List.not_mem_nil
  | cons c l ih =>
    rcases mem_splitOnP_cons h with rfl | h | ⟨hc, first, hfirst, rfl⟩
    · exact fun _ hc => absurd hc List.not_mem_nil
    · exact ih h
    · exact List.forall_mem_cons.mpr ⟨hc, ih hfirst⟩

/-- What is no separator is in a part. -/
theorem exists_mem_splitOnP {c : α} (hmem : c ∈ l) (hc : p c = false) :
    ∃ part ∈ l.splitOnP p, c ∈ part := by
  induction l with
  | nil => exact absurd hmem List.not_mem_nil
  | cons d l ih =>
    obtain ⟨first, rest, hsplit⟩ := List.exists_cons_of_ne_nil (List.splitOnP_ne_nil p l)
    rw [List.splitOnP_cons_eq_if_modifyHead, hsplit]
    rw [hsplit] at ih
    split_ifs with hd
    · have hne : c ≠ d := by
        rintro rfl
        exact Bool.false_ne_true (hc.symm.trans hd)
      obtain ⟨part, hpart, hcpart⟩ := ih (List.mem_of_ne_of_mem hne hmem)
      exact ⟨part, List.mem_cons_of_mem _ hpart, hcpart⟩
    · rw [List.modifyHead_cons]
      rcases List.mem_cons.mp hmem with rfl | hmem
      · exact ⟨_, List.mem_cons_self, List.mem_cons_self⟩
      · obtain ⟨part, hpart, hcpart⟩ := ih hmem
        rcases List.mem_cons.mp hpart with rfl | hpart
        · exact ⟨_, List.mem_cons_self, List.mem_cons_of_mem _ hcpart⟩
        · exact ⟨part, List.mem_cons_of_mem _ hpart, hcpart⟩

/-- What is in a part is in the list. -/
theorem mem_of_mem_splitOnP (h : part ∈ l.splitOnP p) : ∀ c ∈ part, c ∈ l := by
  induction l generalizing part with
  | nil =>
    obtain rfl := List.mem_singleton.mp h
    exact fun _ hc => hc
  | cons c l ih =>
    rcases mem_splitOnP_cons h with rfl | h | ⟨-, first, hfirst, rfl⟩
    · exact fun _ hc => absurd hc List.not_mem_nil
    · exact fun d hd => List.mem_cons_of_mem _ (ih h d hd)
    · exact List.forall_mem_cons.mpr
        ⟨List.mem_cons_self, fun d hd => List.mem_cons_of_mem _ (ih hfirst d hd)⟩

theorem notMem_of_mem_splitOn [BEq α] [LawfulBEq α] {sep : α} (h : part ∈ l.splitOn sep) :
    sep ∉ part := by
  rw [List.splitOn_eq_splitOnP] at h
  intro hsep
  simpa using not_of_mem_splitOnP h sep hsep

/-! ## Fields -/

/-- The parts with something in them. -/
def fields (p : α → Bool) (l : List α) : List (List α) := (l.splitOnP p).filter (!·.isEmpty)

theorem fields_nil : fields p [] = [] := rfl

/-- **Fields end at a separator.** -/
theorem fields_append_cons {sep : α} (hsep : p sep) (l l' : List α) :
    fields p (l ++ sep :: l') = fields p l ++ fields p l' := by
  rw [fields, List.splitOnP_append_cons l l' hsep, List.filter_append]
  rfl

theorem fields_append_left {gap : List α} (hgap : ∀ c ∈ gap, p c) (l : List α) :
    fields p (gap ++ l) = fields p l := by
  induction gap with
  | nil => rfl
  | cons c gap ih =>
    obtain ⟨hc, hgap⟩ := List.forall_mem_cons.mp hgap
    exact (fields_append_cons hc [] (gap ++ l)).trans (ih hgap)

/-- Any number of separators is as good as one. -/
theorem fields_append_gap {gap : List α} (hgap : ∀ c ∈ gap, p c) (hne : gap ≠ [])
    (l l' : List α) : fields p (l ++ gap ++ l') = fields p l ++ fields p l' := by
  obtain ⟨c, gap, rfl⟩ := List.exists_cons_of_ne_nil hne
  obtain ⟨hc, hgap⟩ := List.forall_mem_cons.mp hgap
  rw [List.append_assoc, List.cons_append, fields_append_cons hc, fields_append_left hgap]

theorem fields_append_right {gap : List α} (hgap : ∀ c ∈ gap, p c) (l : List α) :
    fields p (l ++ gap) = fields p l := by
  by_cases hne : gap = []
  · rw [hne, List.append_nil]
  · simpa [fields_nil] using fields_append_gap hgap hne l []

/-- There is a field wherever something is no separator. -/
theorem fields_eq_nil_iff : fields p l = [] ↔ ∀ c ∈ l, p c = true := by
  constructor
  · intro h c hc
    rw [← Bool.not_eq_false]
    intro hsep
    rw [fields, List.filter_eq_nil_iff] at h
    obtain ⟨part, hpart, hmem⟩ := exists_mem_splitOnP hc hsep
    have hnil := h part hpart
    rw [Bool.not_eq_true, Bool.not_eq_false', List.isEmpty_iff] at hnil
    exact List.not_mem_nil (hnil ▸ hmem)
  · intro h
    have hall := fields_append_left h []
    rwa [List.append_nil] at hall

/-- A word is its own field. -/
theorem fields_word {word : List α} (hword : ∀ c ∈ word, p c = false) (hne : word ≠ []) :
    fields p word = [word] := by
  rw [fields, List.splitOnP_eq_singleton hword]
  simp [hne]

end Machinery
