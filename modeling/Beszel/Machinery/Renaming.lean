import Mathlib.Data.List.Basic
import Mathlib.Data.Set.Function

/-!
# Machinery/Renaming — entries that are renamed where their key is taken

    keys   a   a   a1   b
    names  a   a1  a12  b

Entries with a place in a list are stored one after the other, each under its key, or, where
something is stored under that already, under another name that has the entry's place in it.
`Taken` says which keys are taken: those of an entry before, and those that an entry before was
renamed to.  Nothing is lost where no entry is renamed to a key that came before it.
-/

namespace Machinery

/-- Entries with a place, a key, and the name they get instead of a key that is taken. -/
structure Renaming (α κ : Type*) where
  index : α → ℕ
  key : α → κ
  renamed : α → κ
  renamed_inj : ∀ {a b}, renamed a = renamed b → index a = index b

namespace Renaming

variable {α κ : Type*} (R : Renaming α κ) (l : List α)

/-- **The key of an entry is taken**: an entry before it has the same key, or is renamed to it. -/
inductive Taken : α → Prop
  | again {a b : α} (mem : a ∈ l) (before : R.index a < R.index b) (key : R.key a = R.key b) :
      Taken b
  | renamed {a b : α} (mem : a ∈ l) (before : R.index a < R.index b) (taken : Taken a)
      (key : R.renamed a = R.key b) : Taken b

open Classical in
/-- What an entry is stored under. -/
noncomputable def name (a : α) : κ := if R.Taken l a then R.renamed a else R.key a

/-- **An entry is kept**: if it is renamed, its new name is valid and not the key of an entry before
it. -/
def Kept (valid : κ → Prop) (a : α) : Prop :=
  R.Taken l a → valid (R.renamed a) ∧ ∀ b ∈ l, R.index b < R.index a → R.key b ≠ R.renamed a

variable {R l} {a b : α}

theorem name_of_taken (h : R.Taken l a) : R.name l a = R.renamed a := if_pos h

theorem name_of_not_taken (h : ¬ R.Taken l a) : R.name l a = R.key a := if_neg h

/-- **The key of an entry is a name** from the entry on: its own or one before it. -/
theorem exists_name_eq_key (ha : a ∈ l) :
    ∃ b ∈ l, R.index b ≤ R.index a ∧ R.name l b = R.key a := by
  induction hindex : R.index a using Nat.strong_induction_on generalizing a with
  | _ i ih =>
    subst hindex
    by_cases htaken : R.Taken l a
    · cases htaken with
      | again hmem hbefore hkey =>
        obtain ⟨b, hb, hle, hname⟩ := ih _ hbefore hmem rfl
        exact ⟨b, hb, hle.trans hbefore.le, hname.trans hkey⟩
      | renamed hmem hbefore htaken hkey =>
        exact ⟨_, hmem, hbefore.le, (name_of_taken htaken).trans hkey⟩
    · exact ⟨a, ha, le_rfl, name_of_not_taken htaken⟩

/-- **A key is taken** if it is the name of an entry before. -/
theorem taken_iff : R.Taken l a ↔ ∃ b ∈ l, R.index b < R.index a ∧ R.name l b = R.key a := by
  constructor
  · intro h
    cases h with
    | again hmem hbefore hkey =>
      obtain ⟨b, hb, hle, hname⟩ := exists_name_eq_key hmem
      exact ⟨b, hb, hle.trans_lt hbefore, hname.trans hkey⟩
    | renamed hmem hbefore htaken hkey =>
      exact ⟨_, hmem, hbefore, (name_of_taken htaken).trans hkey⟩
  · rintro ⟨b, hb, hbefore, hname⟩
    by_cases htaken : R.Taken l b
    · exact .renamed hb hbefore htaken ((name_of_taken htaken).symm.trans hname)
    · exact .again hb hbefore ((name_of_not_taken htaken).symm.trans hname)

/-- An entry that is kept has a name that no entry before it has. -/
theorem Kept.name_ne {valid : κ → Prop} (h : R.Kept l valid a) (hb : b ∈ l)
    (hbefore : R.index b < R.index a) : R.name l b ≠ R.name l a := by
  intro hname
  by_cases htaken : R.Taken l a
  · rw [name_of_taken htaken] at hname
    by_cases htaken' : R.Taken l b
    · rw [name_of_taken htaken'] at hname
      exact hbefore.ne (R.renamed_inj hname)
    · rw [name_of_not_taken htaken'] at hname
      exact (h htaken).2 b hb hbefore hname
  · rw [name_of_not_taken htaken] at hname
    exact htaken (taken_iff.mpr ⟨b, hb, hbefore, hname⟩)

/-- An entry that is not kept is renamed to a name that is not valid, or is that of an entry before
it. -/
theorem taken_of_not_kept {valid : κ → Prop} (h : ¬ R.Kept l valid a) :
    R.Taken l a ∧ (valid (R.renamed a) →
      ∃ b ∈ l, R.index b < R.index a ∧ R.name l b = R.renamed a) := by
  unfold Kept at h
  push Not at h
  obtain ⟨htaken, hlost⟩ := h
  refine ⟨htaken, fun hvalid => ?_⟩
  obtain ⟨b, hb, hbefore, hkey⟩ := hlost hvalid
  obtain ⟨c, hc, hle, hname⟩ := exists_name_eq_key hb
  exact ⟨c, hc, hle.trans_lt hbefore, hname.trans hkey⟩

/-- **Entries that are kept have names of their own.** -/
theorem injOn_name {valid : κ → Prop} (h : ∀ a ∈ l, R.Kept l valid a)
    (hindex : Set.InjOn R.index {a | a ∈ l}) : Set.InjOn (R.name l) {a | a ∈ l} := by
  intro a ha b hb hname
  rcases lt_trichotomy (R.index a) (R.index b) with hlt | heq | hlt
  · exact absurd hname ((h b hb).name_ne ha hlt)
  · exact hindex ha hb heq
  · exact absurd hname.symm ((h a ha).name_ne hb hlt)

end Renaming

end Machinery
