import Mathlib.Data.List.Infix

/-!
# Machinery/PrefixCode — words that no other word begins with

    w₁ ++ w₂ ++ ⋯ ++ wₙ ++ rest

A text over a prefix code splits into its words in one way, from the front.  Of any text there is a
longest run of complete words (`exists_stuck`), and it is found as soon as no word stands at the
front of what is left (`longest_of_stuck`).
-/

namespace Machinery

/-- Words over letters `α`, none empty and none the beginning of another. -/
structure PrefixCode (φ α : Type*) where
  word : φ → List α
  ne_nil : ∀ f, word f ≠ []
  inj : ∀ {f g r r'}, word f ++ r = word g ++ r' → f = g

namespace PrefixCode

variable {φ α : Type*} (c : PrefixCode φ α)

/-- The text of a list of words. -/
def encode (fs : List φ) : List α := fs.flatMap c.word

@[simp] theorem encode_nil : c.encode [] = [] := rfl

@[simp] theorem encode_cons (f : φ) (fs : List φ) :
    c.encode (f :: fs) = c.word f ++ c.encode fs := List.flatMap_cons

/-- No word stands at the front. -/
def Stuck (rest : List α) : Prop := ∀ f, ¬ c.word f <+: rest

/-- **The longest run of complete words** at the front of a text: every other one begins it. -/
structure Longest (fs : List φ) (text : List α) : Prop where
  complete : c.encode fs <+: text
  longest : ∀ gs, c.encode gs <+: text → gs <+: fs

variable {c} {fs : List φ} {rest text : List α}

/-- **Words up to a text that starts with none are the longest run.** -/
theorem longest_of_stuck (hrest : c.Stuck rest) : c.Longest fs (c.encode fs ++ rest) where
  complete := List.prefix_append _ _
  longest gs hgs := by
    induction gs generalizing fs with
    | nil => exact List.nil_prefix
    | cons g gs ih =>
      obtain ⟨r, hr⟩ := hgs
      rw [encode_cons, List.append_assoc] at hr
      cases fs with
      | nil => exact absurd ⟨_, hr⟩ (hrest g)
      | cons f fs =>
        rw [encode_cons, List.append_assoc] at hr
        obtain rfl : g = f := c.inj hr
        exact (List.prefix_cons_inj g).mpr (ih ⟨r, List.append_cancel_left hr⟩)

/-- **Every text has a longest run of complete words.** -/
theorem exists_stuck (c : PrefixCode φ α) (text : List α) :
    ∃ fs rest, c.Stuck rest ∧ text = c.encode fs ++ rest := by
  by_cases h : c.Stuck text
  · exact ⟨[], text, h, rfl⟩
  · unfold Stuck at h
    push Not at h
    obtain ⟨f, rest, rfl⟩ := h
    have hlt : rest.length < (c.word f ++ rest).length := by
      rw [List.length_append]
      exact Nat.lt_add_of_pos_left (List.length_pos_iff.mpr (c.ne_nil f))
    obtain ⟨fs, rest', hstuck, rfl⟩ := exists_stuck c rest
    exact ⟨f :: fs, rest', hstuck, by rw [encode_cons, List.append_assoc]⟩
termination_by text.length

end PrefixCode

end Machinery
