import Mathlib.Data.List.Basic

/-!
# Machinery/Erase — the matches of a pattern are taken out of a text

    c · c · [match] · c · [match] · c      ──▸      c · c · c · c

A pattern is given by what it matches at the front of a text: how many characters, or `none`.  The
text is gone through from the left; a match is skipped as a whole, a character at which there is
none is kept.
-/

namespace Machinery

variable {α : Type*} (matchAt : List α → Option ℕ)

/-- The text without its matches, with `skip` characters of a match still to skip. -/
def eraseFrom : ℕ → List α → List α
  | _, [] => []
  | skip + 1, _ :: l => eraseFrom skip l
  | 0, c :: l =>
    match matchAt (c :: l) with
    | some (n + 1) => eraseFrom n l
    | _ => c :: eraseFrom 0 l

/-- **The text without its matches.** -/
def erase (l : List α) : List α := eraseFrom matchAt 0 l

variable {matchAt} {l : List α} {c : α}

theorem eraseFrom_eq_erase_drop (skip : ℕ) (l : List α) :
    eraseFrom matchAt skip l = erase matchAt (l.drop skip) := by
  induction skip generalizing l with
  | zero => rfl
  | succ skip ih =>
    cases l with
    | nil => rfl
    | cons c l => exact ih l

theorem erase_keep (h : ∀ n, matchAt (c :: l) ≠ some (n + 1)) :
    erase matchAt (c :: l) = c :: erase matchAt l := by
  unfold erase
  rw [eraseFrom]
  split
  · exact absurd ‹_› (h _)
  · rfl

theorem erase_skip {n : ℕ} (h : matchAt (c :: l) = some (n + 1)) :
    erase matchAt (c :: l) = erase matchAt (l.drop n) := by
  rw [erase, eraseFrom, h]
  exact eraseFrom_eq_erase_drop n l

/-- A match in front is taken out. -/
theorem erase_append_of_match {w : List α} (hne : w ≠ []) (h : matchAt (w ++ l) = some w.length) :
    erase matchAt (w ++ l) = erase matchAt l := by
  obtain ⟨c, w, rfl⟩ := List.exists_cons_of_ne_nil hne
  rw [List.cons_append] at h ⊢
  rw [erase_skip h, List.drop_left]

/-- A text in front in which nothing can start a match is kept. -/
theorem erase_append_of_forall {text : List α}
    (h : ∀ c ∈ text, ∀ l n, matchAt (c :: l) ≠ some (n + 1)) :
    erase matchAt (text ++ l) = text ++ erase matchAt l := by
  induction text with
  | nil => rfl
  | cons c text ih =>
    obtain ⟨hc, htext⟩ := List.forall_mem_cons.mp h
    rw [List.cons_append, erase_keep (hc _), ih htext, List.cons_append]

/-- **A text in which nothing can start a match is what it was.** -/
theorem erase_eq_self (h : ∀ c ∈ l, ∀ l n, matchAt (c :: l) ≠ some (n + 1)) :
    erase matchAt l = l := by
  have hself : erase matchAt (l ++ []) = l ++ erase matchAt [] := erase_append_of_forall h
  rw [List.append_nil] at hself
  exact hself.trans (List.append_nil l)

end Machinery
