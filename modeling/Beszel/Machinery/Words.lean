import Beszel.Machinery.Split

/-!
# Machinery/Words — text that is words with gaps between them

    gap · word · gap · word · … · gap      ⇄      [word, word, …]

`Spaced p words l` says how a text is written: words, none of which is empty or has a separator in
it, with separators between any two of them and any number of separators around.  A text is written
in one way only, and `fields` finds it: `fields_eq_iff`.
-/

namespace Machinery

variable {α : Type*} {p : α → Bool}

/-- A word: there is something in it, and no separator. -/
structure IsWord (p : α → Bool) (word : List α) : Prop where
  ne_nil : word ≠ []
  notSep : ∀ c ∈ word, p c = false

/-- **The text `l` is written with these words.** -/
inductive Spaced (p : α → Bool) : List (List α) → List α → Prop
  | gap {gap : List α} (hgap : ∀ c ∈ gap, p c) : Spaced p [] gap
  | word {gap word rest : List α} {words : List (List α)} (hgap : ∀ c ∈ gap, p c)
      (hword : IsWord p word) (hrest : ∀ c ∈ rest.head?, p c) (h : Spaced p words rest) :
    Spaced p (word :: words) (gap ++ word ++ rest)

/-- Words can be read off a text. -/
theorem Spaced.isWord {words : List (List α)} {l : List α} (h : Spaced p words l) :
    ∀ word ∈ words, IsWord p word := by
  induction h with
  | gap => exact fun _ h => nomatch h
  | word _ hword _ _ ih => exact List.forall_mem_cons.mpr ⟨hword, ih⟩

/-- Only separators come before the first word. -/
theorem Spaced.append_left {gap l : List α} {words : List (List α)} (h : Spaced p words l)
    (hgap : ∀ c ∈ gap, p c) : Spaced p words (gap ++ l) := by
  cases h with
  | gap hl => exact .gap (List.forall_mem_append.mpr ⟨hgap, hl⟩)
  | word hfirst hword hrest h =>
    rw [← List.append_assoc, ← List.append_assoc]
    exact .word (List.forall_mem_append.mpr ⟨hgap, hfirst⟩) hword hrest h

/-- The fields of a text are the words that it is written with. -/
theorem Spaced.fields_eq {words : List (List α)} {l : List α} (h : Spaced p words l) :
    fields p l = words := by
  induction h with
  | gap hgap => exact fields_eq_nil_iff.mpr hgap
  | @word gap word rest words hgap hword hrest h ih =>
    rw [List.append_assoc, fields_append_left hgap]
    cases rest with
    | nil =>
      rw [← ih, List.append_nil, fields_nil]
      exact fields_word hword.notSep hword.ne_nil
    | cons c rest =>
      have hc : p c = true := hrest c rfl
      have htail : fields p rest = words := (fields_append_left
        (List.forall_mem_singleton.mpr hc) rest).symm.trans ih
      rw [fields_append_cons hc, fields_word hword.notSep hword.ne_nil, htail]
      rfl

/-- A word at the start. -/
theorem Spaced.start {word rest : List α} {words : List (List α)} (hword : IsWord p word)
    (hrest : ∀ c ∈ rest.head?, p c) (h : Spaced p words rest) :
    Spaced p (word :: words) (word ++ rest) :=
  @Spaced.word α p [] word rest words (fun _ h => nomatch h) hword hrest h

/-- A character in front is a gap, the start of the first word, or a word. -/
theorem Spaced.exists_cons {words : List (List α)} {l : List α} (h : Spaced p words l) (c : α) :
    ∃ words, Spaced p words (c :: l) := by
  cases hc : p c with
  | true => exact ⟨words, h.append_left (List.forall_mem_singleton.mpr hc)⟩
  | false =>
    have hword : IsWord p [c] := ⟨List.cons_ne_nil c [], List.forall_mem_singleton.mpr hc⟩
    cases h with
    | gap hgap =>
      exact ⟨[[c]], .start hword
        (fun d hd => hgap d (List.mem_of_mem_head? hd)) (.gap hgap)⟩
    | @word gap word rest words hgap hfirst hrest h =>
      cases gap with
      | nil =>
        have hlonger : IsWord p (c :: word) :=
          ⟨List.cons_ne_nil c word, List.forall_mem_cons.mpr ⟨hc, hfirst.notSep⟩⟩
        exact ⟨(c :: word) :: words, .start hlonger hrest h⟩
      | cons d gap =>
        refine ⟨[c] :: word :: words, .start hword ?_
          (.word hgap hfirst hrest h)⟩
        exact fun e he => Option.some.inj he ▸ hgap d List.mem_cons_self

/-- **Every text is written with words.** -/
theorem exists_spaced (p : α → Bool) (l : List α) : ∃ words, Spaced p words l := by
  induction l with
  | nil => exact ⟨[], .gap fun _ h => nomatch h⟩
  | cons c l ih =>
    obtain ⟨words, h⟩ := ih
    exact h.exists_cons c

/-- **Fields are words**, and nothing but them. -/
theorem fields_eq_iff {words : List (List α)} {l : List α} :
    fields p l = words ↔ Spaced p words l := by
  constructor
  · rintro rfl
    obtain ⟨words, h⟩ := exists_spaced p l
    rwa [h.fields_eq]
  · exact Spaced.fields_eq

end Machinery
