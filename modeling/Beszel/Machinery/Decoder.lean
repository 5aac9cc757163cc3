import Mathlib.Data.List.Basic

/-!
# Machinery/Decoder — one decoder that lives through many texts

    unread ++ text ──scan──▸ value ++ rest ──▸ the part of the rest that was read is unread

A scanner reads a text byte by byte and finds where the first value ends; blanks in front of a value
are passed over.  A decoder keeps what it read beyond the value, and what went wrong: from then on
it answers nothing else.  A decoder whose unread text is blank and that nothing went wrong with is
as good as a new one (`decode_of_clean`), any other one is not (`exists_ne_of_not_clean`).
-/

namespace Machinery

variable {α σ ε ρ : Type*}

/-! ## Scanners -/

/-- What a scanner says of a byte: the value goes on, it ended before the byte, it ends with the
byte, or the byte cannot stand here. -/
inductive Verdict (σ ε : Type*)
  | more (s : σ)
  | endBefore
  | endAfter
  | error (e : ε)

/-- **A scanner.**  At the end of the text a value may be `complete`, as a number is. -/
structure Scanner (α σ ε : Type*) where
  start : σ
  step : σ → α → Verdict σ ε
  complete : σ → Bool
  blank : α → Bool
  step_blank : ∀ {a}, blank a = true → step start a = .more start
  start_incomplete : complete start = false

/-- Why there is no value: the text is blank, it ends within a value, or it cannot be one. -/
inductive Failure (ε : Type*)
  | eof
  | unexpectedEof
  | malformed (e : ε)

/-- How far a scanner comes: the length of the value, or the error. -/
inductive Scan (ε : Type*)
  | value (length : ℕ)
  | error (e : ε)
  | incomplete

/-- The value is longer by what stands in front of it. -/
def Scan.after (k : ℕ) : Scan ε → Scan ε
  | .value n => .value (n + k)
  | .error e => .error e
  | .incomplete => .incomplete

namespace Scanner

variable (c : Scanner α σ ε)

/-- **The text is scanned from a state.** -/
def scan : σ → List α → Scan ε
  | s, [] => if c.complete s then .value 0 else .incomplete
  | s, a :: text =>
    match c.step s a with
    | .more s' => (scan s' text).after 1
    | .endBefore => .value 0
    | .endAfter => .value 1
    | .error e => .error e

/-- **The length of the first value** of a text, with the blanks in front of it. -/
def readValue (text : List α) : Except (Failure ε) ℕ :=
  match c.scan c.start text with
  | .value n => .ok n
  | .error e => .error (.malformed e)
  | .incomplete => .error (if text.all c.blank then .eof else .unexpectedEof)

variable {c} {text blanks : List α}

theorem scan_blanks (h : ∀ a ∈ blanks, c.blank a = true) (text : List α) :
    c.scan c.start (blanks ++ text) = (c.scan c.start text).after blanks.length := by
  induction blanks with
  | nil =>
    rw [List.nil_append]
    cases c.scan c.start text <;> rfl
  | cons a blanks ih =>
    obtain ⟨ha, hblanks⟩ := List.forall_mem_cons.mp h
    rw [List.cons_append, scan, c.step_blank ha]
    dsimp only
    rw [ih hblanks]
    cases c.scan c.start text <;> rfl

/-- **Blanks in front of a value are passed over.** -/
theorem readValue_blanks (h : ∀ a ∈ blanks, c.blank a = true) (text : List α) :
    c.readValue (blanks ++ text) = (c.readValue text).map (· + blanks.length) := by
  have hall : (blanks ++ text).all c.blank = text.all c.blank := by
    rw [List.all_append, List.all_eq_true.mpr h, Bool.true_and]
  rw [readValue, readValue, scan_blanks h, hall]
  cases c.scan c.start text <;> rfl

/-- There is no value in an empty text. -/
theorem readValue_nil : c.readValue [] = .error .eof := by
  simp [readValue, scan, c.start_incomplete]

/-- A text that is not blank is not taken for an empty one. -/
theorem readValue_ne_eof (h : ¬ ∀ a ∈ text, c.blank a = true) :
    c.readValue text ≠ .error .eof := by
  have hall : ¬ text.all c.blank = true := fun hall => h (List.all_eq_true.mp hall)
  unfold readValue
  rw [if_neg hall]
  cases c.scan c.start text <;> simp

end Scanner

/-! ## Decoders -/

/-- What a decoder has read and not used, and what went wrong. -/
structure Decoder (α ε : Type*) where
  unread : List α
  err : Option (Failure ε)

/-- A decoder that has read nothing. -/
def Decoder.new : Decoder α ε := ⟨[], none⟩

namespace Scanner

variable (c : Scanner α σ ε)

/-- **A value is decoded** from a text, of which at least the value and `readAhead` bytes are read.
What is not read is gone. -/
def decode (unmarshal : List α → ρ) (dec : Decoder α ε) (text : List α) (readAhead : ℕ) :
    Decoder α ε × Except (Failure ε) ρ :=
  match dec.err with
  | some e => (dec, .error e)
  | none =>
    match c.readValue (dec.unread ++ text) with
    | .ok n =>
      (⟨(dec.unread ++ text.take readAhead).drop n, none⟩,
        .ok (unmarshal ((dec.unread ++ text).take n)))
    | .error e => (⟨dec.unread ++ text, some e⟩, .error e)

/-- **A decoder is clean** when what it has not used is blank and nothing went wrong. -/
def Clean (dec : Decoder α ε) : Prop :=
  dec.err = none ∧ ∀ a ∈ dec.unread, c.blank a = true

/-- **A text is whole**: it starts with a value, and what is read beyond it is blank. -/
def Whole (text : List α) (readAhead : ℕ) : Prop :=
  ∃ n, c.readValue text = .ok n ∧ ∀ a ∈ (text.take readAhead).drop n, c.blank a = true

variable {c} {unmarshal : List α → ρ} {dec : Decoder α ε}

theorem clean_new : c.Clean .new := ⟨rfl, fun _ ha => nomatch ha⟩

/-- Blanks in front of a value are not part of it. -/
theorem unmarshal_blanks {blanks : List α}
    (hunmarshal : ∀ a text, c.blank a = true → unmarshal (a :: text) = unmarshal text)
    (h : ∀ a ∈ blanks, c.blank a = true) (text : List α) :
    unmarshal (blanks ++ text) = unmarshal text := by
  induction blanks with
  | nil => rfl
  | cons a blanks ih =>
    obtain ⟨ha, hblanks⟩ := List.forall_mem_cons.mp h
    rw [List.cons_append, hunmarshal a _ ha, ih hblanks]

/-- **A clean decoder answers like a new one.** -/
theorem decode_of_clean
    (hunmarshal : ∀ a text, c.blank a = true → unmarshal (a :: text) = unmarshal text)
    (h : c.Clean dec) (text : List α) (readAhead readAhead' : ℕ) :
    (c.decode unmarshal dec text readAhead).2 =
      (c.decode unmarshal .new text readAhead').2 := by
  obtain ⟨unread, err⟩ := dec
  obtain ⟨rfl, hunread⟩ := h
  unfold decode Decoder.new
  dsimp only
  rw [readValue_blanks hunread, List.nil_append]
  cases c.readValue text with
  | error e => rfl
  | ok n =>
    have htake : (unread ++ text).take (n + unread.length) = unread ++ text.take n := by
      rw [Nat.add_comm]
      exact List.take_length_add_append n
    dsimp only [Except.map]
    rw [htake, unmarshal_blanks hunmarshal hunread]

/-- **A clean decoder stays clean on a whole text**, and on no other. -/
theorem clean_decode (h : c.Clean dec) (text : List α) (readAhead : ℕ) :
    c.Clean (c.decode unmarshal dec text readAhead).1 ↔ c.Whole text readAhead := by
  obtain ⟨unread, err⟩ := dec
  obtain ⟨rfl, hunread⟩ := h
  unfold decode Whole
  dsimp only
  rw [readValue_blanks hunread]
  cases c.readValue text with
  | error e =>
    refine ⟨fun hclean => ?_, fun ⟨n, hn, _⟩ => ?_⟩
    · cases hclean.1
    · cases hn
  | ok n =>
    have hdrop : (unread ++ text.take readAhead).drop (n + unread.length) =
        (text.take readAhead).drop n := by
      rw [Nat.add_comm]
      exact List.drop_length_add_append n
    dsimp only [Except.map, Clean]
    rw [hdrop]
    constructor
    · exact fun hclean => ⟨n, rfl, hclean.2⟩
    · rintro ⟨m, hm, hblank⟩
      cases hm
      exact ⟨rfl, hblank⟩

/-- **A decoder that is not clean answers some text like no new one.** -/
theorem exists_ne_of_not_clean (unmarshal : List α → ρ)
    (hsample : ∃ text n, c.readValue text = .ok n)
    (h : ¬ c.Clean dec) :
    ∃ text, ∀ readAhead readAhead',
      (c.decode unmarshal dec text readAhead).2 ≠
        (c.decode unmarshal .new text readAhead').2 := by
  obtain ⟨unread, err⟩ := dec
  cases err with
  | some e =>
    -- a new decoder finds the value
    obtain ⟨text, n, hn⟩ := hsample
    refine ⟨text, fun _ _ => ?_⟩
    unfold decode Decoder.new
    dsimp only
    rw [List.nil_append, hn]
    exact fun heq => nomatch heq
  | none =>
    -- a new decoder finds nothing in an empty text
    refine ⟨[], fun _ _ heq => ?_⟩
    have hunread : ¬ ∀ a ∈ unread, c.blank a = true := fun hblank => h ⟨rfl, hblank⟩
    have hne := readValue_ne_eof (c := c) hunread
    unfold decode Decoder.new at heq
    dsimp only at heq
    rw [List.nil_append, List.append_nil, readValue_nil] at heq
    cases hread : c.readValue unread with
    | ok n =>
      rw [hread] at heq
      exact nomatch heq
    | error e =>
      rw [hread] at heq hne
      exact hne (congrArg Except.error (Except.error.inj heq))

end Scanner

end Machinery
