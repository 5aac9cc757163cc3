import Beszel.Common.Text
import Mathlib.Data.UInt

/-!
# Common/Strconv — the number parsers of the Go standard library

    "0x1f" ──base──▸ 16 | "1f" ──digits──▸ 31

`ParseUint` and the syntax of `ParseFloat`, for 64 bits.  Base 0 is the base of Go's literals, so
that a leading zero makes a number octal.
-/

namespace Beszel

namespace Strconv

/-! ## Underscores -/

/-- A hexadecimal digit that is a letter. -/
def isHexLetter (c : Char) : Bool := 'a' ≤ c.toLower && c.toLower ≤ 'f'

/-- A text without its sign. -/
def dropSign : List Char → List Char
  | [] => []
  | c :: cs => if c = '+' || c = '-' then cs else c :: cs

/-- The loop of `underscoreOK`; `saw` is the kind of the last character, as there. -/
def underscoreLoop (hex : Bool) : Char → List Char → Bool
  | saw, [] => saw ≠ '_'
  | saw, c :: cs =>
    if c.isDigit || hex && isHexLetter c then underscoreLoop hex '0' cs
    else if c = '_' then saw = '0' && underscoreLoop hex '_' cs
    else saw ≠ '_' && underscoreLoop hex '!' cs

/-- `underscoreOK`: underscores separate digits, or follow the letter of a base. -/
def underscoreOK (s : List Char) : Bool :=
  match dropSign s with
  | '0' :: c :: cs =>
    if c.toLower ∈ ['b', 'o', 'x'] then underscoreLoop (c.toLower = 'x') '0' cs
    else underscoreLoop false '^' ('0' :: c :: cs)
  | digits => underscoreLoop false '^' digits

/-! ## `ParseUint` -/

/-- The value of a digit, of any base up to 36. -/
def digitOf (c : Char) : Option ℕ :=
  if c.isDigit then some (c.toNat - '0'.toNat)
  else if c.isAlpha then some (c.toLower.toNat - 'a'.toNat + 10)
  else none

/-- The loop of `ParseUint`, without a bound. -/
def parseDigits (base : ℕ) (underscores : Bool) : ℕ → List Char → Option ℕ
  | n, [] => some n
  | n, c :: cs =>
    if underscores && c = '_' then parseDigits base underscores n cs
    else
      match digitOf c with
      | none => none
      | some d => if d < base then parseDigits base underscores (base * n + d) cs else none

/-- The base of a literal, and its digits. -/
def literalBase : List Char → ℕ × List Char
  | '0' :: c :: d :: digits =>
    if c.toLower = 'b' then (2, d :: digits)
    else if c.toLower = 'o' then (8, d :: digits)
    else if c.toLower = 'x' then (16, d :: digits)
    else (8, c :: d :: digits)
  | '0' :: digits => (8, digits)
  | digits => (10, digits)

/-- `ParseUint` with 64 bits, in base 0 or in a base from 2 to 36; `none` is an error. -/
def parseUint (s : List Char) (base : ℕ) : Option UInt64 :=
  if s = [] then none
  else
    let (radix, digits) := if base = 0 then literalBase s else (base, s)
    match parseDigits radix (base = 0) 0 digits with
    | none => none
    | some n =>
      if '_' ∈ digits ∧ underscoreOK s = false then none
      else if n < UInt64.size then some (.ofNat n) else none

example : parseUint "0x1f".toList 0 = some 31 := by decide
example : parseUint "010".toList 0 = some 8 := by decide
example : parseUint "18446744073709551616".toList 10 = none := by decide

/-- A character that is no digit of the base. -/
def NotDigit (base : ℕ) (c : Char) : Prop := c ≠ '_' ∧ ∀ d ∈ digitOf c, base ≤ d

theorem digitOf_of_isDigit {c : Char} (h : c.isDigit = true) :
    digitOf c = some (c.toNat - '0'.toNat) := if_pos h

/-- **Digits are read in their base.** -/
theorem parseDigits_of_digits {base : ℕ} (underscores : Bool) {s : List Char}
    (hdigit : ∀ c ∈ s, c.isDigit = true) (hbase : ∀ c ∈ s, c.toNat - '0'.toNat < base) (n : ℕ) :
    parseDigits base underscores n s = some (Nat.ofDigitChars base s n) := by
  induction s generalizing n with
  | nil => rfl
  | cons c s ih =>
    obtain ⟨hc, hs⟩ := List.forall_mem_cons.mp hdigit
    obtain ⟨hlt, hrest⟩ := List.forall_mem_cons.mp hbase
    have hunderscore : (underscores && decide (c = '_')) = false := by
      rw [Bool.and_eq_false_imp]
      intro _
      refine decide_eq_false fun heq => ?_
      rw [heq] at hc
      exact absurd hc (by decide)
    rw [parseDigits, hunderscore, digitOf_of_isDigit hc, Nat.ofDigitChars_cons]
    simp only [Bool.false_eq_true, if_false, if_pos hlt]
    exact ih hs hrest _

/-- **One character that is no digit is an error.** -/
theorem parseDigits_of_notDigit {base : ℕ} (underscores : Bool) {s : List Char} {c : Char}
    (hmem : c ∈ s) (hc : NotDigit base c) (n : ℕ) : parseDigits base underscores n s = none := by
  induction s generalizing n with
  | nil => exact absurd hmem List.not_mem_nil
  | cons d s ih =>
    rw [parseDigits]
    by_cases heq : c = d
    · subst heq
      have hunderscore : (underscores && decide (c = '_')) = false := by
        simp [hc.1]
      rw [hunderscore]
      cases hdigit : digitOf c with
      | none => rfl
      | some v => simp [Nat.not_lt.mpr (hc.2 v hdigit)]
    · have hs : c ∈ s := List.mem_of_ne_of_mem heq hmem
      cases digitOf d with
      | none => split_ifs <;> simp [ih hs]
      | some v =>
        simp only [ih hs]
        split_ifs <;> rfl

theorem digit_lt_ten {c : Char} (h : c.isDigit = true) : c.toNat - '0'.toNat < 10 := by
  obtain ⟨-, hle⟩ := Char.isDigit_iff_toNat.mp h
  have hnine : '9'.toNat = '0'.toNat + 9 := rfl
  omega

theorem underscore_notMem {s : List Char} (hdigit : ∀ c ∈ s, c.isDigit = true) : '_' ∉ s :=
  fun h => absurd (hdigit '_' h) (by decide)

/-- A text of decimal digits is a number in base 10. -/
theorem parseUint_ten {s : List Char} (hne : s ≠ []) (hdigit : ∀ c ∈ s, c.isDigit = true)
    (hlt : Nat.ofDigitChars 10 s 0 < UInt64.size) :
    parseUint s 10 = some (.ofNat (Nat.ofDigitChars 10 s 0)) := by
  unfold parseUint
  rw [if_neg hne]
  simp only [Nat.reduceEqDiff, if_false]
  rw [parseDigits_of_digits _ hdigit fun c hc => digit_lt_ten (hdigit c hc)]
  simp only [underscore_notMem hdigit, false_and, if_false, if_pos hlt]

/-! ## Base 0 -/

/-- What is not part of the front of a literal is read as a digit. -/
theorem mem_literalBase {s : List Char} {c : Char} (hc : c.toLower ∉ ['0', 'b', 'o', 'x'])
    (hmem : c ∈ s) : c ∈ (literalBase s).2 := by
  have hzero : c ≠ '0' := by
    rintro rfl
    exact hc (by decide)
  have hletter {x : Char} (hx : x.toLower ∈ ['0', 'b', 'o', 'x']) : c ≠ x := by
    rintro rfl
    exact hc hx
  unfold literalBase
  split
  · have hrest := List.mem_of_ne_of_mem hzero hmem
    split_ifs with hb ho hx
    · exact List.mem_of_ne_of_mem (hletter (by simp [hb])) hrest
    · exact List.mem_of_ne_of_mem (hletter (by simp [ho])) hrest
    · exact List.mem_of_ne_of_mem (hletter (by simp [hx])) hrest
    · exact hrest
  · exact List.mem_of_ne_of_mem hzero hmem
  · exact hmem

/-- A text with a character of no base at all is no number. -/
theorem parseUint_zero_of_notDigit {s : List Char} {c : Char}
    (hc : c.toLower ∉ ['0', 'b', 'o', 'x']) (hunderscore : c ≠ '_') (hdigit : digitOf c = none)
    (hmem : c ∈ s) : parseUint s 0 = none := by
  have hnot (base : ℕ) : NotDigit base c := ⟨hunderscore, by simp [hdigit]⟩
  unfold parseUint
  rw [if_neg (List.ne_nil_of_mem hmem)]
  simp only [if_true]
  rw [parseDigits_of_notDigit _ (mem_literalBase hc hmem) (hnot _)]

/-- **A text that is read as an octal number of another value**: with a leading zero and octal
digits, and more than one of them that counts. -/
def MisreadAsOctal (s : List Char) : Prop :=
  s.head? = some '0' ∧ (∀ c ∈ s, c.toNat - '0'.toNat < 8) ∧ 8 ≤ Nat.ofDigitChars 10 s 0

instance (s : List Char) : Decidable (MisreadAsOctal s) :=
  have : Decidable (∀ c ∈ s, c.toNat - '0'.toNat < 8) := List.decidableBAll _ s
  inferInstanceAs (Decidable (_ ∧ _ ∧ _))

/-- Octal digits are worth less, but for a single one. -/
theorem ofDigitChars_eight (s : List Char) (hbase : ∀ c ∈ s, c.toNat - '0'.toNat < 8) :
    Nat.ofDigitChars 8 s 0 ≤ Nat.ofDigitChars 10 s 0 ∧
      (Nat.ofDigitChars 8 s 0 = Nat.ofDigitChars 10 s 0 ↔ Nat.ofDigitChars 10 s 0 < 8) := by
  induction s using List.reverseRecOn with
  | nil => simp
  | append_singleton s c ih =>
    obtain ⟨hs, hc⟩ := List.forall_mem_append.mp hbase
    obtain ⟨hle, heq⟩ := ih hs
    have hlt := hc c (List.mem_singleton_self c)
    simp only [Nat.ofDigitChars_append, Nat.ofDigitChars_cons, Nat.ofDigitChars_nil]
    omega

theorem toLower_of_isDigit {c : Char} (h : c.isDigit = true) : c.toLower = c := by
  obtain ⟨-, hle⟩ := Char.isDigit_iff_toNat.mp h
  refine dif_neg fun ⟨hge, _⟩ => ?_
  have hgt : '9'.toNat < 'A'.toNat := by decide
  have hge' : 'A'.toNat ≤ c.toNat := UInt32.le_iff_toNat_le.mp hge
  omega

/-- A leading zero makes a number octal. -/
theorem literalBase_zero {s : List Char} (hdigit : ∀ c ∈ s, c.isDigit = true) :
    literalBase ('0' :: s) = (8, s) := by
  rcases s with _ | ⟨c, _ | ⟨d, s⟩⟩
  · rfl
  · rfl
  · have hc := hdigit c List.mem_cons_self
    have hletter {x : Char} (hx : x.isDigit = false) : c.toLower ≠ x := by
      rw [toLower_of_isDigit hc]
      rintro rfl
      rw [hx] at hc
      exact Bool.false_ne_true hc
    simp only [literalBase, hletter (x := 'b') rfl, hletter (x := 'o') rfl,
      hletter (x := 'x') rfl, if_false]

theorem literalBase_of_ne {s : List Char} (h : s.head? ≠ some '0') : literalBase s = (10, s) := by
  unfold literalBase
  split
  · exact absurd rfl h
  · exact absurd rfl h
  · rfl

theorem parseUint_zero_of_literalBase {s digits : List Char} {radix n : ℕ} (hne : s ≠ [])
    (hbase : literalBase s = (radix, digits)) (hdigit : ∀ c ∈ digits, c.isDigit = true)
    (hparse : parseDigits radix true 0 digits = some n) (hlt : n < UInt64.size) :
    parseUint s 0 = some (.ofNat n) := by
  unfold parseUint
  rw [if_neg hne]
  simp only [if_true, hbase, decide_true, hparse, underscore_notMem hdigit, false_and, if_false,
    if_pos hlt]

/-- A leading zero, before octal digits. -/
theorem parseUint_zero_octal {s : List Char} (hdigit : ∀ c ∈ s, c.isDigit = true)
    (hoctal : ∀ c ∈ s, c.toNat - '0'.toNat < 8) (hlt : Nat.ofDigitChars 10 s 0 < UInt64.size) :
    parseUint ('0' :: s) 0 = some (.ofNat (Nat.ofDigitChars 8 s 0)) :=
  parseUint_zero_of_literalBase (List.cons_ne_nil _ _) (literalBase_zero hdigit) hdigit
    (parseDigits_of_digits true hdigit hoctal 0) ((ofDigitChars_eight s hoctal).1.trans_lt hlt)

/-- A leading zero, and an 8 or a 9. -/
theorem parseUint_zero_not_octal {s : List Char} {c : Char} (hdigit : ∀ c ∈ s, c.isDigit = true)
    (hmem : c ∈ s) (hc : 8 ≤ c.toNat - '0'.toNat) : parseUint ('0' :: s) 0 = none := by
  have hnot : NotDigit 8 c := by
    refine ⟨fun h => underscore_notMem hdigit (h ▸ hmem), ?_⟩
    rw [digitOf_of_isDigit (hdigit c hmem)]
    rintro d hd
    obtain rfl := Option.mem_some_iff.mp hd
    exact hc
  unfold parseUint
  rw [if_neg (List.cons_ne_nil _ _)]
  simp only [if_true, literalBase_zero hdigit]
  rw [parseDigits_of_notDigit _ hmem hnot]

/-- No leading zero. -/
theorem parseUint_zero_decimal {s : List Char} (hne : s ≠ []) (hzero : s.head? ≠ some '0')
    (hdigit : ∀ c ∈ s, c.isDigit = true) (hlt : Nat.ofDigitChars 10 s 0 < UInt64.size) :
    parseUint s 0 = some (.ofNat (Nat.ofDigitChars 10 s 0)) :=
  parseUint_zero_of_literalBase hne (literalBase_of_ne hzero) hdigit
    (parseDigits_of_digits true hdigit (fun c hc => digit_lt_ten (hdigit c hc)) 0) hlt

/-- A leading zero changes the value of octal digits from 8 on, and of no others. -/
theorem parseUint_zero_of_octal {s : List Char} (hdigit : ∀ c ∈ s, c.isDigit = true)
    (hoctal : ∀ c ∈ s, c.toNat - '0'.toNat < 8) (hlt : Nat.ofDigitChars 10 s 0 < UInt64.size) :
    (¬ MisreadAsOctal ('0' :: s) ∧
      parseUint ('0' :: s) 0 = some (.ofNat (Nat.ofDigitChars 10 s 0))) ∨
    MisreadAsOctal ('0' :: s) ∧
      ∃ n < Nat.ofDigitChars 10 s 0, parseUint ('0' :: s) 0 = some (.ofNat n) := by
  have hvalue : Nat.ofDigitChars 10 ('0' :: s) 0 = Nat.ofDigitChars 10 s 0 :=
    Nat.ofDigitChars_cons
  obtain ⟨hle, heq⟩ := ofDigitChars_eight s hoctal
  have hparse := parseUint_zero_octal hdigit hoctal hlt
  by_cases hsmall : Nat.ofDigitChars 10 s 0 < 8
  · refine .inl ⟨fun h => ?_, ?_⟩
    · exact absurd (hvalue ▸ h.2.2) (Nat.not_le.mpr hsmall)
    · rw [hparse, heq.mpr hsmall]
  · refine .inr ⟨⟨rfl, List.forall_mem_cons.mpr ⟨by decide, hoctal⟩, ?_⟩, _, ?_, hparse⟩
    · rw [hvalue]
      exact Nat.not_lt.mp hsmall
    · exact hle.lt_of_ne fun h => hsmall (heq.mp h)

/-- **What base 0 makes of decimal digits**: their value, an error, or the smaller value of an octal
number. -/
theorem parseUint_zero_of_digits {s : List Char} (hne : s ≠ [])
    (hdigit : ∀ c ∈ s, c.isDigit = true) (hlt : Nat.ofDigitChars 10 s 0 < UInt64.size) :
    (¬ MisreadAsOctal s ∧ (parseUint s 0 = some (.ofNat (Nat.ofDigitChars 10 s 0)) ∨
      parseUint s 0 = none)) ∨
    MisreadAsOctal s ∧ ∃ n < Nat.ofDigitChars 10 s 0, parseUint s 0 = some (.ofNat n) := by
  by_cases hzero : s.head? = some '0'
  · obtain ⟨s, rfl⟩ := List.head?_eq_some_iff.mp hzero
    have hvalue : Nat.ofDigitChars 10 ('0' :: s) 0 = Nat.ofDigitChars 10 s 0 :=
      Nat.ofDigitChars_cons
    have hs : ∀ c ∈ s, c.isDigit = true := fun c hc => hdigit c (List.mem_cons_of_mem _ hc)
    rw [hvalue] at hlt ⊢
    by_cases hoctal : ∀ c ∈ s, c.toNat - '0'.toNat < 8
    · exact (parseUint_zero_of_octal hs hoctal hlt).imp_left fun h => ⟨h.1, .inl h.2⟩
    · simp only [not_forall, not_lt, exists_prop] at hoctal
      obtain ⟨c, hmem, hc⟩ := hoctal
      refine .inl ⟨fun h => ?_, .inr (parseUint_zero_not_octal hs hmem hc)⟩
      exact absurd (h.2.1 c (List.mem_cons_of_mem _ hmem)) (Nat.not_lt.mpr hc)
  · exact .inl ⟨fun h => hzero h.1, .inl (parseUint_zero_decimal hne hzero hdigit hlt)⟩

/-! ## The syntax of `ParseFloat` -/

/-- `special`: infinities, and no number. -/
def isSpecial (s : List Char) : Bool :=
  String.ofList (s.map Char.toLower) ∈
    ["nan", "inf", "+inf", "-inf", "infinity", "+infinity", "-infinity"]

/-- The mantissa in `readFloat`: whether there is a digit in it, and what follows it. -/
def readMantissa (hex sawdot sawdigits : Bool) : List Char → Bool × List Char
  | [] => (sawdigits, [])
  | c :: cs =>
    if c = '_' then readMantissa hex sawdot sawdigits cs
    else if c = '.' && !sawdot then readMantissa hex true sawdigits cs
    else if c.isDigit || hex && isHexLetter c then readMantissa hex sawdot true cs
    else (sawdigits, c :: cs)

/-- The exponent in `readFloat`, up to the end of the text. -/
def readExponent (s : List Char) : Bool :=
  match dropSign s with
  | [] => false
  | c :: cs => c.isDigit && cs.all fun c => c.isDigit || c = '_'

/-- The base of the mantissa in `readFloat`, and what follows it. -/
def mantissaBase : List Char → Bool × List Char
  | '0' :: x :: d :: digits =>
    if x.toLower = 'x' then (true, d :: digits) else (false, '0' :: x :: d :: digits)
  | digits => (false, digits)

/-- `readFloat`, for a text that it reads to the end. -/
def readFloat (s : List Char) : Bool :=
  let (hex, digits) := mantissaBase (dropSign s)
  let (sawdigits, rest) := readMantissa hex false false digits
  sawdigits && (!decide ('_' ∈ s) || underscoreOK s) &&
    match rest with
    | [] => !hex
    | c :: cs => c.toLower = (if hex then 'p' else 'e') && readExponent cs

/-- Whether `ParseFloat` reads a text as a number, which may be out of range. -/
def floatSyntax (s : List Char) : Bool := isSpecial s || readFloat s

example : floatSyntax "1_23.50e+1_2".toList ∧ floatSyntax "-Inf".toList ∧
    floatSyntax "0x1p-2".toList ∧ ¬ floatSyntax "0x1".toList ∧ ¬ floatSyntax "123._5".toList := by
  decide +kernel

/-- A character of no number. -/
structure NoNumber (c : Char) : Prop where
  not_special : ∀ word ∈ ["nan", "inf", "+inf", "-inf", "infinity", "+infinity", "-infinity"],
    c.toLower ∉ word.toList
  not_digit : c.isDigit = false ∧ isHexLetter c = false
  not_sign : c ≠ '+' ∧ c ≠ '-'
  not_mark : c ≠ '_' ∧ c ≠ '.'
  not_letter : c.toLower ≠ 'x' ∧ c.toLower ≠ 'e' ∧ c.toLower ≠ 'p'

theorem noNumber_paren : NoNumber '(' :=
  ⟨by decide, by decide, by decide, by decide, by decide⟩

variable {c : Char} {s : List Char}

theorem NoNumber.mem_dropSign (hc : NoNumber c) (h : c ∈ s) : c ∈ dropSign s := by
  cases s with
  | nil => exact h
  | cons d s =>
    rw [dropSign]
    split_ifs with hd
    · refine List.mem_of_ne_of_mem ?_ h
      rintro rfl
      simp [hc.not_sign] at hd
    · exact h

theorem NoNumber.mem_mantissaBase (hc : NoNumber c) (h : c ∈ s) : c ∈ (mantissaBase s).2 := by
  unfold mantissaBase
  split
  · split_ifs with hx
    · refine List.mem_of_ne_of_mem ?_ (List.mem_of_ne_of_mem ?_ h)
      · rintro rfl
        exact hc.not_letter.1 hx
      · rintro rfl
        exact absurd hc.not_digit.1 (by decide)
    · exact h
  · exact h

/-- The mantissa ends before the character. -/
theorem NoNumber.mem_readMantissa (hc : NoNumber c) (hex sawdot sawdigits : Bool) (h : c ∈ s) :
    c ∈ (readMantissa hex sawdot sawdigits s).2 := by
  induction s generalizing sawdot sawdigits with
  | nil => exact h
  | cons d s ih =>
    rw [readMantissa]
    split_ifs with hunderscore hdot hdigit
    · exact ih _ _ (List.mem_of_ne_of_mem (hunderscore ▸ hc.not_mark.1) h)
    · rw [Bool.and_eq_true, decide_eq_true_eq] at hdot
      exact ih _ _ (List.mem_of_ne_of_mem (hdot.1 ▸ hc.not_mark.2) h)
    · refine ih _ _ (List.mem_of_ne_of_mem ?_ h)
      rintro rfl
      simp [hc.not_digit] at hdigit
    · exact h

theorem NoNumber.readExponent (hc : NoNumber c) (h : c ∈ s) : readExponent s = false := by
  have hmem := hc.mem_dropSign h
  unfold Strconv.readExponent
  cases hs : dropSign s with
  | nil => rfl
  | cons d digits =>
    rw [hs] at hmem
    rw [Bool.and_eq_false_imp]
    intro hd
    refine List.all_eq_false.mpr ⟨c, List.mem_of_ne_of_mem ?_ hmem, ?_⟩
    · rintro rfl
      rw [hc.not_digit.1] at hd
      exact Bool.false_ne_true hd
    · simp [hc.not_digit, hc.not_mark]

theorem NoNumber.isSpecial (hc : NoNumber c) (h : c ∈ s) : isSpecial s = false := by
  refine decide_eq_false fun hword => ?_
  have hmem : c.toLower ∈ (String.ofList (s.map Char.toLower)).toList := by
    rw [String.toList_ofList]
    exact List.mem_map_of_mem h
  exact hc.not_special _ hword hmem

/-- The character is in what the mantissa leaves, and no exponent has it. -/
theorem NoNumber.readFloat (hc : NoNumber c) (h : c ∈ s) : readFloat s = false := by
  have hbase := hc.mem_mantissaBase (hc.mem_dropSign h)
  have hrest := hc.mem_readMantissa (mantissaBase (dropSign s)).1 false false hbase
  simp only [Strconv.readFloat]
  rw [Bool.and_eq_false_imp]
  intro _
  generalize (readMantissa _ false false _).2 = rest at hrest
  cases rest with
  | nil => exact absurd hrest List.not_mem_nil
  | cons d rest =>
    simp only
    rw [Bool.and_eq_false_imp]
    intro hletter
    refine hc.readExponent (List.mem_of_ne_of_mem ?_ hrest)
    rintro rfl
    have hnot := hc.not_letter.2
    split_ifs at hletter <;> simp [hnot] at hletter

/-- **`ParseFloat` fails on a text with a character of no number.** -/
theorem NoNumber.floatSyntax (hc : NoNumber c) (h : c ∈ s) : floatSyntax s = false := by
  unfold Strconv.floatSyntax
  rw [hc.isSpecial h, hc.readFloat h]
  rfl

end Strconv

end Beszel
