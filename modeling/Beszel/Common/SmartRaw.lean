import Beszel.Common.Strconv

/-!
# Common/SmartRaw — the raw values of S.M.A.R.T. attributes

    "7344 (253d 8h)" ──integer?──hours before an 'h'?──first run of digits──▸ 7344

`RawValue` and `SmartRawValue` of `internal/entities/smart`, with `ParseSmartRawValueString`.  A raw
value is a number or a text in JSON, and three readings of a text are tried in turn.
-/

namespace Beszel

open Strconv

namespace SmartRaw

/-! ## The parser

Which number a floating-point text stands for is a parameter: `floatToUint64` is that number as an
unsigned one, none where it is out of range and `ParseFloat` fails. -/

section Parser

variable (floatToUint64 : String → Option UInt64)

/-- `ParseFloat`, and the conversion of what it gives. -/
def parseFloat (s : String) : Option UInt64 :=
  if floatSyntax s.toList then floatToUint64 s else none

/-- The hours before an `h`; there are none if nothing is before it. -/
def parseHours (value : List Char) : Option UInt64 :=
  if 'h' ∈ value then
    let hoursPart := GoText.trimSpace (String.ofList (value.takeWhile (· ≠ 'h')))
    if hoursPart ≠ "" then parseFloat floatToUint64 hoursPart else none
  else none

/-- The loop over the runs of digits, with the run that is being read. -/
def parseRun : List Char → List Char → Option UInt64
  | run, [] => if run = [] then none else parseUint run 10
  | run, c :: cs =>
    if c.isDigit then parseRun (run ++ [c]) cs
    else if run = [] then parseRun [] cs
    else (parseUint run 10).or (parseRun [] cs)

/-- `ParseSmartRawValueString`. -/
def parseSmartRawValueString (value : String) : Option UInt64 :=
  let value := (GoText.trimSpace value).toList
  if value = [] then none
  else ((parseUint value 0).or (parseHours floatToUint64 value)).or (parseRun [] value)

/-- The escapes of one character that a JSON text can have and `Unquote` knows. -/
def unescape (c : Char) : Option Char :=
  if c = '"' || c = '\\' then some c
  else if c = 'b' then some '\x08'
  else if c = 'f' then some '\x0c'
  else if c = 'n' then some '\n'
  else if c = 'r' then some '\r'
  else if c = 't' then some '\t'
  else none

/-- What four hexadecimal digits stand for; half of a surrogate pair is an error. -/
def unescapeHex (digits : List Char) : Option Char :=
  (parseDigits 16 false 0 digits).bind fun n => if n.isValidChar then some (.ofNat n) else none

/-- The loop of `Unquote`, for the escapes that a JSON text can have. -/
def unquoteLoop : List Char → Option (List Char)
  | [] => none
  | '\\' :: 'u' :: a :: b :: c :: d :: rest =>
    (unescapeHex [a, b, c, d]).bind fun char => (unquoteLoop rest).map (char :: ·)
  | '\\' :: c :: rest => (unescape c).bind fun char => (unquoteLoop rest).map (char :: ·)
  | '"' :: rest => if rest = [] then some [] else none
  | c :: rest => if c = '\n' then none else (unquoteLoop rest).map (c :: ·)

/-- `Unquote` of a JSON string. -/
def unquote (s : String) : Option String := (unquoteLoop (s.toList.drop 1)).map String.ofList

/-- `SmartRawValue.UnmarshalJSON`. -/
def SmartRawValue.unmarshalJSON (data : String) : Except String UInt64 :=
  let trimmed := GoText.trimSpace data
  if trimmed = "" ∨ trimmed = "null" then .ok 0
  else if trimmed.toList.head? = some '"' then
    match unquote trimmed with
    | none => .error "invalid syntax"
    | some valueStr => .ok ((parseSmartRawValueString floatToUint64 valueStr).getD 0)
  else
    match parseUint trimmed.toList 0 with
    | some parsed => .ok parsed
    | none => .ok ((parseSmartRawValueString floatToUint64 trimmed).getD 0)

/-- The fields of a raw value as they stand in JSON; a value that is missing is empty. -/
structure RawFields where
  value : String
  string : String

/-- `RawValue`. -/
structure RawValue where
  value : UInt64
  string : String
  deriving DecidableEq, Repr

/-- `RawValue.UnmarshalJSON`, from the fields or the error of `json.Unmarshal`. -/
def RawValue.unmarshalJSON (fields : Except String RawFields) : Except String RawValue :=
  fields.bind fun tmp =>
    let value :=
      if tmp.value = "" then .ok 0 else SmartRawValue.unmarshalJSON floatToUint64 tmp.value
    value.map fun value =>
      ⟨(parseSmartRawValueString floatToUint64 tmp.string).getD value, tmp.string⟩

/-- The raw value of an attribute in `parseSmartForSata`. -/
def attributeRawValue (raw : RawValue) : UInt64 :=
  (parseSmartRawValueString floatToUint64 raw.string).getD raw.value

/-- A raw value that has been decoded is not changed there. -/
theorem attributeRawValue_of_decoded {fields : Except String RawFields} {raw : RawValue}
    (h : RawValue.unmarshalJSON floatToUint64 fields = .ok raw) :
    attributeRawValue floatToUint64 raw = raw.value := by
  cases fields with
  | error err => exact absurd h (by simp [RawValue.unmarshalJSON, Except.bind])
  | ok tmp =>
    simp only [RawValue.unmarshalJSON, Except.bind] at h
    cases hvalue : if tmp.value = "" then Except.ok 0 else
        SmartRawValue.unmarshalJSON floatToUint64 tmp.value with
    | error err => simp [hvalue, Except.map] at h
    | ok value =>
      rw [hvalue] at h
      obtain rfl := Except.ok.inj h
      unfold attributeRawValue
      cases parseSmartRawValueString floatToUint64 tmp.string <;> rfl

end Parser

/-- Whole hours. -/
def wholeHours (s : String) : Option UInt64 := parseUint s.toList 10

example : parseSmartRawValueString wholeHours "7344 (253d 8h)" = some 7344 ∧
    parseSmartRawValueString wholeHours "62312h+33m+50.907s" = some 62312 ∧
    SmartRawValue.unmarshalJSON wholeHours "\"39925 (212 206 0)\"" = .ok 39925 ∧
    SmartRawValue.unmarshalJSON wholeHours "57891864217128" = .ok 57891864217128 := by
  decide +kernel

/-! ## Decimals and annotations -/

/-- **A decimal**: digits, which may start with zeros, with a value of 64 bits. -/
structure Decimal where
  digits : List Char
  ne_nil : digits ≠ []
  isDigit : ∀ c ∈ digits, c.isDigit = true
  value_lt : Nat.ofDigitChars 10 digits 0 < UInt64.size

/-- The value. -/
def Decimal.value (d : Decimal) : ℕ := Nat.ofDigitChars 10 d.digits 0

theorem Decimal.toNat_ofNat (d : Decimal) {n : ℕ} (h : n ≤ d.value) :
    (UInt64.ofNat n).toNat = n := Nat.mod_eq_of_lt (h.trans_lt d.value_lt)

/-- **An annotation**: nothing, or a blank, a parenthesis and anything. -/
inductive Remark
  | none
  | note (rest : List Char)
  deriving DecidableEq, Repr

/-- The annotation as it is written. -/
def Remark.chars : Remark → List Char
  | .none => []
  | .note rest => ' ' :: '(' :: rest

theorem isSpace_of_isDigit {c : Char} (h : c.isDigit = true) : GoText.isSpace c = false := by
  obtain ⟨hge, hle⟩ := Char.isDigit_iff_toNat.mp h
  have hlow : '0'.toNat = 0x30 := rfl
  have hhigh : '9'.toNat = 0x39 := rfl
  have heq : c.toNat = c.val.toNat := rfl
  exact GoText.isSpace_of_printable (by omega) (by omega)

theorem Decimal.isTrimmed (d : Decimal) : GoText.IsTrimmed d.digits :=
  GoText.isTrimmed_of_forall fun c hc => isSpace_of_isDigit (d.isDigit c hc)

/-- Nothing of a decimal is trimmed. -/
theorem Decimal.trimSpace (d : Decimal) :
    GoText.trimSpace (String.ofList d.digits) = String.ofList d.digits :=
  GoText.trimSpace_word d.isTrimmed

/-- Of a decimal with an annotation, what follows the parenthesis may be trimmed. -/
theorem Decimal.trimSpace_note (d : Decimal) (rest : List Char) : ∃ rest',
    GoText.trimSpace (String.ofList (d.digits ++ ' ' :: '(' :: rest)) =
      String.ofList (d.digits ++ ' ' :: '(' :: rest') := by
  have hstart : GoText.IsTrimmed (d.digits ++ [' ', '(']) := by
    refine ⟨fun c hc => ?_, fun c hc => ?_⟩
    · rw [List.head?_append_of_ne_nil _ d.ne_nil] at hc
      exact d.isTrimmed.head c hc
    · simp only [List.getLast?_append, List.getLast?_cons_cons, List.getLast?_singleton,
        Option.some_or, Option.mem_some_iff] at hc
      rw [← hc]
      rfl
  obtain ⟨rest', htrim⟩ := GoText.trimSpace_append hstart (by simp) rest
  rw [List.append_assoc, List.append_assoc] at htrim
  exact ⟨rest', htrim⟩

section Parser

variable (floatToUint64 : String → Option UInt64)

/-- The three readings of a trimmed text. -/
theorem parseSmartRawValueString_eq {value : String} {chars : List Char}
    (htrim : GoText.trimSpace value = String.ofList chars) (hne : chars ≠ []) :
    parseSmartRawValueString floatToUint64 value =
      ((parseUint chars 0).or (parseHours floatToUint64 chars)).or (parseRun [] chars) := by
  unfold parseSmartRawValueString
  rw [htrim, String.toList_ofList]
  exact if_neg hne

theorem parseHours_of_notMem {value : List Char} (h : 'h' ∉ value) :
    parseHours floatToUint64 value = none := if_neg h

/-- The hours of a decimal with an annotation are no number. -/
theorem Decimal.parseHours_note (d : Decimal) (rest : List Char) :
    parseHours floatToUint64 (d.digits ++ ' ' :: '(' :: rest) = none := by
  have hdigits : ∀ c ∈ d.digits, decide (c ≠ 'h') = true := by
    intro c hc
    refine decide_eq_true fun h => ?_
    have hdigit := d.isDigit c hc
    rw [h] at hdigit
    exact absurd hdigit (by decide)
  have htake : (d.digits ++ ' ' :: '(' :: rest).takeWhile (· ≠ 'h') =
      d.digits ++ ' ' :: '(' :: rest.takeWhile (· ≠ 'h') := by
    rw [List.takeWhile_append_of_pos hdigits]
    rfl
  obtain ⟨rest', htrim⟩ := d.trimSpace_note (rest.takeWhile (· ≠ 'h'))
  have hfloat :
      parseFloat floatToUint64 (String.ofList (d.digits ++ ' ' :: '(' :: rest')) = none := by
    unfold parseFloat
    rw [String.toList_ofList, noNumber_paren.floatSyntax (by simp)]
    rfl
  unfold parseHours
  simp only [htake, htrim, hfloat]
  split_ifs <;> rfl

theorem parseRun_append {digits : List Char} (hdigit : ∀ c ∈ digits, c.isDigit = true)
    (run rest : List Char) : parseRun run (digits ++ rest) = parseRun (run ++ digits) rest := by
  induction digits generalizing run with
  | nil => simp
  | cons c digits ih =>
    obtain ⟨hc, hdigits⟩ := List.forall_mem_cons.mp hdigit
    rw [List.cons_append, parseRun, if_pos hc, ih hdigits]
    simp

/-- **The first run of digits is the decimal**, whatever the annotation. -/
theorem Decimal.parseRun (d : Decimal) (a : Remark) :
    parseRun [] (d.digits ++ a.chars) = some (.ofNat d.value) := by
  have hrun : parseUint d.digits 10 = some (.ofNat d.value) :=
    parseUint_ten d.ne_nil d.isDigit d.value_lt
  rw [parseRun_append d.isDigit, List.nil_append]
  cases a with
  | none => exact (if_neg d.ne_nil).trans hrun
  | note rest =>
    rw [Remark.chars, SmartRaw.parseRun, if_neg (by decide), if_neg d.ne_nil, hrun]
    rfl

/-- **With a note the decimal is read**: base 0 and the hours fail on the parenthesis. -/
theorem Decimal.parse_note (d : Decimal) (rest : List Char) :
    parseSmartRawValueString floatToUint64 (String.ofList (d.digits ++ ' ' :: '(' :: rest)) =
      some (.ofNat d.value) := by
  obtain ⟨rest', htrim⟩ := d.trimSpace_note rest
  have hzero : parseUint (d.digits ++ ' ' :: '(' :: rest') 0 = none :=
    parseUint_zero_of_notDigit (c := '(') (by decide) (by decide) (by decide) (by simp)
  have hrun := d.parseRun (.note rest')
  rw [parseSmartRawValueString_eq floatToUint64 htrim (by simp), hzero, d.parseHours_note]
  exact hrun

/-- **Without a note base 0 is in force**, and reads some decimals as octal numbers. -/
theorem Decimal.parse_plain (d : Decimal) :
    (¬ MisreadAsOctal d.digits ∧
      parseSmartRawValueString floatToUint64 (String.ofList d.digits) = some (.ofNat d.value)) ∨
    MisreadAsOctal d.digits ∧ ∃ n < d.value,
      parseSmartRawValueString floatToUint64 (String.ofList d.digits) = some (.ofNat n) := by
  have hhours : parseHours floatToUint64 d.digits = none :=
    parseHours_of_notMem floatToUint64 fun h => absurd (d.isDigit 'h' h) (by decide)
  have hrun := d.parseRun .none
  rw [Remark.chars, List.append_nil] at hrun
  rw [parseSmartRawValueString_eq floatToUint64 d.trimSpace d.ne_nil, hhours, hrun]
  rcases parseUint_zero_of_digits d.ne_nil d.isDigit d.value_lt with
    ⟨hnot, hparse | hparse⟩ | ⟨hmisread, n, hlt, hparse⟩
  · exact .inl ⟨hnot, by rw [hparse]; rfl⟩
  · exact .inl ⟨hnot, by rw [hparse]; rfl⟩
  · exact .inr ⟨hmisread, n, hlt, by rw [hparse]; rfl⟩

/-- The value is read exactly where the text is not misread as octal. -/
theorem Decimal.parse_iff (d : Decimal) (a : Remark) :
    (parseSmartRawValueString floatToUint64 (String.ofList (d.digits ++ a.chars))).map (·.toNat) =
      some d.value ↔ ¬ (a = .none ∧ MisreadAsOctal d.digits) := by
  cases a with
  | note rest =>
    rw [Remark.chars, d.parse_note floatToUint64 rest, Option.map_some, d.toNat_ofNat le_rfl]
    exact iff_of_true rfl (by simp)
  | none =>
    rw [Remark.chars, List.append_nil]
    rcases d.parse_plain floatToUint64 with ⟨hnot, hparse⟩ | ⟨hmisread, n, hlt, hparse⟩
    · rw [hparse, Option.map_some, d.toNat_ofNat le_rfl]
      exact iff_of_true rfl fun h => hnot h.2
    · rw [hparse, Option.map_some, d.toNat_ofNat hlt.le]
      exact iff_of_false (fun h => hlt.ne (Option.some.inj h)) fun h => h ⟨rfl, hmisread⟩

/-- A note changes the value exactly of a text that is misread as octal. -/
theorem Decimal.parse_note_iff (d : Decimal) (rest : List Char) :
    parseSmartRawValueString floatToUint64
        (String.ofList (d.digits ++ (Remark.note rest).chars)) =
      parseSmartRawValueString floatToUint64 (String.ofList d.digits) ↔
        ¬ MisreadAsOctal d.digits := by
  rw [Remark.chars, d.parse_note floatToUint64 rest]
  rcases d.parse_plain floatToUint64 with ⟨hnot, hparse⟩ | ⟨hmisread, n, hlt, hparse⟩
  · rw [hparse]
    exact iff_of_true rfl hnot
  · rw [hparse]
    refine iff_of_false (fun h => ?_) (not_not_intro hmisread)
    have hnat := congrArg UInt64.toNat (Option.some.inj h)
    rw [d.toNat_ofNat le_rfl, d.toNat_ofNat hlt.le] at hnat
    exact hlt.ne hnat.symm

end Parser

/-! ## Numbers and texts in JSON -/

/-- **A number in JSON**: the digits before and after the point, and the exponent with its letter
and its sign. -/
structure JsonNumber where
  negative : Bool
  int : List Char
  frac : Option (List Char)
  exp : Option (Char × List Char × List Char)
  int_digits : int ≠ [] ∧ ∀ c ∈ int, c.isDigit = true
  int_zero : int.head? = some '0' → int = ['0']
  frac_digits : ∀ ds ∈ frac, ds ≠ [] ∧ ∀ c ∈ ds, c.isDigit = true
  exp_digits : ∀ e ∈ exp, e.1 ∈ ['e', 'E'] ∧ e.2.1 ∈ [[], ['+'], ['-']] ∧
    e.2.2 ≠ [] ∧ ∀ c ∈ e.2.2, c.isDigit = true

/-- The number as it is written. -/
def JsonNumber.chars (number : JsonNumber) : List Char :=
  (if number.negative then ['-'] else []) ++ number.int ++
    (match number.frac with
      | none => []
      | some ds => '.' :: ds) ++
    match number.exp with
    | none => []
    | some (letter, sign, ds) => letter :: sign ++ ds

/-- A character of a number. -/
def isNumberChar (c : Char) : Bool := c.isDigit || c ∈ ['-', '+', '.', 'e', 'E']

theorem JsonNumber.isNumberChar_of_mem (number : JsonNumber) :
    ∀ c ∈ number.chars, isNumberChar c = true := by
  have hdigits {ds : List Char} (h : ∀ c ∈ ds, c.isDigit = true) :
      ∀ c ∈ ds, isNumberChar c = true := fun c hc => by rw [isNumberChar, h c hc, Bool.true_or]
  unfold JsonNumber.chars
  simp only [List.forall_mem_append]
  refine ⟨⟨⟨?_, hdigits number.int_digits.2⟩, ?_⟩, ?_⟩
  · split_ifs
    · exact List.forall_mem_singleton.mpr rfl
    · simp
  · cases hfrac : number.frac with
    | none => simp
    | some ds =>
      exact List.forall_mem_cons.mpr ⟨by decide, hdigits (number.frac_digits ds hfrac).2⟩
  · cases hexp : number.exp with
    | none => simp
    | some e =>
      obtain ⟨hletter, hsign, -, hds⟩ := number.exp_digits e hexp
      refine List.forall_mem_append.mpr ⟨List.forall_mem_cons.mpr ⟨?_, ?_⟩, hdigits hds⟩
      · exact List.all_eq_true.mp (by decide : ['e', 'E'].all isNumberChar) _ hletter
      · have hsigns : [[], ['+'], ['-']].all (·.all isNumberChar) := by decide
        exact List.all_eq_true.mp (List.all_eq_true.mp hsigns _ hsign)

theorem JsonNumber.chars_ne_nil (number : JsonNumber) : number.chars ≠ [] := by
  simp [JsonNumber.chars, number.int_digits.1]

theorem isSpace_of_isNumberChar {c : Char} (h : isNumberChar c = true) :
    GoText.isSpace c = false := by
  rw [isNumberChar, Bool.or_eq_true, decide_eq_true_eq] at h
  rcases h with h | h
  · exact isSpace_of_isDigit h
  · have hmarks : ['-', '+', '.', 'e', 'E'].all (!GoText.isSpace ·) := by decide
    exact Bool.not_eq_true' _ ▸ List.all_eq_true.mp hmarks c h

theorem unquoteLoop_concat {s : List Char} (h : ∀ c ∈ s, c ≠ '"' ∧ c ≠ '\\' ∧ c ≠ '\n') :
    unquoteLoop (s ++ ['"']) = some s := by
  induction s with
  | nil => rfl
  | cons c s ih =>
    obtain ⟨⟨hquote, hescape, hline⟩, hs⟩ := List.forall_mem_cons.mp h
    rw [List.cons_append, unquoteLoop, if_neg hline, ih hs]
    · rfl
    · exact fun _ _ _ _ _ heq => absurd heq hescape
    · exact fun _ _ heq => absurd heq hescape
    · exact hquote

/-- The number as a JSON string. -/
def JsonNumber.quoted (number : JsonNumber) : String := String.ofList ('"' :: number.chars ++ ['"'])

theorem JsonNumber.quoted_ne (number : JsonNumber) : number.quoted ≠ "" := fun h =>
  absurd (String.ofList_injective (show _ = String.ofList [] from h)) (by simp)

/-- The characters of a number need no escapes. -/
theorem JsonNumber.plain (number : JsonNumber) :
    ∀ c ∈ number.chars, c ≠ '"' ∧ c ≠ '\\' ∧ c ≠ '\n' := by
  intro c hc
  have hnumber := number.isNumberChar_of_mem c hc
  refine ⟨?_, ?_, ?_⟩ <;>
  · rintro rfl
    exact absurd hnumber (by decide)

theorem JsonNumber.isTrimmed (number : JsonNumber) : GoText.IsTrimmed number.chars :=
  GoText.isTrimmed_of_forall fun c hc => isSpace_of_isNumberChar (number.isNumberChar_of_mem c hc)

theorem JsonNumber.trimSpace (number : JsonNumber) :
    GoText.trimSpace (String.ofList number.chars) = String.ofList number.chars :=
  GoText.trimSpace_word number.isTrimmed

theorem JsonNumber.trimSpace_quoted (number : JsonNumber) :
    GoText.trimSpace number.quoted = number.quoted := by
  refine GoText.trimSpace_word ⟨fun c hc => ?_, fun c hc => ?_⟩
  · obtain rfl := Option.mem_some_iff.mp hc
    rfl
  · rw [List.getLast?_concat, Option.mem_some_iff] at hc
    rw [← hc]
    rfl

theorem JsonNumber.unquote_quoted (number : JsonNumber) :
    unquote number.quoted = some (String.ofList number.chars) := by
  unfold unquote JsonNumber.quoted
  rw [String.toList_ofList, List.cons_append, List.drop_one, List.tail_cons,
    unquoteLoop_concat number.plain]
  rfl

/-- A number is neither empty nor `null`, and it does not start with a quote. -/
theorem JsonNumber.not_special (number : JsonNumber) :
    ¬ (String.ofList number.chars = "" ∨ String.ofList number.chars = "null") ∧
      number.chars.head? ≠ some '"' := by
  have hnull : 'n' ∉ number.chars := fun h =>
    absurd (number.isNumberChar_of_mem 'n' h) (by decide)
  refine ⟨?_, fun h => ?_⟩
  · rintro (h | h)
    · exact number.chars_ne_nil (String.ofList_injective h)
    · have hlist := String.ofList_injective (show _ = String.ofList "null".toList from h)
      rw [hlist] at hnull
      exact hnull (by decide)
  · exact (number.plain '"' (List.mem_of_mem_head? h)).1 rfl

section Parser

variable (floatToUint64 : String → Option UInt64)

/-- Base 0 comes first in either reading. -/
theorem JsonNumber.unmarshal (number : JsonNumber) :
    SmartRawValue.unmarshalJSON floatToUint64 (String.ofList number.chars) =
      .ok ((parseSmartRawValueString floatToUint64 (String.ofList number.chars)).getD 0) := by
  obtain ⟨hspecial, hquote⟩ := number.not_special
  unfold SmartRawValue.unmarshalJSON
  rw [number.trimSpace]
  simp only [if_neg hspecial, String.toList_ofList, if_neg hquote]
  rw [parseSmartRawValueString_eq floatToUint64 number.trimSpace number.chars_ne_nil]
  cases parseUint number.chars 0 with
  | none => rfl
  | some parsed => rfl

theorem JsonNumber.unmarshal_quoted (number : JsonNumber) :
    SmartRawValue.unmarshalJSON floatToUint64 number.quoted =
      .ok ((parseSmartRawValueString floatToUint64 (String.ofList number.chars)).getD 0) := by
  have hspecial : ¬ (number.quoted = "" ∨ number.quoted = "null") := by
    rintro (h | h)
    · exact number.quoted_ne h
    · have hlist := String.ofList_injective (show _ = String.ofList "null".toList from h)
      exact absurd (List.cons.inj hlist).1 (by decide)
  unfold SmartRawValue.unmarshalJSON
  rw [number.trimSpace_quoted]
  simp only [if_neg hspecial, number.unquote_quoted]
  rw [JsonNumber.quoted, String.toList_ofList]
  rfl

/-- A raw value does not depend on whether its number is in quotes. -/
theorem JsonNumber.unmarshal_rawValue (number : JsonNumber) (string : String) :
    RawValue.unmarshalJSON floatToUint64 (.ok ⟨String.ofList number.chars, string⟩) =
      RawValue.unmarshalJSON floatToUint64 (.ok ⟨number.quoted, string⟩) := by
  have hne : String.ofList number.chars ≠ "" := fun h => number.not_special.1 (.inl h)
  unfold RawValue.unmarshalJSON
  simp only [Except.bind, if_neg hne, if_neg number.quoted_ne, number.unmarshal,
    number.unmarshal_quoted]

/-- **When raw values are read as decimals**: the value of the digits is read, with or without an
annotation, exactly unless the digits stand alone and are misread as octal; an annotation changes
the value exactly of such digits; and a number and the same number in quotes are decoded alike. -/
theorem parseSmartRawValueString_decimal_iff :
    (∀ (d : Decimal) (a : Remark),
      (parseSmartRawValueString floatToUint64 (String.ofList (d.digits ++ a.chars))).map (·.toNat) =
        some d.value ↔ ¬ (a = .none ∧ MisreadAsOctal d.digits)) ∧
    (∀ (d : Decimal) (rest : List Char),
      parseSmartRawValueString floatToUint64
          (String.ofList (d.digits ++ (Remark.note rest).chars)) =
        parseSmartRawValueString floatToUint64 (String.ofList d.digits) ↔
          ¬ MisreadAsOctal d.digits) ∧
    ∀ number : JsonNumber,
      SmartRawValue.unmarshalJSON floatToUint64 (String.ofList number.chars) =
        SmartRawValue.unmarshalJSON floatToUint64 number.quoted ∧
      ∀ string : String,
        RawValue.unmarshalJSON floatToUint64 (.ok ⟨String.ofList number.chars, string⟩) =
          RawValue.unmarshalJSON floatToUint64 (.ok ⟨number.quoted, string⟩) :=
  ⟨fun d a => d.parse_iff floatToUint64 a, fun d rest => d.parse_note_iff floatToUint64 rest,
    fun number => ⟨(number.unmarshal floatToUint64).trans
      (number.unmarshal_quoted floatToUint64).symm,
      number.unmarshal_rawValue floatToUint64⟩⟩

end Parser

/-- Ten, with a leading zero. -/
def ten : Decimal where
  digits := ['0', '1', '0']
  ne_nil := by decide
  isDigit := List.all_eq_true.mp (by decide)
  value_lt := by decide

/-- **A decimal that is read as octal**, and as a decimal when it is annotated. -/
theorem not_parseSmartRawValueString_decimal :
    parseSmartRawValueString wholeHours "010" = some 8 ∧
      parseSmartRawValueString wholeHours "010 (0)" = some 10 ∧
      ¬ ∀ (d : Decimal) (a : Remark),
        (parseSmartRawValueString wholeHours (String.ofList (d.digits ++ a.chars))).map (·.toNat) =
          some d.value := by
  refine ⟨by decide +kernel, by decide +kernel, fun h => ?_⟩
  have hten := h ten .none
  revert hten
  decide +kernel

end SmartRaw

end Beszel
