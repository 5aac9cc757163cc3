import Beszel.Machinery.Decoder

/-!
# Common/Json — where a JSON value ends

The scanner of `encoding/json`: a state for what has just been read, and a stack of the objects and
arrays that are open.
-/

namespace Beszel

open Machinery

namespace Json

/-- What is open: an object before or after the key, or an array. -/
inductive ParseState
  | objectKey
  | objectValue
  | arrayValue
  deriving DecidableEq

/-- What has just been read. -/
inductive Mode
  | beginValue
  | beginValueOrEmpty
  | beginStringOrEmpty
  | beginString
  | endValue
  | inString
  | inStringEsc
  | inStringEscU (left : ℕ)
  | neg
  | digits
  | zero
  | dot
  | dotDigits
  | exponent
  | exponentSign
  | exponentDigits
  | literal (word : String) (left : List Char)
  deriving DecidableEq

/-- `scanner`, with the innermost value that is open first. -/
structure State where
  mode : Mode
  parseState : List ParseState
  deriving DecidableEq

/-- `SyntaxError`: which byte cannot stand where. -/
structure SyntaxError where
  byte : UInt8
  context : String
  deriving DecidableEq

/-- `isSpace`. -/
def isSpace (c : UInt8) : Bool := c = 0x20 || c = 0x09 || c = 0x0d || c = 0x0a

/-- A decimal digit. -/
def isDigit (c : UInt8) : Bool := 0x30 ≤ c && c ≤ 0x39

/-- A hexadecimal digit. -/
def isHexDigit (c : UInt8) : Bool :=
  isDigit c || 0x61 ≤ c && c ≤ 0x66 || 0x41 ≤ c && c ≤ 0x46

/-- `maxNestingDepth`. -/
def maxNestingDepth : ℕ := 10000

/-- `pushParseState`. -/
def pushParseState (s : State) (c : UInt8) (ps : ParseState) (mode : Mode) :
    Verdict State SyntaxError :=
  if s.parseState.length + 1 ≤ maxNestingDepth then .more ⟨mode, ps :: s.parseState⟩
  else .error ⟨c, "exceeded max depth"⟩

/-- `popParseState`. -/
def popParseState (below : List ParseState) : Verdict State SyntaxError :=
  if below = [] then .endAfter else .more ⟨.endValue, below⟩

/-- `stateEndValue`: a value has ended, a number only with the byte that follows it. -/
def stateEndValue (stack : List ParseState) (c : UInt8) : Verdict State SyntaxError :=
  match stack with
  | [] => .endBefore
  | ps :: below =>
    if isSpace c then .more ⟨.endValue, stack⟩
    else match ps with
      | .objectKey =>
        if c = ':'.toUInt8 then .more ⟨.beginValue, .objectValue :: below⟩
        else .error ⟨c, "after object key"⟩
      | .objectValue =>
        if c = ','.toUInt8 then .more ⟨.beginString, .objectKey :: below⟩
        else if c = '}'.toUInt8 then popParseState below
        else .error ⟨c, "after object key:value pair"⟩
      | .arrayValue =>
        if c = ','.toUInt8 then .more ⟨.beginValue, stack⟩
        else if c = ']'.toUInt8 then popParseState below
        else .error ⟨c, "after array element"⟩

/-- `stateBeginValue`. -/
def stateBeginValue (s : State) (c : UInt8) : Verdict State SyntaxError :=
  if isSpace c then .more s
  else if c = '{'.toUInt8 then pushParseState s c .objectKey .beginStringOrEmpty
  else if c = '['.toUInt8 then pushParseState s c .arrayValue .beginValueOrEmpty
  else if c = '"'.toUInt8 then .more { s with mode := .inString }
  else if c = '-'.toUInt8 then .more { s with mode := .neg }
  else if c = '0'.toUInt8 then .more { s with mode := .zero }
  else if c = 't'.toUInt8 then .more { s with mode := .literal "true" ['r', 'u', 'e'] }
  else if c = 'f'.toUInt8 then .more { s with mode := .literal "false" ['a', 'l', 's', 'e'] }
  else if c = 'n'.toUInt8 then .more { s with mode := .literal "null" ['u', 'l', 'l'] }
  else if isDigit c then .more { s with mode := .digits }
  else .error ⟨c, "looking for beginning of value"⟩

/-- `stateBeginString`. -/
def stateBeginString (s : State) (c : UInt8) : Verdict State SyntaxError :=
  if isSpace c then .more s
  else if c = '"'.toUInt8 then .more { s with mode := .inString }
  else .error ⟨c, "looking for beginning of object key string"⟩

/-- `state0`: what follows a number that has neither fraction nor exponent yet. -/
def state0 (s : State) (c : UInt8) : Verdict State SyntaxError :=
  if c = '.'.toUInt8 then .more { s with mode := .dot }
  else if c = 'e'.toUInt8 ∨ c = 'E'.toUInt8 then .more { s with mode := .exponent }
  else stateEndValue s.parseState c

/-- `stateESign`. -/
def stateESign (s : State) (c : UInt8) : Verdict State SyntaxError :=
  if isDigit c then .more { s with mode := .exponentDigits }
  else .error ⟨c, "in exponent of numeric literal"⟩

/-- **`scanner.step`.** -/
def step (s : State) (c : UInt8) : Verdict State SyntaxError :=
  match s.mode with
  | .beginValue => stateBeginValue s c
  | .beginValueOrEmpty =>
    if isSpace c then .more s
    else if c = ']'.toUInt8 then stateEndValue s.parseState c
    else stateBeginValue s c
  | .beginStringOrEmpty =>
    if isSpace c then .more s
    else if c = '}'.toUInt8 then stateEndValue (.objectValue :: s.parseState.tail) c
    else stateBeginString s c
  | .beginString => stateBeginString s c
  | .endValue => stateEndValue s.parseState c
  | .inString =>
    if c = '"'.toUInt8 then .more { s with mode := .endValue }
    else if c = '\\'.toUInt8 then .more { s with mode := .inStringEsc }
    else if c < 0x20 then .error ⟨c, "in string literal"⟩
    else .more s
  | .inStringEsc =>
    if c ∈ ['b', 'f', 'n', 'r', 't', '\\', '/', '"'].map Char.toUInt8 then
      .more { s with mode := .inString }
    else if c = 'u'.toUInt8 then .more { s with mode := .inStringEscU 4 }
    else .error ⟨c, "in string escape code"⟩
  | .inStringEscU left =>
    if isHexDigit c then
      .more { s with mode := if left ≤ 1 then .inString else .inStringEscU (left - 1) }
    else .error ⟨c, "in \\u hexadecimal character escape"⟩
  | .neg =>
    if c = '0'.toUInt8 then .more { s with mode := .zero }
    else if isDigit c then .more { s with mode := .digits }
    else .error ⟨c, "in numeric literal"⟩
  | .digits => if isDigit c then .more s else state0 s c
  | .zero => state0 s c
  | .dot =>
    if isDigit c then .more { s with mode := .dotDigits }
    else .error ⟨c, "after decimal point in numeric literal"⟩
  | .dotDigits =>
    if isDigit c then .more s
    else if c = 'e'.toUInt8 ∨ c = 'E'.toUInt8 then .more { s with mode := .exponent }
    else stateEndValue s.parseState c
  | .exponent =>
    if c = '+'.toUInt8 ∨ c = '-'.toUInt8 then .more { s with mode := .exponentSign }
    else stateESign s c
  | .exponentSign => stateESign s c
  | .exponentDigits => if isDigit c then .more s else stateEndValue s.parseState c
  | .literal word left =>
    match left with
    | [] => stateEndValue s.parseState c
    | expected :: left =>
      if c = expected.toUInt8 then
        .more { s with mode := if left = [] then .endValue else .literal word left }
      else .error ⟨c, "in literal " ++ word ++ " (expecting '" ++ expected.toString ++ "')"⟩

/-- The value is complete where a space would end it. -/
def complete (s : State) : Bool :=
  match step s 0x20 with
  | .endBefore => true
  | _ => false

/-- **The scanner of JSON.** -/
def scanner : Scanner UInt8 State SyntaxError where
  start := ⟨.beginValue, []⟩
  step := step
  complete := complete
  blank := isSpace
  step_blank := fun ha => if_pos ha
  start_incomplete := rfl

/-- There are JSON values. -/
theorem readValue_exists : ∃ text n, scanner.readValue text = .ok n :=
  ⟨[0x5b, 0x5d], 2, rfl⟩

end Json

end Beszel
