import Beszel.Common.Text
import Beszel.Hub.Record
import Mathlib.Data.Int.Basic

/-!
# Site/Versions — the agent versions that have the one-minute chart

    "0.13.2-beta" ──cut at -──▸ "0.13.2" ──split, Number──▸ ⟨0, 13, 2⟩

`parseSemVer` and `compareSemVer` of `internal/site/src/lib/utils.ts`, and the two places of
`internal/site/src/components/routes/system.tsx` that switch the one-minute chart off for an old
agent.  One compares two objects, the other looks at the minor number alone; the chart's
`minVersion` is compared number by number.
-/

namespace Beszel

namespace Versions

/-! ## Numbers -/

/-- The numbers that come up: whole ones, the infinities, and `NaN`. -/
inductive Number
  | whole (n : ℤ)
  | infinity
  | negInfinity
  | nan
  deriving DecidableEq, Repr

/-- `a < b`. -/
def Number.lt : Number → Number → Bool
  | .whole a, .whole b => a < b
  | .whole _, .infinity => true
  | .negInfinity, .whole _ => true
  | .negInfinity, .infinity => true
  | _, _ => false

/-- `a !== b`: `NaN` is not even equal to itself. -/
def Number.strictNe (a b : Number) : Bool := a = .nan ∨ b = .nan ∨ a ≠ b

/-- `a - b`.  The difference of two whole numbers is not rounded: only its sign is read. -/
def Number.sub : Number → Number → Number
  | .whole a, .whole b => .whole (a - b)
  | .whole _, .infinity => .negInfinity
  | .whole _, .negInfinity => .infinity
  | .infinity, .whole _ => .infinity
  | .infinity, .negInfinity => .infinity
  | .negInfinity, .whole _ => .negInfinity
  | .negInfinity, .infinity => .negInfinity
  | _, _ => .nan

/-- A natural number as a double: 53 bits, ties to even, and infinite from `2 ^ 1024` on. -/
def double (n : ℕ) : Number :=
  let shift := n.log2 - 52
  let kept := n >>> shift
  let dropped := n - kept <<< shift
  let half := (1 <<< shift) / 2
  let kept := if half < dropped ∨ (0 < half ∧ half = dropped ∧ kept % 2 = 1) then kept + 1 else kept
  if 1 <<< 1024 ≤ kept <<< shift then .infinity else .whole (kept <<< shift)

/-- The white space that `Number` skips. -/
def isWhiteSpace (c : Char) : Bool :=
  c.val = 0x20 || 0x09 ≤ c.val && c.val ≤ 0x0d || c.val = 0xa0 || c.val = 0xfeff ||
    c.val = 0x1680 || 0x2000 ≤ c.val && c.val ≤ 0x200a || c.val = 0x2028 || c.val = 0x2029 ||
    c.val = 0x202f || c.val = 0x205f || c.val = 0x3000

/-- A digit to a base of at most sixteen. -/
def digit (base : ℕ) (c : Char) : Option ℕ :=
  let d :=
    if c.isDigit then c.toNat - '0'.toNat
    else if 'a' ≤ c ∧ c ≤ 'f' then c.toNat - 'a'.toNat + 10
    else if 'A' ≤ c ∧ c ≤ 'F' then c.toNat - 'A'.toNat + 10
    else base
  if d < base then some d else none

/-- At least one digit, and nothing else. -/
def digits (base : ℕ) (cs : List Char) : Option ℕ :=
  if cs = [] then none else (cs.mapM (digit base)).map (·.foldl (base * · + ·) 0)

/-- A text without a sign, and without a fraction: digits, and an exponent. -/
def decimal (cs : List Char) : Number :=
  if cs = "Infinity".toList then .infinity
  else
    let isE (c : Char) : Bool := c = 'e' ∨ c = 'E'
    let value :=
      match cs.dropWhile (!isE ·) with
      | [] => digits 10 cs
      | _ :: exponent => do
        let mantissa ← digits 10 (cs.takeWhile (!isE ·))
        let exponent ← digits 10 (if exponent.head? = some '+' then exponent.tail else exponent)
        return mantissa * Nat.pow 10 exponent
    value.elim .nan double

/-- `Number`, for a text that has no `-` and no `.`. -/
def number (part : String) : Number :=
  let cs := ((part.toList.dropWhile isWhiteSpace).reverse.dropWhile isWhiteSpace).reverse
  match cs with
  | [] => .whole 0
  | '0' :: 'x' :: cs => (digits 16 cs).elim .nan double
  | '0' :: 'X' :: cs => (digits 16 cs).elim .nan double
  | '0' :: 'o' :: cs => (digits 8 cs).elim .nan double
  | '0' :: 'O' :: cs => (digits 8 cs).elim .nan double
  | '0' :: 'b' :: cs => (digits 2 cs).elim .nan double
  | '0' :: 'B' :: cs => (digits 2 cs).elim .nan double
  | '+' :: cs => decimal cs
  | cs => decimal cs

/-! ## Versions -/

structure SemVer where
  major : Number
  minor : Number
  patch : Number
  deriving DecidableEq, Repr

/-- The texts between the dots, before the first `-`. -/
def parts (semVer : String) : List String :=
  let semVer :=
    if '-' ∈ semVer.toList then String.ofList (semVer.toList.takeWhile (· ≠ '-')) else semVer
  GoText.split semVer '.'

/-- `parseSemVer`.  A part that is missing is zero; one that is not a number stays `NaN`. -/
def parseSemVer (semVer : String) : SemVer :=
  let parts := (parts semVer).map number
  { major := parts[0]?.getD (.whole 0)
    minor := parts[1]?.getD (.whole 0)
    patch := parts[2]?.getD (.whole 0) }

/-- `compareSemVer`. -/
def compareSemVer (a b : SemVer) : Number :=
  if a.major.strictNe b.major then a.major.sub b.major
  else if a.minor.strictNe b.minor then a.minor.sub b.minor
  else a.patch.sub b.patch

/-- What `<` makes of an object without a `valueOf` or `toString` of its own. -/
def toPrimitive (_ : SemVer) : String := "[object Object]"

/-- The `minVersion` of the one-minute chart in `chartTimeData`. -/
def minVersion : String := "0.13.0"

/-- "hide 1m chart time if system agent version is less than 0.13.0". -/
def hidesMinute (v : String) : Bool :=
  toPrimitive (parseSemVer v) < toPrimitive (parseSemVer "0.13.0")

/-- The gate before the realtime subscription. -/
def leavesMinute (status : SystemStatus) (v : String) : Bool :=
  status ≠ .up ∨ (parseSemVer v).minor.lt (.whole 13)

/-- The version is below the one that the chart asks for. -/
def belowMinVersion (v : String) : Bool :=
  (compareSemVer (parseSemVer v) (parseSemVer minVersion)).lt (.whole 0)

/-- **The two places agree with the chart** about a version, for a system that is up. -/
def Agrees (v : String) : Prop :=
  (hidesMinute v ↔ belowMinVersion v) ∧ (leavesMinute .up v ↔ belowMinVersion v)

instance (v : String) : Decidable (Agrees v) := by
  unfold Agrees
  infer_instance

/-! ## When they agree -/

/-- The difference to a whole number is negative below it. -/
theorem Number.sub_lt_zero (a : Number) (n : ℤ) :
    (a.sub (.whole n)).lt (.whole 0) = a.lt (.whole n) := by
  cases a with
  | whole a => exact decide_eq_decide.mpr (by omega)
  | infinity => rfl
  | negInfinity => rfl
  | nan => rfl

theorem Number.strictNe_whole (a : Number) (n : ℤ) :
    a.strictNe (.whole n) = true ↔ a ≠ .whole n := by
  unfold Number.strictNe
  rw [decide_eq_true_iff]
  constructor
  · rintro (rfl | h | h)
    · simp
    · cases h
    · exact h
  · exact fun h => .inr (.inr h)

theorem double_not_negative (n : ℕ) : (double n).lt (.whole 0) = false := by
  unfold double
  dsimp only
  split_ifs <;> rfl

theorem elim_double_not_negative (n : Option ℕ) :
    (n.elim .nan double).lt (.whole 0) = false := by
  cases n with
  | none => rfl
  | some n => exact double_not_negative n

theorem decimal_not_negative (cs : List Char) : (decimal cs).lt (.whole 0) = false := by
  unfold decimal
  split_ifs
  · rfl
  · exact elim_double_not_negative _

/-- **No part of a version is negative.** -/
theorem number_not_negative (part : String) : (number part).lt (.whole 0) = false := by
  unfold number
  dsimp only
  split
  · rfl
  all_goals first | exact elim_double_not_negative _ | exact decimal_not_negative _

theorem part_not_negative (parts : List String) (i : ℕ) :
    ((parts.map number)[i]?.getD (.whole 0)).lt (.whole 0) = false := by
  rw [List.getElem?_map]
  cases parts[i]? with
  | none => rfl
  | some part => exact number_not_negative part

theorem major_parseSemVer (v : String) :
    (parseSemVer v).major = ((parts v).map number)[0]?.getD (.whole 0) := by
  rw [parseSemVer]

theorem minor_parseSemVer (v : String) :
    (parseSemVer v).minor = ((parts v).map number)[1]?.getD (.whole 0) := by
  rw [parseSemVer]

theorem patch_parseSemVer (v : String) :
    (parseSemVer v).patch = ((parts v).map number)[2]?.getD (.whole 0) := by
  rw [parseSemVer]

theorem parseSemVer_minVersion : parseSemVer minVersion = ⟨.whole 0, .whole 13, .whole 0⟩ := by
  decide

/-- **A version is below the one the chart asks for** if its major number is zero and its minor
number is below thirteen. -/
theorem belowMinVersion_iff (v : String) :
    belowMinVersion v ↔
      (parseSemVer v).major = .whole 0 ∧ (parseSemVer v).minor.lt (.whole 13) := by
  have hmajor : (parseSemVer v).major.lt (.whole 0) = false := by
    rw [major_parseSemVer, part_not_negative]
  have hpatch : (parseSemVer v).patch.lt (.whole 0) = false := by
    rw [patch_parseSemVer, part_not_negative]
  unfold belowMinVersion compareSemVer
  rw [parseSemVer_minVersion]
  simp only [Number.strictNe_whole]
  split_ifs with hmajor_ne hminor_ne
  · rw [Number.sub_lt_zero, hmajor]
    simp [hmajor_ne]
  · rw [Number.sub_lt_zero, not_not.mp hmajor_ne]
    simp
  · rw [Number.sub_lt_zero, hpatch, not_not.mp hminor_ne]
    simp [Number.lt]

/-- The comparison of two objects never holds. -/
theorem hidesMinute_eq_false (v : String) : hidesMinute v = false := by
  simp [hidesMinute, toPrimitive]

theorem leavesMinute_up (v : String) :
    leavesMinute .up v = (parseSemVer v).minor.lt (.whole 13) := by
  simp [leavesMinute]

/-- **When the two places agree with the chart**: exactly for the versions with a second part that
is not below thirteen. -/
theorem agrees_iff (v : String) :
    Agrees v ↔ ∃ part, (parts v)[1]? = some part ∧ (number part).lt (.whole 13) = false := by
  have hminor : Agrees v ↔ (parseSemVer v).minor.lt (.whole 13) = false := by
    unfold Agrees
    rw [hidesMinute_eq_false, leavesMinute_up, belowMinVersion_iff]
    cases (parseSemVer v).minor.lt (.whole 13) <;> simp
  rw [hminor, minor_parseSemVer, List.getElem?_map]
  cases (parts v)[1]? with
  | none => simp [Number.lt]
  | some part => simp

/-- An old agent keeps the chart on at the first place, and an agent of the next major version loses
it at the second. -/
theorem agrees_fails : ¬ Agrees "0.12.0" ∧ ¬ Agrees "1.0.0" := by decide

end Versions

end Beszel
