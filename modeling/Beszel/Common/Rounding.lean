import Mathlib.Algebra.Order.Field.Rat
import Mathlib.Data.Rat.Floor
import Mathlib.Tactic.FieldSimp
import Mathlib.Tactic.Linarith
import Mathlib.Tactic.Positivity

/-!
# Common/Rounding — two decimals, as the agent and the hub round them
-/

namespace Beszel

/-- `math.Round`: half away from zero. -/
def mathRound (x : ℚ) : ℤ := if 0 ≤ x then ⌊x + 1 / 2⌋ else -⌊-x + 1 / 2⌋

/-- `twoDecimals`. -/
def twoDecimals (value : ℚ) : ℚ := (mathRound (value * 100) : ℚ) / 100

/-- A whole number is rounded to itself. -/
@[simp] theorem mathRound_intCast (n : ℤ) : mathRound n = n := by
  have hfloor : ∀ m : ℤ, ⌊(m : ℚ) + 1 / 2⌋ = m := by
    intro m
    rw [Int.floor_intCast_add]
    norm_num
  unfold mathRound
  split_ifs
  · exact hfloor n
  · rw [← Int.cast_neg, hfloor, neg_neg]

@[simp] theorem mathRound_zero : mathRound 0 = 0 := mathRound_intCast 0

theorem mathRound_mono {x y : ℚ} (hxy : x ≤ y) : mathRound x ≤ mathRound y := by
  unfold mathRound
  split_ifs with hx hy hy
  · exact Int.floor_mono (by linarith)
  · exact absurd (hx.trans hxy) hy
  · have hleft : 0 ≤ ⌊-x + 1 / 2⌋ := Int.floor_nonneg.mpr (by linarith)
    have hright : 0 ≤ ⌊y + 1 / 2⌋ := Int.floor_nonneg.mpr (by linarith)
    omega
  · exact Int.neg_le_neg (Int.floor_mono (by linarith))

/-- Rounding is off by a half at most. -/
theorem abs_mathRound_sub_le (x : ℚ) : |(mathRound x : ℚ) - x| ≤ 1 / 2 := by
  have hfloor : ∀ y : ℚ, |(⌊y + 1 / 2⌋ : ℚ) - y| ≤ 1 / 2 := by
    intro y
    have hle := Int.floor_le (y + 1 / 2)
    have hlt := Int.lt_floor_add_one (y + 1 / 2)
    rw [abs_le]
    constructor <;> linarith
  unfold mathRound
  split_ifs
  · exact hfloor x
  · have h := hfloor (-x)
    rw [← abs_neg] at h
    push_cast
    convert h using 2
    ring

/-- Less than a half is rounded to zero. -/
theorem mathRound_eq_zero {x : ℚ} (h : |x| < 1 / 2) : mathRound x = 0 := by
  have hdiff := abs_mathRound_sub_le x
  rw [abs_lt] at h
  rw [abs_le] at hdiff
  have hlow : (-1 : ℚ) < mathRound x := by linarith
  have hhigh : (mathRound x : ℚ) < 1 := by linarith
  have hlow' : -1 < mathRound x := by exact_mod_cast hlow
  have hhigh' : mathRound x < 1 := by exact_mod_cast hhigh
  omega

theorem twoDecimals_mono {x y : ℚ} (hxy : x ≤ y) : twoDecimals x ≤ twoDecimals y := by
  have hround : mathRound (x * 100) ≤ mathRound (y * 100) := mathRound_mono (by linarith)
  have hcast : (mathRound (x * 100) : ℚ) ≤ mathRound (y * 100) := by exact_mod_cast hround
  unfold twoDecimals
  linarith

/-- Hundredths are rounded to themselves. -/
theorem twoDecimals_hundredths (n : ℤ) : twoDecimals (n / 100) = n / 100 := by
  rw [twoDecimals, div_mul_cancel₀ _ (by norm_num), mathRound_intCast]

theorem twoDecimals_intCast (n : ℤ) : twoDecimals n = n := by
  have h := twoDecimals_hundredths (n * 100)
  rwa [Int.cast_mul, Int.cast_ofNat, mul_div_cancel_right₀ _ (by norm_num)] at h

@[simp] theorem twoDecimals_natCast (n : ℕ) : twoDecimals n = n := twoDecimals_intCast n

@[simp] theorem twoDecimals_zero : twoDecimals 0 = 0 := twoDecimals_natCast 0

/-- **A quotient of whole numbers is rounded in whole numbers.** -/
theorem twoDecimals_natCast_div (b : ℕ) {m : ℕ} (hm : 0 < m) :
    twoDecimals (b / m) = ((200 * b + m) / (2 * m) : ℕ) / 100 := by
  have hpos : (0 : ℚ) < m := by exact_mod_cast hm
  have hnonneg : (0 : ℚ) ≤ b / m * 100 := by positivity
  have hval : (b : ℚ) / m * 100 + 1 / 2 = ((200 * b + m : ℕ) : ℚ) / (2 * m : ℕ) := by
    push_cast
    field_simp
    ring
  unfold twoDecimals mathRound
  rw [if_pos hnonneg, hval, Rat.floor_natCast_div_natCast]
  rfl

/-- Two decimals are off by half a hundredth at most. -/
theorem abs_twoDecimals_sub_le (x : ℚ) : |twoDecimals x - x| ≤ 1 / 200 := by
  have h := abs_mathRound_sub_le (x * 100)
  have hval : twoDecimals x - x = ((mathRound (x * 100) : ℚ) - x * 100) / 100 := by
    unfold twoDecimals
    ring
  rw [hval, abs_div, abs_of_pos (by norm_num : (0 : ℚ) < 100)]
  linarith

end Beszel
