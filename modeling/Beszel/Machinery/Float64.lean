import Mathlib.Algebra.Order.Floor.Ring
import Mathlib.Data.Int.Log
import Mathlib.Data.Rat.Floor
import Mathlib.Tactic.FieldSimp
import Mathlib.Tactic.Linarith
import Mathlib.Tactic.NormNum
import Mathlib.Tactic.Positivity
import Mathlib.Tactic.Ring

/-!
# Machinery/Float64 — rounding to the nearest `float64`

    x ──÷ ulp──▸ nearest integer, ties to even ──× ulp──▸ float64 x

The values between the least normal number and the greatest finite one: what is rounded keeps 53
binary digits.  Of a rational that is not negative the error is at most one part in 2⁵³, natural
numbers below 2⁵³ are exact, and so is the integer part of their quotients.
-/

namespace Machinery

/-- The nearest integer, of two the even one. -/
def nearestEven (y : ℚ) : ℤ :=
  if Int.fract y < 1 / 2 ∨ Int.fract y = 1 / 2 ∧ Even ⌊y⌋ then ⌊y⌋ else ⌊y⌋ + 1

/-- The unit in the last place. -/
def ulp (x : ℚ) : ℚ := 2 ^ (Int.log 2 |x| - 52)

/-- **The nearest `float64`.** -/
def float64 (x : ℚ) : ℚ := nearestEven (x / ulp x) * ulp x

/-- Division of two integers after their conversion. -/
def floatDiv (n d : ℕ) : ℚ := float64 (float64 n / float64 d)

section NearestEven

variable {y : ℚ}

theorem abs_nearestEven_sub_le (y : ℚ) : |(nearestEven y : ℚ) - y| ≤ 1 / 2 := by
  have hy : (⌊y⌋ : ℚ) + Int.fract y = y := Int.floor_add_fract y
  have hnonneg := Int.fract_nonneg y
  have hlt := Int.fract_lt_one y
  unfold nearestEven
  split_ifs with h
  · have hle : Int.fract y ≤ 1 / 2 := h.elim le_of_lt fun h => h.1.le
    rw [abs_le]
    constructor <;> linarith
  · have hle : 1 / 2 ≤ Int.fract y := not_lt.mp fun hlt => h (.inl hlt)
    push_cast
    rw [abs_le]
    constructor <;> linarith

@[simp] theorem nearestEven_intCast (n : ℤ) : nearestEven n = n := by
  rw [nearestEven, Int.fract_intCast, Int.floor_intCast, if_pos (.inl (by norm_num))]

/-- Rounding does not go below an integer. -/
theorem le_nearestEven {n : ℤ} (h : (n : ℚ) ≤ y) : n ≤ nearestEven y := by
  have hfloor : n ≤ ⌊y⌋ := Int.le_floor.mpr h
  unfold nearestEven
  split_ifs <;> omega

/-- What is nearer to an integer is not rounded beyond it. -/
theorem nearestEven_le {n : ℤ} (h : y < n + 1 / 2) : nearestEven y ≤ n := by
  have habs := (abs_le.mp (abs_nearestEven_sub_le y)).2
  have hlt : (nearestEven y : ℚ) < n + 1 := by linarith
  have hlt : nearestEven y < n + 1 := by exact_mod_cast hlt
  omega

/-- A tie above an odd integer is rounded up. -/
theorem le_nearestEven_of_odd {n : ℤ} (hn : ¬ Even n) (h : (n : ℚ) + 1 / 2 ≤ y) :
    n + 1 ≤ nearestEven y := by
  by_cases hlt : y < n + 1
  · have hfloor : ⌊y⌋ = n := Int.floor_eq_iff.mpr ⟨by linarith, hlt⟩
    have hfract : Int.fract y = y - n := by rw [Int.fract, hfloor]
    rw [nearestEven, hfloor, if_neg]
    rintro (h' | ⟨-, heven⟩)
    · rw [hfract] at h'
      linarith
    · exact hn heven
  · refine le_nearestEven ?_
    push_cast
    exact not_lt.mp hlt

end NearestEven

section Rounding

variable {x : ℚ}

theorem ulp_pos (x : ℚ) : 0 < ulp x := zpow_pos two_pos _

theorem ulp_mul (hx : 0 < x) : ulp x * 2 ^ 52 = 2 ^ Int.log 2 x := by
  rw [ulp, abs_of_pos hx, zpow_sub₀ two_ne_zero, zpow_ofNat, div_mul_cancel₀ _ (by norm_num)]

theorem ulp_le (hx : 0 < x) : ulp x ≤ x / 2 ^ 52 := by
  rw [le_div_iff₀ (by norm_num), ulp_mul hx]
  exact Int.zpow_log_le_self one_lt_two hx

@[simp] theorem float64_zero : float64 0 = 0 := by
  have hzero : nearestEven 0 = 0 := nearestEven_intCast 0
  rw [float64, zero_div, hzero, Int.cast_zero, zero_mul]

/-- **The error** is at most one part in 2⁵³. -/
theorem abs_float64_sub_le (hx : 0 ≤ x) : |float64 x - x| ≤ x / 2 ^ 53 := by
  obtain rfl | hx := hx.eq_or_lt
  · rw [float64_zero, sub_zero, abs_zero, zero_div]
  have hulp := ulp_pos x
  have hround := abs_nearestEven_sub_le (x / ulp x)
  have hscale : float64 x - x = (nearestEven (x / ulp x) - x / ulp x) * ulp x := by
    rw [float64]
    field_simp
  rw [hscale, abs_mul, abs_of_pos hulp]
  calc |(nearestEven (x / ulp x) : ℚ) - x / ulp x| * ulp x
      ≤ 1 / 2 * (x / 2 ^ 52) := mul_le_mul hround (ulp_le hx) hulp.le (by norm_num)
    _ = x / 2 ^ 53 := by ring

theorem float64_nonneg (hx : 0 ≤ x) : 0 ≤ float64 x := by
  have habs := (abs_le.mp (abs_float64_sub_le hx)).1
  have hle : x / 2 ^ 53 ≤ x := div_le_self hx (by norm_num)
  linarith

/-- Multiples of the unit in the last place are exact. -/
theorem float64_eq_self {n : ℤ} (h : x = n * ulp x) : float64 x = x := by
  have hdiv : x / ulp x = n := (div_eq_iff (ulp_pos x).ne').mpr h
  rw [float64, hdiv, nearestEven_intCast, ← h]

/-- **Natural numbers of 53 binary digits are exact.** -/
theorem float64_natCast {n : ℕ} (hn : n < 2 ^ 53) : float64 n = n := by
  obtain rfl | hpos := n.eq_zero_or_pos
  · exact_mod_cast float64_zero
  have hlog : Nat.log 2 n ≤ 52 := Nat.lt_succ_iff.mp (Nat.log_lt_of_lt_pow hpos.ne' hn)
  obtain ⟨k, hk⟩ := Nat.exists_eq_add_of_le hlog
  have hulp : ulp n = (2 ^ k)⁻¹ := by
    have hexp : (Nat.log 2 n : ℤ) - 52 = -k := by omega
    rw [ulp, abs_of_nonneg (Nat.cast_nonneg n), Int.log_natCast, hexp, zpow_neg, zpow_natCast]
  refine float64_eq_self (n := n * 2 ^ k) ?_
  rw [hulp]
  push_cast
  field_simp

/-- Rounding does not go below a power of two. -/
theorem zpow_le_float64 {k : ℤ} (h : (2 : ℚ) ^ k ≤ x) : (2 : ℚ) ^ k ≤ float64 x := by
  have hx : 0 < x := (zpow_pos two_pos k).trans_le h
  have hk : k ≤ Int.log 2 x := (Int.zpow_le_iff_le_log one_lt_two hx).mp h
  have hlog : (2 : ℚ) ^ Int.log 2 x ≤ x := Int.zpow_log_le_self one_lt_two hx
  have hulp := ulp_mul hx
  have hround : ((2 ^ 52 : ℤ) : ℚ) ≤ x / ulp x := by
    rw [le_div_iff₀ (ulp_pos x)]
    push_cast
    linarith
  have hle : ((2 ^ 52 : ℤ) : ℚ) ≤ nearestEven (x / ulp x) := by exact_mod_cast le_nearestEven hround
  calc (2 : ℚ) ^ k ≤ 2 ^ Int.log 2 x := zpow_le_zpow_right₀ one_le_two hk
    _ = ((2 ^ 52 : ℤ) : ℚ) * ulp x := by rw [← hulp]; push_cast; ring
    _ ≤ float64 x := mul_le_mul_of_nonneg_right hle (ulp_pos x).le

theorem ulp_natCast {n k : ℕ} (hlow : 2 ^ k ≤ n) (hn : n < 2 ^ (k + 1)) :
    ulp n = 2 ^ ((k : ℤ) - 52) := by
  rw [ulp, abs_of_nonneg (Nat.cast_nonneg n), Int.log_natCast,
    Nat.log_eq_of_pow_le_of_lt_pow hlow hn]

/-- The last numbers of 64 bits are rounded to 2⁶⁴, from the middle between it and the `float64`
below on. -/
theorem float64_eq_of_le {n : ℕ} (hlow : 2 ^ 64 - 1024 ≤ n) (hn : n < 2 ^ 64) :
    float64 n = 2 ^ 64 := by
  have hulp : ulp n = 2048 := (ulp_natCast (k := 63) (by omega) hn).trans (by norm_num)
  have hlow' : (2 : ℚ) ^ 64 - 1024 ≤ n := by
    have := Nat.sub_le_iff_le_add.mp hlow
    have hcast : (2 : ℚ) ^ 64 ≤ n + 1024 := by exact_mod_cast this
    linarith
  have hn' : (n : ℚ) < 2 ^ 64 := by exact_mod_cast hn
  have hup : nearestEven (n / 2048) ≤ 2 ^ 53 := nearestEven_le <| by
    push_cast
    linarith
  have hdown : 2 ^ 53 - 1 + 1 ≤ nearestEven (n / 2048) :=
    le_nearestEven_of_odd (by decide) <| by
      push_cast
      linarith
  have heq : nearestEven (n / 2048) = 2 ^ 53 := by omega
  rw [float64, hulp, heq]
  norm_num

/-- The numbers before them are not. -/
theorem float64_le_of_lt {n : ℕ} (hn : n < 2 ^ 64 - 1024) : float64 n ≤ 2 ^ 64 - 2048 := by
  by_cases hlow : 2 ^ 63 ≤ n
  · have hulp : ulp n = 2048 := (ulp_natCast (k := 63) hlow (by omega)).trans (by norm_num)
    have hn' : (n : ℚ) < 2 ^ 64 - 1024 := by
      have hcast : (n : ℚ) + 1024 < 2 ^ 64 := by exact_mod_cast Nat.add_lt_of_lt_sub hn
      linarith
    have hround : nearestEven (n / 2048) ≤ 2 ^ 53 - 1 := nearestEven_le <| by
      push_cast
      linarith
    have hround : (nearestEven (n / 2048) : ℚ) ≤ 2 ^ 53 - 1 := by exact_mod_cast hround
    rw [float64, hulp]
    linarith
  · have hn' : (n : ℚ) < 2 ^ 63 := by exact_mod_cast not_le.mp hlow
    have herror := (abs_le.mp (abs_float64_sub_le (Nat.cast_nonneg n))).2
    linarith

end Rounding

/-! ## Division -/

section Division

variable {n d : ℕ}

/-- **The error of a quotient** is at most one part in 2⁵¹. -/
theorem abs_floatDiv_sub_le (hd : 0 < d) : |floatDiv n d - n / d| ≤ n / d / 2 ^ 51 := by
  have hd' : (0 : ℚ) < d := by exact_mod_cast hd
  obtain ⟨hnlow, hnup⟩ := abs_le.mp (abs_float64_sub_le (Nat.cast_nonneg (α := ℚ) n))
  obtain ⟨hdlow, hdup⟩ := abs_le.mp (abs_float64_sub_le hd'.le)
  have hpos : 0 < float64 d := by linarith
  have hnonneg : 0 ≤ float64 n / float64 d :=
    div_nonneg (float64_nonneg (Nat.cast_nonneg n)) hpos.le
  obtain ⟨hlow, hup⟩ := abs_le.mp (abs_float64_sub_le hnonneg)
  have hx : (0 : ℚ) ≤ n / d := by positivity
  -- the quotient of what is rounded, against the exact one
  have hqup : float64 n / float64 d * (1 - 1 / 2 ^ 53) ≤ n / d * (1 + 1 / 2 ^ 53) := by
    rw [div_mul_eq_mul_div, div_mul_eq_mul_div, div_le_div_iff₀ hpos hd']
    have hmul : float64 n * (d - d / 2 ^ 53) ≤ (n + n / 2 ^ 53) * float64 d :=
      mul_le_mul (by linarith) (by linarith) (by linarith) (by positivity)
    linarith
  have hqlow : n / d * (1 - 1 / 2 ^ 53) ≤ float64 n / float64 d * (1 + 1 / 2 ^ 53) := by
    rw [div_mul_eq_mul_div, div_mul_eq_mul_div, div_le_div_iff₀ hd' hpos]
    have hmul : (n - n / 2 ^ 53) * float64 d ≤ float64 n * (d + d / 2 ^ 53) :=
      mul_le_mul (by linarith) (by linarith) hpos.le (float64_nonneg (Nat.cast_nonneg n))
    linarith
  rw [floatDiv, abs_le]
  constructor <;> linarith

/-- A rounded quotient has the integer part of the exact one, where that has 53 digits. -/
theorem floor_float64_div (hd : 0 < d) (hn : n < 2 ^ 53) :
    ⌊float64 ((n : ℚ) / d)⌋ = (n / d : ℕ) := by
  have hd' : (0 : ℚ) < d := by exact_mod_cast hd
  have hn' : (n : ℚ) < 2 ^ 53 := by exact_mod_cast hn
  have hsplit : (n : ℚ) / d = (n / d : ℕ) + (n % d : ℕ) / d := by
    rw [eq_comm, ← eq_sub_iff_add_eq', div_eq_iff hd'.ne', sub_mul, div_mul_cancel₀ _ hd'.ne']
    have hnat : (n : ℚ) = d * (n / d : ℕ) + (n % d : ℕ) := by
      exact_mod_cast (Nat.div_add_mod n d).symm
    linarith
  obtain hr | hr := (n % d).eq_zero_or_pos
  · have hlt : n / d < 2 ^ 53 := (Nat.div_le_self n d).trans_lt hn
    rw [hsplit, hr, Nat.cast_zero, zero_div, add_zero, float64_natCast hlt, Int.floor_natCast]
  · -- the error is less than the distance to the integers around it
    obtain ⟨hlow, hup⟩ := abs_le.mp (abs_float64_sub_le (x := (n : ℚ) / d) (by positivity))
    have herror : (n : ℚ) / d / 2 ^ 53 < 1 / d := by
      rw [div_div, div_lt_div_iff₀ (by positivity) hd']
      nlinarith
    have hrem : (1 : ℚ) / d ≤ (n % d : ℕ) / d ∧ (n % d : ℕ) / (d : ℚ) ≤ 1 - 1 / d := by
      have hr' : (1 : ℚ) ≤ (n % d : ℕ) := by exact_mod_cast hr
      have hlt : ((n % d : ℕ) : ℚ) + 1 ≤ d := by exact_mod_cast Nat.mod_lt n hd
      refine ⟨div_le_div_of_nonneg_right hr' hd'.le, ?_⟩
      rw [le_sub_iff_add_le, ← add_div, div_le_one hd']
      exact hlt
    rw [Int.floor_eq_iff, Int.cast_natCast]
    constructor <;> linarith [hrem.1, hrem.2]

/-- **The integer part of a quotient** is exact for a numerator below 2⁵³. -/
theorem floor_floatDiv (hd : 0 < d) (hn : n < 2 ^ 53) : ⌊floatDiv n d⌋ = (n / d : ℕ) := by
  rw [floatDiv, float64_natCast hn]
  by_cases hd53 : d < 2 ^ 53
  · rw [float64_natCast hd53, floor_float64_div hd hn]
  · have hle : (2 : ℚ) ^ (53 : ℤ) ≤ float64 d := zpow_le_float64 <| by
      exact_mod_cast not_lt.mp hd53
    have hle : (2 : ℚ) ^ 53 ≤ float64 d := by exact_mod_cast hle
    have hn' : (n : ℚ) + 1 ≤ 2 ^ 53 := by exact_mod_cast hn
    have hpos : 0 < float64 d := by linarith
    have hnonneg : (0 : ℚ) ≤ n / float64 d := by positivity
    have hquot : (n : ℚ) / float64 d ≤ 1 - 1 / 2 ^ 53 := by
      rw [div_le_iff₀ hpos]
      linarith
    have herror := (abs_le.mp (abs_float64_sub_le hnonneg)).2
    rw [Nat.div_eq_of_lt (hn.trans_le (not_lt.mp hd53)), Int.floor_eq_iff]
    push_cast
    exact ⟨float64_nonneg hnonneg, by linarith⟩

theorem float64_one : float64 (1 : ℕ) = 1 := by
  rw [float64_natCast (by norm_num), Nat.cast_one]

/-- A quotient of 64 bits stays below 2⁶⁴, but for numbers that are rounded to it themselves. -/
theorem floatDiv_lt (hd : 0 < d) (hn : n < 2 ^ 64) (h : d = 1 → n < 2 ^ 64 - 1024) :
    floatDiv n d < 2 ^ 64 := by
  obtain rfl | hd2 := eq_or_lt_of_le (Nat.succ_le_iff.mpr hd)
  · have hle := float64_le_of_lt (h rfl)
    have herror :=
      (abs_le.mp (abs_float64_sub_le (float64_nonneg (Nat.cast_nonneg (α := ℚ) n)))).2
    rw [floatDiv, float64_one, div_one]
    linarith
  · have hd2 : (2 : ℚ) ≤ d := by exact_mod_cast hd2
    have hn' : (n : ℚ) < 2 ^ 64 := by exact_mod_cast hn
    have hquot : (n : ℚ) / d ≤ 2 ^ 63 := by
      rw [div_le_iff₀ (by linarith)]
      linarith
    have herror := (abs_le.mp (abs_floatDiv_sub_le (n := n) hd)).2
    linarith

theorem floatDiv_one (hlow : 2 ^ 64 - 1024 ≤ n) (hn : n < 2 ^ 64) : floatDiv n 1 = 2 ^ 64 := by
  have hcast : ((2 ^ 64 : ℕ) : ℚ) = 2 ^ 64 := Nat.cast_pow 2 64
  have hulp : ulp ((2 ^ 64 : ℕ) : ℚ) = 4096 :=
    (ulp_natCast (k := 64) le_rfl (by norm_num)).trans (by norm_num)
  rw [floatDiv, float64_one, div_one, float64_eq_of_le hlow hn]
  refine float64_eq_self (n := 2 ^ 52) ?_
  rw [hcast] at hulp
  rw [hulp]
  norm_num

end Division

end Machinery
