import Mathlib.Data.Int.Log
import Mathlib.Data.Rat.Floor
import SandboxProvider.Lib.Json

/-!
# Rounding to double precision

`roundEven` rounds to the nearest integer, ties to the even one; `float64` rounds a rational to the
nearest double precision float in the same way. It is what Go's `strconv.ParseFloat` makes of the exact
value of a literal: `none` is its range error, small numbers are subnormal or zero. The sign of a zero
is not kept.
-/

namespace SandboxProvider.Lib

/-! ## To an integer -/

def roundEven (q : ℚ) : ℤ :=
  let n := ⌊q⌋
  if q - n < 1 / 2 then n
  else if 1 / 2 < q - n then n + 1
  else if n % 2 = 0 then n
  else n + 1

theorem roundEven_intCast (n : ℤ) : roundEven n = n := by
  unfold roundEven
  simp

theorem le_roundEven {q : ℚ} {n : ℤ} (h : (n : ℚ) ≤ q) : n ≤ roundEven q := by
  have hfloor : n ≤ ⌊q⌋ := Int.le_floor.mpr h
  simp only [roundEven]
  split_ifs <;> omega

theorem roundEven_le {q : ℚ} {n : ℤ} (h : q ≤ n) : roundEven q ≤ n := by
  have hfloor : ⌊q⌋ ≤ n := by
    have hle : (⌊q⌋ : ℚ) ≤ n := le_trans (Int.floor_le q) h
    exact_mod_cast hle
  by_cases heq : ⌊q⌋ = n
  · -- then `q` is `n`
    have hq : q = n := le_antisymm h (heq ▸ Int.floor_le q)
    rw [hq, roundEven_intCast]
  · simp only [roundEven]
    split_ifs <;> omega

theorem abs_roundEven_le {q : ℚ} {n : ℤ} (h : |q| ≤ n) : |roundEven q| ≤ n := by
  obtain ⟨hlow, hhigh⟩ := abs_le.mp h
  refine abs_le.mpr ⟨le_roundEven ?_, roundEven_le hhigh⟩
  push_cast
  exact hlow

theorem le_abs_roundEven {q : ℚ} {n : ℤ} (h : (n : ℚ) ≤ |q|) : n ≤ |roundEven q| := by
  rcases le_abs.mp h with h | h
  · exact le_trans (le_roundEven h) (le_abs_self _)
  · have hneg : roundEven q ≤ -n := by
      apply roundEven_le
      push_cast
      linarith
    rw [le_abs]
    omega

/-! ## To a float -/

/-- The exponent of the last place of the floats around `q`. -/
def lastPlace (q : ℚ) : ℤ := max (Int.log 2 |q| - 52) (-1074)

def float64 (q : ℚ) : Option ℚ :=
  let r := roundEven (q / 2 ^ lastPlace q) * (2 : ℚ) ^ lastPlace q
  if |r| < 2 ^ 1024 then some r else none

section Bounds

variable {q : ℚ}

theorem two_zpow_pos (e : ℤ) : (0 : ℚ) < 2 ^ e := zpow_pos (by norm_num) e

theorem abs_lt_lastPlace (q : ℚ) : |q| < (2 : ℚ) ^ (53 + lastPlace q) := by
  have hlog : |q| < (2 : ℚ) ^ (Int.log 2 |q| + 1) := Int.lt_zpow_succ_log_self (by decide) |q|
  refine lt_of_lt_of_le hlog (zpow_le_zpow_right₀ (by norm_num) ?_)
  have hle : Int.log 2 |q| - 52 ≤ lastPlace q := le_max_left _ _
  omega

theorem abs_div_zpow (q : ℚ) (e : ℤ) : |q / 2 ^ e| = |q| / 2 ^ e := by
  rw [abs_div, abs_of_pos (two_zpow_pos e)]

/-- The significand has at most 53 bits, or is the next power of two. -/
theorem abs_significand_le (q : ℚ) : |roundEven (q / 2 ^ lastPlace q)| ≤ 2 ^ 53 := by
  apply abs_roundEven_le
  have hpos := two_zpow_pos (lastPlace q)
  rw [abs_div_zpow, div_le_iff₀ hpos]
  have hlt := abs_lt_lastPlace q
  rw [zpow_add₀ (by norm_num)] at hlt
  exact_mod_cast hlt.le

/-- A power of two is a whole number of units in a place before it. -/
theorem zpow_eq_mul {e k : ℤ} (h : e ≤ k) : ∃ n : ℕ, (2 : ℚ) ^ k = ((2 ^ n : ℤ) : ℚ) * 2 ^ e := by
  obtain ⟨n, hn⟩ := Int.eq_ofNat_of_zero_le (sub_nonneg.mpr h)
  have hk : k = n + e := by omega
  refine ⟨n, ?_⟩
  rw [hk, zpow_add₀ (by norm_num), zpow_natCast]
  push_cast
  rfl

/-- A rounded number is not below a power of two that the number is not below. -/
theorem le_abs_rounded {k : ℤ} (hk : lastPlace q ≤ k) (h : (2 : ℚ) ^ k ≤ |q|) :
    (2 : ℚ) ^ k ≤ |roundEven (q / 2 ^ lastPlace q) * (2 : ℚ) ^ lastPlace q| := by
  obtain ⟨n, hn⟩ := zpow_eq_mul hk
  have hpos := two_zpow_pos (lastPlace q)
  have hround : (2 : ℤ) ^ n ≤ |roundEven (q / 2 ^ lastPlace q)| := by
    apply le_abs_roundEven
    rw [abs_div_zpow, le_div_iff₀ hpos, ← hn]
    exact h
  rw [abs_mul, abs_of_pos hpos, hn]
  refine mul_le_mul_of_nonneg_right ?_ hpos.le
  exact_mod_cast hround

/-- A rounded number is not above a power of two that the number is not above. -/
theorem abs_rounded_le {k : ℤ} (hk : lastPlace q ≤ k) (h : |q| ≤ (2 : ℚ) ^ k) :
    |roundEven (q / 2 ^ lastPlace q) * (2 : ℚ) ^ lastPlace q| ≤ (2 : ℚ) ^ k := by
  obtain ⟨n, hn⟩ := zpow_eq_mul hk
  have hpos := two_zpow_pos (lastPlace q)
  have hround : |roundEven (q / 2 ^ lastPlace q)| ≤ (2 : ℤ) ^ n := by
    apply abs_roundEven_le
    rw [abs_div_zpow, div_le_iff₀ hpos, ← hn]
    exact h
  rw [abs_mul, abs_of_pos hpos, hn]
  refine mul_le_mul_of_nonneg_right ?_ hpos.le
  exact_mod_cast hround

end Bounds

theorem float64_zero : float64 0 = some 0 := by
  simp [float64, roundEven]

/-- A float is rounded to itself. -/
theorem float64_of_isFloat64 {q : ℚ} (h : Json.IsFloat64 q) : float64 q = some q := by
  by_cases hzero : q = 0
  · rw [hzero, float64_zero]
  obtain ⟨m, e, hm, hlow, hhigh, hq⟩ := h
  have hpos := two_zpow_pos e
  have habs : |q| < (2 : ℚ) ^ (53 + e) := by
    rw [hq, abs_mul, abs_of_pos hpos, zpow_add₀ (by norm_num)]
    refine mul_lt_mul_of_pos_right ?_ hpos
    exact_mod_cast hm
  -- the last place of `q` is not after that of its significand, so nothing is rounded
  have hplace : lastPlace q ≤ e := by
    have hlog := (Int.lt_zpow_iff_log_lt (b := 2) (by decide) (abs_pos.mpr hzero)).mp habs
    exact max_le (by omega) hlow
  obtain ⟨n, hn⟩ := zpow_eq_mul hplace
  have hdiv : q / 2 ^ lastPlace q = ((m * 2 ^ n : ℤ) : ℚ) := by
    rw [div_eq_iff (two_zpow_pos _).ne']
    calc q = m * (((2 ^ n : ℤ) : ℚ) * 2 ^ lastPlace q) := by rw [← hn]; exact hq
      _ = ((m * 2 ^ n : ℤ) : ℚ) * 2 ^ lastPlace q := by push_cast; ring
  have hround : roundEven (q / 2 ^ lastPlace q) * (2 : ℚ) ^ lastPlace q = q := by
    rw [hdiv, roundEven_intCast, ← hdiv]
    exact div_mul_cancel₀ q (two_zpow_pos _).ne'
  have hlt : |q| < 2 ^ 1024 := by
    refine lt_of_lt_of_le habs ?_
    rw [← zpow_natCast]
    exact zpow_le_zpow_right₀ (by norm_num) (by norm_num; omega)
  unfold float64
  simp only [hround, if_pos hlt]

theorem lt_of_zpow_lt {k : ℤ} (h : (2 : ℚ) ^ k < 2 ^ 1024) : k < 1024 := by
  rw [← zpow_natCast] at h
  exact_mod_cast (zpow_lt_zpow_iff_right₀ (by norm_num)).mp h

/-- The significand of a large number has its 53 bits. -/
theorem zpow_lastPlace_le {q : ℚ} (h : 971 < lastPlace q) : (2 : ℚ) ^ (52 + lastPlace q) ≤ |q| := by
  have hlog : lastPlace q = Int.log 2 |q| - 52 := by
    unfold lastPlace at h ⊢
    omega
  have hpos : 0 < |q| := by
    by_contra hzero
    rw [Int.log_of_right_le_zero 2 (not_lt.mp hzero)] at hlog
    omega
  have hle := Int.zpow_log_le_self (b := 2) (by decide) hpos
  rw [hlog, show 52 + (Int.log 2 |q| - 52) = Int.log 2 |q| by omega]
  exact_mod_cast hle

/-- What is rounded to is a float. -/
theorem isFloat64_of_float64 {q r : ℚ} (h : float64 q = some r) : Json.IsFloat64 r := by
  simp only [float64] at h
  split at h
  · rename_i hlt
    cases h
    have hlow : -1074 ≤ lastPlace q := le_max_right _ _
    have hm := abs_significand_le q
    have hhigh : lastPlace q ≤ 971 := by
      by_contra hhigh
      have hle := le_abs_rounded (by omega) (zpow_lastPlace_le (not_le.mp hhigh))
      have hk := lt_of_zpow_lt (lt_of_le_of_lt hle hlt)
      omega
    generalize roundEven (q / 2 ^ lastPlace q) = m at hm hlt ⊢
    generalize lastPlace q = e at *
    rcases lt_or_eq_of_le hm with hm | hm
    · exact ⟨m, e, hm, hlow, hhigh, rfl⟩
    · -- the carry makes a power of two, one place up
      have hk : 53 + e < 1024 := by
        apply lt_of_zpow_lt
        rw [abs_mul, abs_of_pos (two_zpow_pos e)] at hlt
        rw [zpow_add₀ (by norm_num)]
        have hcast : |(m : ℚ)| = 2 ^ 53 := by exact_mod_cast hm
        rw [hcast] at hlt
        exact_mod_cast hlt
      have heven : m = 2 * (m / 2) := by
        rcases (abs_eq (by norm_num)).mp hm with rfl | rfl <;> norm_num
      refine ⟨m / 2, e + 1, ?_, by omega, by omega, ?_⟩
      · rcases (abs_eq (by norm_num)).mp hm with rfl | rfl <;> norm_num
      · have hcast : (m : ℚ) = 2 * ((m / 2 : ℤ) : ℚ) := by exact_mod_cast heven
        rw [zpow_add_one₀ (by norm_num), hcast]
        ring
  · cases h

/-- Rounding keeps the sign. -/
theorem float64_nonneg {q r : ℚ} (hq : 0 ≤ q) (h : float64 q = some r) : 0 ≤ r := by
  simp only [float64] at h
  split at h
  · cases h
    have hpos := two_zpow_pos (lastPlace q)
    have hround : 0 ≤ roundEven (q / 2 ^ lastPlace q) := by
      apply le_roundEven
      exact_mod_cast div_nonneg hq hpos.le
    exact mul_nonneg (by exact_mod_cast hround) hpos.le
  · cases h

/-- Up to `2 ^ 1023` nothing is out of range. -/
theorem exists_float64 {q : ℚ} (h : |q| ≤ 2 ^ (1023 : ℤ)) : ∃ r, float64 q = some r := by
  have hplace : lastPlace q ≤ 1023 := by
    by_contra hhigh
    have hle := le_trans (zpow_lastPlace_le (by omega)) h
    have hk := (zpow_le_zpow_iff_right₀ (by norm_num)).mp hle
    omega
  have hlt : (2 : ℚ) ^ (1023 : ℤ) < 2 ^ 1024 := by
    rw [← zpow_natCast]
    exact zpow_lt_zpow_right₀ (by norm_num) (by norm_num)
  exact ⟨_, if_pos (lt_of_le_of_lt (abs_rounded_le hplace h) hlt)⟩

/-- From `2 ^ 1024` on everything is. -/
theorem float64_eq_none {q : ℚ} (h : 2 ^ (1024 : ℤ) ≤ |q|) : float64 q = none := by
  have hpos : 0 < |q| := lt_of_lt_of_le (two_zpow_pos 1024) h
  have hlog : 1024 ≤ Int.log 2 |q| :=
    (Int.zpow_le_iff_le_log (by decide) hpos).mp (by exact_mod_cast h)
  have hplace : lastPlace q = Int.log 2 |q| - 52 := max_eq_left (by omega)
  have hlarge : 971 < lastPlace q := by omega
  have hle := le_abs_rounded (by omega) (zpow_lastPlace_le hlarge)
  refine if_neg fun hlt => ?_
  have hk := lt_of_zpow_lt (lt_of_le_of_lt hle hlt)
  omega

-- from here on only through these theorems: the bounds of the range are large numbers to compute with
attribute [irreducible] float64

end SandboxProvider.Lib
