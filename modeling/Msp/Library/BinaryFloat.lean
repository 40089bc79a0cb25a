import Mathlib.Data.Int.Log
import Mathlib.Tactic.Linarith
import Mathlib.Tactic.Positivity
import Mathlib.Tactic.Ring
import Msp.Library.Rounding

/-!
# Binary floating-point numbers without a bound on the exponent

A significand of `precision` bits and any power of two.  `round` goes to the
nearest such number, ties to the even significand.  What divided by a natural
number and rounded, then multiplied back and divided again, comes back:
`round_cycle`.
-/

set_option autoImplicit false

namespace Msp.Library.BinaryFloat

/-- The spacing of the numbers with the leading bit of `value`. -/
def ulp (precision : ℕ) (value : ℚ) : ℚ := 2 ^ (Int.log 2 |value| - precision + 1)

def round (precision : ℕ) (value : ℚ) : ℚ :=
  roundHalfEven (value / ulp precision value) * ulp precision value

def Representable (precision : ℕ) (value : ℚ) : Prop :=
  ∃ significand exponent : ℤ, |significand| < 2 ^ precision ∧
    value = significand * 2 ^ exponent

theorem ulp_pos (precision : ℕ) (value : ℚ) : 0 < ulp precision value := by
  unfold ulp
  exact zpow_pos two_pos _

theorem two_zpow_split {first second : ℤ} : (2 : ℚ) ^ (first + second) = 2 ^ first * 2 ^ second :=
  zpow_add₀ two_ne_zero first second

section Precision
variable {precision : ℕ} {value : ℚ}

theorem ulp_mul_two_pow (positive : 0 < precision) :
    2 ^ (precision - 1) * ulp precision value = 2 ^ Int.log 2 |value| := by
  have exponents : ((precision - 1 : ℕ) : ℤ) + (Int.log 2 |value| - precision + 1) =
      Int.log 2 |value| := by omega
  rw [ulp, ← zpow_natCast, ← two_zpow_split, exponents]

theorem le_abs_scaled (positive : 0 < precision) (nonzero : value ≠ 0) :
    2 ^ (precision - 1) ≤ |value / ulp precision value| := by
  have unit := ulp_pos precision value
  rw [abs_div, abs_of_pos unit, le_div_iff₀ unit, ulp_mul_two_pow positive]
  exact Int.zpow_log_le_self one_lt_two (abs_pos.mpr nonzero)

theorem abs_scaled_lt (positive : 0 < precision) :
    |value / ulp precision value| < 2 ^ precision := by
  have unit := ulp_pos precision value
  have whole : 2 ^ precision * ulp precision value = 2 ^ (Int.log 2 |value| + 1) := by
    have doubled : (2 : ℚ) ^ precision = 2 * 2 ^ (precision - 1) := by
      rw [← pow_succ', Nat.sub_add_cancel positive]
    rw [doubled, mul_assoc, ulp_mul_two_pow positive, two_zpow_split, zpow_one, mul_comm]
  rw [abs_div, abs_of_pos unit, div_lt_iff₀ unit, whole]
  exact Int.lt_zpow_succ_log_self one_lt_two |value|

theorem ulp_eq_of_scaled (positive : 0 < precision) {exponent : ℤ}
    (lower : 2 ^ (precision - 1) ≤ |value / 2 ^ exponent|)
    (upper : |value / 2 ^ exponent| < 2 ^ precision) : ulp precision value = 2 ^ exponent := by
  have unit : (0 : ℚ) < 2 ^ exponent := zpow_pos two_pos _
  rw [abs_div, abs_of_pos unit] at lower upper
  rw [le_div_iff₀ unit, ← zpow_natCast, ← two_zpow_split] at lower
  rw [div_lt_iff₀ unit, ← zpow_natCast, ← two_zpow_split] at upper
  have nonzero : 0 < |value| := lt_of_lt_of_le (zpow_pos two_pos _) lower
  have below := (Int.zpow_le_iff_le_log one_lt_two nonzero).mp (by exact_mod_cast lower)
  have above := (Int.lt_zpow_iff_log_lt one_lt_two nonzero).mp (by exact_mod_cast upper)
  have log : Int.log 2 |value| = exponent + precision - 1 := by omega
  rw [ulp, log]
  congr 1
  omega

/-- Every representable number with at least that leading bit is a multiple of the spacing. -/
theorem multiple_of_ulp {other : ℚ} (representable : Representable precision other)
    (leading : 2 ^ Int.log 2 |value| ≤ |other|) :
    ∃ multiple : ℤ, other = multiple * ulp precision value := by
  obtain ⟨significand, exponent, bounded, rfl⟩ := representable
  have unit : (0 : ℚ) < 2 ^ exponent := zpow_pos two_pos _
  have below : |(significand : ℚ) * 2 ^ exponent| < 2 ^ ((precision : ℤ) + exponent) := by
    rw [abs_mul, abs_of_pos unit, two_zpow_split, zpow_natCast]
    exact mul_lt_mul_of_pos_right (by exact_mod_cast bounded) unit
  have exponents : Int.log 2 |value| < precision + exponent :=
    (zpow_lt_zpow_iff_right₀ one_lt_two).mp (lt_of_le_of_lt leading below)
  obtain ⟨shift, shifted⟩ :=
    Int.eq_ofNat_of_zero_le
      (show 0 ≤ exponent - (Int.log 2 |value| - precision + 1) by omega)
  refine ⟨significand * 2 ^ shift, ?_⟩
  have split : exponent = shift + (Int.log 2 |value| - precision + 1) := by omega
  rw [ulp]
  nth_rewrite 1 [split]
  rw [two_zpow_split, zpow_natCast, ← mul_assoc]
  push_cast
  rfl

theorem round_multiple {multiple : ℤ} (onGrid : value = multiple * ulp precision value) :
    round precision value = value := by
  have scaled : value / ulp precision value = multiple := by
    rw [div_eq_iff (ulp_pos precision value).ne']
    exact onGrid
  rw [round, scaled, roundHalfEven_intCast]
  exact onGrid.symm

theorem round_zero : round precision 0 = 0 :=
  round_multiple (show (0 : ℚ) = (0 : ℤ) * ulp precision 0 by rw [Int.cast_zero, zero_mul])

theorem round_of_representable (representable : Representable precision value) :
    round precision value = value := by
  by_cases zero : value = 0
  · rw [zero, round_zero]
  · obtain ⟨multiple, onGrid⟩ := multiple_of_ulp representable
      (Int.zpow_log_le_self one_lt_two (abs_pos.mpr zero))
    exact round_multiple onGrid

theorem round_nearest_multiple (multiple : ℤ) :
    |value - round precision value| ≤ |value - multiple * ulp precision value| := by
  have unit := ulp_pos precision value
  have scale : ∀ whole : ℤ, |value - whole * ulp precision value| =
      |value / ulp precision value - whole| * ulp precision value := by
    intro whole
    rw [← abs_of_pos unit, ← abs_mul, sub_mul, abs_of_pos unit, div_mul_cancel₀ _ unit.ne']
  rw [round, scale, scale]
  exact mul_le_mul_of_nonneg_right (roundHalfEven_nearest _ _) unit.le

/-- No representable number is nearer. -/
theorem round_nearest (positive : 0 < precision) {other : ℚ}
    (representable : Representable precision other) :
    |value - round precision value| ≤ |value - other| := by
  by_cases zero : value = 0
  · rw [zero, round_zero, sub_zero, abs_zero]
    exact abs_nonneg _
  by_cases leading : 2 ^ Int.log 2 |value| ≤ |other|
  · obtain ⟨multiple, rfl⟩ := multiple_of_ulp representable leading
    exact round_nearest_multiple multiple
  · -- the power of two below the value is a multiple of the spacing and nearer
    have power : 2 ^ Int.log 2 |value| ≤ |value| :=
      Int.zpow_log_le_self one_lt_two (abs_pos.mpr zero)
    have shorter : |other| < 2 ^ Int.log 2 |value| := not_le.mp leading
    have distance : |value| - |other| ≤ |value - other| := abs_sub_abs_le_abs_sub value other
    have whole : 2 ^ (precision - 1) * ulp precision value = 2 ^ Int.log 2 |value| :=
      ulp_mul_two_pow positive
    rcases abs_cases value with ⟨same, _⟩ | ⟨opposite, _⟩
    · have nearest : |value - round precision value| ≤
          |value - (2 ^ (precision - 1) : ℤ) * ulp precision value| := round_nearest_multiple _
      push_cast at nearest
      have towards : |value - 2 ^ Int.log 2 (|value|)| = value - 2 ^ Int.log 2 |value| :=
        abs_of_nonneg (by linarith)
      rw [whole, towards] at nearest
      linarith
    · have nearest : |value - round precision value| ≤
          |value - (-2 ^ (precision - 1) : ℤ) * ulp precision value| := round_nearest_multiple _
      push_cast at nearest
      have towards : |value - -2 ^ Int.log 2 (|value|)| = -(value - -2 ^ Int.log 2 |value|) :=
        abs_of_nonpos (by linarith)
      rw [neg_mul, whole, towards] at nearest
      linarith

theorem round_power_mul (significand exponent : ℤ) (bounded : |significand| < 2 ^ precision)
    {whole : ℤ} {power : ℕ} (isPower : |whole| = 2 ^ power) :
    round precision (significand * (whole * 2 ^ exponent)) =
      significand * (whole * 2 ^ exponent) := by
  apply round_of_representable
  have shifted : (2 : ℚ) ^ (power + exponent) = 2 ^ power * 2 ^ exponent := by
    rw [two_zpow_split, zpow_natCast]
  rcases (abs_eq (by positivity)).mp isPower with rfl | rfl
  · refine ⟨significand, power + exponent, bounded, ?_⟩
    rw [shifted]
    push_cast
    rfl
  · refine ⟨-significand, power + exponent, by rwa [abs_neg], ?_⟩
    rw [shifted]
    push_cast
    ring

/-- What rounds to a significand strictly between two powers of two, and everything at
least as near to it, rounds to it. -/
theorem round_eq_of_nearer (positive : 0 < precision) {other : ℚ}
    (above : 2 ^ (precision - 1) < |roundHalfEven (value / ulp precision value)|)
    (below : |roundHalfEven (value / ulp precision value)| < 2 ^ precision)
    (nearer : |other - round precision value| ≤ |value - round precision value|) :
    round precision other = round precision value := by
  have unit := ulp_pos precision value
  generalize rounded : roundHalfEven (value / ulp precision value) = whole at above below
  have result : round precision value = whole * ulp precision value := by rw [round, rounded]
  have scale : ∀ point : ℚ, |point - whole * ulp precision value| =
      |point / ulp precision value - whole| * ulp precision value := by
    intro point
    rw [← abs_of_pos unit, ← abs_mul, sub_mul, abs_of_pos unit, div_mul_cancel₀ _ unit.ne']
  rw [result, scale, scale] at nearer
  have distance : |other / ulp precision value - whole| ≤ |value / ulp precision value - whole| :=
    le_of_mul_le_mul_right nearer unit
  have within := (roundHalfEven_eq_iff _ _).mp rounded
  have atMostHalf : |other / ulp precision value - whole| ≤ 1 / 2 := by
    rcases within with near | ⟨half, _⟩ <;> linarith
  -- half a unit away from a significand strictly inside, the leading bit is the same
  have floor : |(whole : ℚ)| - |other / ulp precision value| ≤ 1 / 2 := by
    have turned := abs_sub_abs_le_abs_sub (whole : ℚ) (other / ulp precision value)
    rw [abs_sub_comm] at turned
    linarith
  have ceiling : |other / ulp precision value| - |(whole : ℚ)| ≤ 1 / 2 :=
    le_trans (abs_sub_abs_le_abs_sub _ _) atMostHalf
  have inside : (2 : ℚ) ^ (precision - 1) + 1 ≤ |(whole : ℚ)| := by
    exact_mod_cast Int.add_one_le_iff.mpr above
  have outside : |(whole : ℚ)| + 1 ≤ 2 ^ precision := by
    exact_mod_cast Int.add_one_le_iff.mpr below
  have sameUnit : ulp precision other = ulp precision value :=
    ulp_eq_of_scaled positive (by change _ ≤ |other / ulp precision value|; linarith)
      (by change |other / ulp precision value| < _; linarith)
  have sameWhole : roundHalfEven (other / ulp precision value) = whole := by
    rw [roundHalfEven_eq_iff]
    rcases within with near | ⟨half, even⟩
    · exact Or.inl (lt_of_le_of_lt distance near)
    · rcases lt_or_eq_of_le atMostHalf with less | tie
      · exact Or.inl less
      · exact Or.inr ⟨tie, even⟩
  rw [result, round, sameUnit, sameWhole]

theorem abs_roundHalfEven_le (bound : ℕ) {point : ℚ} (bounded : |point| < bound) :
    |roundHalfEven point| ≤ bound := by
  have near := abs_sub_roundHalfEven_le point
  have distance := abs_sub_abs_le_abs_sub (roundHalfEven point : ℚ) point
  rw [abs_sub_comm] at distance
  have strict : |(roundHalfEven point : ℚ)| < bound + 1 := by linarith
  have strictInt : |roundHalfEven point| < bound + 1 := by exact_mod_cast strict
  omega

theorem le_abs_roundHalfEven (bound : ℕ) {point : ℚ} (bounded : bound ≤ |point|) :
    bound ≤ |roundHalfEven point| := by
  have near := abs_sub_roundHalfEven_le point
  have distance := abs_sub_abs_le_abs_sub point (roundHalfEven point : ℚ)
  have strict : (bound : ℚ) < |(roundHalfEven point : ℚ)| + 1 := by linarith
  have strictInt : (bound : ℤ) < |roundHalfEven point| + 1 := by exact_mod_cast strict
  omega

theorem significand_cases (positive : 0 < precision) (nonzero : value ≠ 0) :
    (2 ^ (precision - 1) < |roundHalfEven (value / ulp precision value)| ∧
      |roundHalfEven (value / ulp precision value)| < 2 ^ precision) ∨
    ∃ power : ℕ, |roundHalfEven (value / ulp precision value)| = 2 ^ power := by
  have lower := le_abs_scaled positive nonzero
  have upper : |value / ulp precision value| < 2 ^ precision := abs_scaled_lt positive
  have low : 2 ^ (precision - 1) ≤ |roundHalfEven (value / ulp precision value)| := by
    exact_mod_cast le_abs_roundHalfEven (2 ^ (precision - 1)) (by exact_mod_cast lower)
  have high : |roundHalfEven (value / ulp precision value)| ≤ 2 ^ precision := by
    exact_mod_cast abs_roundHalfEven_le (2 ^ precision) (by exact_mod_cast upper)
  rcases low.lt_or_eq with above | atBottom
  · rcases high.lt_or_eq with below | atTop
    · exact Or.inl ⟨above, below⟩
    · exact Or.inr ⟨precision, atTop⟩
  · exact Or.inr ⟨precision - 1, atBottom.symm⟩

theorem round_mul_of_power {power : ℕ}
    (isPower : |roundHalfEven (value / ulp precision value)| = 2 ^ power) {factor : ℕ}
    (bounded : factor < 2 ^ precision) :
    round precision (round precision value * factor) = round precision value * factor := by
  have fits : |(factor : ℤ)| < 2 ^ precision := by
    rw [Nat.abs_cast]
    exact_mod_cast bounded
  have product := round_power_mul factor (Int.log 2 |value| - precision + 1) fits isPower
  rw [Int.cast_natCast, mul_comm] at product
  exact product

/-- Dividing by a natural number loses nothing that multiplying back and dividing
again would not restore. -/
theorem round_cycle (positive : 0 < precision) (representable : Representable precision value)
    {divisor : ℕ} (nonzero : 0 < divisor) (bounded : divisor < 2 ^ precision) :
    round precision (round precision (round precision (value / divisor) * divisor) / divisor) =
      round precision (value / divisor) := by
  have divisorPos : (0 : ℚ) < divisor := by exact_mod_cast nonzero
  by_cases zero : value = 0
  · rw [zero, zero_div, round_zero, zero_mul, round_zero, zero_div, round_zero]
  have quotient : value / divisor ≠ 0 := div_ne_zero zero divisorPos.ne'
  rcases significand_cases positive quotient with ⟨above, below⟩ | ⟨power, isPower⟩
  · -- the stored product is at least as near to the scaled result as the value itself was
    have stored : |round precision (value / divisor) * divisor -
          round precision (round precision (value / divisor) * divisor)| ≤
        |round precision (value / divisor) * divisor - value| :=
      round_nearest positive representable
    apply round_eq_of_nearer positive above below
    have scale : ∀ point : ℚ, |point / divisor - round precision (value / divisor)| * divisor =
        |round precision (value / divisor) * divisor - point| := by
      intro point
      rw [← abs_of_pos divisorPos, ← abs_mul, sub_mul, abs_of_pos divisorPos,
        div_mul_cancel₀ _ divisorPos.ne', abs_sub_comm]
    apply le_of_mul_le_mul_right _ divisorPos
    rw [scale, scale]
    exact stored
  · -- the product is exact, and the quotient is what was rounded before
    have exact := round_mul_of_power isPower bounded
    have single := round_mul_of_power isPower (Nat.one_lt_two_pow positive.ne')
    rw [Nat.cast_one, mul_one] at single
    rw [exact, mul_div_cancel_right₀ _ divisorPos.ne']
    exact single

end Precision

end Msp.Library.BinaryFloat
