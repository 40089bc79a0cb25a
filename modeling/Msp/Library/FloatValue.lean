import Mathlib.Data.Rat.Defs
import Mathlib.Algebra.Order.Ring.Rat
import Mathlib.Tactic.Common

/-!
# Floating-point values as exact rationals with the special values

Finite values are taken exactly; comparisons follow IEEE 754, so every
comparison with a NaN is false.
-/

set_option autoImplicit false

namespace Msp.Library

inductive FloatValue where
  | finite (value : ℚ)
  | posInf
  | negInf
  | nan
  deriving DecidableEq, Repr

namespace FloatValue

/-- The IEEE comparison `left > right`. -/
def exceeds : FloatValue → FloatValue → Bool
  | .finite left, .finite right => decide (right < left)
  | .posInf, .finite _ => true
  | .posInf, .negInf => true
  | .finite _, .negInf => true
  | _, _ => false

@[simp] theorem exceeds_finite (left right : ℚ) :
    exceeds (.finite left) (.finite right) = decide (right < left) := rfl

@[simp] theorem posInf_exceeds_finite (bound : ℚ) : exceeds .posInf (.finite bound) = true := rfl

end FloatValue

end Msp.Library
