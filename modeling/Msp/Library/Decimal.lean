import Mathlib.Algebra.Group.Nat.Defs
import Mathlib.Data.Nat.Basic
import Mathlib.Data.List.Basic
import Mathlib.Tactic.Common

/-!
# Fixed-point decimal text

The digits C's `printf` writes for `%zu` and, after rounding, for `%.kf`: a
number of units of the last place, with the point `places` digits from the
right.  Reading the digits back without the point gives the number of units.
-/

set_option autoImplicit false

namespace Msp.Library.Decimal

def natural (number : Nat) : List Char := Nat.toDigits 10 number

def padded (places number : Nat) : List Char :=
  List.replicate (places - (natural number).length) '0' ++ natural number

/-- `units` hundredths, thousandths, …, according to `places`. -/
def fixedPoint (places units : Nat) : List Char :=
  natural (units / 10 ^ places) ++ '.' :: padded places (units % 10 ^ places)

theorem isDigit_of_mem_natural {number : Nat} :
    ∀ character ∈ natural number, character.isDigit = true :=
  fun _ member => Nat.isDigit_of_mem_toDigits (by decide) (by decide) member

theorem natural_ne_nil (number : Nat) : natural number ≠ [] := Nat.toDigits_ne_nil

theorem ofDigitChars_natural (number : Nat) :
    Nat.ofDigitChars 10 (natural number) 0 = number := Nat.ofDigitChars_ten_toDigits

theorem length_natural_le {number places : Nat} (positive : 0 < places)
    (small : number < 10 ^ places) : (natural number).length ≤ places :=
  (Nat.length_toDigits_le_iff (by decide) positive).mpr small

theorem length_padded {places number : Nat} (positive : 0 < places)
    (small : number < 10 ^ places) : (padded places number).length = places := by
  have fits := length_natural_le positive small
  rw [padded, List.length_append, List.length_replicate]
  omega

theorem isDigit_of_mem_padded {places number : Nat} :
    ∀ character ∈ padded places number, character.isDigit = true := by
  intro character member
  rcases List.mem_append.mp member with zero | digit
  · rw [List.eq_of_mem_replicate zero]
    decide
  · exact isDigit_of_mem_natural character digit

theorem ofDigitChars_padded (places number start : Nat) :
    Nat.ofDigitChars 10 (padded places number) start =
      10 ^ (padded places number).length * start + number := by
  rw [Nat.ofDigitChars_eq_ofDigitChars_zero]
  congr 1
  rw [padded, Nat.ofDigitChars_append, Nat.ofDigitChars_replicate_zero, Nat.mul_zero,
    ofDigitChars_natural]

/-- The digits on both sides of the point spell the number of units. -/
theorem ofDigitChars_fixedPoint {places : Nat} (positive : 0 < places) (units : Nat) :
    Nat.ofDigitChars 10
        (natural (units / 10 ^ places) ++ padded places (units % 10 ^ places)) 0 = units := by
  have small : units % 10 ^ places < 10 ^ places := Nat.mod_lt _ (Nat.pow_pos (by decide))
  rw [Nat.ofDigitChars_append, ofDigitChars_natural, ofDigitChars_padded,
    length_padded positive small]
  exact Nat.div_add_mod units (10 ^ places)

theorem length_fixedPoint_le {places whole units : Nat} (placesPositive : 0 < places)
    (wholePositive : 0 < whole) (small : units / 10 ^ places < 10 ^ whole) :
    (fixedPoint places units).length ≤ whole + 1 + places := by
  have fits := length_natural_le wholePositive small
  have fraction := length_padded placesPositive
    (Nat.mod_lt units (Nat.pow_pos (by decide) : 0 < 10 ^ places))
  rw [fixedPoint, List.length_append, List.length_cons, fraction]
  omega

end Msp.Library.Decimal
