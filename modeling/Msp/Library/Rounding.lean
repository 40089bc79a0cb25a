import Mathlib.Data.Rat.Floor
import Mathlib.Algebra.Order.Floor.Ring
import Mathlib.Algebra.Ring.Parity
import Mathlib.Tactic.Linarith
import Mathlib.Tactic.Push

/-!
# Rounding to the nearest integer, ties to even

The rounding of C's `printf` family and of Python's `round`, on exact rationals.
`lt_roundHalfEven_iff` says where each integer threshold is crossed; everything
else about the function follows from it.
-/

set_option autoImplicit false

namespace Msp.Library

def roundHalfEven (value : ℚ) : ℤ :=
  let below := ⌊value⌋
  if value - below < 1 / 2 then below
  else if 1 / 2 < value - below then below + 1
  else if Even below then below
  else below + 1

theorem roundHalfEven_cases (value : ℚ) :
    (roundHalfEven value = ⌊value⌋ ∧
        (value < ⌊value⌋ + 1 / 2 ∨ value = ⌊value⌋ + 1 / 2 ∧ Even ⌊value⌋)) ∨
      (roundHalfEven value = ⌊value⌋ + 1 ∧
        (⌊value⌋ + 1 / 2 < value ∨ value = ⌊value⌋ + 1 / 2 ∧ ¬ Even ⌊value⌋)) := by
  unfold roundHalfEven
  dsimp only
  split_ifs with low high even
  · exact Or.inl ⟨rfl, Or.inl (by linarith)⟩
  · exact Or.inr ⟨rfl, Or.inl (by linarith)⟩
  · exact Or.inl ⟨rfl, Or.inr ⟨by linarith, even⟩⟩
  · exact Or.inr ⟨rfl, Or.inr ⟨by linarith, even⟩⟩

/-- A value rounds above `bound` once it passes the midpoint behind it; at the
midpoint itself only from an odd `bound`. -/
theorem lt_roundHalfEven_iff (bound : ℤ) (value : ℚ) :
    bound < roundHalfEven value ↔
      (bound : ℚ) + 1 / 2 < value ∨ value = bound + 1 / 2 ∧ ¬ Even bound := by
  have lower := Int.floor_le value
  have upper := Int.lt_floor_add_one value
  rcases lt_trichotomy bound ⌊value⌋ with less | same | greater
  · -- both candidates are above the bound
    have gap : (bound : ℚ) + 1 ≤ ⌊value⌋ := by exact_mod_cast less
    constructor
    · intro _
      exact Or.inl (by linarith)
    · intro _
      rcases roundHalfEven_cases value with ⟨rounded, _⟩ | ⟨rounded, _⟩ <;> omega
  · subst same
    constructor
    · intro above
      rcases roundHalfEven_cases value with ⟨rounded, _⟩ | ⟨_, why⟩
      · omega
      · exact why
    · intro why
      rcases roundHalfEven_cases value with ⟨_, low⟩ | ⟨rounded, _⟩
      · exfalso
        rcases why with high | ⟨tie, odd⟩
        · rcases low with low | ⟨tie, _⟩ <;> linarith
        · rcases low with low | ⟨_, even⟩
          · linarith
          · exact odd even
      · omega
  · -- both candidates are at most the bound
    have gap : (⌊value⌋ : ℚ) + 1 ≤ bound := by exact_mod_cast greater
    constructor
    · intro above
      rcases roundHalfEven_cases value with ⟨rounded, _⟩ | ⟨rounded, _⟩ <;> omega
    · rintro (high | ⟨tie, _⟩) <;> linarith

/-- The integers at a distance below one half, and of two at exactly one half the even one. -/
theorem roundHalfEven_eq_iff (value : ℚ) (whole : ℤ) :
    roundHalfEven value = whole ↔
      |value - whole| < 1 / 2 ∨ |value - whole| = 1 / 2 ∧ Even whole := by
  have above := lt_roundHalfEven_iff whole value
  have below := lt_roundHalfEven_iff (whole - 1) value
  have parity : ¬ Even (whole - 1) ↔ Even whole := by
    rw [Int.even_sub_one, not_not]
  have between : roundHalfEven value = whole ↔
      ¬ whole < roundHalfEven value ∧ whole - 1 < roundHalfEven value := by omega
  rw [between, above, below, parity, not_or, not_and_not_right]
  push_cast
  constructor
  · rintro ⟨⟨notAbove, atTop⟩, low | ⟨low, even⟩⟩
    · rcases lt_or_eq_of_le (not_lt.mp notAbove) with inside | top
      · exact Or.inl (abs_lt.mpr ⟨by linarith, by linarith⟩)
      · refine Or.inr ⟨?_, atTop top⟩
        rw [top, add_sub_cancel_left]
        exact abs_of_pos one_half_pos
    · refine Or.inr ⟨?_, even⟩
      rw [low, show (whole : ℚ) - 1 + 1 / 2 - whole = -(1 / 2) by ring, abs_neg]
      exact abs_of_pos one_half_pos
  · rintro (near | ⟨half, even⟩)
    · obtain ⟨low, high⟩ := abs_lt.mp near
      exact ⟨⟨by linarith, fun top => by linarith⟩, Or.inl (by linarith)⟩
    · rcases (abs_eq one_half_pos.le).mp half with top | low
      · exact ⟨⟨by linarith, fun _ => even⟩, Or.inl (by linarith)⟩
      · exact ⟨⟨by linarith, fun _ => even⟩, Or.inr ⟨by linarith, even⟩⟩

theorem abs_sub_roundHalfEven_le (value : ℚ) : |value - roundHalfEven value| ≤ 1 / 2 := by
  rcases (roundHalfEven_eq_iff value _).mp rfl with near | ⟨half, _⟩
  · exact near.le
  · exact half.le

theorem roundHalfEven_nearest (value : ℚ) (other : ℤ) :
    |value - roundHalfEven value| ≤ |value - other| := by
  by_contra nearer
  have near := abs_sub_roundHalfEven_le value
  have isOther : roundHalfEven value = other := by
    rw [roundHalfEven_eq_iff]
    exact Or.inl (by linarith)
  exact nearer (by rw [isOther])

theorem roundHalfEven_intCast (whole : ℤ) : roundHalfEven (whole : ℚ) = whole := by
  rw [roundHalfEven_eq_iff, sub_self, abs_zero]
  exact Or.inl one_half_pos

/-- Above the integer below, and not past the midpoint behind it. -/
def RoundsDown (value : ℚ) : Prop :=
  0 < Int.fract value ∧ (Int.fract value < 1 / 2 ∨ Int.fract value = 1 / 2 ∧ Even ⌊value⌋)

theorem roundHalfEven_of_roundsDown {value : ℚ} (down : RoundsDown value) :
    roundHalfEven value = ⌊value⌋ := by
  obtain ⟨_, below | ⟨tie, even⟩⟩ := down
  · rcases roundHalfEven_cases value with ⟨rounded, _⟩ | ⟨_, high | ⟨high, _⟩⟩
    · exact rounded
    · rw [Int.fract] at below
      linarith
    · rw [Int.fract] at below
      linarith
  · rcases roundHalfEven_cases value with ⟨rounded, _⟩ | ⟨_, high | ⟨_, odd⟩⟩
    · exact rounded
    · rw [Int.fract] at tie
      linarith
    · exact absurd even odd

theorem floor_lt_of_roundsDown {value : ℚ} (down : RoundsDown value) : (⌊value⌋ : ℚ) < value := by
  have above := down.1
  rw [Int.fract] at above
  linarith

theorem le_roundHalfEven {value : ℚ} (notDown : ¬ RoundsDown value) :
    value ≤ roundHalfEven value := by
  rcases roundHalfEven_cases value with ⟨rounded, low⟩ | ⟨rounded, _⟩
  · rw [rounded]
    by_contra above
    apply notDown
    rw [RoundsDown, Int.fract]
    refine ⟨by linarith, ?_⟩
    rcases low with below | ⟨tie, even⟩
    · exact Or.inl (by linarith)
    · exact Or.inr ⟨by linarith, even⟩
  · rw [rounded]
    push_cast
    exact (Int.lt_floor_add_one value).le

theorem roundHalfEven_nonneg {value : ℚ} (nonneg : 0 ≤ value) : 0 ≤ roundHalfEven value := by
  have above : (-1 : ℤ) < roundHalfEven value := by
    rw [lt_roundHalfEven_iff]
    left
    push_cast
    linarith
  omega

end Msp.Library
