import Mathlib.LinearAlgebra.Matrix.Trace
import Mathlib.Data.Matrix.Mul

/-!
# Gradients of affine maps of a matrix

The dot product of two matrices, what the transpose of a product does in it, and
`IsGradient`: the rows of a matrix that may move, and the one matrix whose dot
product with every such move is the change that the move causes, seen from the
upstream gradient.  Rows that may not move have gradient zero.
-/

set_option autoImplicit false

namespace Msp.Library.Pairing

open Matrix

section Pairing
variable {R : Type*} [CommRing R] {ι κ m n : Type*} [Fintype ι] [Fintype κ] [Fintype m] [Fintype n]

def pairing (left right : Matrix m n R) : R := ∑ row, ∑ col, left row col * right row col

theorem pairing_eq_trace (left right : Matrix m n R) :
    pairing left right = trace (left * rightᵀ) := rfl

theorem pairing_smul (scalar : R) (left right : Matrix m n R) :
    pairing left (scalar • right) = pairing (scalar • left) right := by
  simp [pairing_eq_trace]

theorem pairing_mul (left : Matrix m n R) (first : Matrix m κ R) (second : Matrix κ n R) :
    pairing left (first * second) = pairing (left * secondᵀ) first := by
  rw [pairing_eq_trace, pairing_eq_trace, transpose_mul, Matrix.mul_assoc]

theorem pairing_transpose (left right : Matrix m n R) :
    pairing leftᵀ rightᵀ = pairing left right := Finset.sum_comm

theorem pairing_mul_transpose (left : Matrix m n R) (first : Matrix m κ R)
    (second : Matrix n κ R) : pairing left (first * secondᵀ) = pairing (leftᵀ * first) second := by
  rw [← pairing_transpose, transpose_mul, transpose_transpose, pairing_mul, transpose_transpose]

def keepRows (kept : m → Bool) (matrix : Matrix m n R) : Matrix m n R :=
  fun row col => if kept row then matrix row col else 0

omit [Fintype m] [Fintype n] in
@[simp] theorem keepRows_idem (kept : m → Bool) (matrix : Matrix m n R) :
    keepRows kept (keepRows kept matrix) = keepRows kept matrix := by
  funext row col
  simp only [keepRows]
  split <;> rfl

/-- Keeping rows can be done on either side of the dot product. -/
theorem pairing_keepRows (kept : m → Bool) (left right : Matrix m n R) :
    pairing left (keepRows kept right) = pairing (keepRows kept left) right := by
  unfold pairing keepRows
  refine Finset.sum_congr rfl fun row _ => Finset.sum_congr rfl fun col _ => ?_
  split <;> simp

theorem eq_of_pairing {left right : Matrix m n R}
    (same : ∀ move, pairing left move = pairing right move) : left = right := by
  refine Matrix.ext_iff_trace_mul_right.mpr fun move => ?_
  have dot := same moveᵀ
  rwa [pairing_eq_trace, pairing_eq_trace, transpose_transpose] at dot

/-- `gradient` describes, from `upstream`, how `output` changes when the kept rows of
its argument move from `point`; the other rows of the gradient are zero. -/
structure IsGradient (output : Matrix m n R → Matrix ι κ R) (point : Matrix m n R)
    (upstream : Matrix ι κ R) (kept : m → Bool) (gradient : Matrix m n R) : Prop where
  change : ∀ move : Matrix m n R, keepRows kept move = move →
    pairing upstream (output (point + move) - output point) = pairing gradient move
  frozen : keepRows kept gradient = gradient

section Gradient
variable {output : Matrix m n R → Matrix ι κ R} {point gradient other : Matrix m n R}
  {upstream : Matrix ι κ R} {kept : m → Bool}

theorem IsGradient.unique (isGradient : IsGradient output point upstream kept gradient)
    (isOther : IsGradient output point upstream kept other) : gradient = other := by
  apply eq_of_pairing
  intro move
  calc pairing gradient move
      = pairing gradient (keepRows kept move) := by
        rw [pairing_keepRows, isGradient.frozen]
    _ = pairing other (keepRows kept move) := by
        rw [← isGradient.change _ (keepRows_idem kept move),
          ← isOther.change _ (keepRows_idem kept move)]
    _ = pairing other move := by rw [pairing_keepRows, isOther.frozen]

/-- Freezing rows keeps the other rows of the gradient as they are. -/
theorem IsGradient.freeze (isGradient : IsGradient output point upstream (fun _ => true) gradient)
    (kept : m → Bool) : IsGradient output point upstream kept (keepRows kept gradient) where
  change move moves := by
    rw [← pairing_keepRows, moves]
    exact isGradient.change move rfl
  frozen := keepRows_idem kept gradient

end Gradient

end Pairing

end Msp.Library.Pairing
