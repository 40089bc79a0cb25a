import Mathlib.Data.Nat.Basic
import Mathlib.Tactic.Common

/-!
# `StructuralPluginLayer`

The adapter layer as its constructor builds it (`src/python/msp/plugin_layer.py`),
with the tensors it needs: two-dimensional, generic in the dtype, the elements
and Python's floats.  What `torch` does is a parameter with the one law the
development relies on: copying within a dtype copies the values.
-/

set_option autoImplicit false

namespace Msp.Python.PluginLayer

structure Tensor (DType Elem : Type) where
  dtype : DType
  rows : Nat
  cols : Nat
  entries : Fin rows → Fin cols → Elem

structure Torch (DType Elem Scalar : Type) where
  trainable : DType → Bool
  cast : DType → DType → Elem → Elem
  cast_self : ∀ dtype element, cast dtype dtype element = element
  zero : Elem
  kaimingUniform : (rows cols : Nat) → Fin rows → Fin cols → Elem
  /-- `alpha / rank` and `scaling * rank` on floats. -/
  divide : Scalar → Nat → Scalar
  multiply : Scalar → Nat → Scalar

structure Linear (DType : Type) where
  outFeatures : Nat
  inFeatures : Nat
  weightDtype : DType
  deriving DecidableEq, Repr

inductive PyError where
  | valueError (message : String)
  | keyError (key : String)
  | layerNamesDiffer (missing extra : List String)
  | fileNotFoundError (message : String)
  | jsonDecodeError
  | torchError (operation : String)
  deriving DecidableEq, Repr

section Layer
variable {DType Elem Scalar : Type}

/-- A layer: the matrices have the shapes and the dtype the constructor gave them. -/
structure StructuralPluginLayer (torch : Torch DType Elem Scalar) where
  base : Linear DType
  rank : Nat
  rankPositive : 0 < rank
  adapterDtype : DType
  trainable : torch.trainable adapterDtype = true
  entriesA : Fin rank → Fin base.inFeatures → Elem
  entriesB : Fin base.outFeatures → Fin rank → Elem
  scaling : Scalar
  routingGateEnabled : Bool

namespace StructuralPluginLayer
variable {torch : Torch DType Elem Scalar}

def pluginMatrixA (layer : StructuralPluginLayer torch) : Tensor DType Elem :=
  ⟨layer.adapterDtype, layer.rank, layer.base.inFeatures, layer.entriesA⟩

def pluginMatrixB (layer : StructuralPluginLayer torch) : Tensor DType Elem :=
  ⟨layer.adapterDtype, layer.base.outFeatures, layer.rank, layer.entriesB⟩

def construct (torch : Torch DType Elem Scalar) (base : Linear DType) (rank : Int)
    (alpha : Scalar) (dtype : Option DType) :
    Except PyError (StructuralPluginLayer torch) :=
  if positive : 0 < rank then
    if trainable : torch.trainable (dtype.getD base.weightDtype) = true then
      .ok
        { base := base
          rank := rank.toNat
          rankPositive := Int.pos_iff_toNat_pos.mp positive
          adapterDtype := dtype.getD base.weightDtype
          trainable := trainable
          entriesA := torch.kaimingUniform rank.toNat base.inFeatures
          entriesB := fun _ _ => torch.zero
          scaling := torch.divide alpha rank.toNat
          routingGateEnabled := true }
    else .error (.torchError "Parameter")
  else .error (.valueError "rank must be a positive integer")

end StructuralPluginLayer

def broadcastIndex {size target : Nat} (fits : size = target ∨ size = 1) (index : Fin target) :
    Fin size :=
  if same : size = target then index.cast same.symm
  else ⟨0, by rcases fits with equal | one; exacts [absurd equal same, one ▸ Nat.zero_lt_one]⟩

/-- `copy_` into a tensor of this dtype and shape: the source is broadcast and
converted; a source that cannot be broadcast is refused. -/
def copyInto (torch : Torch DType Elem Scalar) (dtype : DType) (rows cols : Nat)
    (source : Tensor DType Elem) : Except PyError (Fin rows → Fin cols → Elem) :=
  if fits : (source.rows = rows ∨ source.rows = 1) ∧ (source.cols = cols ∨ source.cols = 1) then
    .ok fun row col =>
      torch.cast source.dtype dtype
        (source.entries (broadcastIndex fits.1 row) (broadcastIndex fits.2 col))
  else .error (.torchError "copy_")

theorem copyInto_same (torch : Torch DType Elem Scalar) (source : Tensor DType Elem) :
    copyInto torch source.dtype source.rows source.cols source = .ok source.entries := by
  unfold copyInto
  rw [dif_pos ⟨Or.inl rfl, Or.inl rfl⟩]
  congr 1
  funext row col
  rw [torch.cast_self]
  simp [broadcastIndex]

end Layer

end Msp.Python.PluginLayer
