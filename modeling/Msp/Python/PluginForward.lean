import Msp.Library.Pairing
import Msp.Python.PluginLayer
import Msp.Python.LayerGate
import Mathlib.LinearAlgebra.Matrix.Rank

/-!
# What a plugin layer computes, and its gradients

`StructuralPluginLayer.forward` (`src/python/msp/plugin_layer.py`) with exact
arithmetic, on an input of any leading shape: `ι` indexes its rows.  The input
has the dtype of the base layer's weight, which `F.linear` demands.
-/

set_option autoImplicit false

namespace Msp.Python.PluginLayer

open Msp.Library.Pairing Msp.Python.GradientGate
open scoped Matrix

section Forward
variable {DType R : Type} [CommRing R] {ι : Type*}

structure Parameters {DType : Type} (R : Type) (base : Linear DType) where
  weight : Matrix (Fin base.outFeatures) (Fin base.inFeatures) R
  bias : Option (Fin base.outFeatures → R)

def linear {base : Linear DType} (parameters : Parameters R base)
    (x : Matrix ι (Fin base.inFeatures) R) : Matrix ι (Fin base.outFeatures) R :=
  match parameters.bias with
  | none => x * parameters.weightᵀ
  | some bias => x * parameters.weightᵀ + Matrix.of fun _ => bias

namespace StructuralPluginLayer
variable {torch : Torch DType R R}

def matrixA (layer : StructuralPluginLayer torch) :
    Matrix (Fin layer.rank) (Fin layer.base.inFeatures) R := layer.entriesA

def matrixB (layer : StructuralPluginLayer torch) :
    Matrix (Fin layer.base.outFeatures) (Fin layer.rank) R := layer.entriesB

def forward (layer : StructuralPluginLayer torch) (parameters : Parameters R layer.base)
    (x : Matrix ι (Fin layer.base.inFeatures) R) : Matrix ι (Fin layer.base.outFeatures) R :=
  let baseOut := linear parameters x
  if layer.routingGateEnabled then
    let pluginIn := x.map (torch.cast layer.base.weightDtype layer.adapterDtype)
    let adapterOut := layer.scaling • (pluginIn * layer.matrixAᵀ * layer.matrixBᵀ)
    baseOut + adapterOut.map (torch.cast layer.adapterDtype layer.base.weightDtype)
  else baseOut

/-- What the adapter adds to the weight of its base layer. -/
def deltaWeight (layer : StructuralPluginLayer torch) :
    Matrix (Fin layer.base.outFeatures) (Fin layer.base.inFeatures) R :=
  if layer.routingGateEnabled then layer.scaling • (layer.matrixB * layer.matrixA) else 0

/-- The base layer with the adapter merged into it. -/
def merged (layer : StructuralPluginLayer torch) (parameters : Parameters R layer.base) :
    Parameters R layer.base :=
  { parameters with weight := parameters.weight + layer.deltaWeight }

theorem linear_add {base : Linear DType} (parameters : Parameters R base)
    (delta : Matrix (Fin base.outFeatures) (Fin base.inFeatures) R)
    (x : Matrix ι (Fin base.inFeatures) R) :
    linear { parameters with weight := parameters.weight + delta } x =
      linear parameters x + x * deltaᵀ := by
  unfold linear
  cases parameters.bias with
  | none => rw [Matrix.transpose_add, Matrix.mul_add]
  | some bias =>
      simp only [Matrix.transpose_add, Matrix.mul_add]
      abel

omit [CommRing R] in
theorem map_cast_self (dtype : DType) {rows cols : Type*} (values : Matrix rows cols R) :
    values.map (torch.cast dtype dtype) = values := by
  ext row col
  exact torch.cast_self _ _

section SameDtype
variable {layer : StructuralPluginLayer torch} (parameters : Parameters R layer.base)
  (x : Matrix ι (Fin layer.base.inFeatures) R)

theorem forward_of_sameDtype (sameDtype : layer.adapterDtype = layer.base.weightDtype) :
    layer.forward parameters x =
      if layer.routingGateEnabled then
        linear parameters x + layer.scaling • (x * layer.matrixAᵀ * layer.matrixBᵀ)
      else linear parameters x := by
  simp only [forward, sameDtype, map_cast_self]

/-- An adapter of its base layer's dtype acts as a change of the base layer's weight. -/
theorem forward_eq_merged (sameDtype : layer.adapterDtype = layer.base.weightDtype) :
    layer.forward parameters x = linear (layer.merged parameters) x := by
  rw [forward_of_sameDtype parameters x sameDtype, merged, linear_add, deltaWeight]
  split
  · rw [Matrix.transpose_smul, Matrix.transpose_mul, Matrix.mul_smul, Matrix.mul_assoc]
  · rw [Matrix.transpose_zero, Matrix.mul_zero, add_zero]

end SameDtype

/-- The change is of low rank, whatever the values are. -/
theorem rank_deltaWeight_le [Nontrivial R] (layer : StructuralPluginLayer torch) :
    layer.deltaWeight.rank ≤ layer.rank := by
  unfold deltaWeight
  split
  · calc (layer.scaling • (layer.matrixB * layer.matrixA)).rank
        = (layer.matrixB * (layer.scaling • layer.matrixA)).rank := by rw [Matrix.mul_smul]
      _ ≤ layer.matrixB.rank := Matrix.rank_mul_le_left _ _
      _ ≤ layer.rank := Matrix.rank_le_width _
  · rw [Matrix.rank_zero]
    exact Nat.zero_le _

theorem matrixB_of_construct (zero : torch.zero = 0) {base : Linear DType} {rank : Int}
    {alpha : R} {dtype : Option DType} {layer : StructuralPluginLayer torch}
    (built : construct torch base rank alpha dtype = .ok layer) : layer.matrixB = 0 := by
  unfold construct at built
  split at built
  · split at built
    · cases built
      ext row col
      exact zero
    · cases built
  · cases built

/-- A new layer adds nothing to its base layer. -/
theorem deltaWeight_of_construct (zero : torch.zero = 0) {base : Linear DType} {rank : Int}
    {alpha : R} {dtype : Option DType} {layer : StructuralPluginLayer torch}
    (built : construct torch base rank alpha dtype = .ok layer) : layer.deltaWeight = 0 := by
  unfold deltaWeight
  split
  · rw [matrixB_of_construct zero built, Matrix.zero_mul, smul_zero]
  · rfl

section Backward
variable [Fintype ι] {layer : StructuralPluginLayer torch} (parameters : Parameters R layer.base)
  {x : Matrix ι (Fin layer.base.inFeatures) R}
  {upstream : Matrix ι (Fin layer.base.outFeatures) R}

/-- The gradient of `x @ A^T`, which the kernel is given. -/
def gradU (layer : StructuralPluginLayer torch)
    (upstream : Matrix ι (Fin layer.base.outFeatures) R) : Matrix ι (Fin layer.rank) R :=
  layer.scaling • (upstream * layer.matrixB)

def gradA (layer : StructuralPluginLayer torch) (x : Matrix ι (Fin layer.base.inFeatures) R)
    (upstream : Matrix ι (Fin layer.base.outFeatures) R) :
    Matrix (Fin layer.rank) (Fin layer.base.inFeatures) R :=
  (layer.gradU upstream)ᵀ * x

def gradB (layer : StructuralPluginLayer torch) (x : Matrix ι (Fin layer.base.inFeatures) R)
    (upstream : Matrix ι (Fin layer.base.outFeatures) R) :
    Matrix (Fin layer.base.outFeatures) (Fin layer.rank) R :=
  upstreamᵀ * (layer.scaling • (x * layer.matrixAᵀ))

def withA (layer : StructuralPluginLayer torch)
    (entries : Matrix (Fin layer.rank) (Fin layer.base.inFeatures) R) :
    StructuralPluginLayer torch :=
  { layer with entriesA := fun row col => entries row col }

def withB (layer : StructuralPluginLayer torch)
    (entries : Matrix (Fin layer.base.outFeatures) (Fin layer.rank) R) :
    StructuralPluginLayer torch :=
  { layer with entriesB := fun row col => entries row col }

def forwardOfA (layer : StructuralPluginLayer torch) (parameters : Parameters R layer.base)
    (x : Matrix ι (Fin layer.base.inFeatures) R)
    (entries : Matrix (Fin layer.rank) (Fin layer.base.inFeatures) R) :
    Matrix ι (Fin layer.base.outFeatures) R :=
  (layer.withA entries).forward parameters x

def forwardOfB (layer : StructuralPluginLayer torch) (parameters : Parameters R layer.base)
    (x : Matrix ι (Fin layer.base.inFeatures) R)
    (entries : Matrix (Fin layer.base.outFeatures) (Fin layer.rank) R) :
    Matrix ι (Fin layer.base.outFeatures) R :=
  (layer.withB entries).forward parameters x

theorem isGradient_gradA (sameDtype : layer.adapterDtype = layer.base.weightDtype)
    (enabled : layer.routingGateEnabled = true) :
    IsGradient (layer.forwardOfA parameters x) layer.matrixA upstream (fun _ => true)
      (layer.gradA x upstream) where
  frozen := rfl
  change move _ := by
    have moved : ∀ entries, layer.forwardOfA parameters x entries =
        linear parameters x + layer.scaling • (x * entriesᵀ * layer.matrixBᵀ) := fun entries =>
      (@forward_of_sameDtype _ _ _ _ _ (layer.withA entries) parameters x sameDtype).trans
        (if_pos enabled)
    calc pairing upstream
          (layer.forwardOfA parameters x (layer.matrixA + move) -
            layer.forwardOfA parameters x layer.matrixA)
        = pairing upstream (layer.scaling • (x * moveᵀ * layer.matrixBᵀ)) := by
          rw [moved, moved, Matrix.transpose_add, Matrix.mul_add, Matrix.add_mul, smul_add,
            add_sub_add_left_eq_sub, add_sub_cancel_left]
      _ = pairing (layer.gradU upstream) (x * moveᵀ) := by
          rw [pairing_smul, pairing_mul, Matrix.transpose_transpose, Matrix.smul_mul, gradU]
      _ = pairing (layer.gradA x upstream) move := by
          rw [pairing_mul_transpose, gradA]

theorem isGradient_gradB (sameDtype : layer.adapterDtype = layer.base.weightDtype)
    (enabled : layer.routingGateEnabled = true) :
    IsGradient (layer.forwardOfB parameters x) layer.matrixB upstream (fun _ => true)
      (layer.gradB x upstream) where
  frozen := rfl
  change move _ := by
    have moved : ∀ entries, layer.forwardOfB parameters x entries =
        linear parameters x + layer.scaling • (x * layer.matrixAᵀ * entriesᵀ) := fun entries =>
      (@forward_of_sameDtype _ _ _ _ _ (layer.withB entries) parameters x sameDtype).trans
        (if_pos enabled)
    calc pairing upstream
          (layer.forwardOfB parameters x (layer.matrixB + move) -
            layer.forwardOfB parameters x layer.matrixB)
        = pairing upstream (layer.scaling • (x * layer.matrixAᵀ) * moveᵀ) := by
          rw [moved, moved, Matrix.transpose_add, Matrix.mul_add, smul_add,
            add_sub_add_left_eq_sub, add_sub_cancel_left, Matrix.smul_mul]
      _ = pairing (layer.gradB x upstream) move := by
          rw [pairing_mul_transpose, gradB]

end Backward

end StructuralPluginLayer

section Gate
variable {Temp : Type*} [LinearOrder Temp]

def keptRows (monitor : ThermalMonitor Temp) (temperatureC : Temp) (rows : ℕ) (row : Fin rows) :
    Bool :=
  !isThrottling monitor temperatureC || mask rows (stride monitor) row

theorem hook_eq_keepRows (monitor : ThermalMonitor Temp) (temperatureC : Temp) {rows cols : ℕ}
    (grad : Matrix (Fin rows) (Fin cols) R) :
    hook monitor temperatureC grad = keepRows (keptRows monitor temperatureC rows) grad := by
  funext row col
  unfold hook keepRows keptRows
  cases isThrottling monitor temperatureC with
  | false => simp
  | true => simp

end Gate

end Forward

end Msp.Python.PluginLayer
