import Msp.Cuda.GradientKernel
import Msp.Python.PluginForward

/-!
# The kernel and the hooks against the layer's own gradient

`tests/cuda/validate_gradient_kernel.py` compares the kernel with `torch`'s
gradient of a plugin layer on one input.  Here for every layer and input: the
launch, given the gradient of `x @ A^T`, leaves the gradient of the layer's
output with the throttled rows of A held fixed, and so do the two hooks on what
`backward()` computes.
-/

set_option autoImplicit false

namespace Msp.Cuda.GradientKernel

open Msp.Library.Pairing Msp.Python.GradientGate Msp.Python.PluginLayer
open scoped Matrix

section Layer
variable {DType R Temp : Type} [CommRing R] [LinearOrder Temp] {torch : Torch DType R R}

/-- `msp_launch_gradient_A_kernel` for the matrix A of a layer. -/
def layerLaunch (layer : StructuralPluginLayer torch) (monitor : ThermalMonitor Temp)
    (temperatureC : Temp) (batchSize : ℕ) : Launch Temp where
  batchSize := batchSize
  inFeatures := layer.base.inFeatures
  rank := layer.rank
  currentTempC := temperatureC
  criticalTempC := monitor.freezeThresholdC
  freezeStride := stride monitor

/-- Into a zeroed `grad_A` the launch puts what the hook makes of the gradient. -/
theorem launch_eq_hook (layer : StructuralPluginLayer torch) (monitor : ThermalMonitor Temp)
    (temperatureC : Temp) {batchSize : ℕ} {x gradU gradA : ℕ → R} {schedule : List Thread}
    (anyOrder : schedule.Perm (grid (layerLaunch layer monitor temperatureC batchSize)))
    (zeroed : view layer.rank layer.base.inFeatures gradA = 0) :
    view layer.rank layer.base.inFeatures
        (launchKernel (layerLaunch layer monitor temperatureC batchSize) x gradU schedule gradA) =
      hook monitor temperatureC
        ((view batchSize layer.rank gradU)ᵀ * view batchSize layer.base.inFeatures x) := by
  have positive : 1 ≤ (layerLaunch layer monitor temperatureC batchSize).freezeStride :=
    Int.toNat_le.mp (stride_pos monitor)
  rw [hook_eq_keepRows]
  ext row col
  have kept : Active (layerLaunch layer monitor temperatureC batchSize) row ↔ _ :=
    active_iff row.isLt rfl rfl
  refine (view_launchKernel positive anyOrder row col).trans ?_
  unfold keepRows keptRows
  have still : view layer.rank layer.base.inFeatures gradA row col = 0 := by rw [zeroed]; rfl
  by_cases active : Active (layerLaunch layer monitor temperatureC batchSize) row
  · have isKept := kept.mp active
    rw [if_pos active, if_pos]
    · rfl
    · cases throttling : isThrottling monitor temperatureC with
      | false => rfl
      | true => exact isKept throttling
  · rw [if_neg active, if_neg]
    · exact still
    · intro isKept
      refine active (kept.mpr fun throttling => ?_)
      change isThrottling monitor temperatureC = true at throttling
      rw [throttling] at isKept
      exact isKept

/-- Whatever the layer, its input and the upstream gradient, in any order of the
threads: the launch leaves the gradient of the layer's output in A with the
throttled rows held fixed; the hooks return this gradient, and the one in B with
its throttled rows held fixed; and there is no other such gradient. -/
theorem launch_and_hooks_are_gradients (layer : StructuralPluginLayer torch)
    (parameters : Parameters R layer.base) (monitor : ThermalMonitor Temp) (temperatureC : Temp)
    {batchSize : ℕ} (x : Matrix (Fin batchSize) (Fin layer.base.inFeatures) R)
    (upstream : Matrix (Fin batchSize) (Fin layer.base.outFeatures) R)
    (bufferX bufferU bufferA : ℕ → R) (schedule : List Thread)
    (sameDtype : layer.adapterDtype = layer.base.weightDtype)
    (enabled : layer.routingGateEnabled = true)
    (inputs : view batchSize layer.base.inFeatures bufferX = x)
    (upstreams : view batchSize layer.rank bufferU = layer.gradU upstream)
    (zeroed : view layer.rank layer.base.inFeatures bufferA = 0)
    (anyOrder : schedule.Perm (grid (layerLaunch layer monitor temperatureC batchSize))) :
    let stored := view layer.rank layer.base.inFeatures
      (launchKernel (layerLaunch layer monitor temperatureC batchSize) bufferX bufferU schedule
        bufferA)
    IsGradient (layer.forwardOfA parameters x) layer.matrixA upstream
        (keptRows monitor temperatureC layer.rank) stored ∧
      stored = hook monitor temperatureC (layer.gradA x upstream) ∧
      IsGradient (layer.forwardOfB parameters x) layer.matrixB upstream
        (keptRows monitor temperatureC layer.base.outFeatures)
        (hook monitor temperatureC (layer.gradB x upstream)) ∧
      (∀ other, IsGradient (layer.forwardOfA parameters x) layer.matrixA upstream
        (keptRows monitor temperatureC layer.rank) other → other = stored) := by
  intro stored
  have same : stored = hook monitor temperatureC (layer.gradA x upstream) := by
    rw [StructuralPluginLayer.gradA, ← inputs, ← upstreams]
    exact launch_eq_hook layer monitor temperatureC anyOrder zeroed
  have gradient : IsGradient (layer.forwardOfA parameters x) layer.matrixA upstream
      (keptRows monitor temperatureC layer.rank) stored := by
    rw [same, hook_eq_keepRows]
    exact (StructuralPluginLayer.isGradient_gradA parameters sameDtype enabled).freeze _
  refine ⟨gradient, same, ?_, fun other isOther => isOther.unique gradient⟩
  rw [hook_eq_keepRows]
  exact (StructuralPluginLayer.isGradient_gradB parameters sameDtype enabled).freeze _

end Layer

def wholeTorch : Torch Unit ℤ ℤ where
  trainable _ := true
  cast _ _ element := element
  cast_self _ _ := rfl
  zero := 0
  kaimingUniform _ _ _ _ := 1
  divide alpha rank := alpha / rank
  multiply scaling rank := scaling * rank

def squareLayer : StructuralPluginLayer wholeTorch where
  base := ⟨2, 3, ()⟩
  rank := 2
  rankPositive := Nat.zero_lt_two
  adapterDtype := ()
  trainable := rfl
  entriesA row col := row + col
  entriesB := (1 : Matrix (Fin 2) (Fin 2) ℤ)
  scaling := 1
  routingGateEnabled := true

theorem launch_and_hooks_are_gradients_square :
    view 2 3 (launchKernel (layerLaunch squareLayer halfMonitor 80 2) (fun n : ℕ => (n : ℤ))
        (fun n : ℕ => (n : ℤ) + 1) (grid (layerLaunch squareLayer halfMonitor 80 2)).reverse
          fun _ => 0) =
      hook halfMonitor 80 (squareLayer.gradA (view 2 3 fun n : ℕ => (n : ℤ))
        (view 2 2 fun n : ℕ => (n : ℤ) + 1)) := by
  have upstreams : view 2 2 (fun n : ℕ => (n : ℤ) + 1) =
      squareLayer.gradU (view 2 2 fun n : ℕ => (n : ℤ) + 1) :=
    ((one_smul ℤ _).trans (Matrix.mul_one _)).symm
  exact (launch_and_hooks_are_gradients squareLayer ⟨0, none⟩ halfMonitor 80 _ _ _ _ _ _ rfl rfl
    rfl upstreams rfl (List.reverse_perm _)).2.1

end Msp.Cuda.GradientKernel
