import Msp.Library.Rounding
import Mathlib.LinearAlgebra.Matrix.Defs

/-!
# The gradient gate

`ThermalMonitor` (`src/python/msp/thermal.py`) and the hooks of
`StructuralPluginLayer.gate_gradients` (`src/python/msp/plugin_layer.py`), on
exact numbers: the ratio is rational, temperatures come from a linear order and
gradients from a semiring.
-/

set_option autoImplicit false

namespace Msp.Python.GradientGate

open Msp.Library

/-- A monitor the constructor accepts. -/
structure ThermalMonitor (Temp : Type*) where
  freezeThresholdC : Temp
  freezeRatio : ℚ
  ratioPositive : 0 < freezeRatio
  ratioAtMostOne : freezeRatio ≤ 1

section Gate
variable {Temp Value : Type*} [LinearOrder Temp] [Semiring Value]

def isThrottling (monitor : ThermalMonitor Temp) (temperatureC : Temp) : Bool :=
  decide (monitor.freezeThresholdC < temperatureC)

def updateRatio (monitor : ThermalMonitor Temp) (temperatureC : Temp) : ℚ :=
  if isThrottling monitor temperatureC then monitor.freezeRatio else 1

/-- `max(1, round(1.0 / monitor.freeze_ratio))`. -/
def stride {Temp : Type*} (monitor : ThermalMonitor Temp) : Nat :=
  (max 1 (roundHalfEven (1 / monitor.freezeRatio))).toNat

def sliceIndices (length stride : Nat) : List Nat :=
  (List.range ((length + stride - 1) / stride)).map (· * stride)

def mask (numRows stride row : Nat) : Bool := decide (row ∈ sliceIndices numRows stride)

/-- `_hook`, when the monitor reads this temperature. -/
def hook (monitor : ThermalMonitor Temp) (temperatureC : Temp) {rows cols : Nat}
    (grad : Matrix (Fin rows) (Fin cols) Value) : Matrix (Fin rows) (Fin cols) Value :=
  if isThrottling monitor temperatureC then
    fun row col => grad row col * if mask rows (stride monitor) row then 1 else 0
  else grad

omit [LinearOrder Temp] in
theorem stride_pos (monitor : ThermalMonitor Temp) : 0 < stride monitor := by
  unfold stride
  omega

theorem mem_sliceIndices {length stride index : Nat} (positive : 0 < stride) :
    index ∈ sliceIndices length stride ↔ index < length ∧ index % stride = 0 := by
  have reaches : ∀ count, count < (length + stride - 1) / stride ↔ count * stride < length := by
    intro count
    rw [Nat.lt_iff_add_one_le, Nat.le_div_iff_mul_le positive, Nat.add_mul, Nat.one_mul]
    omega
  constructor
  · intro member
    obtain ⟨count, inRange, rfl⟩ := List.mem_map.mp member
    exact ⟨(reaches count).mp (List.mem_range.mp inRange), Nat.mul_mod_left count stride⟩
  · rintro ⟨below, multiple⟩
    have whole : index / stride * stride = index :=
      Nat.div_mul_cancel (Nat.dvd_of_mod_eq_zero multiple)
    refine List.mem_map.mpr ⟨index / stride, List.mem_range.mpr ?_, whole⟩
    rw [reaches, whole]
    exact below

theorem mask_iff {numRows stride row : Nat} (positive : 0 < stride) (below : row < numRows) :
    mask numRows stride row = true ↔ row % stride = 0 := by
  rw [mask, decide_eq_true_eq, mem_sliceIndices positive]
  exact and_iff_right below

end Gate

end Msp.Python.GradientGate
