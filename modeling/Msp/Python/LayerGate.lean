import Msp.Python.GradientPasses

/-!
# The hooks of one layer

`gate_gradients` and `clear_gradient_gate` on the hooks that `torch` keeps for
the two parameters, in the order of their registration, and on the list of
handles by which the layer removes its own.  `Armed` is the invariant: no hook,
or one for each matrix, of one monitor, and the handles of exactly these.
-/

set_option autoImplicit false

namespace Msp.Python.GradientGate

structure Handle where
  pluginMatrix : PluginMatrix
  key : ℕ
  deriving DecidableEq, Repr

/-- The gate state of a layer object. -/
structure LayerGate (Temp : Type*) where
  hooks : PluginMatrix → List (ℕ × ThermalMonitor Temp)
  gradGateHandles : List Handle
  nextKey : ℕ

namespace LayerGate
variable {Temp : Type*}

def fresh : LayerGate Temp := ⟨fun _ => [], [], 0⟩

def registerHook (gate : LayerGate Temp) (pluginMatrix : PluginMatrix)
    (monitor : ThermalMonitor Temp) : LayerGate Temp :=
  { hooks := fun other =>
      if other = pluginMatrix then gate.hooks other ++ [(gate.nextKey, monitor)]
      else gate.hooks other
    gradGateHandles := gate.gradGateHandles ++ [⟨pluginMatrix, gate.nextKey⟩]
    nextKey := gate.nextKey + 1 }

def remove (gate : LayerGate Temp) (handle : Handle) : LayerGate Temp :=
  { gate with
    hooks := fun other =>
      if other = handle.pluginMatrix then (gate.hooks other).filter fun hook => hook.1 ≠ handle.key
      else gate.hooks other }

def clearGradientGate (gate : LayerGate Temp) : LayerGate Temp :=
  { gate.gradGateHandles.foldl remove gate with gradGateHandles := [] }

def gateGradients (gate : LayerGate Temp) (monitor : ThermalMonitor Temp) : LayerGate Temp :=
  (gate.clearGradientGate.registerHook .A monitor).registerHook .B monitor

/-- The hooks of a parameter in their order, each with the temperature that its
monitor reads when it is called. -/
def runHooks {Value : Type*} [LinearOrder Temp] [Semiring Value] {rows cols : ℕ} :
    List (ℕ × ThermalMonitor Temp) → (ℕ → Temp) → Matrix (Fin rows) (Fin cols) Value →
      Matrix (Fin rows) (Fin cols) Value
  | [], _, grad => grad
  | (_, monitor) :: rest, temperatures, grad =>
      runHooks rest (fun call => temperatures (call + 1)) (hook monitor (temperatures 0) grad)

/-- The hooks are those of this gate, with the handles to remove them. -/
def Armed (gate : LayerGate Temp) : Option (ThermalMonitor Temp) → Prop
  | none => gate.gradGateHandles = [] ∧ ∀ pluginMatrix, gate.hooks pluginMatrix = []
  | some monitor => ∃ keyA keyB, gate.gradGateHandles = [⟨.A, keyA⟩, ⟨.B, keyB⟩] ∧
      gate.hooks .A = [(keyA, monitor)] ∧ gate.hooks .B = [(keyB, monitor)]

theorem armed_fresh : (fresh : LayerGate Temp).Armed none := ⟨rfl, fun _ => rfl⟩

theorem Armed.clear {gate : LayerGate Temp} {latest : Option (ThermalMonitor Temp)}
    (armed : gate.Armed latest) : gate.clearGradientGate.Armed none := by
  refine ⟨rfl, fun pluginMatrix => ?_⟩
  cases latest with
  | none =>
      obtain ⟨handles, bare⟩ := armed
      rw [clearGradientGate, handles]
      exact bare pluginMatrix
  | some monitor =>
      obtain ⟨keyA, keyB, handles, atA, atB⟩ := armed
      rw [clearGradientGate, handles]
      cases pluginMatrix <;> simp [remove, atA, atB]

theorem Armed.gate {gate : LayerGate Temp} {latest : Option (ThermalMonitor Temp)}
    (armed : gate.Armed latest) (monitor : ThermalMonitor Temp) :
    (gate.gateGradients monitor).Armed (some monitor) := by
  obtain ⟨handles, bare⟩ := armed.clear
  refine ⟨gate.clearGradientGate.nextKey, gate.clearGradientGate.nextKey + 1, ?_, ?_, ?_⟩ <;>
    simp [gateGradients, registerHook, handles, bare]

theorem clear_of_noHandles {gate : LayerGate Temp} (noHandles : gate.gradGateHandles = []) :
    gate.clearGradientGate = gate := by
  unfold clearGradientGate
  rw [noHandles]
  cases gate
  cases noHandles
  rfl

theorem clear_eq_iff {gate : LayerGate Temp} :
    gate.clearGradientGate = gate ↔ gate.gradGateHandles = [] :=
  ⟨fun same => (congrArg gradGateHandles same).symm, clear_of_noHandles⟩

theorem Armed.length_le_one {gate : LayerGate Temp} {latest : Option (ThermalMonitor Temp)}
    (armed : gate.Armed latest) (pluginMatrix : PluginMatrix) :
    (gate.hooks pluginMatrix).length ≤ 1 := by
  cases latest with
  | none =>
      rw [armed.2 pluginMatrix]
      exact Nat.zero_le 1
  | some monitor =>
      obtain ⟨keyA, keyB, _, atA, atB⟩ := armed
      cases pluginMatrix with
      | A => rw [atA]; exact le_refl 1
      | B => rw [atB]; exact le_refl 1

section Gradients
variable {Value : Type*} [LinearOrder Temp] [Semiring Value] {rows cols : ℕ}

theorem Armed.runHooks_none {gate : LayerGate Temp} (armed : gate.Armed none)
    (pluginMatrix : PluginMatrix) (temperatures : ℕ → Temp)
    (grad : Matrix (Fin rows) (Fin cols) Value) :
    runHooks (gate.hooks pluginMatrix) temperatures grad = grad := by
  rw [armed.2 pluginMatrix]
  rfl

theorem Armed.runHooks_some {gate : LayerGate Temp} {monitor : ThermalMonitor Temp}
    (armed : gate.Armed (some monitor)) (pluginMatrix : PluginMatrix) (temperatures : ℕ → Temp)
    (grad : Matrix (Fin rows) (Fin cols) Value) :
    runHooks (gate.hooks pluginMatrix) temperatures grad =
      if isThrottling monitor (temperatures 0) then maskRows monitor grad else grad := by
  obtain ⟨keyA, keyB, _, atA, atB⟩ := armed
  cases pluginMatrix with
  | A => rw [atA]; rfl
  | B => rw [atB]; rfl

end Gradients

end LayerGate

end Msp.Python.GradientGate
