import Msp.Python.GradientGate
import Mathlib.Data.List.Basic
import Mathlib.Logic.Function.Iterate

/-!
# The readings behind a run of backward passes

Every hook of every gated layer asks the monitor for itself, and the monitor
asks its reader each time: a pass through the hooks of some layers takes two
readings a layer, in the order in which `torch` calls the hooks.  Whether a
hook masked its gradient is kept beside what it returned.
-/

set_option autoImplicit false

namespace Msp.Python.GradientGate

inductive PluginMatrix where
  | A
  | B
  deriving DecidableEq, Repr

structure Gradient (Layer Value : Type*) where
  layer : Layer
  pluginMatrix : PluginMatrix
  rows : ℕ
  cols : ℕ
  entries : Matrix (Fin rows) (Fin cols) Value

section Hooks
variable {Temp Value Layer Reader : Type*} [LinearOrder Temp] [Semiring Value]

def maskRows (monitor : ThermalMonitor Temp) {rows cols : ℕ}
    (grad : Matrix (Fin rows) (Fin cols) Value) : Matrix (Fin rows) (Fin cols) Value :=
  fun row col => grad row col * if mask rows (stride monitor) row then 1 else 0

/-- One call of a hook: the gradient, the answer of `is_throttling()`, and what
the hook returned for it. -/
structure Gated (monitor : ThermalMonitor Temp) (Layer Value : Type*) [Semiring Value] where
  gradient : Gradient Layer Value
  throttled : Bool
  returned : Matrix (Fin gradient.rows) (Fin gradient.cols) Value
  treated : returned = if throttled then maskRows monitor gradient.entries else gradient.entries

def gate (monitor : ThermalMonitor Temp) (temperatureC : Temp)
    (gradient : Gradient Layer Value) : Gated monitor Layer Value where
  gradient := gradient
  throttled := isThrottling monitor temperatureC
  returned := hook monitor temperatureC gradient.entries
  treated := rfl

/-- The hooks of one pass, in the order of their calls; `call` is the reader's
`__call__`. -/
def backwardPass (call : Reader → Temp × Reader) (monitor : ThermalMonitor Temp) :
    List (Gradient Layer Value) → Reader → List (Gated monitor Layer Value) × Reader
  | [], reader => ([], reader)
  | gradient :: rest, reader =>
      let read := call reader
      let others := backwardPass call monitor rest read.2
      (gate monitor read.1 gradient :: others.1, others.2)

def backwardPasses (call : Reader → Temp × Reader) (monitor : ThermalMonitor Temp) :
    List (List (Gradient Layer Value)) → Reader →
      List (List (Gated monitor Layer Value)) × Reader
  | [], reader => ([], reader)
  | pass :: rest, reader =>
      let done := backwardPass call monitor pass reader
      let others := backwardPasses call monitor rest done.2
      (done.1 :: others.1, others.2)

/-- A pass calls the hook of each matrix of each gated layer once, in any order. -/
def IsPass (layers : List Layer) (pass : List (Gradient Layer Value)) : Prop :=
  (pass.map fun gradient => (gradient.layer, gradient.pluginMatrix)).Perm
    (layers.flatMap fun layer => [(layer, .A), (layer, .B)])

omit [Semiring Value] in
theorem IsPass.length {layers : List Layer} {pass : List (Gradient Layer Value)}
    (isPass : IsPass layers pass) : pass.length = 2 * layers.length := by
  have same := isPass.length_eq
  rw [List.length_map] at same
  rw [same]
  clear same isPass
  induction layers with
  | nil => rfl
  | cons layer rest ih =>
      rw [List.flatMap_cons, List.length_append, ih, List.length_cons, List.length_cons,
        List.length_cons, List.length_nil]
      omega

def advance (call : Reader → Temp × Reader) (calls : ℕ) (reader : Reader) : Reader :=
  (fun current => (call current).2)^[calls] reader

def delivered (call : Reader → Temp × Reader) (calls : ℕ) (reader : Reader) : Temp :=
  (call (advance call calls reader)).1

section Run
variable {call : Reader → Temp × Reader} {monitor : ThermalMonitor Temp}

omit [LinearOrder Temp] in
theorem advance_add (first second : ℕ) (reader : Reader) :
    advance call second (advance call first reader) = advance call (first + second) reader := by
  rw [advance, advance, ← Function.iterate_add_apply, Nat.add_comm]
  rfl

omit [LinearOrder Temp] in
theorem delivered_advance (first second : ℕ) (reader : Reader) :
    delivered call second (advance call first reader) =
      delivered call (first + second) reader := by
  rw [delivered, advance_add]
  rfl

theorem backwardPass_reader (pass : List (Gradient Layer Value)) : ∀ reader : Reader,
    (backwardPass call monitor pass reader).2 = advance call pass.length reader := by
  induction pass with
  | nil => intro reader; rfl
  | cons gradient rest ih =>
      intro reader
      exact ih (call reader).2

theorem backwardPass_get (pass : List (Gradient Layer Value)) : ∀ (reader : Reader) (position : ℕ),
    (backwardPass call monitor pass reader).1[position]? =
      pass[position]?.map (gate monitor (delivered call position reader)) := by
  induction pass with
  | nil => intro reader position; rfl
  | cons gradient rest ih =>
      intro reader position
      cases position with
      | zero => rfl
      | succ position => exact ih (call reader).2 position

theorem backwardPasses_get {width : ℕ} (passes : List (List (Gradient Layer Value)))
    (wide : ∀ pass ∈ passes, pass.length = width) : ∀ (reader : Reader) (index : ℕ),
    (backwardPasses call monitor passes reader).1[index]? =
      passes[index]?.map fun pass =>
        (backwardPass call monitor pass (advance call (width * index) reader)).1 := by
  induction passes with
  | nil => intro reader index; rfl
  | cons pass rest ih =>
      intro reader index
      have firstWide := wide pass List.mem_cons_self
      cases index with
      | zero => rfl
      | succ index =>
          have later := ih (fun other member => wide other (List.mem_cons_of_mem _ member))
            (backwardPass call monitor pass reader).2 index
          rw [backwardPass_reader, advance_add, firstWide] at later
          rw [Nat.mul_succ, Nat.add_comm (width * index), List.getElem?_cons_succ, ← later,
            ← firstWide, ← backwardPass_reader]
          rfl

theorem gated_at {width : ℕ} {passes : List (List (Gradient Layer Value))}
    (wide : ∀ pass ∈ passes, pass.length = width) {reader : Reader} {index position : ℕ}
    {gatedPass : List (Gated monitor Layer Value)} {gated : Gated monitor Layer Value}
    (atIndex : (backwardPasses call monitor passes reader).1[index]? = some gatedPass)
    (atPosition : gatedPass[position]? = some gated) :
    ∃ pass gradient, passes[index]? = some pass ∧ pass[position]? = some gradient ∧
      gated = gate monitor (delivered call (width * index + position) reader) gradient := by
  rw [backwardPasses_get passes wide, Option.map_eq_some_iff] at atIndex
  obtain ⟨pass, found, rfl⟩ := atIndex
  rw [backwardPass_get, Option.map_eq_some_iff] at atPosition
  obtain ⟨gradient, there, rfl⟩ := atPosition
  rw [delivered_advance]
  exact ⟨pass, gradient, found, there, rfl⟩

variable (call monitor) in
theorem gate_at {width : ℕ} {passes : List (List (Gradient Layer Value))}
    (wide : ∀ pass ∈ passes, pass.length = width) (reader : Reader) {index position : ℕ}
    {pass : List (Gradient Layer Value)} {gradient : Gradient Layer Value}
    (found : passes[index]? = some pass) (there : pass[position]? = some gradient) :
    ∃ gatedPass, gatedPass ∈ (backwardPasses call monitor passes reader).1 ∧
      (backwardPasses call monitor passes reader).1[index]? = some gatedPass ∧
      gatedPass[position]? =
        some (gate monitor (delivered call (width * index + position) reader) gradient) := by
  have atIndex : (backwardPasses call monitor passes reader).1[index]? =
      some (backwardPass call monitor pass (advance call (width * index) reader)).1 := by
    rw [backwardPasses_get passes wide, found]
    rfl
  refine ⟨_, List.mem_of_getElem? atIndex, atIndex, ?_⟩
  rw [backwardPass_get, there, delivered_advance]
  rfl

end Run

/-! ## One decision for a pass -/

/-- Within each pass a layer's two gradients are both masked or both passed through. -/
def TreatedAlike {monitor : ThermalMonitor Temp}
    (passes : List (List (Gated monitor Layer Value))) : Prop :=
  ∀ pass ∈ passes, ∀ first ∈ pass, ∀ second ∈ pass,
    first.gradient.layer = second.gradient.layer → first.throttled = second.throttled

def GatedBy {monitor : ThermalMonitor Temp} (temperatures : ℕ → Temp)
    (passes : List (List (Gated monitor Layer Value))) : Prop :=
  ∀ index pass, passes[index]? = some pass → ∀ gated ∈ pass,
    gated.throttled = isThrottling monitor (temperatures index)

section Decision
variable {call : Reader → Temp × Reader} {monitor : ThermalMonitor Temp} {width : ℕ}
  {passes : List (List (Gradient Layer Value))}

theorem treatedAlike_iff (wide : ∀ pass ∈ passes, pass.length = width) (reader : Reader) :
    TreatedAlike (backwardPasses call monitor passes reader).1 ↔
      ∀ index pass, passes[index]? = some pass → ∀ here first there second,
        pass[here]? = some first → pass[there]? = some second → first.layer = second.layer →
          isThrottling monitor (delivered call (width * index + here) reader) =
            isThrottling monitor (delivered call (width * index + there) reader) := by
  constructor
  · intro alike index pass found here first there second firstHere secondThere sameLayer
    obtain ⟨gatedPass, member, atIndex, firstGated⟩ := gate_at call monitor wide reader found firstHere
    obtain ⟨_, _, atSame, secondGated⟩ := gate_at call monitor wide reader found secondThere
    cases atIndex.symm.trans atSame
    exact alike gatedPass member _ (List.mem_of_getElem? firstGated) _
      (List.mem_of_getElem? secondGated) sameLayer
  · intro steady gatedPass member first firstMember second secondMember sameLayer
    obtain ⟨index, atIndex⟩ := List.getElem?_of_mem member
    obtain ⟨here, firstHere⟩ := List.getElem?_of_mem firstMember
    obtain ⟨there, secondThere⟩ := List.getElem?_of_mem secondMember
    obtain ⟨pass, firstGradient, found, atHere, rfl⟩ := gated_at wide atIndex firstHere
    obtain ⟨_, secondGradient, foundAgain, atThere, rfl⟩ := gated_at wide atIndex secondThere
    cases found.symm.trans foundAgain
    exact steady index pass found here firstGradient there secondGradient atHere atThere sameLayer

theorem gatedBy_iff (wide : ∀ pass ∈ passes, pass.length = width) (reader : Reader)
    (temperatures : ℕ → Temp) :
    GatedBy temperatures (backwardPasses call monitor passes reader).1 ↔
      ∀ index < passes.length, ∀ position < width,
        isThrottling monitor (delivered call (width * index + position) reader) =
          isThrottling monitor (temperatures index) := by
  constructor
  · intro gatedBy index inRun position inPass
    have found : passes[index]? = some passes[index] := List.getElem?_eq_getElem inRun
    rw [← wide _ (List.getElem_mem inRun)] at inPass
    have there := List.getElem?_eq_getElem inPass
    obtain ⟨gatedPass, _, atIndex, gated⟩ := gate_at call monitor wide reader found there
    exact gatedBy index gatedPass atIndex _ (List.mem_of_getElem? gated)
  · intro steady index gatedPass atIndex gated member
    obtain ⟨position, atPosition⟩ := List.getElem?_of_mem member
    obtain ⟨pass, gradient, found, there, rfl⟩ := gated_at wide atIndex atPosition
    obtain ⟨inRun, rfl⟩ := List.getElem?_eq_some_iff.mp found
    obtain ⟨inPass, _⟩ := List.getElem?_eq_some_iff.mp there
    rw [wide _ (List.getElem_mem inRun)] at inPass
    exact steady index inRun position inPass

end Decision

end Hooks

structure ScriptedThermalReader (Temp : Type*) where
  sequence : List Temp
  nonempty : 0 < sequence.length
  idx : ℕ

namespace ScriptedThermalReader
variable {Temp : Type*}

def ofSequence (sequence : List Temp) (nonempty : 0 < sequence.length) :
    ScriptedThermalReader Temp := ⟨sequence, nonempty, 0⟩

/-- The temperature at this index, the last one from the end on. -/
def temperatureAt (reader : ScriptedThermalReader Temp) (index : ℕ) : Temp :=
  have nonempty := reader.nonempty
  reader.sequence.get ⟨min index (reader.sequence.length - 1), by omega⟩

def call (reader : ScriptedThermalReader Temp) : Temp × ScriptedThermalReader Temp :=
  (reader.temperatureAt reader.idx, { reader with idx := reader.idx + 1 })

theorem advance_call (calls : ℕ) (reader : ScriptedThermalReader Temp) :
    advance call calls reader = { reader with idx := reader.idx + calls } := by
  induction calls with
  | zero => rfl
  | succ calls ih =>
      rw [advance, Function.iterate_succ_apply']
      change (call (advance call calls reader)).2 = _
      rw [ih]
      rfl

theorem delivered_call (calls : ℕ) (sequence : List Temp) (nonempty : 0 < sequence.length) :
    delivered call calls (ofSequence sequence nonempty) =
      (ofSequence sequence nonempty).temperatureAt calls := by
  rw [delivered, advance_call]
  change (ofSequence sequence nonempty).temperatureAt (0 + calls) = _
  rw [Nat.zero_add]

end ScriptedThermalReader

/-- For every run over every reader: the decision is one for a pass exactly when
the two readings that each layer takes in a pass are on one side of the
threshold; and a script gates pass by pass exactly when all the readings that
fall into a pass are on the side of that pass's temperature. -/
theorem one_decision_iff {Temp Value Layer Reader : Type*} [LinearOrder Temp] [Semiring Value]
    (monitor : ThermalMonitor Temp) (layers : List Layer)
    (passes : List (List (Gradient Layer Value))) (isPass : ∀ pass ∈ passes, IsPass layers pass) :
    (∀ (call : Reader → Temp × Reader) (reader : Reader),
      TreatedAlike (backwardPasses call monitor passes reader).1 ↔
        ∀ index pass, passes[index]? = some pass → ∀ here first there second,
          pass[here]? = some first → pass[there]? = some second → first.layer = second.layer →
            isThrottling monitor (delivered call (2 * layers.length * index + here) reader) =
              isThrottling monitor
                (delivered call (2 * layers.length * index + there) reader)) ∧
      ∀ sequence nonempty,
        let script := ScriptedThermalReader.ofSequence sequence nonempty
        (TreatedAlike (backwardPasses ScriptedThermalReader.call monitor passes script).1 ∧
          GatedBy script.temperatureAt
            (backwardPasses ScriptedThermalReader.call monitor passes script).1) ↔
          ∀ index < passes.length, ∀ position < 2 * layers.length,
            isThrottling monitor
                (script.temperatureAt (2 * layers.length * index + position)) =
              isThrottling monitor (script.temperatureAt index) := by
  have wide : ∀ pass ∈ passes, pass.length = 2 * layers.length :=
    fun pass member => (isPass pass member).length
  refine ⟨fun call reader => treatedAlike_iff wide reader, fun sequence nonempty => ?_⟩
  dsimp only
  rw [gatedBy_iff wide, treatedAlike_iff wide]
  simp only [ScriptedThermalReader.delivered_call]
  refine and_iff_right_of_imp ?_
  intro steady index pass found here first there second firstHere secondThere _
  obtain ⟨inRun, rfl⟩ := List.getElem?_eq_some_iff.mp found
  obtain ⟨hereBound, _⟩ := List.getElem?_eq_some_iff.mp firstHere
  obtain ⟨thereBound, _⟩ := List.getElem?_eq_some_iff.mp secondThere
  rw [wide _ (List.getElem_mem inRun)] at hereBound thereBound
  rw [steady index inRun here hereBound, steady index inRun there thereBound]

def above75 : ThermalMonitor ℤ := ⟨75, 1 / 5, by norm_num, by norm_num⟩

def bothHooks : List (Gradient Unit ℤ) :=
  [⟨(), .B, 4, 1, fun _ _ => 1⟩, ⟨(), .A, 2, 3, fun _ _ => 1⟩]

def constantScript : ScriptedThermalReader ℤ := .ofSequence [80] (by decide)

def coolingScript : ScriptedThermalReader ℤ := .ofSequence [80, 25] (by decide)

theorem isPass_bothHooks : IsPass [()] bothHooks := List.Perm.swap _ _ _

theorem one_decision_iff_constant :
    TreatedAlike (backwardPasses ScriptedThermalReader.call above75
        [bothHooks, bothHooks] constantScript).1 ∧
      GatedBy constantScript.temperatureAt (backwardPasses ScriptedThermalReader.call above75
        [bothHooks, bothHooks] constantScript).1 := by
  have everyPass : ∀ pass ∈ [bothHooks, bothHooks], IsPass [()] pass := by
    intro pass member
    have same : pass = bothHooks := by simpa using member
    rw [same]
    exact isPass_bothHooks
  exact ((@one_decision_iff ℤ ℤ Unit Unit _ _ above75 [()] [bothHooks, bothHooks] everyPass).2
    [80] (by decide)).mpr (by decide)

/-- In the first pass one matrix is masked and the other is not. -/
theorem two_readings_in_one_pass :
    ¬ TreatedAlike (backwardPasses ScriptedThermalReader.call above75
        [bothHooks] coolingScript).1 ∧
      ¬ GatedBy coolingScript.temperatureAt (backwardPasses ScriptedThermalReader.call above75
        [bothHooks] coolingScript).1 := by
  constructor
  · intro alike
    have same := alike _ List.mem_cons_self _ List.mem_cons_self _
      (List.mem_cons_of_mem _ List.mem_cons_self) rfl
    revert same
    decide
  · intro gatedBy
    have same := gatedBy 0 _ rfl _ (List.mem_cons_of_mem _ List.mem_cons_self)
    revert same
    decide

end Msp.Python.GradientGate
