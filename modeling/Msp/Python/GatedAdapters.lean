import Msp.Python.AdapterManagerRun
import Msp.Python.LayerGate
import Mathlib.Data.List.Induction
import Mathlib.Logic.Function.Basic

/-!
# Gates of layers that an adapter manager holds

The manager beside a heap with the gate state of every layer object.  A layer is
gated and cleared by its owner, and cleared by `unload_adapter` when the evicted
adapter holds it.  `inForce_iff_armed`: the hooks of a layer are at any time
those of the latest gate that nothing has cleared since.
-/

set_option autoImplicit false

namespace Msp.Python.GatedAdapters

open Msp.Library Msp.Cpp.EloraAllocator Msp.Python.AdapterManager Msp.Python.GradientGate

structure World (Temp : Type*) where
  manager : Manager
  gates : ℕ → LayerGate Temp

inductive Event (Temp : Type*) where
  | gateGradients (ident : ℕ) (monitor : ThermalMonitor Temp)
  | clearGradientGate (ident : ℕ)
  | manage (operation : Operation)

def clearLayers {Temp : Type*} (gates : ℕ → LayerGate Temp) :
    List PluginLayer → ℕ → LayerGate Temp
  | [] => gates
  | layer :: rest =>
      clearLayers (Function.update gates layer.ident (gates layer.ident).clearGradientGate) rest

namespace World
variable {Temp : Type*}

def start (memoryBudgetBytes : Int) (positive : 0 < memoryBudgetBytes) (nativeAvailable : Bool) :
    World Temp :=
  ⟨Manager.fresh memoryBudgetBytes positive nativeAvailable, fun _ => LayerGate.fresh⟩

def apply (world : World Temp) : Event Temp → World Temp
  | .gateGradients ident monitor =>
      { world with
        gates := Function.update world.gates ident ((world.gates ident).gateGradients monitor) }
  | .clearGradientGate ident =>
      { world with
        gates := Function.update world.gates ident (world.gates ident).clearGradientGate }
  | .manage operation =>
      let outcome := world.manager.apply operation
      { manager := outcome.manager
        gates := clearLayers world.gates outcome.cleared }

def after (world : World Temp) (events : List (Event Temp)) : World Temp :=
  events.foldl apply world

theorem after_snoc (world : World Temp) (events : List (Event Temp)) (event : Event Temp) :
    world.after (events ++ [event]) = (world.after events).apply event := by
  rw [after, List.foldl_append]
  rfl

end World

section Clear
variable {Temp : Type*}

/-- Clearing twice is clearing once, so only who is cleared matters. -/
theorem clearLayers_apply (layers : List PluginLayer) : ∀ (gates : ℕ → LayerGate Temp) (ident : ℕ),
    clearLayers gates layers ident =
      if ident ∈ layers.map PluginLayer.ident then (gates ident).clearGradientGate
      else gates ident := by
  induction layers with
  | nil => intro gates ident; rfl
  | cons layer rest ih =>
      intro gates ident
      rw [clearLayers, ih, List.map_cons]
      by_cases here : ident = layer.ident
      · subst here
        rw [Function.update_self, if_pos List.mem_cons_self]
        split
        · exact LayerGate.clear_of_noHandles rfl
        · rfl
      · rw [Function.update_of_ne here]
        simp only [List.mem_cons, here, false_or]

end Clear

def Holds (manager : Manager) (adapterId : String) (ident : ℕ) : Prop :=
  ∃ record, manager.adapters.get? adapterId = some record ∧
    ident ∈ record.layers.values.map PluginLayer.ident

theorem cleared_loadAdapter (manager : Manager) (adapterId : String)
    (layers : Dict String PluginLayer) (host : ℕ → HostAnswer) :
    (manager.loadAdapter adapterId layers host).cleared = [] := by
  rcases manager.loadAdapter_cases adapterId layers host with
    ⟨_, _, _, same⟩ | ⟨_, _, same⟩ | ⟨_, _, _, ⟨_, _, same⟩ | ⟨_, _, _, same⟩ | ⟨_, _, _, same⟩⟩
  · rw [same]
  · rw [same]
  · rw [same]
  · rw [same]
    unfold Manager.rollBack
    split <;> rfl
  · rw [same]

theorem mem_cleared_unloadAdapter (manager : Manager) (adapterId : String) (ident : ℕ) :
    ident ∈ (manager.unloadAdapter adapterId).cleared.map PluginLayer.ident ↔
      Holds manager adapterId ident := by
  rcases manager.unloadAdapter_cases adapterId with
    ⟨absent, same⟩ | ⟨record, found, ⟨_, same⟩ | ⟨_, _, _, _, same⟩⟩
  · rw [same, Holds, absent]
    simp
  · rw [same, Holds, found]
    simp
  · rw [same, Holds, found]
    simp

theorem cleared_activate (manager : Manager) (adapterId : String) :
    (manager.activate adapterId).cleared = [] := by
  unfold Manager.activate
  split <;> rfl

section Force
variable {Temp : Type*}

/-- The event gates the layer anew, clears it, or evicts an adapter that holds it. -/
def Touches (world : World Temp) (ident : ℕ) : Event Temp → Prop
  | .gateGradients other _ => other = ident
  | .clearGradientGate other => other = ident
  | .manage (.unloadAdapter adapterId) => Holds world.manager adapterId ident
  | .manage _ => False

/-- Some `gate_gradients` call of the run gave the layer this monitor, and no event
after it touched the layer. -/
def InForce (start : World Temp) (events : List (Event Temp)) (ident : ℕ)
    (monitor : ThermalMonitor Temp) : Prop :=
  ∃ before since, events = before ++ .gateGradients ident monitor :: since ∧
    ∀ first event rest, since = first ++ event :: rest →
      ¬ Touches (start.after (before ++ .gateGradients ident monitor :: first)) ident event

theorem gates_of_untouched {world : World Temp} {ident : ℕ} {event : Event Temp}
    (untouched : ¬ Touches world ident event) :
    (world.apply event).gates ident = world.gates ident := by
  cases event with
  | gateGradients other monitor => exact Function.update_of_ne (Ne.symm untouched) _ _
  | clearGradientGate other => exact Function.update_of_ne (Ne.symm untouched) _ _
  | manage operation =>
      have notCleared : ident ∉ (world.manager.apply operation).cleared.map PluginLayer.ident := by
        cases operation with
        | loadAdapter adapterId layers host =>
            rw [Manager.apply, cleared_loadAdapter]
            exact List.not_mem_nil
        | unloadAdapter adapterId =>
            rw [Manager.apply, mem_cleared_unloadAdapter]
            exact untouched
        | activate adapterId =>
            rw [Manager.apply, cleared_activate]
            exact List.not_mem_nil
        | swap fromAdapterId toAdapterId =>
            rw [Manager.apply, Manager.swap, cleared_activate]
            exact List.not_mem_nil
      exact (clearLayers_apply _ _ _).trans (if_neg notCleared)

theorem armed_of_touched {world : World Temp} {ident : ℕ} {event : Event Temp}
    {latest : Option (ThermalMonitor Temp)} (armed : (world.gates ident).Armed latest)
    (touched : Touches world ident event) :
    ((world.apply event).gates ident).Armed
      (match event with
        | .gateGradients _ monitor => some monitor
        | _ => none) := by
  cases event with
  | gateGradients other monitor =>
      cases touched
      change (Function.update world.gates ident _ ident).Armed (some monitor)
      rw [Function.update_self]
      exact armed.gate monitor
  | clearGradientGate other =>
      cases touched
      change (Function.update world.gates ident _ ident).Armed none
      rw [Function.update_self]
      exact armed.clear
  | manage operation =>
      cases operation with
      | unloadAdapter adapterId =>
          have isCleared := (mem_cleared_unloadAdapter _ _ _).mpr touched
          change (clearLayers world.gates _ ident).Armed none
          rw [Manager.apply, clearLayers_apply, if_pos isCleared]
          exact armed.clear
      | loadAdapter adapterId layers host => exact absurd touched not_false
      | activate adapterId => exact absurd touched not_false
      | swap fromAdapterId toAdapterId => exact absurd touched not_false

theorem inForce_snoc {start : World Temp} {events : List (Event Temp)} {ident : ℕ}
    {event : Event Temp} {monitor : ThermalMonitor Temp} :
    InForce start (events ++ [event]) ident monitor ↔
      event = .gateGradients ident monitor ∨
        InForce start events ident monitor ∧ ¬ Touches (start.after events) ident event := by
  constructor
  · rintro ⟨before, since, split, untouched⟩
    rcases List.eq_nil_or_concat since with rfl | ⟨since, last, rfl⟩
    · obtain ⟨_, same⟩ := List.append_inj' split rfl
      exact Or.inl (List.cons.inj same).1
    · have shape : events ++ [event] =
          (before ++ Event.gateGradients ident monitor :: since) ++ [last] := by
        rw [split, List.append_assoc, List.cons_append, List.concat_eq_append]
      obtain ⟨sameEvents, sameLast⟩ := List.append_inj' shape rfl
      cases (List.cons.inj sameLast).1
      refine Or.inr ⟨⟨before, since, sameEvents, fun first other rest within => ?_⟩, ?_⟩
      · refine untouched first other (rest ++ [event]) ?_
        rw [List.concat_eq_append, within, List.append_assoc, List.cons_append]
      · rw [sameEvents]
        exact untouched since event [] (List.concat_eq_append)
  · rintro (gated | ⟨⟨before, since, rfl, untouched⟩, untouchedLast⟩)
    · refine ⟨events, [], by rw [gated], fun first other rest within => ?_⟩
      cases first <;> cases within
    · refine ⟨before, since ++ [event], by rw [List.append_assoc, List.cons_append], ?_⟩
      intro first other rest within
      rcases List.eq_nil_or_concat rest with rfl | ⟨rest, last, rfl⟩
      · obtain ⟨same, sameLast⟩ := List.append_inj' within rfl
        cases (List.cons.inj sameLast).1
        rw [← same]
        exact untouchedLast
      · refine untouched first other rest ?_
        have shape : since ++ [event] = (first ++ other :: rest) ++ [last] := by
          rw [within, List.append_assoc, List.cons_append, List.concat_eq_append]
        exact (List.append_inj' shape rfl).1

/-- After any run the hooks are those of the gate in force, if there is one. -/
theorem inForce_iff_armed (start : World Temp) (ident : ℕ)
    (ungated : (start.gates ident).Armed none) (events : List (Event Temp)) :
    ∃ latest, ((start.after events).gates ident).Armed latest ∧
      ∀ monitor, InForce start events ident monitor ↔ latest = some monitor := by
  induction events using List.reverseRecOn with
  | nil =>
      refine ⟨none, ungated, fun monitor => ⟨?_, fun absurdity => by cases absurdity⟩⟩
      rintro ⟨before, since, split, _⟩
      cases before <;> cases split
  | append_singleton events event ih =>
      obtain ⟨latest, armed, inForce⟩ := ih
      rw [World.after_snoc]
      simp only [inForce_snoc, inForce]
      by_cases touched : Touches (start.after events) ident event
      · refine ⟨_, armed_of_touched armed touched, fun monitor => ?_⟩
        simp only [touched, not_true_eq_false, and_false, or_false]
        cases event with
        | gateGradients other later =>
            cases touched
            simp
        | clearGradientGate other => simp
        | manage operation => simp
      · refine ⟨latest, ?_, fun monitor => ?_⟩
        · rw [gates_of_untouched touched]
          exact armed
        · have notGate : event ≠ .gateGradients ident monitor := by
            intro gated
            rw [gated] at touched
            exact touched rfl
          simp only [notGate, touched, false_or, not_false_eq_true, and_true]

end Force

/-- In a run of gates, clears and manager calls in any order, a backward pass masks
the gradients of a layer by the gate in force, or leaves them, and never has more
than one hook for a matrix. -/
theorem only_latest_gate {Temp Value : Type*} [LinearOrder Temp] [Semiring Value]
    (memoryBudgetBytes : Int) (positive : 0 < memoryBudgetBytes) (nativeAvailable : Bool)
    (events : List (Event Temp)) (ident : ℕ) :
    let start := World.start memoryBudgetBytes positive nativeAvailable
    let gate := (start.after events).gates ident
    (∀ monitor, InForce start events ident monitor →
      ∀ (pluginMatrix : PluginMatrix) (temperatures : ℕ → Temp) (rows cols : ℕ)
        (grad : Matrix (Fin rows) (Fin cols) Value),
        LayerGate.runHooks (gate.hooks pluginMatrix) temperatures grad =
          if isThrottling monitor (temperatures 0) then maskRows monitor grad else grad) ∧
      ((¬ ∃ monitor, InForce start events ident monitor) →
        ∀ (pluginMatrix : PluginMatrix) (temperatures : ℕ → Temp) (rows cols : ℕ)
          (grad : Matrix (Fin rows) (Fin cols) Value),
          LayerGate.runHooks (gate.hooks pluginMatrix) temperatures grad = grad) ∧
      ∀ pluginMatrix, (gate.hooks pluginMatrix).length ≤ 1 := by
  intro start gate
  obtain ⟨latest, armed, inForce⟩ :=
    inForce_iff_armed start ident LayerGate.armed_fresh events
  refine ⟨fun monitor force => ?_, fun noForce => ?_, armed.length_le_one⟩
  · intro pluginMatrix temperatures rows cols grad
    rw [(inForce monitor).mp force] at armed
    exact armed.runHooks_some pluginMatrix temperatures grad
  · intro pluginMatrix temperatures rows cols grad
    cases latest with
    | none => exact armed.runHooks_none pluginMatrix temperatures grad
    | some monitor => exact absurd ⟨monitor, (inForce monitor).mpr rfl⟩ noForce

theorem oneHalf_positive : 0 < (1 / 2 : ℚ) := by norm_num

theorem oneHalf_atMostOne : (1 / 2 : ℚ) ≤ 1 := by norm_num

def above90 : ThermalMonitor ℤ := ⟨90, 1 / 2, oneHalf_positive, oneHalf_atMostOne⟩

def gatedTwice : List (Event ℤ) := [.gateGradients 7 above90, .gateGradients 7 above75]

theorem only_latest_gate_twice :
    LayerGate.runHooks (((World.start 128 (by decide) false).after gatedTwice).gates 7 |>.hooks .A)
        (fun _ => 80) (fun _ _ => 3 : Matrix (Fin 2) (Fin 1) ℤ) =
      maskRows above75 (fun _ _ => 3) := by
  have latest : InForce (World.start 128 (by decide) false) gatedTwice 7 above75 := by
    refine ⟨[.gateGradients 7 above90], [], rfl, fun first event rest within => ?_⟩
    cases first <;> cases within
  exact (@only_latest_gate ℤ ℤ _ _ 128 (by decide) false gatedTwice 7).1 above75 latest .A
    (fun _ => 80) 2 1 _

end Msp.Python.GatedAdapters
