import Msp.Library.History
import Msp.Python.AdapterManagerRun

/-!
# The adapter manager, read off its history

What is resident, under which name a layer is found, and which adapter is
active, in terms of the calls that were made and of what they raised.  Whether
the allocator stands behind the registry shows in no more than this: a load
that it raises from leaves its adapter resident.
-/

set_option autoImplicit false

namespace Msp.Python.AdapterManager

open Msp.Library Msp.Library.History Msp.Cpp.EloraAllocator

structure Event where
  operation : Operation
  result : Except PyError Unit

namespace Event

/-- A load that returned, or was left half way by the allocator's exception. -/
def Loads (event : Event) (adapterId : String) (layers : Dict String PluginLayer) : Prop :=
  (∃ host, event.operation = .loadAdapter adapterId layers host) ∧
    (event.result = .ok () ∨ ∃ error, event.result = .error (.native error))

def Unloads (event : Event) (adapterId : String) : Prop :=
  event.operation = .unloadAdapter adapterId

def Activates (event : Event) (adapterId : String) : Prop :=
  event.result = .ok () ∧
    (event.operation = .activate adapterId ∨ ∃ left, event.operation = .swap left adapterId)

end Event

namespace Manager

def next (manager : Manager) (operation : Operation) : Manager := (manager.apply operation).manager

def event (manager : Manager) (operation : Operation) : Event :=
  ⟨operation, (manager.apply operation).result⟩

def Resident (manager : Manager) (adapterId : String) (layers : Dict String PluginLayer) : Prop :=
  (manager.adapters.get? adapterId).map AdapterRecord.layers = some layers

theorem resident_commit {manager : Manager} {adapterId : String}
    {layers : Dict String PluginLayer} (admits : manager.Admits adapterId layers)
    (other : String) (otherLayers : Dict String PluginLayer) :
    (manager.commit adapterId layers).Resident other otherLayers ↔
      (adapterId = other ∧ layers = otherLayers) ∨ manager.Resident other otherLayers := by
  unfold Resident commit
  rw [Dict.get?_set]
  by_cases same : adapterId = other
  · subst same
    have absent := Dict.get?_eq_none.mpr admits.1
    simp [absent]
  · simp [same]

/-- How a load ends, as far as the registry goes: refused, it leaves it as it was. -/
theorem loadAdapter_adapters {manager : Manager} (isFresh : manager.IdsFresh) (adapterId : String)
    (layers : Dict String PluginLayer) (host : Nat → HostAnswer) :
    let outcome := manager.loadAdapter adapterId layers host
    outcome.manager.activeAdapterId = manager.activeAdapterId ∧
      ((outcome.manager.adapters = manager.adapters ∧ outcome.result ≠ .ok () ∧
          ∀ error, outcome.result ≠ .error (.native error)) ∨
        (manager.Admits adapterId layers ∧
          outcome.manager.adapters = (manager.commit adapterId layers).adapters ∧
          (outcome.result = .ok () ∨ ∃ error, outcome.result = .error (.native error)))) := by
  intro outcome
  rcases manager.loadAdapter_cases adapterId layers host with
    ⟨error, notNative, -, ended⟩ | ⟨admits, -, ended⟩ | ⟨admits, allocator, backing, rest⟩
  · have same : outcome = _ := ended
    rw [same]
    refine ⟨rfl, Or.inl ⟨rfl, nofun, fun native isNative => ?_⟩⟩
    exact notNative native (Except.error.inj isNative)
  · have same : outcome = _ := ended
    rw [same]
    exact ⟨rfl, Or.inr ⟨admits, rfl, Or.inl rfl⟩⟩
  · rcases rest with ⟨reached, -, ended⟩ | ⟨nbytes, reached, exit, ended⟩ | ⟨error, reached, -, ended⟩
    · have same : outcome = _ := ended
      rw [same]
      exact ⟨rfl, Or.inr ⟨admits, rfl, Or.inl rfl⟩⟩
    · have rolledBack := rollBack_of_refused admits isFresh.mappedResident exit
      have same : outcome = _ := ended.trans rolledBack
      rw [same]
      exact ⟨rfl, Or.inl ⟨rfl, nofun, nofun⟩⟩
    · have same : outcome = _ := ended
      rw [same]
      exact ⟨rfl, Or.inr ⟨admits, rfl, Or.inr ⟨error, rfl⟩⟩⟩

theorem unloadAdapter_adapters (manager : Manager) (adapterId : String) :
    let after := (manager.unloadAdapter adapterId).manager
    (manager.adapters.get? adapterId = none ∧ after = manager) ∨
      (after.adapters = (manager.pop adapterId).adapters ∧
        after.activeAdapterId = (manager.pop adapterId).activeAdapterId) := by
  intro after
  rcases manager.unloadAdapter_cases adapterId with
    ⟨absent, ended⟩ | ⟨record, -, ⟨-, ended⟩ | ⟨allocator, nativeId, -, -, ended⟩⟩
  · exact Or.inl ⟨absent, congrArg Outcome.manager ended⟩
  · have same : after = _ := congrArg Outcome.manager ended
    rw [same]
    exact Or.inr ⟨rfl, rfl⟩
  · have same : after = _ := congrArg Outcome.manager ended
    rw [same]
    exact Or.inr ⟨rfl, rfl⟩

theorem apply_activate (manager : Manager) {operation : Operation} {activated : String}
    (isActivate : operation = .activate activated ∨ ∃ left, operation = .swap left activated) :
    manager.apply operation = manager.activate activated := by
  rcases isActivate with rfl | ⟨left, rfl⟩
  · rfl
  · rfl

theorem adapters_activate (manager : Manager) (activated : String) :
    (manager.activate activated).manager.adapters = manager.adapters := by
  unfold activate
  split <;> rfl

theorem resident_step_activate (manager : Manager) {operation : Operation} (activated : String)
    (isActivate : operation = .activate activated ∨ ∃ left, operation = .swap left activated)
    (adapterId : String) (layers : Dict String PluginLayer) :
    (manager.next operation).Resident adapterId layers ↔
      (manager.event operation).Loads adapterId layers ∨
        (manager.Resident adapterId layers ∧ ¬ (manager.event operation).Unloads adapterId) := by
  have noLoad : ¬ (manager.event operation).Loads adapterId layers := by
    rintro ⟨⟨host, isLoad⟩, -⟩
    rcases isActivate with rfl | ⟨left, rfl⟩ <;> cases isLoad
  have noUnload : ¬ (manager.event operation).Unloads adapterId := by
    intro isUnload
    rcases isActivate with rfl | ⟨left, rfl⟩ <;> cases isUnload
  rw [or_iff_right noLoad, and_iff_left noUnload, Resident, Resident, next,
    apply_activate manager isActivate, adapters_activate]

theorem resident_step {manager : Manager} (isFresh : manager.IdsFresh) (operation : Operation)
    (adapterId : String) (layers : Dict String PluginLayer) :
    (manager.next operation).Resident adapterId layers ↔
      (manager.event operation).Loads adapterId layers ∨
        (manager.Resident adapterId layers ∧ ¬ (manager.event operation).Unloads adapterId) := by
  cases operation with
  | loadAdapter loaded itsLayers host =>
      have stays : ¬ (manager.event (.loadAdapter loaded itsLayers host)).Unloads adapterId := nofun
      have loads : (manager.event (.loadAdapter loaded itsLayers host)).Loads adapterId layers ↔
          (loaded = adapterId ∧ itsLayers = layers) ∧
            ((manager.loadAdapter loaded itsLayers host).result = .ok () ∨
              ∃ error, (manager.loadAdapter loaded itsLayers host).result =
                .error (.native error)) := by
        refine and_congr_left' ⟨?_, ?_⟩
        · rintro ⟨_, ⟨⟩⟩
          exact ⟨rfl, rfl⟩
        · rintro ⟨rfl, rfl⟩
          exact ⟨host, rfl⟩
      rw [loads, and_iff_left stays]
      obtain ⟨-, ⟨same, notOk, notNative⟩ | ⟨admits, same, stored⟩⟩ :=
        loadAdapter_adapters isFresh loaded itsLayers host
      · have refused : ¬ ((manager.loadAdapter loaded itsLayers host).result = .ok () ∨
            ∃ error, (manager.loadAdapter loaded itsLayers host).result =
              .error (.native error)) := by
          rintro (isOk | ⟨error, isNative⟩)
          · exact notOk isOk
          · exact notNative error isNative
        simp only [refused, and_false, false_or, Resident, next, apply, same]
      · rw [and_iff_left stored, ← resident_commit admits]
        simp only [Resident, next, apply, same]
  | unloadAdapter unloaded =>
      have noLoad : ¬ (manager.event (.unloadAdapter unloaded)).Loads adapterId layers := by
        rintro ⟨⟨host, isLoad⟩, -⟩
        cases isLoad
      have unloads : (manager.event (.unloadAdapter unloaded)).Unloads adapterId ↔
          unloaded = adapterId := ⟨fun same => by cases same; rfl, fun same => by cases same; rfl⟩
      rw [unloads, or_iff_right noLoad]
      rcases manager.unloadAdapter_adapters unloaded with ⟨absent, same⟩ | ⟨popped, -⟩
      · have noRecord : unloaded = adapterId → ¬ manager.Resident adapterId layers := by
          rintro rfl resident
          rw [Resident, absent] at resident
          cases resident
        have unchanged : manager.next (.unloadAdapter unloaded) = manager := same
        rw [unchanged]
        exact ⟨fun resident => ⟨resident, fun isIt => noRecord isIt resident⟩, And.left⟩
      · have erased : (manager.next (.unloadAdapter unloaded)).adapters =
            manager.adapters.erase unloaded := popped
        rw [Resident, Resident, erased]
        by_cases isIt : unloaded = adapterId
        · rw [isIt, Dict.get?_erase_self]
          simp
        · rw [Dict.get?_erase_of_ne _ isIt]
          simp [isIt]
  | activate activated => exact resident_step_activate manager activated (.inl rfl) adapterId layers
  | swap left entered =>
      exact resident_step_activate manager entered (.inr ⟨left, rfl⟩) adapterId layers

def ActiveResident (manager : Manager) : Prop :=
  ∀ adapterId, manager.activeAdapterId = some adapterId → adapterId ∈ manager.adapters.keys

theorem activates_iff (manager : Manager) {operation : Operation} {activated : String}
    (isActivate : operation = .activate activated ∨ ∃ left, operation = .swap left activated)
    (other : String) :
    (manager.event operation).Activates other ↔
      activated ∈ manager.adapters.keys ∧ activated = other := by
  have returns : (manager.event operation).result = .ok () ↔
      activated ∈ manager.adapters.keys := by
    rw [event, apply_activate manager isActivate, activate]
    split
    · rename_i resident
      exact iff_of_true rfl resident
    · rename_i absent
      exact iff_of_false (by simp) absent
  refine and_congr returns ⟨?_, ?_⟩
  · rintro (isThis | ⟨entered, isThis⟩)
    · rcases isActivate with rfl | ⟨left, rfl⟩ <;> cases isThis
      rfl
    · rcases isActivate with rfl | ⟨left, rfl⟩ <;> cases isThis
      rfl
  · rintro rfl
    exact isActivate

theorem not_activates {manager : Manager} {operation : Operation}
    (notActivate : ∀ activated, operation ≠ .activate activated)
    (notSwap : ∀ left entered, operation ≠ .swap left entered) (other : String) :
    ¬ (manager.event operation).Activates other := by
  rintro ⟨-, isActivate | ⟨left, isSwap⟩⟩
  · exact notActivate other isActivate
  · exact notSwap left other isSwap

theorem active_step_activate (manager : Manager) {operation : Operation} {activated : String}
    (isActivate : operation = .activate activated ∨ ∃ left, operation = .swap left activated)
    (adapterId : String) :
    (manager.next operation).activeAdapterId = some adapterId ↔
      (manager.event operation).Activates adapterId ∨
        (manager.activeAdapterId = some adapterId ∧
          ¬ ((manager.event operation).Unloads adapterId ∨
            ∃ other, (manager.event operation).Activates other)) := by
  have noUnload : ¬ (manager.event operation).Unloads adapterId := by
    intro isUnload
    rcases isActivate with rfl | ⟨left, rfl⟩ <;> cases isUnload
  simp only [activates_iff manager isActivate, noUnload, false_or, next,
    apply_activate manager isActivate, activate]
  by_cases resident : activated ∈ manager.adapters.keys
  · simp [resident]
  · simp [resident]

theorem active_step {manager : Manager} (isFresh : manager.IdsFresh)
    (activeResident : manager.ActiveResident) (operation : Operation) (adapterId : String) :
    (manager.next operation).activeAdapterId = some adapterId ↔
      (manager.event operation).Activates adapterId ∨
        (manager.activeAdapterId = some adapterId ∧
          ¬ ((manager.event operation).Unloads adapterId ∨
            ∃ other, (manager.event operation).Activates other)) := by
  cases operation with
  | loadAdapter loaded itsLayers host =>
      have none : ∀ other, ¬ (manager.event (.loadAdapter loaded itsLayers host)).Activates other :=
        not_activates nofun nofun
      have stays : ¬ (manager.event (.loadAdapter loaded itsLayers host)).Unloads adapterId := nofun
      have same := (loadAdapter_adapters isFresh loaded itsLayers host).1
      simp only [none, stays, exists_false, or_false, false_or, not_false_eq_true, and_true]
      exact iff_of_eq (congrArg (· = some adapterId) same)
  | unloadAdapter unloaded =>
      have none : ∀ other, ¬ (manager.event (.unloadAdapter unloaded)).Activates other :=
        not_activates nofun nofun
      have unloads : (manager.event (.unloadAdapter unloaded)).Unloads adapterId ↔
          unloaded = adapterId := ⟨fun same => by cases same; rfl, fun same => by cases same; rfl⟩
      simp only [none, unloads, exists_false, or_false, false_or]
      rcases manager.unloadAdapter_adapters unloaded with ⟨absent, same⟩ | ⟨-, popped⟩
      · have unchanged : manager.next (.unloadAdapter unloaded) = manager := same
        rw [unchanged]
        refine ⟨fun active => ⟨active, ?_⟩, And.left⟩
        rintro rfl
        exact Dict.get?_eq_none.mp absent (activeResident unloaded active)
      · have active : (manager.next (.unloadAdapter unloaded)).activeAdapterId =
            (manager.pop unloaded).activeAdapterId := popped
        rw [active, pop]
        by_cases isActive : manager.activeAdapterId = some unloaded
        · simp [isActive]
        · simp only [if_neg isActive]
          refine ⟨fun active => ⟨active, ?_⟩, And.left⟩
          rintro rfl
          exact isActive active
  | activate activated => exact active_step_activate manager (.inl rfl) adapterId
  | swap left entered => exact active_step_activate manager (.inr ⟨left, rfl⟩) adapterId

theorem mem_keys_iff_resident {manager : Manager} {adapterId : String} :
    adapterId ∈ manager.adapters.keys ↔ ∃ layers, manager.Resident adapterId layers := by
  rw [Dict.mem_keys]
  constructor
  · rintro ⟨record, found⟩
    exact ⟨record.layers, by rw [Resident, found]; rfl⟩
  · rintro ⟨layers, resident⟩
    obtain ⟨record, found, -⟩ := Option.map_eq_some_iff.mp resident
    exact ⟨record, found⟩

theorem ActiveResident.next {manager : Manager} (isFresh : manager.IdsFresh)
    (activeResident : manager.ActiveResident) (operation : Operation) :
    (manager.next operation).ActiveResident := by
  intro adapterId active
  rcases (active_step isFresh activeResident operation adapterId).mp active with
    activates | ⟨wasActive, stays⟩
  · have resident := ((activates_iff manager activates.2 adapterId).mp activates).1
    have applied : manager.apply operation = manager.activate adapterId :=
      apply_activate manager activates.2
    rw [Manager.next, applied, adapters_activate]
    exact resident
  · obtain ⟨layers, resident⟩ := mem_keys_iff_resident.mp (activeResident adapterId wasActive)
    have kept := fun unloads => stays (Or.inl unloads)
    exact mem_keys_iff_resident.mpr
      ⟨layers, (resident_step isFresh operation adapterId layers).mpr (Or.inr ⟨resident, kept⟩)⟩

theorem getLayer_eq_ok_iff (manager : Manager) (adapterId layerName : String)
    (layer : PluginLayer) :
    manager.getLayer adapterId layerName = .ok layer ↔
      ∃ layers, manager.Resident adapterId layers ∧ layers.get? layerName = some layer := by
  unfold getLayer Resident
  cases manager.adapters.get? adapterId with
  | none => simp
  | some record =>
      simp only [Option.map_some, Option.some.injEq, exists_eq_left']
      cases record.layers.get? layerName <;> simp

end Manager

/-- For every budget, with or without the allocator, after any calls: an adapter is resident,
with the layers of its latest load, when it was not unloaded since; the one latest activated
is active when it was not unloaded since; and a layer is found under the name it has there. -/
theorem manager_reads_history (memoryBudgetBytes : Int) (positive : 0 < memoryBudgetBytes)
    (nativeAvailable : Bool) (operations : List Operation) :
    let start := Manager.fresh memoryBudgetBytes positive nativeAvailable
    let manager := operations.foldl Manager.next start
    let events := history Manager.next Manager.event start operations
    (∀ adapterId layers, manager.Resident adapterId layers ↔
      Since (fun event => event.Loads adapterId layers)
        (fun event => event.Unloads adapterId) events) ∧
    (∀ adapterId, manager.activeAdapterId = some adapterId ↔
      Since (fun event => event.Activates adapterId)
        (fun event => event.Unloads adapterId ∨ ∃ other, event.Activates other) events) ∧
    (∀ adapterId layerName layer, manager.getLayer adapterId layerName = .ok layer ↔
      ∃ layers, layers.get? layerName = some layer ∧
        Since (fun event => event.Loads adapterId layers)
          (fun event => event.Unloads adapterId) events) := by
  intro start manager events
  have sound : start.IdsFresh ∧ start.ActiveResident :=
    ⟨Manager.IdsFresh.of_fresh memoryBudgetBytes positive nativeAvailable, nofun⟩
  have kept : ∀ (manager : Manager) operation, manager.IdsFresh ∧ manager.ActiveResident →
      (manager.next operation).IdsFresh ∧ (manager.next operation).ActiveResident :=
    fun manager operation invariant =>
      ⟨invariant.1.apply operation, invariant.2.next invariant.1 operation⟩
  have resident : ∀ adapterId layers, manager.Resident adapterId layers ↔
      Since (fun event => event.Loads adapterId layers)
        (fun event => event.Unloads adapterId) events := fun adapterId layers =>
    holds_iff_since Manager.next Manager.event (fun manager => manager.Resident adapterId layers)
      sound kept nofun (fun manager operation invariant =>
        Manager.resident_step invariant.1 operation adapterId layers) operations
  refine ⟨resident, fun adapterId => ?_, fun adapterId layerName layer => ?_⟩
  · exact holds_iff_since Manager.next Manager.event
      (fun manager => manager.activeAdapterId = some adapterId) sound kept nofun
      (fun manager operation invariant =>
        Manager.active_step invariant.1 invariant.2 operation adapterId) operations
  · rw [Manager.getLayer_eq_ok_iff]
    refine exists_congr fun layers => ?_
    rw [resident, and_comm]

def swapCalls : List Operation :=
  [.loadAdapter "first" (Dict.empty.set "proj" ⟨1, 8⟩) fun _ => ⟨none, false, false⟩,
    .loadAdapter "second" (Dict.empty.set "proj" ⟨2, 8⟩) fun _ => ⟨none, false, false⟩,
    .swap (some "first") "second", .unloadAdapter "first"]

theorem manager_reads_history_swap :
    (swapCalls.foldl Manager.next (Manager.fresh 16 (by decide) false)).activeAdapterId =
      some "second" := by
  apply ((manager_reads_history 16 (by decide) false swapCalls).2.1 "second").mpr
  refine ⟨_, _, [⟨.unloadAdapter "first", .ok ()⟩],
    (show history Manager.next Manager.event _ swapCalls = [_, _] ++ _ :: _ from rfl),
    ⟨rfl, Or.inr ⟨some "first", rfl⟩⟩, ?_⟩
  intro later member
  rw [List.mem_singleton.mp member]
  rintro (isUnload | ⟨other, -, isActivate | ⟨left, isSwap⟩⟩)
  · simp [Event.Unloads] at isUnload
  · cases isActivate
  · cases isSwap

end Msp.Python.AdapterManager
