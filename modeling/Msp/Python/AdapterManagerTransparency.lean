import Msp.Python.AdapterManagerRun

/-!
# A manager with an allocator behind it and one without

Run side by side on the same calls, the two raise the same exceptions and show
the same registry after every call, as long as the allocator always has a block
to give.
-/

set_option autoImplicit false

namespace Msp.Python.AdapterManager

open Msp.Library Msp.Cpp.EloraAllocator

namespace Manager

/-- What a caller sees of one call and of the registry behind it. -/
structure Observation where
  result : Except PyError Unit
  residentAdapterIds : List String
  residentBytes : Nat
  activeAdapterId : Option String
  cleared : List PluginLayer

def observe (manager : Manager) (operation : Operation) : Observation where
  result := (manager.apply operation).result
  residentAdapterIds := (manager.apply operation).manager.residentAdapterIds
  residentBytes := (manager.apply operation).manager.residentBytes
  activeAdapterId := (manager.apply operation).manager.activeAdapterId
  cleared := (manager.apply operation).cleared

def observations (operations : List Operation) (manager : Manager) : List Observation :=
  Machine.trace AdapterManager.step observe operations manager

def isAllocated : LoopExit → Bool
  | .allocated _ => true
  | _ => false

/-- A load that passes its checks takes an id that fits a C `int`, and each of
its allocations returns a block. -/
def AllocationsSucceed (manager : Manager) : Operation → Prop
  | .loadAdapter adapterId layers host =>
      manager.Admits adapterId layers → fitsCInt manager.nextNativeId = true ∧
        ∀ allocator ∈ manager.native,
          isAllocated (allocateLayers manager.nextNativeId host 0 layers.values allocator) = true
  | _ => True

instance (manager : Manager) (operation : Operation) :
    Decidable (manager.AllocationsSucceed operation) :=
  match operation with
  | .loadAdapter _ _ _ => inferInstanceAs (Decidable (_ → _))
  | .unloadAdapter _ => isTrue trivial
  | .activate _ => isTrue trivial
  | .swap _ _ => isTrue trivial

/-- The two managers differ in the native half only. -/
structure Mirrors (backed plain : Manager) : Prop where
  budget : plain.memoryBudgetBytes = backed.memoryBudgetBytes
  adapters : plain.adapters = backed.adapters
  active : plain.activeAdapterId = backed.activeAdapterId
  isBacked : backed.native ≠ none
  unbacked : plain.native = none
  idsFit : ∀ nativeId ∈ backed.nativeIds.values, fitsCInt nativeId = true

theorem mirrors_fresh (memoryBudgetBytes : Int) (positive : 0 < memoryBudgetBytes) :
    Mirrors (fresh memoryBudgetBytes positive true) (fresh memoryBudgetBytes positive false) where
  budget := rfl
  adapters := rfl
  active := rfl
  isBacked := by simp [fresh]
  unbacked := rfl
  idsFit nativeId member := by simp [fresh] at member

structure SameCall (backed plain : Outcome) : Prop where
  result : plain.result = backed.result
  cleared : plain.cleared = backed.cleared
  mirrors : Mirrors backed.manager plain.manager

section Calls
variable {backed plain : Manager}

theorem Mirrors.residentBytes (mirrors : Mirrors backed plain) :
    plain.residentBytes = backed.residentBytes :=
  congrArg (Dict.total AdapterRecord.byteSize) mirrors.adapters

theorem Mirrors.loaded (mirrors : Mirrors backed plain) {adapterId : String}
    (layers : Dict String PluginLayer) (fits : fitsCInt backed.nextNativeId = true)
    (allocator : Allocator) :
    Mirrors { (backed.commit adapterId layers).reserve adapterId with native := some allocator }
      (plain.commit adapterId layers) where
  budget := mirrors.budget
  adapters := congrArg (Dict.set · adapterId _) mirrors.adapters
  active := mirrors.active
  isBacked := nofun
  unbacked := mirrors.unbacked
  idsFit nativeId member := by
    obtain ⟨atKey, found⟩ := Dict.mem_values.mp member
    simp only [commit, reserve, Dict.get?_set] at found
    split at found
    · cases found
      exact fits
    · exact mirrors.idsFit nativeId (Dict.mem_values.mpr ⟨atKey, found⟩)

theorem Mirrors.loadAdapter (mirrors : Mirrors backed plain) (adapterId : String)
    (layers : Dict String PluginLayer) (host : Nat → HostAnswer)
    (succeed : backed.AllocationsSucceed (.loadAdapter adapterId layers host)) :
    SameCall (backed.loadAdapter adapterId layers host)
      (plain.loadAdapter adapterId layers host) := by
  unfold Manager.loadAdapter overBudget
  rw [mirrors.adapters, mirrors.residentBytes, mirrors.budget, mirrors.unbacked]
  by_cases loaded : adapterId ∈ backed.adapters.keys
  · rw [if_pos loaded, if_pos loaded]
    exact ⟨rfl, rfl, mirrors⟩
  · rw [if_neg loaded, if_neg loaded]
    dsimp only
    by_cases exceeds : backed.memoryBudgetBytes <
        ((backed.residentBytes + incomingBytes layers : Nat) : Int)
    · rw [if_pos exceeds, if_pos exceeds]
      exact ⟨rfl, rfl, mirrors⟩
    · rw [if_neg exceeds, if_neg exceeds]
      obtain ⟨fits, allocates⟩ := succeed ⟨loaded, by omega⟩
      cases backing : backed.native with
      | none => exact absurd backing mirrors.isBacked
      | some allocator =>
          have allocated := allocates allocator backing
          dsimp only
          cases exit : allocateLayers backed.nextNativeId host 0 layers.values allocator with
          | allocated next => exact ⟨rfl, rfl, mirrors.loaded layers fits next⟩
          | refused nbytes next => rw [exit] at allocated; cases allocated
          | raised error next => rw [exit] at allocated; cases allocated

theorem Mirrors.popped (mirrors : Mirrors backed plain) (adapterId : String) :
    Mirrors (backed.pop adapterId) (plain.pop adapterId) where
  budget := mirrors.budget
  adapters := congrArg (Dict.erase · adapterId) mirrors.adapters
  active := by simp only [pop, mirrors.active]
  isBacked := mirrors.isBacked
  unbacked := mirrors.unbacked
  idsFit := mirrors.idsFit

theorem Mirrors.unloadAdapter (mirrors : Mirrors backed plain) (adapterId : String) :
    SameCall (backed.unloadAdapter adapterId) (plain.unloadAdapter adapterId) := by
  have popped := mirrors.popped adapterId
  unfold Manager.unloadAdapter
  rw [mirrors.adapters, mirrors.unbacked]
  cases backed.adapters.get? adapterId with
  | none => exact ⟨rfl, rfl, mirrors⟩
  | some record =>
      cases backing : backed.native with
      | none => exact absurd backing mirrors.isBacked
      | some allocator =>
          cases mapped : backed.nativeIds.get? adapterId with
          | none => exact ⟨rfl, rfl, popped⟩
          | some nativeId =>
              have fits := mirrors.idsFit nativeId (Dict.mem_values.mpr ⟨adapterId, mapped⟩)
              refine ⟨?_, rfl, ?_⟩
              · simp [pyExecuteDependencyEviction, fits, Except.mapError]
              · exact
                  { popped with
                    isBacked := nofun
                    idsFit := fun other member =>
                      mirrors.idsFit other ((Dict.values_erase_sublist _ _).subset member) }

theorem Mirrors.activated (mirrors : Mirrors backed plain) (adapterId : String) :
    Mirrors { backed with activeAdapterId := some adapterId }
      { plain with activeAdapterId := some adapterId } where
  budget := mirrors.budget
  adapters := mirrors.adapters
  active := rfl
  isBacked := mirrors.isBacked
  unbacked := mirrors.unbacked
  idsFit := mirrors.idsFit

theorem Mirrors.activate (mirrors : Mirrors backed plain) (adapterId : String) :
    SameCall (backed.activate adapterId) (plain.activate adapterId) := by
  have activated := mirrors.activated adapterId
  have sameKeys : plain.adapters.keys = backed.adapters.keys :=
    congrArg Dict.keys mirrors.adapters
  unfold Manager.activate
  by_cases loaded : adapterId ∈ backed.adapters.keys
  · rw [if_pos loaded, if_pos (sameKeys ▸ loaded)]
    exact ⟨rfl, rfl, activated⟩
  · rw [if_neg loaded, if_neg (sameKeys ▸ loaded)]
    exact ⟨rfl, rfl, mirrors⟩

theorem Mirrors.apply (mirrors : Mirrors backed plain) (operation : Operation)
    (succeed : backed.AllocationsSucceed operation) :
    SameCall (backed.apply operation) (plain.apply operation) := by
  cases operation with
  | loadAdapter adapterId layers host => exact mirrors.loadAdapter adapterId layers host succeed
  | unloadAdapter adapterId => exact mirrors.unloadAdapter adapterId
  | activate adapterId => exact mirrors.activate adapterId
  | swap fromAdapterId toAdapterId => exact mirrors.activate toAdapterId

theorem SameCall.observe {operation : Operation}
    (same : SameCall (backed.apply operation) (plain.apply operation)) :
    backed.observe operation = plain.observe operation := by
  simp only [Manager.observe, same.result, same.cleared, same.mirrors.active, residentAdapterIds,
    same.mirrors.adapters, same.mirrors.residentBytes]

end Calls

theorem observations_eq_of_mirrors {operations : List Operation} {backed plain : Manager}
    (mirrors : Mirrors backed plain)
    (succeed : Machine.Along AdapterManager.step AllocationsSucceed operations backed) :
    observations operations backed = observations operations plain := by
  have refuses : ∀ (backed plain : Manager) (operation : Operation), Mirrors backed plain →
      AdapterManager.step backed operation = none →
        AdapterManager.step plain operation = none := by
    intro backed plain operation _ refused
    cases refused
  have simulates : ∀ (backed plain : Manager) (operation : Operation) (next : Manager),
      Mirrors backed plain → backed.AllocationsSucceed operation →
        AdapterManager.step backed operation = some next →
          backed.observe operation = plain.observe operation ∧
            ∃ other, AdapterManager.step plain operation = some other ∧ Mirrors next other := by
    intro backed plain operation next mirrors met stepped
    have same := mirrors.apply operation met
    cases stepped
    exact ⟨same.observe, _, rfl, same.mirrors⟩
  exact Machine.trace_eq_of_lockstep refuses simulates operations _ _ mirrors succeed

/-- A manager constructed and then called: `__init__` may already raise. -/
def session (memoryBudgetBytes : Int) (nativeAvailable : Bool) (operations : List Operation) :
    Except PyError (List Observation) :=
  (init memoryBudgetBytes nativeAvailable).map (observations operations)

/-- Every budget, every sequence of calls: what a caller sees does not depend on
whether blocks are really allocated. -/
theorem native_backing_transparent (memoryBudgetBytes : Int) (operations : List Operation)
    (succeed : ∀ backed, init memoryBudgetBytes true = .ok backed →
      Machine.Along AdapterManager.step AllocationsSucceed operations backed) :
    session memoryBudgetBytes true operations = session memoryBudgetBytes false operations := by
  unfold session
  by_cases positive : 0 < memoryBudgetBytes
  · have backed : init memoryBudgetBytes true = .ok (fresh memoryBudgetBytes positive true) :=
      init_eq_ok_iff.mpr ⟨positive, rfl⟩
    have plain : init memoryBudgetBytes false = .ok (fresh memoryBudgetBytes positive false) :=
      init_eq_ok_iff.mpr ⟨positive, rfl⟩
    have same := observations_eq_of_mirrors (mirrors_fresh memoryBudgetBytes positive)
      (succeed _ backed)
    rw [backed, plain]
    exact congrArg Except.ok same
  · simp only [init, dif_neg positive]

def transparentRun : List Operation :=
  let layers := (Dict.empty.set "q_proj" ⟨0, 64⟩).set "norm" ⟨1, 0⟩
  let roomy (base index : Nat) : HostAnswer := ⟨some (base + 256 * index), false, false⟩
  [.loadAdapter "legal" layers (roomy 4096), .loadAdapter "empty" (Dict.empty.set "norm" ⟨2, 0⟩)
      (roomy 8192),
    .loadAdapter "legal" layers (roomy 12288), .swap none "legal", .unloadAdapter "legal",
    .loadAdapter "legal" layers (roomy 16384), .activate "gone"]

theorem native_backing_transparent_sample :
    session 128 true transparentRun = session 128 false transparentRun :=
  native_backing_transparent 128 transparentRun fun backed constructed => by
    obtain ⟨_, rfl⟩ := init_eq_ok_iff.mp constructed
    have roomy : Machine.Along AdapterManager.step AllocationsSucceed transparentRun
        (fresh 128 (by decide) true) := by decide
    exact roomy

end Manager

end Msp.Python.AdapterManager
