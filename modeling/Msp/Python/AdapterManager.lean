import Msp.Cpp.EloraAllocator
import Msp.Library.Machine

/-!
# `AdapterManager`

Model of `src/python/msp/adapter_manager.py`: the registry of resident
adapters, its memory budget, and the native allocator mirrored behind it.  An
operation returns the exception it raises, if any, with the state it leaves
behind: an exception that escapes half way leaves the statements before it done.

A layer is seen as the manager sees it, an object identity and the value of
`parameter_bytes()`.
-/

set_option autoImplicit false

namespace Msp.Python.AdapterManager

open Msp.Library Msp.Cpp.EloraAllocator

structure PluginLayer where
  ident : Nat
  parameterBytes : Nat
  deriving DecidableEq, Repr

structure AdapterRecord where
  adapterId : String
  layers : Dict String PluginLayer

def AdapterRecord.byteSize (record : AdapterRecord) : Nat :=
  record.layers.total PluginLayer.parameterBytes

inductive PyError where
  | valueError (message : String)
  | adapterBudgetError (message : String)
  | keyError (message : String)
  | native (error : NativeError)
  deriving DecidableEq, Repr

structure Manager where
  memoryBudgetBytes : Int
  budgetPositive : 0 < memoryBudgetBytes
  adapters : Dict String AdapterRecord
  activeAdapterId : Option String
  native : Option Allocator
  nativeIds : Dict String Int
  nextNativeId : Int

/-- What a call leaves behind; `cleared` lists the layers whose
`clear_gradient_gate()` it called. -/
structure Outcome where
  result : Except PyError Unit
  manager : Manager
  cleared : List PluginLayer

namespace Manager

def fresh (memoryBudgetBytes : Int) (budgetPositive : 0 < memoryBudgetBytes)
    (nativeAvailable : Bool) : Manager where
  memoryBudgetBytes := memoryBudgetBytes
  budgetPositive := budgetPositive
  adapters := Dict.empty
  activeAdapterId := none
  native := if nativeAvailable then some Allocator.new else none
  nativeIds := Dict.empty
  nextNativeId := 1

def init (memoryBudgetBytes : Int) (nativeAvailable : Bool) : Except PyError Manager :=
  if positive : 0 < memoryBudgetBytes then .ok (fresh memoryBudgetBytes positive nativeAvailable)
  else .error (.valueError "memory_budget_bytes must be positive")

theorem init_eq_ok_iff {memoryBudgetBytes : Int} {nativeAvailable : Bool} {manager : Manager} :
    init memoryBudgetBytes nativeAvailable = .ok manager ↔
      ∃ positive, manager = fresh memoryBudgetBytes positive nativeAvailable := by
  unfold init
  split
  · rename_i positive
    simp [positive, eq_comm]
  · rename_i negative
    simp [negative]

def nativeBacked (manager : Manager) : Bool := manager.native.isSome

def residentBytes (manager : Manager) : Nat := manager.adapters.total AdapterRecord.byteSize

def residentAdapterIds (manager : Manager) : List String := manager.adapters.keys

end Manager

inductive LoopExit where
  | allocated (allocator : Allocator)
  | refused (nbytes : Nat) (allocator : Allocator)
  | raised (error : NativeError) (allocator : Allocator)

def LoopExit.allocator : LoopExit → Allocator
  | .allocated allocator => allocator
  | .refused _ allocator => allocator
  | .raised _ allocator => allocator

/-- `for layer in layers.values(): ...`, with the host's answer to the call for
the layer at each index. -/
def allocateLayers (nativeId : Int) (host : Nat → HostAnswer) :
    Nat → List PluginLayer → Allocator → LoopExit
  | _, [], allocator => .allocated allocator
  | index, layer :: rest, allocator =>
      if layer.parameterBytes = 0 then allocateLayers nativeId host (index + 1) rest allocator
      else
        match pyAllocateKvContext allocator nativeId layer.parameterBytes (host index) with
        | (.ok (some _), next) => allocateLayers nativeId host (index + 1) rest next
        | (.ok none, next) => .refused layer.parameterBytes next
        | (.error error, next) => .raised error next

namespace Manager

def incomingBytes (layers : Dict String PluginLayer) : Nat :=
  layers.total PluginLayer.parameterBytes

def alreadyLoaded (adapterId : String) : PyError :=
  .valueError s!"adapter_id '{adapterId}' is already loaded; unload it first"

def overBudget (manager : Manager) (adapterId : String) (incoming projected : Nat) : PyError :=
  .adapterBudgetError
    (s!"loading adapter '{adapterId}' ({incoming} bytes) would bring " ++
      s!"resident total to {projected} bytes, exceeding the " ++
      s!"{manager.memoryBudgetBytes}-byte budget")

def hostAllocationFailed (manager : Manager) (adapterId : String) (nbytes : Nat) : PyError :=
  .adapterBudgetError
    (s!"adapter '{adapterId}' passed the {manager.memoryBudgetBytes}-byte " ++
      s!"budget check but the underlying host allocation for a " ++
      s!"{nbytes}-byte block failed (out of memory?)")

def commit (manager : Manager) (adapterId : String) (layers : Dict String PluginLayer) :
    Manager :=
  { manager with adapters := manager.adapters.set adapterId ⟨adapterId, layers⟩ }

def reserve (manager : Manager) (adapterId : String) : Manager :=
  { manager with
    nextNativeId := manager.nextNativeId + 1
    nativeIds := manager.nativeIds.set adapterId manager.nextNativeId }

/-- The branch taken when the allocator returned `None` for a layer. -/
def rollBack (manager : Manager) (adapterId : String) (nativeId : Int) (nbytes : Nat)
    (allocator : Allocator) : Outcome :=
  match pyExecuteDependencyEviction allocator nativeId with
  | (.error error, evicted) =>
      ⟨.error (.native error), { manager with native := some evicted }, []⟩
  | (.ok _, evicted) =>
      ⟨.error (manager.hostAllocationFailed adapterId nbytes),
        { manager with
          native := some evicted
          nativeIds := manager.nativeIds.erase adapterId
          adapters := manager.adapters.erase adapterId }, []⟩

def loadAdapter (manager : Manager) (adapterId : String) (layers : Dict String PluginLayer)
    (host : Nat → HostAnswer) : Outcome :=
  if adapterId ∈ manager.adapters.keys then ⟨.error (alreadyLoaded adapterId), manager, []⟩
  else
    let projectedTotal := manager.residentBytes + incomingBytes layers
    if manager.memoryBudgetBytes < projectedTotal then
      ⟨.error (manager.overBudget adapterId (incomingBytes layers) projectedTotal), manager, []⟩
    else
      let committed := manager.commit adapterId layers
      match manager.native with
      | none => ⟨.ok (), committed, []⟩
      | some allocator =>
          let reserved := committed.reserve adapterId
          match allocateLayers manager.nextNativeId host 0 layers.values allocator with
          | .allocated next => ⟨.ok (), { reserved with native := some next }, []⟩
          | .raised error next =>
              ⟨.error (.native error), { reserved with native := some next }, []⟩
          | .refused nbytes next =>
              reserved.rollBack adapterId manager.nextNativeId nbytes next

/-- `unload_adapter` up to the native branch: the record and the active id. -/
def pop (manager : Manager) (adapterId : String) : Manager :=
  { manager with
    adapters := manager.adapters.erase adapterId
    activeAdapterId :=
      if manager.activeAdapterId = some adapterId then none else manager.activeAdapterId }

def unloadAdapter (manager : Manager) (adapterId : String) : Outcome :=
  match manager.adapters.get? adapterId with
  | none => ⟨.ok (), manager, []⟩
  | some record =>
      match manager.native with
      | none => ⟨.ok (), manager.pop adapterId, record.layers.values⟩
      | some allocator =>
          match manager.nativeIds.get? adapterId with
          | none => ⟨.ok (), manager.pop adapterId, record.layers.values⟩
          | some nativeId =>
              let evicted := pyExecuteDependencyEviction allocator nativeId
              ⟨evicted.1.mapError PyError.native,
                { manager.pop adapterId with
                  nativeIds := manager.nativeIds.erase adapterId
                  native := some evicted.2 }, record.layers.values⟩

def activate (manager : Manager) (adapterId : String) : Outcome :=
  if adapterId ∈ manager.adapters.keys then
    ⟨.ok (), { manager with activeAdapterId := some adapterId }, []⟩
  else ⟨.error (.keyError s!"adapter_id '{adapterId}' is not loaded"), manager, []⟩

def getLayer (manager : Manager) (adapterId layerName : String) : Except PyError PluginLayer :=
  match manager.adapters.get? adapterId with
  | none => .error (.keyError adapterId)
  | some record =>
      match record.layers.get? layerName with
      | none => .error (.keyError layerName)
      | some layer => .ok layer

/-- `from_adapter_id` is documentation only: it is not unloaded. -/
def swap (manager : Manager) (_fromAdapterId : Option String) (toAdapterId : String) : Outcome :=
  manager.activate toAdapterId

end Manager

inductive Operation where
  | loadAdapter (adapterId : String) (layers : Dict String PluginLayer)
      (host : Nat → HostAnswer)
  | unloadAdapter (adapterId : String)
  | activate (adapterId : String)
  | swap (fromAdapterId : Option String) (toAdapterId : String)

def Manager.apply (manager : Manager) : Operation → Outcome
  | .loadAdapter adapterId layers host => manager.loadAdapter adapterId layers host
  | .unloadAdapter adapterId => manager.unloadAdapter adapterId
  | .activate adapterId => manager.activate adapterId
  | .swap fromAdapterId toAdapterId => manager.swap fromAdapterId toAdapterId

/-- The manager as a machine: a call that raises leaves a state like any other. -/
def step (manager : Manager) (operation : Operation) : Option Manager :=
  some (manager.apply operation).manager

/-- What any exit of the loop has done to the tree: other ids are untouched,
and the bytes added are the bytes now held for the loop's own id. -/
structure LoopEffect (nativeId : Int) (before after : Allocator) : Prop where
  otherIds : ∀ other, other ≠ nativeId →
    after.dependencyTree.get? other = before.dependencyTree.get? other
  conserved : after.totalBytes + before.heldBytes nativeId =
    before.totalBytes + after.heldBytes nativeId

theorem LoopEffect.refl (nativeId : Int) (allocator : Allocator) :
    LoopEffect nativeId allocator allocator :=
  ⟨fun _ _ => rfl, rfl⟩

theorem LoopEffect.trans {nativeId : Int} {first second third : Allocator}
    (before : LoopEffect nativeId first second) (after : LoopEffect nativeId second third) :
    LoopEffect nativeId first third where
  otherIds other differ := (after.otherIds other differ).trans (before.otherIds other differ)
  conserved := by
    have firstHalf := before.conserved
    have secondHalf := after.conserved
    omega

theorem LoopEffect.push (nativeId : Int) (allocator : Allocator) (block : Block) :
    LoopEffect nativeId allocator (allocator.push nativeId block) where
  otherIds other differ := by
    rw [Allocator.get?_push, if_neg (Ne.symm differ)]
  conserved := by
    rw [Allocator.totalBytes_push, Allocator.heldBytes_push, if_pos rfl]
    omega

theorem LoopEffect.emptyVector (nativeId : Int) (allocator : Allocator)
    (absent : allocator.dependencyTree.get? nativeId = none) :
    LoopEffect nativeId allocator ⟨allocator.dependencyTree.set nativeId []⟩ where
  otherIds other differ := Dict.get?_set_of_ne _ _ (Ne.symm differ)
  conserved := by
    have stored := Dict.total_set Allocator.blockBytes allocator.dependencyTree nativeId []
    simp only [absent, Option.map_none, Option.getD_none] at stored
    simp only [Allocator.totalBytes, Allocator.heldBytes, absent, Dict.get?_set_self,
      Option.map_some, Option.map_none, Option.getD_some, Option.getD_none]
    exact stored

theorem allocateLayers_effect (nativeId : Int) (host : Nat → HostAnswer)
    (layers : List PluginLayer) : ∀ (index : Nat) (allocator : Allocator),
      LoopEffect nativeId allocator
        (allocateLayers nativeId host index layers allocator).allocator := by
  induction layers with
  | nil => intro index allocator; exact LoopEffect.refl nativeId allocator
  | cons layer rest ih =>
      intro index allocator
      rw [allocateLayers]
      split
      · exact ih (index + 1) allocator
      · rcases pyAllocateKvContext_cases allocator nativeId layer.parameterBytes
          (host index) with refused | ⟨ptr, _, stored⟩ | ⟨error, next, threw, effect⟩
        · rw [refused]
          exact LoopEffect.refl nativeId allocator
        · rw [stored]
          exact (LoopEffect.push nativeId allocator _).trans (ih (index + 1) _)
        · rw [threw]
          rcases effect with unchanged | ⟨absent, created⟩
          · rw [unchanged]
            exact LoopEffect.refl nativeId allocator
          · rw [created]
            exact LoopEffect.emptyVector nativeId allocator absent

theorem allocateLayers_allocated (nativeId : Int) (host : Nat → HostAnswer)
    (layers : List PluginLayer) : ∀ (index : Nat) (allocator next : Allocator),
      allocateLayers nativeId host index layers allocator = .allocated next →
        next.heldBytes nativeId =
          allocator.heldBytes nativeId + (layers.map PluginLayer.parameterBytes).sum := by
  induction layers with
  | nil =>
      intro index allocator next finished
      cases finished
      rfl
  | cons layer rest ih =>
      intro index allocator next finished
      rw [allocateLayers] at finished
      rw [List.map_cons, List.sum_cons]
      split at finished
      · rename_i empty
        rw [ih (index + 1) allocator next finished, empty]
        omega
      · rcases pyAllocateKvContext_cases allocator nativeId layer.parameterBytes
          (host index) with refused | ⟨ptr, _, stored⟩ | ⟨error, threwNext, threw, _⟩
        · rw [refused] at finished
          cases finished
        · rw [stored] at finished
          rw [ih (index + 1) _ next finished, Allocator.heldBytes_push, if_pos rfl]
          exact Nat.add_assoc _ _ _
        · rw [threw] at finished
          cases finished

end Msp.Python.AdapterManager
