import Msp.Python.AdapterManagerGuarantees
import Msp.Python.GatedAdapters

/-!
# What evicting one adapter leaves of the others

`unload_adapter` pops the record, clears the gates of its layers and evicts its
native blocks.  The registry and the native side know whose they are: no two
adapters share a native id in any reachable state.  A layer object does not, and
`load_adapter` accepts one that another resident adapter holds.
-/

set_option autoImplicit false

namespace Msp.Python.GatedAdapters

open Msp.Library Msp.Cpp.EloraAllocator Msp.Python.AdapterManager Msp.Python.GradientGate

/-- Every mapped id was handed out by the counter, to one adapter. -/
structure IdsDistinct (manager : Manager) : Prop where
  isFresh : manager.IdsFresh
  distinct : manager.nativeIds.values.Nodup
  below : ∀ nativeId ∈ manager.nativeIds.values, nativeId < manager.nextNativeId

theorem IdsDistinct.of_fresh (memoryBudgetBytes : Int) (positive : 0 < memoryBudgetBytes)
    (nativeAvailable : Bool) :
    IdsDistinct (Manager.fresh memoryBudgetBytes positive nativeAvailable) where
  isFresh := Manager.IdsFresh.of_fresh memoryBudgetBytes positive nativeAvailable
  distinct := List.nodup_nil
  below _ member := by simp [Manager.fresh] at member

theorem IdsDistinct.reserve {manager : Manager} (ids : IdsDistinct manager) {adapterId : String}
    (notResident : adapterId ∉ manager.adapters.keys) :
    (manager.nativeIds.set adapterId manager.nextNativeId).values.Nodup ∧
      ∀ nativeId ∈ (manager.nativeIds.set adapterId manager.nextNativeId).values,
        nativeId < manager.nextNativeId + 1 := by
  have notMapped : adapterId ∉ manager.nativeIds.keys :=
    fun mapped => notResident (ids.isFresh.mappedResident adapterId mapped)
  rw [Dict.values_set_of_notMem _ notMapped]
  constructor
  · refine List.nodup_append.mpr ⟨ids.distinct, List.nodup_singleton _, ?_⟩
    intro old member new isNew same
    have isBelow := ids.below old member
    rw [List.mem_singleton] at isNew
    omega
  · intro nativeId member
    rcases List.mem_append.mp member with old | new
    · have isBelow := ids.below nativeId old
      omega
    · rw [List.mem_singleton] at new
      omega

theorem IdsDistinct.loadAdapter {manager : Manager} (ids : IdsDistinct manager)
    (adapterId : String) (layers : Dict String PluginLayer) (host : ℕ → HostAnswer) :
    IdsDistinct (manager.loadAdapter adapterId layers host).manager := by
  have isFresh := ids.isFresh.loadAdapter adapterId layers host
  rcases manager.loadAdapter_cases adapterId layers host with
    ⟨_, _, _, same⟩ | ⟨_, _, same⟩ | ⟨admits, allocator, _, exits⟩
  · rw [same]
    exact ids
  · rw [same] at isFresh ⊢
    exact ⟨isFresh, ids.distinct, ids.below⟩
  · have reserved := ids.reserve admits.1
    rcases exits with ⟨_, _, same⟩ | ⟨_, _, exit, same⟩ | ⟨_, _, _, same⟩
    · rw [same] at isFresh ⊢
      exact ⟨isFresh, reserved.1, reserved.2⟩
    · rw [same, Manager.rollBack_of_refused admits ids.isFresh.mappedResident exit] at isFresh ⊢
      refine ⟨isFresh, ids.distinct, fun nativeId member => ?_⟩
      have isBelow := ids.below nativeId member
      change nativeId < manager.nextNativeId + 1
      omega
    · rw [same] at isFresh ⊢
      exact ⟨isFresh, reserved.1, reserved.2⟩

theorem IdsDistinct.unloadAdapter {manager : Manager} (ids : IdsDistinct manager)
    (adapterId : String) : IdsDistinct (manager.unloadAdapter adapterId).manager := by
  have isFresh := ids.isFresh.unloadAdapter adapterId
  rcases manager.unloadAdapter_cases adapterId with
    ⟨_, same⟩ | ⟨_, _, ⟨_, same⟩ | ⟨_, _, _, _, same⟩⟩
  · rw [same]
    exact ids
  · rw [same] at isFresh ⊢
    exact ⟨isFresh, ids.distinct, ids.below⟩
  · rw [same] at isFresh ⊢
    have fewer := Dict.values_erase_sublist manager.nativeIds adapterId
    exact ⟨isFresh, fewer.nodup ids.distinct,
      fun nativeId member => ids.below nativeId (fewer.subset member)⟩

theorem IdsDistinct.activate {manager : Manager} (ids : IdsDistinct manager)
    (adapterId : String) : IdsDistinct (manager.activate adapterId).manager := by
  have isFresh := ids.isFresh.activate adapterId
  unfold Manager.activate at isFresh ⊢
  split
  · rename_i resident
    rw [if_pos resident] at isFresh
    exact ⟨isFresh, ids.distinct, ids.below⟩
  · exact ids

theorem IdsDistinct.apply {manager : Manager} (ids : IdsDistinct manager)
    (operation : Operation) : IdsDistinct (manager.apply operation).manager := by
  cases operation with
  | loadAdapter adapterId layers host => exact ids.loadAdapter adapterId layers host
  | unloadAdapter adapterId => exact ids.unloadAdapter adapterId
  | activate adapterId => exact ids.activate adapterId
  | swap fromAdapterId toAdapterId => exact ids.activate toAdapterId

section Frame
variable {Temp : Type*}

theorem idsDistinct_after (start : World Temp) (ids : IdsDistinct start.manager)
    (events : List (Event Temp)) : IdsDistinct (start.after events).manager := by
  induction events using List.reverseRecOn with
  | nil => exact ids
  | append_singleton events event ih =>
      rw [World.after_snoc]
      cases event with
      | gateGradients ident monitor => exact ih
      | clearGradientGate ident => exact ih
      | manage operation => exact ih.apply operation

structure LeavesOthers (world next : World Temp) (adapterId : String) : Prop where
  records : ∀ other, other ≠ adapterId →
    next.manager.adapters.get? other = world.manager.adapters.get? other
  gates : ∀ other, other ≠ adapterId → ∀ ident, Holds world.manager other ident →
    next.gates ident = world.gates ident
  nativeIds : ∀ other, other ≠ adapterId →
    next.manager.nativeIds.get? other = world.manager.nativeIds.get? other
  nativeBytes : ∀ other nativeId, other ≠ adapterId →
    world.manager.nativeIds.get? other = some nativeId →
      next.manager.nativeBytes nativeId = world.manager.nativeBytes nativeId
  active : world.manager.activeAdapterId ≠ some adapterId →
    next.manager.activeAdapterId = world.manager.activeAdapterId

theorem nativeBytes_evicted {allocator : Allocator} {evicted nativeId : Int}
    (differ : evicted ≠ nativeId) :
    (pyExecuteDependencyEviction allocator evicted).2.bytesResidentFor nativeId =
      allocator.bytesResidentFor nativeId := by
  unfold pyExecuteDependencyEviction
  by_cases fits : fitsCInt evicted = true
  · rw [if_pos fits, Allocator.bytesResidentFor, Allocator.get?_evict_of_ne _ differ]
    rfl
  · rw [if_neg fits]

theorem unload_leaves_manager {manager : Manager} (ids : IdsDistinct manager)
    (adapterId : String) :
    (∀ other, other ≠ adapterId →
      (manager.unloadAdapter adapterId).manager.adapters.get? other =
        manager.adapters.get? other) ∧
      (∀ other, other ≠ adapterId →
        (manager.unloadAdapter adapterId).manager.nativeIds.get? other =
          manager.nativeIds.get? other) ∧
      (∀ other nativeId, other ≠ adapterId → manager.nativeIds.get? other = some nativeId →
        (manager.unloadAdapter adapterId).manager.nativeBytes nativeId =
          manager.nativeBytes nativeId) ∧
      (manager.activeAdapterId ≠ some adapterId →
        (manager.unloadAdapter adapterId).manager.activeAdapterId = manager.activeAdapterId) := by
  rcases manager.unloadAdapter_cases adapterId with
    ⟨_, same⟩ | ⟨_, _, ⟨_, same⟩ | ⟨allocator, evicted, backing, mapped, same⟩⟩
  · rw [same]
    exact ⟨fun _ _ => rfl, fun _ _ => rfl, fun _ _ _ _ => rfl, fun _ => rfl⟩
  · rw [same]
    exact ⟨fun _ differ => Dict.get?_erase_of_ne _ (Ne.symm differ), fun _ _ => rfl,
      fun _ _ _ _ => rfl, fun inactive => if_neg inactive⟩
  · rw [same]
    refine ⟨fun _ differ => Dict.get?_erase_of_ne _ (Ne.symm differ),
      fun _ differ => Dict.get?_erase_of_ne _ (Ne.symm differ),
      fun other nativeId differ otherMapped => ?_, fun inactive => if_neg inactive⟩
    have idsDiffer : evicted ≠ nativeId := by
      intro equal
      exact differ (Dict.key_unique ids.distinct otherMapped (equal ▸ mapped))
    simp only [Manager.nativeBytes, backing]
    exact nativeBytes_evicted idsDiffer

theorem gates_after_unload (world : World Temp) (adapterId : String) (ident : ℕ) :
    (Holds world.manager adapterId ident ∧
        (world.apply (.manage (.unloadAdapter adapterId))).gates ident =
          (world.gates ident).clearGradientGate) ∨
      (¬ Holds world.manager adapterId ident ∧
        (world.apply (.manage (.unloadAdapter adapterId))).gates ident = world.gates ident) := by
  have cleared := mem_cleared_unloadAdapter world.manager adapterId ident
  by_cases held : Holds world.manager adapterId ident
  · exact Or.inl ⟨held, (clearLayers_apply _ _ _).trans (if_pos (cleared.mpr held))⟩
  · exact Or.inr ⟨held, (clearLayers_apply _ _ _).trans (if_neg (mt cleared.mp held))⟩

end Frame

/-- In every reachable state, evicting an adapter leaves the others alone exactly
when none of them holds a layer object that the adapter holds too and that is
gated at the time. -/
theorem unload_leaves_others_iff {Temp : Type*} (memoryBudgetBytes : Int)
    (positive : 0 < memoryBudgetBytes) (nativeAvailable : Bool) (events : List (Event Temp))
    (adapterId : String) :
    let world := (World.start memoryBudgetBytes positive nativeAvailable).after events
    LeavesOthers world (world.apply (.manage (.unloadAdapter adapterId))) adapterId ↔
      ∀ other ident, other ≠ adapterId → Holds world.manager other ident →
        Holds world.manager adapterId ident → (world.gates ident).gradGateHandles = [] := by
  intro world
  have ids : IdsDistinct world.manager :=
    idsDistinct_after _ (IdsDistinct.of_fresh memoryBudgetBytes positive nativeAvailable) events
  obtain ⟨records, nativeIds, nativeBytes, active⟩ := unload_leaves_manager ids adapterId
  constructor
  · intro leaves other ident differ otherHolds holds
    have kept := leaves.gates other differ ident otherHolds
    rcases gates_after_unload world adapterId ident with ⟨_, cleared⟩ | ⟨notHeld, _⟩
    · rw [cleared] at kept
      exact LayerGate.clear_eq_iff.mp kept
    · exact absurd holds notHeld
  · intro ungated
    refine ⟨records, fun other differ ident otherHolds => ?_, nativeIds, nativeBytes, active⟩
    rcases gates_after_unload world adapterId ident with ⟨holds, cleared⟩ | ⟨_, kept⟩
    · rw [cleared]
      exact LayerGate.clear_of_noHandles (ungated other ident differ otherHolds holds)
    · exact kept

def sharedLayer : Dict String PluginLayer := Dict.empty.set "proj" ⟨7, 32⟩

def answering (index : ℕ) : HostAnswer := ⟨some (4096 + 64 * index), false, false⟩

def sharedRun : List (Event ℤ) :=
  [.manage (.loadAdapter "chat" sharedLayer answering),
    .manage (.loadAdapter "code" sharedLayer answering), .gateGradients 7 above75]

theorem sharedBudget_positive : (0 : Int) < 128 := by decide

def sharedWorld : World ℤ := (World.start 128 sharedBudget_positive false).after sharedRun

theorem unload_leaves_others_iff_cleared :
    LeavesOthers (sharedWorld.apply (.clearGradientGate 7))
      ((sharedWorld.apply (.clearGradientGate 7)).apply (.manage (.unloadAdapter "chat")))
      "chat" := by
  have cleared : sharedWorld.apply (.clearGradientGate 7) =
      (World.start 128 (by decide) false).after (sharedRun ++ [.clearGradientGate 7]) :=
    (World.after_snoc _ _ _).symm
  rw [cleared]
  refine (unload_leaves_others_iff 128 (by decide) false (sharedRun ++ [.clearGradientGate 7])
    "chat").mpr ?_
  intro other ident _ _ holds
  obtain ⟨record, found, member⟩ := holds
  cases found
  have isSeven : ident = 7 := List.mem_singleton.mp member
  rw [isSeven]
  rfl

/-- The gate of the layer that "code" still holds is gone. -/
theorem shared_gate_cleared :
    ¬ LeavesOthers sharedWorld (sharedWorld.apply (.manage (.unloadAdapter "chat"))) "chat" := by
  intro leaves
  have holds : Holds sharedWorld.manager "code" 7 :=
    ⟨⟨"code", sharedLayer⟩, rfl, List.mem_singleton.mpr rfl⟩
  have kept := congrArg (fun gate => gate.gradGateHandles.length)
    (leaves.gates "code" (by decide) 7 holds)
  revert kept
  decide

end Msp.Python.GatedAdapters
