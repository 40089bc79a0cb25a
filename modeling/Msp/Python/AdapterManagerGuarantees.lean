import Msp.Python.AdapterManagerRun

/-!
# Guarantees of the adapter manager

Two results about whole runs.  `native_backed_run_accounts`: as long as every
call into the extension returns, registry, id map and dependency tree agree in
every reachable state.  `load_adapter_atomic_iff`: a failing `load_adapter`
leaves everything as it was exactly when its failure is not an exception raised
by one of its native allocation calls, which no statement undoes.
-/

set_option autoImplicit false

namespace Msp.Python.AdapterManager

open Msp.Library Msp.Cpp.EloraAllocator

namespace Manager

def allottedNativeId (manager : Manager) (operation : Operation) : Option Int :=
  if (manager.apply operation).manager.nextNativeId = manager.nextNativeId then none
  else some manager.nextNativeId

def allottedNativeIds : List Operation → Manager → List Int
  | [], _ => []
  | operation :: rest, manager =>
      (manager.allottedNativeId operation).toList ++
        allottedNativeIds rest (manager.apply operation).manager

structure IdStep (before after : Manager) : Prop where
  counter : after.nextNativeId = before.nextNativeId ∨
    after.nextNativeId = before.nextNativeId + 1
  mapped : ∀ nativeId ∈ after.nativeIds.values, nativeId ∈ before.nativeIds.values ∨
    (nativeId = before.nextNativeId ∧ after.nextNativeId = before.nextNativeId + 1)

theorem IdStep.refl (manager : Manager) : IdStep manager manager :=
  ⟨Or.inl rfl, fun _ member => Or.inl member⟩

theorem mem_values_set {dict : Dict String Int} {key : String} {value other : Int}
    (member : other ∈ (dict.set key value).values) : other = value ∨ other ∈ dict.values := by
  obtain ⟨atKey, found⟩ := Dict.mem_values.mp member
  rw [Dict.get?_set] at found
  split at found
  · exact Or.inl (Option.some.inj found).symm
  · exact Or.inr (Dict.mem_values.mpr ⟨atKey, found⟩)

theorem IdStep.reserved (manager : Manager) (adapterId : String)
    (layers : Dict String PluginLayer) (native : Option Allocator) :
    IdStep manager
      { (manager.commit adapterId layers).reserve adapterId with native := native } where
  counter := Or.inr rfl
  mapped nativeId member := by
    rcases mem_values_set member with new | old
    · exact Or.inr ⟨new, rfl⟩
    · exact Or.inl old

theorem IdStep.loadAdapter {manager : Manager} (isFresh : manager.IdsFresh)
    (adapterId : String) (layers : Dict String PluginLayer) (host : Nat → HostAnswer) :
    IdStep manager (manager.loadAdapter adapterId layers host).manager := by
  rcases manager.loadAdapter_cases adapterId layers host with
    ⟨_, _, _, same⟩ | ⟨_, _, same⟩ | ⟨admits, allocator, _, exits⟩
  · rw [same]
    exact IdStep.refl manager
  · rw [same]
    exact ⟨Or.inl rfl, fun _ member => Or.inl member⟩
  · rcases exits with ⟨next, _, same⟩ | ⟨nbytes, next, exit, same⟩ | ⟨error, next, _, same⟩
    · rw [same]
      exact IdStep.reserved manager adapterId layers (some next)
    · rw [same, rollBack_of_refused admits isFresh.mappedResident exit]
      exact ⟨Or.inr rfl, fun _ member => Or.inl member⟩
    · rw [same]
      exact IdStep.reserved manager adapterId layers (some next)

theorem IdStep.unloadAdapter (manager : Manager) (adapterId : String) :
    IdStep manager (manager.unloadAdapter adapterId).manager := by
  rcases manager.unloadAdapter_cases adapterId with
    ⟨_, same⟩ | ⟨record, _, ⟨_, same⟩ | ⟨allocator, nativeId, _, _, same⟩⟩
  · rw [same]
    exact IdStep.refl manager
  · rw [same]
    exact ⟨Or.inl rfl, fun _ member => Or.inl member⟩
  · rw [same]
    exact ⟨Or.inl rfl, fun _ member =>
      Or.inl ((Dict.values_erase_sublist _ _).subset member)⟩

theorem IdStep.activate (manager : Manager) (adapterId : String) :
    IdStep manager (manager.activate adapterId).manager := by
  unfold Manager.activate
  split
  · exact ⟨Or.inl rfl, fun _ member => Or.inl member⟩
  · exact IdStep.refl manager

theorem IdStep.apply {manager : Manager} (isFresh : manager.IdsFresh)
    (operation : Operation) : IdStep manager (manager.apply operation).manager := by
  cases operation with
  | loadAdapter adapterId layers host => exact IdStep.loadAdapter isFresh adapterId layers host
  | unloadAdapter adapterId => exact IdStep.unloadAdapter manager adapterId
  | activate adapterId => exact IdStep.activate manager adapterId
  | swap fromAdapterId toAdapterId => exact IdStep.activate manager toAdapterId

theorem mem_allottedNativeId {manager : Manager} {operation : Operation} {nativeId : Int} :
    nativeId ∈ (manager.allottedNativeId operation).toList ↔
      nativeId = manager.nextNativeId ∧
        (manager.apply operation).manager.nextNativeId ≠ manager.nextNativeId := by
  unfold allottedNativeId
  split
  · rename_i unmoved
    simp [unmoved]
  · rename_i moved
    simp [moved]

theorem allottedNativeIds_ge : ∀ (operations : List Operation) (manager : Manager),
    manager.IdsFresh → ∀ nativeId ∈ allottedNativeIds operations manager,
      manager.nextNativeId ≤ nativeId := by
  intro operations
  induction operations with
  | nil => intro manager _ nativeId member; simp [allottedNativeIds] at member
  | cons operation rest ih =>
      intro manager isFresh nativeId member
      rw [allottedNativeIds, List.mem_append] at member
      rcases member with here | later
      · exact le_of_eq (mem_allottedNativeId.mp here).1.symm
      · have above := ih _ (isFresh.apply operation) nativeId later
        rcases (IdStep.apply isFresh operation).counter with unmoved | moved <;> omega

theorem allottedNativeIds_nodup : ∀ (operations : List Operation) (manager : Manager),
    manager.IdsFresh → (allottedNativeIds operations manager).Nodup := by
  intro operations
  induction operations with
  | nil => intro manager _; exact List.nodup_nil
  | cons operation rest ih =>
      intro manager isFresh
      have freshAfter := isFresh.apply operation
      refine List.nodup_append.mpr ⟨?_, ih _ freshAfter, ?_⟩
      · cases manager.allottedNativeId operation <;> simp
      · intro here isHere later isLater equal
        have atCounter := mem_allottedNativeId.mp isHere
        have above := allottedNativeIds_ge rest _ freshAfter later isLater
        rcases (IdStep.apply isFresh operation).counter with unmoved | moved
        · exact atCounter.2 unmoved
        · omega

theorem mapped_allotted : ∀ (operations : List Operation) (manager final : Manager),
    manager.IdsFresh → Machine.run AdapterManager.step operations manager = some final →
      ∀ nativeId ∈ final.nativeIds.values,
        nativeId ∈ manager.nativeIds.values ∨
          nativeId ∈ allottedNativeIds operations manager := by
  intro operations
  induction operations with
  | nil =>
      intro manager final _ ran nativeId member
      cases Option.some.inj ran
      exact Or.inl member
  | cons operation rest ih =>
      intro manager final isFresh ran nativeId member
      obtain ⟨next, stepped, restRan⟩ := Machine.run_cons_eq_some.mp ran
      have freshAfter := isFresh.apply operation
      cases stepped
      rw [allottedNativeIds, List.mem_append]
      rcases ih _ final freshAfter restRan nativeId member with mapped | later
      · rcases (IdStep.apply isFresh operation).mapped nativeId mapped with old | ⟨new, moved⟩
        · exact Or.inl old
        · refine Or.inr (Or.inl (mem_allottedNativeId.mpr ⟨new, ?_⟩))
          omega
      · exact Or.inr (Or.inr later)

/-! ## Registry and dependency tree agree -/

def HostLawful (manager : Manager) : Prop :=
  ∀ allocator, manager.native = some allocator → allocator.HostContract

instance (manager : Manager) : Decidable manager.HostLawful :=
  inferInstanceAs (Decidable (∀ allocator, manager.native = some allocator → _))

theorem accounted_of_run (operations : List Operation) :
    ∀ (manager final : Manager) (allocator : Allocator),
      manager.native = some allocator → manager.Accounted allocator →
      Machine.Along AdapterManager.step NativeCallsReturn operations manager →
      Machine.run AdapterManager.step operations manager = some final →
        ∃ after, final.native = some after ∧ final.Accounted after := by
  induction operations with
  | nil =>
      intro manager final allocator backing accounted _ ran
      cases Option.some.inj ran
      exact ⟨allocator, backing, accounted⟩
  | cons operation rest ih =>
      intro manager final allocator backing accounted returns ran
      obtain ⟨next, stepped, restRan⟩ := Machine.run_cons_eq_some.mp ran
      obtain ⟨returned, restReturns⟩ := returns next stepped
      obtain ⟨after, backingAfter, accountedAfter⟩ :=
        accounted.step backing returned stepped
      exact ih next final after backingAfter accountedAfter restReturns restRan

theorem native_backed_run_accounts (memoryBudgetBytes : Int) (positive : 0 < memoryBudgetBytes)
    (operations : List Operation) (manager : Manager)
    (ran : Machine.run AdapterManager.step operations
      (fresh memoryBudgetBytes positive true) = some manager)
    (returns : Machine.Along AdapterManager.step NativeCallsReturn operations
      (fresh memoryBudgetBytes positive true))
    (lawful : Machine.Throughout AdapterManager.step HostLawful operations
      (fresh memoryBudgetBytes positive true)) :
    ∃ allocator, manager.native = some allocator ∧
      (manager.residentBytes : Int) ≤ manager.memoryBudgetBytes ∧
      (∀ adapterId, manager.activeAdapterId = some adapterId →
        adapterId ∈ manager.residentAdapterIds) ∧
      (manager.nativeIds.keys = manager.residentAdapterIds ∧
        manager.nativeIds.values.Nodup ∧
        (∀ nativeId ∈ manager.nativeIds.values, nativeId < manager.nextNativeId ∧
          nativeId ∈ allottedNativeIds operations (fresh memoryBudgetBytes positive true)) ∧
        (allottedNativeIds operations (fresh memoryBudgetBytes positive true)).Nodup) ∧
      (∀ adapterId record, manager.adapters.get? adapterId = some record →
        ∃ nativeId, manager.nativeIds.get? adapterId = some nativeId ∧
          allocator.bytesResidentFor nativeId = record.byteSize) ∧
      (∀ nativeId, nativeId ∉ manager.nativeIds.values →
        allocator.dependencyTree.get? nativeId = none) ∧
      allocator.totalBytes = manager.residentBytes := by
  have startFresh := IdsFresh.of_fresh memoryBudgetBytes positive true
  obtain ⟨allocator, backing, accounted⟩ := accounted_of_run operations _ manager
    Allocator.new rfl (Accounted.of_fresh memoryBudgetBytes positive) returns ran
  have contract : allocator.HostContract := lawful.last ran allocator backing
  refine ⟨allocator, backing, accounted.withinBudget, accounted.activeResident,
    ⟨accounted.sameKeys, accounted.idsInjective, ?_,
      allottedNativeIds_nodup operations _ startFresh⟩, ?_, accounted.noOthers,
    accounted.totalExact⟩
  · intro nativeId member
    refine ⟨accounted.idsBelow nativeId member, ?_⟩
    rcases mapped_allotted operations _ manager startFresh ran nativeId member with old | new
    · simp [fresh] at old
    · exact new
  · intro adapterId record found
    have resident : adapterId ∈ manager.nativeIds.keys := by
      rw [accounted.sameKeys]
      exact Dict.mem_keys.mpr ⟨record, found⟩
    obtain ⟨nativeId, mapped⟩ := Dict.mem_keys.mp resident
    refine ⟨nativeId, mapped, ?_⟩
    rw [allocator.bytesResidentFor_exact contract]
    exact accounted.held adapterId record nativeId found mapped

def sampleLayers : Dict String PluginLayer :=
  (Dict.empty.set "q_proj" ⟨0, 64⟩).set "norm" ⟨1, 0⟩

def roomyHost (base : Nat) (index : Nat) : HostAnswer :=
  ⟨some (base + 256 * index), false, false⟩

def emptyHost (_index : Nat) : HostAnswer := ⟨none, false, false⟩

def sampleRun : List Operation :=
  [.loadAdapter "legal" sampleLayers (roomyHost 4096),
    .loadAdapter "chat" sampleLayers emptyHost,
    .loadAdapter "chat" sampleLayers (roomyHost 65536),
    .swap none "chat", .unloadAdapter "legal"]

def sampleFinal : Manager :=
  sampleRun.foldl (fun manager operation => (manager.apply operation).manager)
    (fresh 128 (by decide) true)

theorem native_backed_run_accounts_sample :
    ∃ allocator, sampleFinal.native = some allocator ∧
      ∃ nativeId, sampleFinal.nativeIds.get? "chat" = some nativeId ∧
        allocator.bytesResidentFor nativeId = 64 := by
  obtain ⟨allocator, backing, _, _, _, bytes, _⟩ :=
    native_backed_run_accounts 128 (by decide) sampleRun sampleFinal rfl (by decide) (by decide)
  exact ⟨allocator, backing, bytes "chat" ⟨"chat", sampleLayers⟩ (by rfl)⟩

/-! ## Failing loads -/

def nativeBytes (manager : Manager) (nativeId : Int) : Nat :=
  match manager.native with
  | none => 0
  | some allocator => allocator.bytesResidentFor nativeId

/-- Everything a caller can see of a load that did not happen. -/
structure Unchanged (before after : Manager) : Prop where
  residentAdapterIds : after.residentAdapterIds = before.residentAdapterIds
  residentBytes : after.residentBytes = before.residentBytes
  activeAdapterId : after.activeAdapterId = before.activeAdapterId
  nativeIds : after.nativeIds = before.nativeIds
  nativeBytes : ∀ nativeId, after.nativeBytes nativeId = before.nativeBytes nativeId

theorem Unchanged.refl (manager : Manager) : Unchanged manager manager :=
  ⟨rfl, rfl, rfl, rfl, fun _ => rfl⟩

def AtomicOnFailure (manager : Manager) (adapterId : String) (layers : Dict String PluginLayer)
    (host : Nat → HostAnswer) : Prop :=
  ∀ error, (manager.loadAdapter adapterId layers host).result = .error error →
    Unchanged manager (manager.loadAdapter adapterId layers host).manager

def argumentsFit (nativeId : Int) (layer : PluginLayer) : Bool :=
  fitsCInt nativeId && decide (layer.parameterBytes < sizeModulus)

/-- `std::bad_alloc` escapes: from the map node only for the id's first block. -/
def hostThrows (firstBlock : Bool) (answer : HostAnswer) : Bool :=
  answer.rawAllocate.isSome && ((firstBlock && answer.insertThrows) || answer.growThrows)

/-- Reading only the host's answers: the first call that stores no block for a
new native id is one that raises. -/
def someCallRaises (nativeId : Int) (host : Nat → HostAnswer) :
    Nat → Bool → List PluginLayer → Bool
  | _, _, [] => false
  | index, firstBlock, layer :: rest =>
      if layer.parameterBytes = 0 then someCallRaises nativeId host (index + 1) firstBlock rest
      else if !argumentsFit nativeId layer || hostThrows firstBlock (host index) then true
      else (host index).rawAllocate.isSome &&
        someCallRaises nativeId host (index + 1) false rest

/-- The load reaches its native allocation calls and one of them raises. -/
def NativeCallRaises (manager : Manager) (adapterId : String)
    (layers : Dict String PluginLayer) (host : Nat → HostAnswer) : Prop :=
  manager.Admits adapterId layers ∧ manager.nativeBacked = true ∧
    someCallRaises manager.nextNativeId host 0 true layers.values = true

theorem pyAllocateKvContext_eq (allocator : Allocator) (nativeId : Int) (layer : PluginLayer)
    (answer : HostAnswer) (firstBlock : Bool)
    (first : firstBlock = true ↔ allocator.dependencyTree.get? nativeId = none)
    (nonzero : layer.parameterBytes ≠ 0) :
    (∃ error next, (!argumentsFit nativeId layer || hostThrows firstBlock answer) = true ∧
      pyAllocateKvContext allocator nativeId layer.parameterBytes answer =
        (.error error, next)) ∨
    ((!argumentsFit nativeId layer || hostThrows firstBlock answer) = false ∧
      pyAllocateKvContext allocator nativeId layer.parameterBytes answer =
        match answer.rawAllocate with
        | none => (.ok none, allocator)
        | some ptr => (.ok (some ptr), allocator.push nativeId ⟨ptr, layer.parameterBytes⟩)) := by
  unfold pyAllocateKvContext
  change (∃ error next, _ ∧ (if argumentsFit nativeId layer = true then _ else _) = _) ∨
    (_ ∧ (if argumentsFit nativeId layer = true then _ else _) = _)
  cases fit : argumentsFit nativeId layer with
  | false => exact Or.inl ⟨.typeError, allocator, rfl, rfl⟩
  | true =>
      rcases answer with ⟨raw, insertThrows, growThrows⟩
      cases raw with
      | none => exact Or.inr ⟨rfl, by simp [Allocator.allocateKvContext, nonzero]⟩
      | some ptr =>
          cases found : allocator.dependencyTree.get? nativeId with
          | none =>
              have isFirst : firstBlock = true := first.mpr found
              subst isFirst
              cases insertThrows <;> cases growThrows <;>
                simp [Allocator.allocateKvContext, Allocator.push, hostThrows, nonzero, found]
          | some blocks =>
              have notFirst : firstBlock = false := by
                cases firstBlock with
                | false => rfl
                | true => rw [first.mp rfl] at found; cases found
              subst notFirst
              cases growThrows <;>
                simp [Allocator.allocateKvContext, Allocator.push, hostThrows, nonzero, found]

theorem allocateLayers_raised_iff (nativeId : Int) (host : Nat → HostAnswer)
    (layers : List PluginLayer) : ∀ (index : Nat) (firstBlock : Bool) (allocator : Allocator),
      (firstBlock = true ↔ allocator.dependencyTree.get? nativeId = none) →
        ((∃ error next, allocateLayers nativeId host index layers allocator =
            .raised error next) ↔
          someCallRaises nativeId host index firstBlock layers = true) := by
  induction layers with
  | nil =>
      intro index firstBlock allocator _
      simp [allocateLayers, someCallRaises]
  | cons layer rest ih =>
      intro index firstBlock allocator first
      rw [allocateLayers, someCallRaises]
      by_cases empty : layer.parameterBytes = 0
      · rw [if_pos empty, if_pos empty]
        exact ih (index + 1) firstBlock allocator first
      · rw [if_neg empty, if_neg empty]
        rcases pyAllocateKvContext_eq allocator nativeId layer (host index) firstBlock first
          empty with ⟨error, next, raises, call⟩ | ⟨returns, call⟩
        · rw [call, if_pos raises]
          exact ⟨fun _ => rfl, fun _ => ⟨error, next, rfl⟩⟩
        · rw [call, returns]
          cases answered : (host index).rawAllocate with
          | none => simp
          | some ptr =>
              have stored : (false = true ↔
                  (allocator.push nativeId ⟨ptr, layer.parameterBytes⟩).dependencyTree.get?
                    nativeId = none) := by
                simp [Allocator.get?_push]
              simpa using ih (index + 1) false _ stored

theorem Unchanged.rolledBack {manager : Manager} (isFresh : manager.IdsFresh)
    {allocator next : Allocator} (backing : manager.native = some allocator)
    (effect : LoopEffect manager.nextNativeId allocator next) :
    Unchanged manager { manager with
      native := some (next.executeDependencyEviction manager.nextNativeId).2
      nextNativeId := manager.nextNativeId + 1 } := by
  refine ⟨rfl, rfl, rfl, rfl, fun nativeId => ?_⟩
  have sameBlocks :
      (next.executeDependencyEviction manager.nextNativeId).2.dependencyTree.get? nativeId =
        allocator.dependencyTree.get? nativeId := by
    by_cases same : nativeId = manager.nextNativeId
    · rw [same, Allocator.get?_evict_self,
        isFresh.treeBelow allocator backing _ (le_refl _)]
    · rw [Allocator.get?_evict_of_ne _ (Ne.symm same), effect.otherIds nativeId same]
  rw [Manager.nativeBytes, Manager.nativeBytes, backing]
  simp only [Allocator.bytesResidentFor, sameBlocks]

/-- A load whose native call raised keeps the adapter it did not finish loading. -/
theorem raised_keeps_record {manager : Manager} {adapterId : String}
    {layers : Dict String PluginLayer} (admits : manager.Admits adapterId layers)
    (native : Option Allocator) :
    ¬ Unchanged manager
      { (manager.commit adapterId layers).reserve adapterId with native := native } := by
  intro unchanged
  have ids : (manager.adapters.set adapterId ⟨adapterId, layers⟩).keys = manager.adapters.keys :=
    unchanged.residentAdapterIds
  have kept : adapterId ∈ (manager.adapters.set adapterId ⟨adapterId, layers⟩).keys :=
    (Dict.mem_keys_set _ _ _ _).mpr (Or.inl rfl)
  exact admits.1 (ids ▸ kept)

theorem load_adapter_atomic_iff (memoryBudgetBytes : Int) (positive : 0 < memoryBudgetBytes)
    (nativeAvailable : Bool) (operations : List Operation) (manager : Manager)
    (ran : Machine.run AdapterManager.step operations
      (fresh memoryBudgetBytes positive nativeAvailable) = some manager)
    (adapterId : String) (layers : Dict String PluginLayer) (host : Nat → HostAnswer) :
    manager.AtomicOnFailure adapterId layers host ↔
      ¬ manager.NativeCallRaises adapterId layers host := by
  have isFresh := idsFresh_of_run memoryBudgetBytes positive nativeAvailable operations manager
    ran
  rcases manager.loadAdapter_cases adapterId layers host with
    ⟨error, _, rejected, same⟩ | ⟨_, unbacked, same⟩ | ⟨admits, allocator, backing, exits⟩
  · refine ⟨fun _ raises => rejected raises.1, fun _ _ _ => ?_⟩
    rw [same]
    exact Unchanged.refl manager
  · refine ⟨fun _ raises => ?_, fun _ _ raised => ?_⟩
    · have backed := raises.2.1
      simp [nativeBacked, unbacked] at backed
    · rw [same] at raised
      cases raised
  · have raisedIff := allocateLayers_raised_iff manager.nextNativeId host layers.values 0 true
      allocator (by simp [isFresh.treeBelow allocator backing _ (le_refl _)])
    rcases exits with
      ⟨next, exit, same⟩ | ⟨nbytes, next, exit, same⟩ | ⟨error, next, exit, same⟩
    · refine ⟨fun _ raises => ?_, fun _ _ raised => ?_⟩
      · obtain ⟨_, _, stopped⟩ := raisedIff.mpr raises.2.2
        rw [exit] at stopped
        cases stopped
      · rw [same] at raised
        cases raised
    · refine ⟨fun _ raises => ?_, fun _ _ _ => ?_⟩
      · obtain ⟨_, _, stopped⟩ := raisedIff.mpr raises.2.2
        rw [exit] at stopped
        cases stopped
      · have effect := allocateLayers_effect manager.nextNativeId host layers.values 0 allocator
        rw [exit] at effect
        rw [same, rollBack_of_refused admits isFresh.mappedResident exit]
        exact Unchanged.rolledBack isFresh backing effect
    · refine ⟨fun atomic _ => ?_, fun returns => absurd ?_ returns⟩
      · have unchanged := atomic (.native error) (by rw [same])
        rw [same] at unchanged
        exact raised_keeps_record admits _ unchanged
      · refine ⟨admits, by rw [nativeBacked, backing]; rfl, ?_⟩
        exact raisedIff.mp ⟨error, next, exit⟩

def exhaustedHost (index : Nat) : HostAnswer :=
  ⟨some (4096 + 256 * index), false, decide (index = 1)⟩

def twoLayers : Dict String PluginLayer :=
  (Dict.empty.set "q_proj" ⟨0, 64⟩).set "v_proj" ⟨1, 32⟩

theorem load_adapter_atomic_iff_sample :
    ¬ sampleFinal.AtomicOnFailure "code" (Dict.empty.set "q_proj" ⟨2, 32⟩)
        (fun _ => ⟨some 131072, true, false⟩) ∧
      sampleFinal.AtomicOnFailure "chat" twoLayers exhaustedHost := by
  have exactly := load_adapter_atomic_iff 128 (by decide) true sampleRun sampleFinal rfl
  refine ⟨fun atomic => (exactly _ _ _).mp atomic ?_, (exactly _ _ _).mpr ?_⟩
  · exact ⟨by decide, by decide, by decide⟩
  · exact fun raises => absurd raises.1 (by decide)

/-- A first load fails with `MemoryError` on its second layer; the adapter stays
resident with all its bytes. -/
theorem load_adapter_not_atomic :
    ¬ (fresh 128 (by decide) true).AtomicOnFailure "legal" twoLayers exhaustedHost := by
  intro atomic
  have unchanged := atomic (.native .memoryError) (by decide)
  exact absurd unchanged.residentAdapterIds (by decide)

end Manager

end Msp.Python.AdapterManager
