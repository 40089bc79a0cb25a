import Msp.Python.AdapterManager

/-!
# What every run of the adapter manager preserves

`loadAdapter_cases` lists the five ways `load_adapter` can end.  From it two
invariants are derived: `IdsFresh`, which every run keeps whatever the host
does, and `Accounted`, the agreement of the Python registry with the native
dependency tree, which a run keeps as long as no call into the extension raises.
-/

set_option autoImplicit false

namespace Msp.Python.AdapterManager

open Msp.Library Msp.Cpp.EloraAllocator

namespace Manager

def Admits (manager : Manager) (adapterId : String) (layers : Dict String PluginLayer) : Prop :=
  adapterId ∉ manager.adapters.keys ∧
    ((manager.residentBytes + incomingBytes layers : Nat) : Int) ≤ manager.memoryBudgetBytes

instance (manager : Manager) (adapterId : String) (layers : Dict String PluginLayer) :
    Decidable (manager.Admits adapterId layers) :=
  inferInstanceAs (Decidable (_ ∧ _))

theorem loadAdapter_cases (manager : Manager) (adapterId : String)
    (layers : Dict String PluginLayer) (host : Nat → HostAnswer) :
    (∃ error, (∀ native, error ≠ PyError.native native) ∧
      ¬ manager.Admits adapterId layers ∧
      manager.loadAdapter adapterId layers host = ⟨.error error, manager, []⟩) ∨
    (manager.Admits adapterId layers ∧ manager.native = none ∧
      manager.loadAdapter adapterId layers host =
        ⟨.ok (), manager.commit adapterId layers, []⟩) ∨
    (manager.Admits adapterId layers ∧ ∃ allocator, manager.native = some allocator ∧
      ((∃ next, allocateLayers manager.nextNativeId host 0 layers.values allocator =
          .allocated next ∧
        manager.loadAdapter adapterId layers host =
          ⟨.ok (), { (manager.commit adapterId layers).reserve adapterId with
            native := some next }, []⟩) ∨
      (∃ nbytes next, allocateLayers manager.nextNativeId host 0 layers.values allocator =
          .refused nbytes next ∧
        manager.loadAdapter adapterId layers host =
          ((manager.commit adapterId layers).reserve adapterId).rollBack adapterId
            manager.nextNativeId nbytes next) ∨
      (∃ error next, allocateLayers manager.nextNativeId host 0 layers.values allocator =
          .raised error next ∧
        manager.loadAdapter adapterId layers host =
          ⟨.error (.native error), { (manager.commit adapterId layers).reserve adapterId with
            native := some next }, []⟩))) := by
  unfold loadAdapter
  by_cases loaded : adapterId ∈ manager.adapters.keys
  · rw [if_pos loaded]
    exact Or.inl ⟨_, by simp [alreadyLoaded], fun admits => admits.1 loaded, rfl⟩
  · rw [if_neg loaded]
    by_cases exceeds : manager.memoryBudgetBytes <
        ((manager.residentBytes + incomingBytes layers : Nat) : Int)
    · rw [if_pos exceeds]
      exact Or.inl ⟨_, by simp [overBudget], fun admits => by have := admits.2; omega, rfl⟩
    · rw [if_neg exceeds]
      have admits : manager.Admits adapterId layers := ⟨loaded, by omega⟩
      cases backing : manager.native with
      | none => exact Or.inr (Or.inl ⟨admits, rfl, rfl⟩)
      | some allocator =>
          refine Or.inr (Or.inr ⟨admits, allocator, rfl, ?_⟩)
          cases exit : allocateLayers manager.nextNativeId host 0 layers.values allocator with
          | allocated next => exact Or.inl ⟨next, rfl, by simp only [exit]⟩
          | refused nbytes next => exact Or.inr (Or.inl ⟨nbytes, next, rfl, by simp only [exit]⟩)
          | raised error next => exact Or.inr (Or.inr ⟨error, next, rfl, by simp only [exit]⟩)

/-- A `None` answer means that the id was converted, so the eviction that rolls
the load back does not raise. -/
theorem allocateLayers_refused_fits (nativeId : Int) (host : Nat → HostAnswer)
    (layers : List PluginLayer) : ∀ (index : Nat) (allocator next : Allocator) (nbytes : Nat),
      allocateLayers nativeId host index layers allocator = .refused nbytes next →
        fitsCInt nativeId = true := by
  induction layers with
  | nil =>
      intro index allocator next nbytes stopped
      cases stopped
  | cons layer rest ih =>
      intro index allocator next nbytes stopped
      rw [allocateLayers] at stopped
      split at stopped
      · exact ih (index + 1) allocator next nbytes stopped
      · by_cases fits : fitsCInt nativeId = true
        · exact fits
        · simp [pyAllocateKvContext, fits] at stopped

/-- After a refused allocation only the native id counter has moved. -/
theorem rollBack_eq (manager : Manager) (adapterId : String)
    (layers : Dict String PluginLayer) (nbytes : Nat) (next : Allocator)
    (notResident : adapterId ∉ manager.adapters.keys)
    (notMapped : adapterId ∉ manager.nativeIds.keys)
    (fits : fitsCInt manager.nextNativeId = true) :
    ((manager.commit adapterId layers).reserve adapterId).rollBack adapterId
        manager.nextNativeId nbytes next =
      ⟨.error (manager.hostAllocationFailed adapterId nbytes),
        { manager with
          native := some (next.executeDependencyEviction manager.nextNativeId).2
          nextNativeId := manager.nextNativeId + 1 }, []⟩ := by
  unfold rollBack pyExecuteDependencyEviction
  rw [if_pos fits]
  simp only [commit, reserve, hostAllocationFailed,
    Dict.erase_set_of_notMem _ notResident, Dict.erase_set_of_notMem _ notMapped]

theorem rollBack_of_refused {manager : Manager} {adapterId : String}
    {layers : Dict String PluginLayer} {host : Nat → HostAnswer} {allocator next : Allocator}
    {nbytes : Nat} (admits : manager.Admits adapterId layers)
    (mappedResident : ∀ other ∈ manager.nativeIds.keys, other ∈ manager.adapters.keys)
    (exit : allocateLayers manager.nextNativeId host 0 layers.values allocator =
      .refused nbytes next) :
    ((manager.commit adapterId layers).reserve adapterId).rollBack adapterId
        manager.nextNativeId nbytes next =
      ⟨.error (manager.hostAllocationFailed adapterId nbytes),
        { manager with
          native := some (next.executeDependencyEviction manager.nextNativeId).2
          nextNativeId := manager.nextNativeId + 1 }, []⟩ :=
  rollBack_eq manager adapterId layers nbytes next admits.1
    (fun mapped => admits.1 (mappedResident adapterId mapped))
    (allocateLayers_refused_fits _ _ _ _ _ _ _ exit)

/-! ## Every run: native ids are never handed out twice -/

structure IdsFresh (manager : Manager) : Prop where
  unbackedUnmapped : manager.native = none → manager.nativeIds.keys = []
  mappedResident : ∀ adapterId, adapterId ∈ manager.nativeIds.keys →
    adapterId ∈ manager.adapters.keys
  treeBelow : ∀ allocator, manager.native = some allocator →
    ∀ nativeId, manager.nextNativeId ≤ nativeId →
      allocator.dependencyTree.get? nativeId = none

theorem IdsFresh.of_fresh (memoryBudgetBytes : Int) (positive : 0 < memoryBudgetBytes)
    (nativeAvailable : Bool) :
    (fresh memoryBudgetBytes positive nativeAvailable).IdsFresh where
  unbackedUnmapped _ := rfl
  mappedResident adapterId member := by simp [fresh] at member
  treeBelow allocator backing nativeId _ := by
    cases nativeAvailable with
    | false => simp [fresh] at backing
    | true =>
        have same : Allocator.new = allocator := by simpa [fresh] using backing
        rw [← same]
        rfl

theorem IdsFresh.reserved {manager : Manager} (isFresh : manager.IdsFresh)
    (adapterId : String) (layers : Dict String PluginLayer) (host : Nat → HostAnswer)
    (allocator : Allocator) (backing : manager.native = some allocator) :
    IdsFresh { (manager.commit adapterId layers).reserve adapterId with
      native := some (allocateLayers manager.nextNativeId host 0 layers.values
        allocator).allocator } where
  unbackedUnmapped unbacked := by cases unbacked
  mappedResident other member := by
    simp only [commit, reserve, Dict.mem_keys_set] at member ⊢
    exact member.imp_right (isFresh.mappedResident other)
  treeBelow next isNext nativeId above := by
    have effect := allocateLayers_effect manager.nextNativeId host layers.values 0 allocator
    simp only [commit, reserve, Option.some.injEq] at isNext above
    rw [← isNext, effect.otherIds nativeId (by omega)]
    exact isFresh.treeBelow allocator backing nativeId (by omega)

theorem IdsFresh.loadAdapter {manager : Manager} (isFresh : manager.IdsFresh)
    (adapterId : String) (layers : Dict String PluginLayer) (host : Nat → HostAnswer) :
    (manager.loadAdapter adapterId layers host).manager.IdsFresh := by
  rcases manager.loadAdapter_cases adapterId layers host with
    ⟨error, _, _, same⟩ | ⟨_, unbacked, same⟩ | ⟨admits, allocator, backing, exits⟩
  · rw [same]
    exact isFresh
  · rw [same]
    refine ⟨fun _ => isFresh.unbackedUnmapped unbacked, fun other member => ?_,
      fun allocator backing => ?_⟩
    · exact (Dict.mem_keys_set _ _ _ _).mpr (Or.inr (isFresh.mappedResident other member))
    · exact absurd (unbacked.symm.trans backing) (by simp)
  · have reserved := isFresh.reserved adapterId layers host allocator backing
    rcases exits with ⟨next, exit, same⟩ | ⟨nbytes, next, exit, same⟩ | ⟨error, next, exit, same⟩
    · rw [same]
      rwa [exit] at reserved
    · rw [same, rollBack_of_refused admits isFresh.mappedResident exit]
      refine ⟨(fun unbacked => by cases unbacked), isFresh.mappedResident,
        fun evicted isEvicted nativeId above => ?_⟩
      have below := reserved.treeBelow next (by rw [exit]; rfl) nativeId above
      cases isEvicted
      rw [Allocator.get?_evict_of_ne _ (by simp only at above; omega)]
      exact below
    · rw [same]
      rwa [exit] at reserved

theorem unloadAdapter_cases (manager : Manager) (adapterId : String) :
    (manager.adapters.get? adapterId = none ∧
      manager.unloadAdapter adapterId = ⟨.ok (), manager, []⟩) ∨
    (∃ record, manager.adapters.get? adapterId = some record ∧
      ((manager.native = none ∨ manager.nativeIds.get? adapterId = none) ∧
        manager.unloadAdapter adapterId =
          ⟨.ok (), manager.pop adapterId, record.layers.values⟩ ∨
      ∃ allocator nativeId, manager.native = some allocator ∧
        manager.nativeIds.get? adapterId = some nativeId ∧
        manager.unloadAdapter adapterId =
          ⟨(pyExecuteDependencyEviction allocator nativeId).1.mapError PyError.native,
            { manager.pop adapterId with
              nativeIds := manager.nativeIds.erase adapterId
              native := some (pyExecuteDependencyEviction allocator nativeId).2 },
            record.layers.values⟩)) := by
  unfold unloadAdapter
  cases found : manager.adapters.get? adapterId with
  | none => exact Or.inl ⟨rfl, rfl⟩
  | some record =>
      refine Or.inr ⟨record, rfl, ?_⟩
      cases backing : manager.native with
      | none => exact Or.inl ⟨Or.inl rfl, rfl⟩
      | some allocator =>
          cases mapped : manager.nativeIds.get? adapterId with
          | none => exact Or.inl ⟨Or.inr rfl, rfl⟩
          | some nativeId => exact Or.inr ⟨allocator, nativeId, rfl, rfl, rfl⟩

theorem get?_pyEvict_of_none (allocator : Allocator) (evicted nativeId : Int)
    (absent : allocator.dependencyTree.get? nativeId = none) :
    (pyExecuteDependencyEviction allocator evicted).2.dependencyTree.get? nativeId = none := by
  unfold pyExecuteDependencyEviction
  split
  · by_cases same : evicted = nativeId
    · subst same
      exact Allocator.get?_evict_self _ _
    · rw [Allocator.get?_evict_of_ne _ same]
      exact absent
  · exact absent

theorem IdsFresh.unloadAdapter {manager : Manager} (isFresh : manager.IdsFresh)
    (adapterId : String) : (manager.unloadAdapter adapterId).manager.IdsFresh := by
  rcases manager.unloadAdapter_cases adapterId with
    ⟨_, same⟩ | ⟨record, _, ⟨unmapped, same⟩ | ⟨allocator, nativeId, backing, mapped, same⟩⟩
  · rw [same]
    exact isFresh
  · rw [same]
    have notMapped : adapterId ∉ manager.nativeIds.keys := by
      rcases unmapped with unbacked | absent
      · rw [isFresh.unbackedUnmapped unbacked]
        exact List.not_mem_nil
      · exact Dict.get?_eq_none.mp absent
    refine ⟨isFresh.unbackedUnmapped, fun other member => ?_, isFresh.treeBelow⟩
    have differ : other ≠ adapterId := fun equal => notMapped (equal ▸ member)
    exact (Dict.mem_keys_erase _ _ _).mpr ⟨differ, isFresh.mappedResident other member⟩
  · rw [same]
    refine ⟨(fun unbacked => by cases unbacked), fun other member => ?_,
      fun evicted isEvicted other above => ?_⟩
    · have kept := (Dict.mem_keys_erase _ _ _).mp member
      exact (Dict.mem_keys_erase _ _ _).mpr ⟨kept.1, isFresh.mappedResident other kept.2⟩
    · cases isEvicted
      exact get?_pyEvict_of_none _ _ _ (isFresh.treeBelow allocator backing other above)

theorem IdsFresh.activate {manager : Manager} (isFresh : manager.IdsFresh)
    (adapterId : String) : (manager.activate adapterId).manager.IdsFresh := by
  unfold Manager.activate
  split
  · exact ⟨isFresh.unbackedUnmapped, isFresh.mappedResident, isFresh.treeBelow⟩
  · exact isFresh

theorem IdsFresh.apply {manager : Manager} (isFresh : manager.IdsFresh)
    (operation : Operation) : (manager.apply operation).manager.IdsFresh := by
  cases operation with
  | loadAdapter adapterId layers host => exact isFresh.loadAdapter adapterId layers host
  | unloadAdapter adapterId => exact isFresh.unloadAdapter adapterId
  | activate adapterId => exact isFresh.activate adapterId
  | swap fromAdapterId toAdapterId => exact isFresh.activate toAdapterId

/-- No run, whatever its host does and whatever raises, ever has a block filed
under an id that is still to be handed out. -/
theorem idsFresh_of_run (memoryBudgetBytes : Int) (positive : 0 < memoryBudgetBytes)
    (nativeAvailable : Bool) (operations : List Operation) (manager : Manager)
    (ran : Machine.run AdapterManager.step operations
      (fresh memoryBudgetBytes positive nativeAvailable) = some manager) :
    manager.IdsFresh :=
  Machine.run_preserves
    (fun _ operation _ isFresh stepped => Option.some.inj stepped ▸ isFresh.apply operation)
    operations _ manager (IdsFresh.of_fresh memoryBudgetBytes positive nativeAvailable) ran

/-! ## Runs in which no call into the extension raises -/

/-- The registry and the dependency tree account for the same bytes. -/
structure Accounted (manager : Manager) (allocator : Allocator) : Prop where
  withinBudget : (manager.residentBytes : Int) ≤ manager.memoryBudgetBytes
  activeResident : ∀ adapterId, manager.activeAdapterId = some adapterId →
    adapterId ∈ manager.adapters.keys
  sameKeys : manager.nativeIds.keys = manager.adapters.keys
  idsInjective : manager.nativeIds.values.Nodup
  idsBelow : ∀ nativeId ∈ manager.nativeIds.values, nativeId < manager.nextNativeId
  held : ∀ adapterId record nativeId, manager.adapters.get? adapterId = some record →
    manager.nativeIds.get? adapterId = some nativeId →
      allocator.heldBytes nativeId = record.byteSize
  noOthers : ∀ nativeId, nativeId ∉ manager.nativeIds.values →
    allocator.dependencyTree.get? nativeId = none
  totalExact : allocator.totalBytes = manager.residentBytes

theorem Accounted.of_fresh (memoryBudgetBytes : Int) (positive : 0 < memoryBudgetBytes) :
    (fresh memoryBudgetBytes positive true).Accounted Allocator.new where
  withinBudget := Int.le_of_lt positive
  activeResident adapterId active := by simp [fresh] at active
  sameKeys := rfl
  idsInjective := List.nodup_nil
  idsBelow nativeId member := by simp [fresh] at member
  held adapterId record nativeId found := by simp [fresh] at found
  noOthers nativeId _ := rfl
  totalExact := rfl

section Load
variable {manager : Manager} {allocator : Allocator}

theorem Accounted.nextUnused (accounted : manager.Accounted allocator) :
    manager.nextNativeId ∉ manager.nativeIds.values :=
  fun member => absurd (accounted.idsBelow _ member) (lt_irrefl _)

theorem Accounted.nothingHeld (accounted : manager.Accounted allocator) :
    allocator.heldBytes manager.nextNativeId = 0 := by
  rw [Allocator.heldBytes, accounted.noOthers _ accounted.nextUnused]
  rfl

theorem Accounted.idOfMapped (_accounted : manager.Accounted allocator) {adapterId : String}
    {nativeId : Int} (mapped : manager.nativeIds.get? adapterId = some nativeId) :
    nativeId ∈ manager.nativeIds.values := Dict.mem_values.mpr ⟨adapterId, mapped⟩

theorem Accounted.loaded (accounted : manager.Accounted allocator) {adapterId : String}
    {layers : Dict String PluginLayer} (admits : manager.Admits adapterId layers)
    {next : Allocator} (effect : LoopEffect manager.nextNativeId allocator next)
    (stored : next.heldBytes manager.nextNativeId =
      allocator.heldBytes manager.nextNativeId + incomingBytes layers) :
    Accounted { (manager.commit adapterId layers).reserve adapterId with
      native := some next } next := by
  have notMapped : adapterId ∉ manager.nativeIds.keys := by
    rw [accounted.sameKeys]
    exact admits.1
  have residentAfter :
      ((manager.commit adapterId layers).residentBytes : Nat) =
        manager.residentBytes + incomingBytes layers :=
    Dict.total_set_of_notMem AdapterRecord.byteSize _ admits.1
  have nothingHeld := accounted.nothingHeld
  refine
    { withinBudget := ?_, activeResident := ?_, sameKeys := ?_, idsInjective := ?_,
      idsBelow := ?_, held := ?_, noOthers := ?_, totalExact := ?_ }
  · change ((manager.commit adapterId layers).residentBytes : Int) ≤ manager.memoryBudgetBytes
    rw [residentAfter]
    exact admits.2
  · intro other active
    exact (Dict.mem_keys_set _ _ _ _).mpr (Or.inr (accounted.activeResident other active))
  · simp only [commit, reserve]
    rw [Dict.keys_set_of_notMem _ notMapped, Dict.keys_set_of_notMem _ admits.1,
      accounted.sameKeys]
  · simp only [commit, reserve]
    rw [Dict.values_set_of_notMem _ notMapped]
    refine List.nodup_append.mpr ⟨accounted.idsInjective, List.nodup_singleton _, ?_⟩
    intro one member two same equal
    rw [List.mem_singleton] at same
    exact accounted.nextUnused (same ▸ equal ▸ member)
  · intro nativeId member
    simp only [commit, reserve] at member ⊢
    rw [Dict.values_set_of_notMem _ notMapped, List.mem_append, List.mem_singleton] at member
    rcases member with old | new
    · have below := accounted.idsBelow nativeId old
      omega
    · omega
  · intro other record nativeId found mapped
    simp only [commit, reserve, Dict.get?_set] at found mapped
    by_cases same : adapterId = other
    · simp only [if_pos same, Option.some.injEq] at found mapped
      rw [← mapped, ← found, stored, nothingHeld, Nat.zero_add]
      rfl
    · simp only [if_neg same] at found mapped
      have differ : nativeId ≠ manager.nextNativeId := by
        intro equal
        exact accounted.nextUnused (equal ▸ accounted.idOfMapped mapped)
      rw [Allocator.heldBytes, effect.otherIds nativeId differ]
      exact accounted.held other record nativeId found mapped
  · intro nativeId absent
    simp only [commit, reserve] at absent
    rw [Dict.values_set_of_notMem _ notMapped, List.mem_append, List.mem_singleton,
      not_or] at absent
    rw [effect.otherIds nativeId absent.2]
    exact accounted.noOthers nativeId absent.1
  · change next.totalBytes = (manager.commit adapterId layers).residentBytes
    have conserved := effect.conserved
    have before := accounted.totalExact
    rw [residentAfter]
    omega

theorem Accounted.rolledBack (accounted : manager.Accounted allocator) {next : Allocator}
    (effect : LoopEffect manager.nextNativeId allocator next) :
    Accounted { manager with
        native := some (next.executeDependencyEviction manager.nextNativeId).2
        nextNativeId := manager.nextNativeId + 1 }
      (next.executeDependencyEviction manager.nextNativeId).2 := by
  have keeps : ∀ nativeId, nativeId ≠ manager.nextNativeId →
      (next.executeDependencyEviction manager.nextNativeId).2.dependencyTree.get? nativeId =
        allocator.dependencyTree.get? nativeId := by
    intro nativeId differ
    rw [Allocator.get?_evict_of_ne _ differ.symm, effect.otherIds nativeId differ]
  refine
    { withinBudget := accounted.withinBudget
      activeResident := accounted.activeResident
      sameKeys := accounted.sameKeys
      idsInjective := accounted.idsInjective
      idsBelow := ?_, held := ?_, noOthers := ?_, totalExact := ?_ }
  · intro nativeId member
    have below := accounted.idsBelow nativeId member
    change nativeId < manager.nextNativeId + 1
    omega
  · intro adapterId record nativeId found mapped
    have differ : nativeId ≠ manager.nextNativeId := by
      intro equal
      exact accounted.nextUnused (equal ▸ accounted.idOfMapped mapped)
    rw [Allocator.heldBytes, keeps nativeId differ]
    exact accounted.held adapterId record nativeId found mapped
  · intro nativeId absent
    by_cases same : nativeId = manager.nextNativeId
    · rw [same]
      exact Allocator.get?_evict_self _ _
    · rw [keeps nativeId same]
      exact accounted.noOthers nativeId absent
  · change (next.executeDependencyEviction manager.nextNativeId).2.totalBytes =
      manager.residentBytes
    have conserved := effect.conserved
    have evicted := next.totalBytes_evict manager.nextNativeId
    have nothingHeld := accounted.nothingHeld
    have before := accounted.totalExact
    omega

theorem Accounted.unloaded (accounted : manager.Accounted allocator) {adapterId : String}
    {record : AdapterRecord} {nativeId : Int}
    (found : manager.adapters.get? adapterId = some record)
    (mapped : manager.nativeIds.get? adapterId = some nativeId) :
    Accounted { manager.pop adapterId with
        nativeIds := manager.nativeIds.erase adapterId
        native := some (allocator.executeDependencyEviction nativeId).2 }
      (allocator.executeDependencyEviction nativeId).2 := by
  have split : manager.residentBytes =
      record.byteSize + (manager.pop adapterId).residentBytes :=
    Dict.total_erase AdapterRecord.byteSize found
  refine
    { withinBudget := ?_, activeResident := ?_, sameKeys := ?_, idsInjective := ?_,
      idsBelow := ?_, held := ?_, noOthers := ?_, totalExact := ?_ }
  · change ((manager.pop adapterId).residentBytes : Int) ≤ manager.memoryBudgetBytes
    have before := accounted.withinBudget
    omega
  · intro other active
    simp only [pop] at active ⊢
    split_ifs at active with isActive
    have differ : other ≠ adapterId := fun equal => isActive (equal ▸ active)
    exact (Dict.mem_keys_erase _ _ _).mpr ⟨differ, accounted.activeResident other active⟩
  · simp only [pop]
    rw [Dict.keys_erase, Dict.keys_erase, accounted.sameKeys]
  · exact (Dict.values_erase_sublist _ _).nodup accounted.idsInjective
  · intro other member
    exact accounted.idsBelow other ((Dict.values_erase_sublist _ _).subset member)
  · intro other otherRecord otherId otherFound otherMapped
    simp only [pop] at otherFound otherMapped
    by_cases same : adapterId = other
    · rw [← same, Dict.get?_erase_self] at otherFound
      cases otherFound
    · rw [Dict.get?_erase_of_ne _ same] at otherFound otherMapped
      have differ : nativeId ≠ otherId := by
        intro equal
        exact same (Dict.key_unique accounted.idsInjective mapped (equal ▸ otherMapped))
      rw [Allocator.heldBytes_evict_of_ne _ differ]
      exact accounted.held other otherRecord otherId otherFound otherMapped
  · intro other absent
    by_cases same : nativeId = other
    · rw [← same]
      exact Allocator.get?_evict_self _ _
    · rw [Allocator.get?_evict_of_ne _ same]
      apply accounted.noOthers other
      intro member
      obtain ⟨key, atKey⟩ := Dict.mem_values.mp member
      have keyKept : adapterId ≠ key := by
        intro equal
        rw [← equal, mapped] at atKey
        exact same (Option.some.inj atKey)
      exact absent (Dict.mem_values.mpr ⟨key, by rw [Dict.get?_erase_of_ne _ keyKept, atKey]⟩)
  · change (allocator.executeDependencyEviction nativeId).2.totalBytes =
      (manager.pop adapterId).residentBytes
    have evicted := allocator.totalBytes_evict nativeId
    have heldHere := accounted.held adapterId record nativeId found mapped
    have before := accounted.totalExact
    omega

end Load

theorem activate_native (manager : Manager) (adapterId : String) {allocator : Allocator}
    (backing : manager.native = some allocator) :
    (manager.activate adapterId).manager.native = some allocator := by
  unfold activate
  split <;> exact backing

theorem Accounted.activate {manager : Manager} {allocator : Allocator}
    (accounted : manager.Accounted allocator) (adapterId : String) :
    (manager.activate adapterId).manager.Accounted allocator := by
  unfold Manager.activate
  split
  · rename_i resident
    exact
      { withinBudget := accounted.withinBudget
        activeResident := fun other active => Option.some.inj active ▸ resident
        sameKeys := accounted.sameKeys
        idsInjective := accounted.idsInjective
        idsBelow := accounted.idsBelow
        held := accounted.held
        noOthers := accounted.noOthers
        totalExact := accounted.totalExact }
  · exact accounted

def raisedByExtension : Except PyError Unit → Bool
  | .error (.native _) => true
  | _ => false

/-- The call does not end in an exception raised by the extension. -/
def NativeCallsReturn (manager : Manager) (operation : Operation) : Prop :=
  raisedByExtension (manager.apply operation).result = false

instance (manager : Manager) (operation : Operation) :
    Decidable (manager.NativeCallsReturn operation) :=
  inferInstanceAs (Decidable (_ = _))

theorem pyEvict_of_returns {allocator : Allocator} {nativeId : Int}
    (returns : raisedByExtension ((pyExecuteDependencyEviction allocator nativeId).1.mapError
      PyError.native) = false) :
    (pyExecuteDependencyEviction allocator nativeId).2 =
      (allocator.executeDependencyEviction nativeId).2 := by
  unfold pyExecuteDependencyEviction at returns ⊢
  split
  · rfl
  · rename_i unfit
    rw [if_neg unfit] at returns
    cases returns

theorem Accounted.step {manager next : Manager} {allocator : Allocator}
    {operation : Operation} (accounted : manager.Accounted allocator)
    (backing : manager.native = some allocator)
    (returns : manager.NativeCallsReturn operation)
    (stepped : AdapterManager.step manager operation = some next) :
    ∃ after, next.native = some after ∧ next.Accounted after := by
  cases stepped
  cases operation with
  | loadAdapter adapterId layers host =>
      simp only [NativeCallsReturn, apply] at returns ⊢
      rcases manager.loadAdapter_cases adapterId layers host with
        ⟨error, _, _, same⟩ | ⟨_, unbacked, _⟩ | ⟨admits, actual, isActual, exits⟩
      · rw [same]
        exact ⟨allocator, backing, accounted⟩
      · rw [unbacked] at backing
        cases backing
      · rw [backing] at isActual
        cases isActual
        have effect := allocateLayers_effect manager.nextNativeId host layers.values 0 allocator
        rcases exits with
          ⟨after, exit, same⟩ | ⟨nbytes, after, exit, same⟩ | ⟨error, after, _, same⟩
        · rw [exit] at effect
          have stored := allocateLayers_allocated _ _ _ _ _ _ exit
          rw [same]
          exact ⟨after, rfl, accounted.loaded admits effect stored⟩
        · rw [exit] at effect
          rw [same, rollBack_of_refused admits
            (fun other mapped => accounted.sameKeys ▸ mapped) exit]
          exact ⟨_, rfl, accounted.rolledBack effect⟩
        · rw [same] at returns
          cases returns
  | unloadAdapter adapterId =>
      simp only [NativeCallsReturn, apply] at returns ⊢
      rcases manager.unloadAdapter_cases adapterId with
        ⟨_, same⟩ | ⟨record, found, ⟨unmapped, _⟩ | ⟨actual, nativeId, isActual, mapped, same⟩⟩
      · rw [same]
        exact ⟨allocator, backing, accounted⟩
      · rcases unmapped with unbacked | absent
        · rw [unbacked] at backing
          cases backing
        · rw [Dict.get?_eq_none, accounted.sameKeys, ← Dict.get?_eq_none, found] at absent
          cases absent
      · rw [backing] at isActual
        cases isActual
        rw [same] at returns ⊢
        rw [pyEvict_of_returns returns]
        exact ⟨_, rfl, accounted.unloaded found mapped⟩
  | activate adapterId =>
      exact ⟨allocator, activate_native manager adapterId backing,
        accounted.activate adapterId⟩
  | swap fromAdapterId toAdapterId =>
      exact ⟨allocator, activate_native manager toAdapterId backing,
        accounted.activate toAdapterId⟩

end Manager

end Msp.Python.AdapterManager
