import Mathlib.Data.Set.Card
import Msp.Cpp.EloraAllocator
import Msp.Library.Ledger
import Msp.Library.Machine

/-!
# Who owns which block, over the life of an allocator

Any sequence of calls, with a record of what each one returned and handed to
`raw_free`.  What the allocator answers is read off the record: the blocks
returned for an id since it was last evicted.  The ledger of pointers seen by
the host shows every block released exactly once.

The host's part is the first argument `raw_allocate` needs an answer to: null,
or a pointer that nobody holds.
-/

set_option autoImplicit false

namespace Msp.Cpp.EloraAllocator

open Msp.Library

inductive Call where
  | allocateKvContext (adapterId : Int) (size : Nat) (rawAllocate : Option Nat)
  | executeDependencyEviction (adapterId : Int)
  deriving DecidableEq, Repr

def Call.adapterId : Call → Int
  | .allocateKvContext adapterId _ _ => adapterId
  | .executeDependencyEviction adapterId => adapterId

structure Performed where
  call : Call
  returned : Option Nat
  freed : List Nat
  deriving DecidableEq, Repr

def Performed.events (done : Performed) : List (Ledger.Event Int Nat) :=
  done.returned.toList.map (.acquired done.call.adapterId) ++
    done.freed.map (.released (some done.call.adapterId))

def Allocator.perform (allocator : Allocator) : Call → Performed × Allocator
  | .allocateKvContext adapterId size rawAllocate =>
      let answered := allocator.allocateKvContext adapterId size ⟨rawAllocate, false, false⟩
      (⟨.allocateKvContext adapterId size rawAllocate, answered.1.toOption.join, []⟩, answered.2)
  | .executeDependencyEviction adapterId =>
      let evicted := allocator.executeDependencyEviction adapterId
      (⟨.executeDependencyEviction adapterId, none, evicted.1⟩, evicted.2)

/-- An allocator and everything done with it so far, oldest first. -/
structure World where
  allocator : Allocator
  performed : List Performed

namespace World

def start : World := ⟨Allocator.new, []⟩

def log (world : World) : List (Ledger.Event Int Nat) :=
  world.performed.flatMap Performed.events

/-- `raw_allocate` is not reached for size 0. -/
def hostMay (world : World) : Call → Bool
  | .allocateKvContext _ size (some ptr) =>
      decide (size = 0) || (Ledger.holder world.log ptr).isNone
  | _ => true

def step (world : World) (call : Call) : Option World :=
  if world.hostMay call then
    let answered := world.allocator.perform call
    some ⟨answered.2, world.performed ++ [answered.1]⟩
  else none

end World

/-! ## The account kept per id -/

def Performed.account (adapterId : Int) (blocks : List Block) (done : Performed) : List Block :=
  if done.call.adapterId = adapterId then
    match done.call, done.returned with
    | .allocateKvContext _ size _, some ptr => blocks ++ [⟨ptr, size⟩]
    | .allocateKvContext _ _ _, none => blocks
    | .executeDependencyEviction _, _ => []
  else blocks

/-- The blocks returned for `adapterId` since its last eviction. -/
def blocksSince (adapterId : Int) (performed : List Performed) : List Block :=
  performed.foldl (Performed.account adapterId) []

def pointersOf (adapterId : Int) (performed : List Performed) : List Nat :=
  (blocksSince adapterId performed).map Block.ptr

def entryOf : List Block → Option (List Block)
  | [] => none
  | block :: rest => some (block :: rest)

theorem entryOf_getD (blocks : List Block) : (entryOf blocks).getD [] = blocks := by
  cases blocks <;> rfl

theorem entryOf_snoc (blocks : List Block) (block : Block) :
    entryOf (blocks ++ [block]) = some (blocks ++ [block]) := by
  cases blocks <;> rfl

theorem entryOf_eq_some {blocks entry : List Block} :
    entryOf blocks = some entry ↔ blocks = entry ∧ entry ≠ [] := by
  cases blocks with
  | nil =>
      constructor
      · intro absurdly
        cases absurdly
      · rintro ⟨rfl, nonempty⟩
        exact absurd rfl nonempty
  | cons block rest =>
      constructor
      · intro same
        cases same
        exact ⟨rfl, List.cons_ne_nil _ _⟩
      · rintro ⟨rfl, _⟩
        rfl

theorem blocksSince_snoc (adapterId : Int) (performed : List Performed) (done : Performed) :
    blocksSince adapterId (performed ++ [done]) =
      done.account adapterId (blocksSince adapterId performed) := by
  simp [blocksSince]

namespace Allocator

theorem allocateKvContext_lawful (allocator : Allocator) (adapterId : Int) (size : Nat)
    (rawAllocate : Option Nat) :
    allocator.allocateKvContext adapterId size ⟨rawAllocate, false, false⟩ =
      match rawAllocate with
      | none => (.ok none, allocator)
      | some ptr =>
          if size = 0 then (.ok none, allocator)
          else (.ok (some ptr), allocator.push adapterId ⟨ptr, size⟩) := by
  unfold allocateKvContext push
  cases rawAllocate with
  | none =>
      dsimp only
      split <;> rfl
  | some ptr =>
      dsimp only
      split
      · rfl
      · cases allocator.dependencyTree.get? adapterId <;> rfl

end Allocator

namespace World

/-- Everything one call can do: return null and change nothing, hand out one
block, or free the blocks of one id. -/
theorem step_cases {world next : World} {call : Call} (stepped : world.step call = some next) :
    (∃ adapterId size rawAllocate, call = .allocateKvContext adapterId size rawAllocate ∧
      next = ⟨world.allocator, world.performed ++ [⟨call, none, []⟩]⟩) ∨
    (∃ adapterId size ptr, call = .allocateKvContext adapterId size (some ptr) ∧
      Ledger.holder world.log ptr = none ∧
      next = ⟨world.allocator.push adapterId ⟨ptr, size⟩,
        world.performed ++ [⟨call, some ptr, []⟩]⟩) ∨
    (∃ adapterId, call = .executeDependencyEviction adapterId ∧
      next = ⟨(world.allocator.executeDependencyEviction adapterId).2,
        world.performed ++
          [⟨call, none, (world.allocator.executeDependencyEviction adapterId).1⟩]⟩) := by
  unfold step at stepped
  split at stepped
  · rename_i may
    cases call with
    | allocateKvContext adapterId size rawAllocate =>
        simp only [Allocator.perform, Allocator.allocateKvContext_lawful] at stepped
        cases rawAllocate with
        | none =>
            cases stepped
            exact Or.inl ⟨adapterId, size, none, rfl, rfl⟩
        | some ptr =>
            by_cases empty : size = 0
            · simp only [if_pos empty] at stepped
              cases stepped
              exact Or.inl ⟨adapterId, size, some ptr, rfl, rfl⟩
            · simp only [if_neg empty] at stepped
              cases stepped
              have free : Ledger.holder world.log ptr = none := by
                simpa [hostMay, empty] using may
              exact Or.inr (Or.inl ⟨adapterId, size, ptr, rfl, free, rfl⟩)
    | executeDependencyEviction adapterId =>
        cases stepped
        exact Or.inr (Or.inr ⟨adapterId, rfl, rfl⟩)
  · cases stepped

theorem log_snoc (allocator : Allocator) (performed : List Performed) (done : Performed) :
    log ⟨allocator, performed ++ [done]⟩ = performed.flatMap Performed.events ++ done.events := by
  simp [log]

/-! A block handed out and an id evicted, in the account and in the log. -/

section Recorded
variable (performed : List Performed) (adapterId : Int)

theorem blocksSince_handOut (size ptr : Nat) (other : Int) :
    blocksSince other
        (performed ++ [⟨.allocateKvContext adapterId size (some ptr), some ptr, []⟩]) =
      if adapterId = other then blocksSince other performed ++ [⟨ptr, size⟩]
      else blocksSince other performed := by
  rw [blocksSince_snoc]
  rfl

theorem pointersOf_handOut (size ptr : Nat) (other : Int) :
    pointersOf other
        (performed ++ [⟨.allocateKvContext adapterId size (some ptr), some ptr, []⟩]) =
      if adapterId = other then pointersOf other performed ++ [ptr]
      else pointersOf other performed := by
  rw [pointersOf, blocksSince_handOut]
  split
  · rw [List.map_append]
    rfl
  · rfl

theorem blocksSince_evicted (freed : List Nat) (other : Int) :
    blocksSince other (performed ++ [⟨.executeDependencyEviction adapterId, none, freed⟩]) =
      if adapterId = other then [] else blocksSince other performed := by
  rw [blocksSince_snoc]
  rfl

theorem pointersOf_evicted (freed : List Nat) (other : Int) :
    pointersOf other (performed ++ [⟨.executeDependencyEviction adapterId, none, freed⟩]) =
      if adapterId = other then [] else pointersOf other performed := by
  rw [pointersOf, blocksSince_evicted]
  split <;> rfl

end Recorded

theorem log_handOut (world : World) (after : Allocator) (adapterId : Int) (size ptr : Nat) :
    log ⟨after, world.performed ++
        [⟨.allocateKvContext adapterId size (some ptr), some ptr, []⟩]⟩ =
      world.log ++ [.acquired adapterId ptr] := by
  rw [log_snoc]
  rfl

theorem log_evicted (world : World) (after : Allocator) (adapterId : Int) (freed : List Nat) :
    log ⟨after, world.performed ++ [⟨.executeDependencyEviction adapterId, none, freed⟩]⟩ =
      world.log ++ freed.map (.released (some adapterId)) := by
  rw [log_snoc]
  rfl

/-- The tree is the account, and the account is what the ledger holds. -/
structure Tracks (world : World) : Prop where
  tree : ∀ adapterId,
    world.allocator.dependencyTree.get? adapterId = entryOf (blocksSince adapterId world.performed)
  held : ∀ adapterId ptr,
    Ledger.holder world.log ptr = some adapterId ↔ ptr ∈ pointersOf adapterId world.performed
  distinct : ∀ adapterId, (pointersOf adapterId world.performed).Nodup
  handsOutFree : Ledger.HandsOutFree world.log
  releasesHeld : Ledger.ReleasesHeld world.log

theorem tracks_start : start.Tracks where
  tree adapterId := rfl
  held adapterId ptr := by simp [start, log, pointersOf, blocksSince]
  distinct adapterId := List.nodup_nil
  handsOutFree := Ledger.handsOutFree_nil
  releasesHeld := Ledger.releasesHeld_nil

section Steps
variable {world : World}

theorem Tracks.freed_eq (tracks : world.Tracks) (adapterId : Int) :
    (world.allocator.executeDependencyEviction adapterId).1 =
      pointersOf adapterId world.performed := by
  unfold Allocator.executeDependencyEviction pointersOf
  rw [tracks.tree adapterId]
  cases blocksSince adapterId world.performed <;> rfl

theorem Tracks.refuse (tracks : world.Tracks) (adapterId : Int) (size : Nat)
    (rawAllocate : Option Nat) :
    Tracks ⟨world.allocator, world.performed ++
      [⟨.allocateKvContext adapterId size rawAllocate, none, []⟩]⟩ := by
  have sameBlocks : ∀ other, blocksSince other (world.performed ++
      [⟨.allocateKvContext adapterId size rawAllocate, none, []⟩]) =
        blocksSince other world.performed := by
    intro other
    rw [blocksSince_snoc, Performed.account]
    split <;> rfl
  have sameLog : log ⟨world.allocator, world.performed ++
      [⟨.allocateKvContext adapterId size rawAllocate, none, []⟩]⟩ = world.log := by
    rw [log_snoc]
    exact List.append_nil _
  exact
    { tree := fun other => by rw [sameBlocks]; exact tracks.tree other
      held := fun other ptr => by
        rw [sameLog, pointersOf, sameBlocks]
        exact tracks.held other ptr
      distinct := fun other => by
        rw [pointersOf, sameBlocks]
        exact tracks.distinct other
      handsOutFree := sameLog ▸ tracks.handsOutFree
      releasesHeld := sameLog ▸ tracks.releasesHeld }

theorem Tracks.notHeld (tracks : world.Tracks) {ptr : Nat}
    (free : Ledger.holder world.log ptr = none) (adapterId : Int) :
    ptr ∉ pointersOf adapterId world.performed := by
  intro member
  have held := (tracks.held adapterId ptr).mpr member
  rw [free] at held
  cases held

theorem Tracks.handOut (tracks : world.Tracks) (adapterId : Int) (size ptr : Nat)
    (free : Ledger.holder world.log ptr = none) :
    Tracks ⟨world.allocator.push adapterId ⟨ptr, size⟩, world.performed ++
      [⟨.allocateKvContext adapterId size (some ptr), some ptr, []⟩]⟩ := by
  constructor
  case tree =>
    intro other
    rw [blocksSince_handOut, Allocator.get?_push, tracks.tree adapterId, entryOf_getD]
    by_cases same : adapterId = other
    · subst same
      rw [if_pos rfl, if_pos rfl, entryOf_snoc]
    · rw [if_neg same, if_neg same]
      exact tracks.tree other
  case held =>
    intro other given
    rw [log_handOut, Ledger.holder_append_acquired, pointersOf_handOut]
    have before := tracks.held other given
    by_cases pointer : ptr = given
    · subst pointer
      rw [if_pos rfl, Option.some.injEq]
      by_cases same : adapterId = other
      · rw [if_pos same]
        exact iff_of_true same (List.mem_append_right _ List.mem_cons_self)
      · rw [if_neg same]
        exact iff_of_false same (tracks.notHeld free other)
    · rw [if_neg pointer, before]
      by_cases same : adapterId = other
      · rw [if_pos same, List.mem_append, List.mem_singleton]
        exact ⟨Or.inl, fun either => either.resolve_right (Ne.symm pointer)⟩
      · rw [if_neg same]
  case distinct =>
    intro other
    rw [pointersOf_handOut]
    split
    · refine List.nodup_append.mpr ⟨tracks.distinct other, List.nodup_singleton _, ?_⟩
      intro given member new isNew same
      have isPtr : new = ptr := List.mem_singleton.mp isNew
      subst same isPtr
      exact tracks.notHeld free other member
    · exact tracks.distinct other
  case handsOutFree =>
    rw [log_handOut]
    exact tracks.handsOutFree.acquire adapterId free
  case releasesHeld =>
    rw [log_handOut]
    exact tracks.releasesHeld.acquire adapterId ptr

theorem Tracks.notShared (tracks : world.Tracks) {adapterId other : Int} {ptr : Nat}
    (owned : ptr ∈ pointersOf adapterId world.performed) (different : adapterId ≠ other) :
    ptr ∉ pointersOf other world.performed := by
  intro member
  have both := ((tracks.held other ptr).mpr member).symm.trans
    ((tracks.held adapterId ptr).mpr owned)
  exact different (Option.some.inj both).symm

theorem Tracks.evict (tracks : world.Tracks) (adapterId : Int) :
    Tracks ⟨(world.allocator.executeDependencyEviction adapterId).2, world.performed ++
      [⟨.executeDependencyEviction adapterId, none,
        (world.allocator.executeDependencyEviction adapterId).1⟩]⟩ := by
  rw [tracks.freed_eq adapterId]
  constructor
  case tree =>
    intro other
    rw [blocksSince_evicted]
    by_cases same : adapterId = other
    · subst same
      rw [if_pos rfl]
      exact Allocator.get?_evict_self _ _
    · rw [if_neg same]
      exact (Allocator.get?_evict_of_ne _ same).trans (tracks.tree other)
  case held =>
    intro other ptr
    rw [log_evicted, Ledger.holder_append_released, pointersOf_evicted]
    have before := tracks.held other ptr
    by_cases same : adapterId = other
    · subst same
      by_cases freed : ptr ∈ pointersOf adapterId world.performed
      · simp [freed]
      · rw [if_neg freed, if_pos rfl, before]
        simp [freed]
    · rw [if_neg same]
      by_cases freed : ptr ∈ pointersOf adapterId world.performed
      · rw [if_pos freed]
        exact iff_of_false nofun (tracks.notShared freed same)
      · rw [if_neg freed]
        exact before
  case distinct =>
    intro other
    rw [pointersOf_evicted]
    split
    · exact List.nodup_nil
    · exact tracks.distinct other
  case handsOutFree =>
    rw [log_evicted]
    exact Ledger.HandsOutFree.releaseEach _ _ _ tracks.handsOutFree
  case releasesHeld =>
    rw [log_evicted]
    refine Ledger.ReleasesHeld.releaseEach _ _ _ tracks.releasesHeld
      (tracks.distinct adapterId) ?_
    intro ptr member
    exact ⟨adapterId, (tracks.held adapterId ptr).mpr member, Or.inr rfl⟩

theorem Tracks.step {next : World} {call : Call} (tracks : world.Tracks)
    (stepped : world.step call = some next) : next.Tracks := by
  rcases step_cases stepped with ⟨adapterId, size, rawAllocate, rfl, rfl⟩ |
    ⟨adapterId, size, ptr, rfl, free, rfl⟩ | ⟨adapterId, rfl, rfl⟩
  · exact tracks.refuse adapterId size rawAllocate
  · exact tracks.handOut adapterId size ptr free
  · exact tracks.evict adapterId

end Steps

theorem tracks_of_run {calls : List Call} {world : World}
    (ran : Machine.run step calls start = some world) : world.Tracks :=
  Machine.run_preserves (fun _ _ _ tracks stepped => tracks.step stepped) calls start world
    tracks_start ran

theorem performed_of_run : ∀ (calls : List Call) (before after : World),
    Machine.run step calls before = some after →
      after.performed.map Performed.call = before.performed.map Performed.call ++ calls := by
  intro calls
  induction calls with
  | nil =>
      intro before after ran
      cases Option.some.inj ran
      exact (List.append_nil _).symm
  | cons call rest ih =>
      intro before after ran
      obtain ⟨next, stepped, restRan⟩ := Machine.run_cons_eq_some.mp ran
      have recorded : next.performed.map Performed.call =
          before.performed.map Performed.call ++ [call] := by
        rcases step_cases stepped with ⟨_, _, _, _, rfl⟩ | ⟨_, _, _, _, _, rfl⟩ | ⟨_, _, rfl⟩
        · exact List.map_append
        · exact List.map_append
        · exact List.map_append
      rw [ih next after restRan, recorded, List.append_assoc]
      rfl

section Answers
variable {world : World}

theorem Tracks.heldBytes_eq (tracks : world.Tracks) (adapterId : Int) :
    world.allocator.heldBytes adapterId =
      Allocator.blockBytes (blocksSince adapterId world.performed) := by
  rw [Allocator.heldBytes, tracks.tree adapterId]
  cases blocksSince adapterId world.performed <;> rfl

theorem Tracks.mem_keys_iff (tracks : world.Tracks) (adapterId : Int) :
    adapterId ∈ world.allocator.dependencyTree.keys ↔
      blocksSince adapterId world.performed ≠ [] := by
  rw [Dict.mem_keys, tracks.tree adapterId]
  cases blocksSince adapterId world.performed <;> simp [entryOf]

theorem Tracks.residentAdapterCount_eq (tracks : world.Tracks) :
    world.allocator.residentAdapterCount =
      Set.ncard {adapterId | blocksSince adapterId world.performed ≠ []} := by
  have residents : {adapterId | blocksSince adapterId world.performed ≠ []} =
      (world.allocator.dependencyTree.keys.toFinset : Set Int) := by
    ext adapterId
    simp only [Set.mem_ofPred_eq, List.coe_toFinset]
    exact (tracks.mem_keys_iff adapterId).symm
  rw [residents, Set.ncard_coe_finset,
    List.toFinset_card_of_nodup world.allocator.dependencyTree.nodup_keys]
  rfl

theorem step_other {next : World} {call : Call} (stepped : world.step call = some next)
    {other : Int} (differs : call.adapterId ≠ other) :
    next.allocator.dependencyTree.get? other = world.allocator.dependencyTree.get? other := by
  rcases step_cases stepped with ⟨adapterId, size, rawAllocate, rfl, rfl⟩ |
    ⟨adapterId, size, ptr, rfl, _, rfl⟩ | ⟨adapterId, rfl, rfl⟩
  · rfl
  · exact (Allocator.get?_push _ _ _ _).trans (if_neg differs)
  · exact Allocator.get?_evict_of_ne _ differs

/-! ## Destruction -/

theorem Tracks.mem_destroy_iff (tracks : world.Tracks) (ptr : Nat) :
    ptr ∈ world.allocator.destroy ↔
      ∃ adapterId, Ledger.holder world.log ptr = some adapterId := by
  have owners : ∀ blocks, blocks ∈ world.allocator.dependencyTree.values ↔
      ∃ adapterId, blocksSince adapterId world.performed = blocks ∧ blocks ≠ [] := by
    intro blocks
    simp only [Dict.mem_values, tracks.tree, entryOf_eq_some]
  simp only [Allocator.destroy, List.mem_flatMap, owners, tracks.held, pointersOf]
  constructor
  · rintro ⟨_, ⟨adapterId, rfl, _⟩, member⟩
    exact ⟨adapterId, member⟩
  · rintro ⟨adapterId, member⟩
    refine ⟨_, ⟨adapterId, rfl, ?_⟩, member⟩
    intro empty
    rw [empty] at member
    cases member

theorem Tracks.nodup_destroy (tracks : world.Tracks) : world.allocator.destroy.Nodup := by
  have pointers : ∀ entry ∈ world.allocator.dependencyTree.entries,
      entry.2.map Block.ptr = pointersOf entry.1 world.performed := by
    rintro ⟨adapterId, blocks⟩ member
    have stored := Dict.get?_eq_some.mpr member
    rw [tracks.tree adapterId] at stored
    exact congrArg (List.map Block.ptr) (entryOf_eq_some.mp stored).1.symm
  have entrywise : world.allocator.destroy =
      world.allocator.dependencyTree.entries.flatMap fun entry => entry.2.map Block.ptr := by
    rw [Allocator.destroy, Dict.values, List.flatMap_map]
  rw [entrywise, List.nodup_flatMap]
  constructor
  · intro entry member
    rw [pointers entry member]
    exact tracks.distinct entry.1
  · have keysDiffer := List.pairwise_map.mp world.allocator.dependencyTree.nodup_keys
    refine keysDiffer.imp_of_mem ?_
    intro first second inFirst inSecond differ ptr ofFirst ofSecond
    have both := ((tracks.held first.1 ptr).mpr (pointers first inFirst ▸ ofFirst)).symm.trans
      ((tracks.held second.1 ptr).mpr (pointers second inSecond ▸ ofSecond))
    exact differ (Option.some.inj both)

/-- The destructor, visiting the tree in whatever order the hash map keeps it. -/
def lifetime (world : World) (destroyed : List Nat) : List (Ledger.Event Int Nat) :=
  world.log ++ destroyed.map (.released none)

theorem Tracks.lifetime_releases (tracks : world.Tracks) {destroyed : List Nat}
    (anyOrder : destroyed.Perm world.allocator.destroy) :
    Ledger.ReleasesHeld (world.lifetime destroyed) ∧
      Ledger.ReleasesAll (world.lifetime destroyed) := by
  constructor
  · refine Ledger.ReleasesHeld.releaseEach none destroyed _ tracks.releasesHeld
      (anyOrder.nodup_iff.mpr tracks.nodup_destroy) ?_
    intro ptr member
    obtain ⟨adapterId, held⟩ := (tracks.mem_destroy_iff ptr).mp (anyOrder.mem_iff.mp member)
    exact ⟨adapterId, held, Or.inl rfl⟩
  · refine (tracks.handsOutFree.releaseEach none destroyed).releasesAll ?_
    intro ptr
    rw [Ledger.holder_append_released]
    split
    · rfl
    · rename_i kept
      cases held : Ledger.holder world.log ptr with
      | none => rfl
      | some adapterId =>
          exact absurd (anyOrder.mem_iff.mpr ((tracks.mem_destroy_iff ptr).mpr ⟨adapterId, held⟩))
            kept

end Answers

/-- Whatever the host answers, after every sequence of calls: the bytes and the
residents are those of the account, one id's calls do not show in another's
answers, and by the end of the allocator's life every pointer it returned has
been released once, for its owner or by the destructor, and no other has. -/
theorem blocks_owned_until_released (calls : List Call) (world : World)
    (ran : Machine.run step calls start = some world) :
    world.performed.map Performed.call = calls ∧
    (∀ adapterId, world.allocator.bytesResidentFor adapterId =
        Allocator.blockBytes (blocksSince adapterId world.performed) % sizeModulus ∧
      (world.allocator.HostContract → world.allocator.bytesResidentFor adapterId =
        Allocator.blockBytes (blocksSince adapterId world.performed))) ∧
    world.allocator.residentAdapterCount =
      Set.ncard {adapterId | blocksSince adapterId world.performed ≠ []} ∧
    (∀ call next, world.step call = some next → ∀ other, call.adapterId ≠ other →
      next.allocator.bytesResidentFor other = world.allocator.bytesResidentFor other ∧
      (other ∈ next.allocator.dependencyTree.keys ↔
        other ∈ world.allocator.dependencyTree.keys)) ∧
    (∀ destroyed, destroyed.Perm world.allocator.destroy →
      Ledger.ReleasesHeld (world.lifetime destroyed) ∧
        Ledger.ReleasesAll (world.lifetime destroyed)) := by
  have tracks := tracks_of_run ran
  refine ⟨performed_of_run calls start world ran, ?_, tracks.residentAdapterCount_eq, ?_, ?_⟩
  · intro adapterId
    rw [← tracks.heldBytes_eq adapterId]
    exact ⟨world.allocator.bytesResidentFor_eq adapterId,
      fun lawful => world.allocator.bytesResidentFor_exact lawful adapterId⟩
  · intro call next stepped other differs
    have same := step_other stepped differs
    constructor
    · simp only [Allocator.bytesResidentFor, same]
    · rw [Dict.mem_keys, Dict.mem_keys, same]
  · intro destroyed anyOrder
    exact tracks.lifetime_releases anyOrder

def reuseCalls : List Call :=
  [.allocateKvContext 1 64 (some 4096), .allocateKvContext 2 32 (some 8192),
    .allocateKvContext 1 16 none, .allocateKvContext 3 0 (some 4096),
    .executeDependencyEviction 1, .executeDependencyEviction 1,
    .allocateKvContext 2 128 (some 4096)]

theorem blocks_owned_until_released_reuse :
    ∃ world, Machine.run step reuseCalls start = some world ∧
      world.allocator.bytesResidentFor 2 = 160 ∧ world.allocator.residentAdapterCount = 1 ∧
      Ledger.ReleasesAll (world.lifetime [8192, 4096]) := by
  refine ⟨_, rfl, by decide, by decide, ?_⟩
  have settled := blocks_owned_until_released reuseCalls _ rfl
  exact (settled.2.2.2.2 [8192, 4096] (by decide)).2

end World

end Msp.Cpp.EloraAllocator
