import Msp.Library.AddressRange
import Msp.Library.InsertionDict

/-!
# `EloraAllocator` and its Python binding

Model of `src/cpp/elora_allocator.cpp` and of the `msp_native` class built from
it by `src/cpp/bindings.cpp`.  The dependency tree maps a native id to the
blocks allocated for it, oldest first.

The host is a parameter: one `HostAnswer` says what `raw_allocate` returns to
one call and whether the map node or the vector growth behind
`dependency_tree_[adapter_id].push_back` throws `std::bad_alloc`.
`HostContract` is what `malloc` promises about the pointers it did return.
-/

set_option autoImplicit false

namespace Msp.Cpp.EloraAllocator

open Msp.Library Msp.Library.AddressRange

def sizeModulus : Nat := 2 ^ 64

def cIntMin : Int := -2147483648

def cIntMax : Int := 2147483647

structure Block where
  ptr : Nat
  size : Nat
  deriving DecidableEq, Repr

def Block.range (block : Block) : Range := ⟨block.ptr, block.size⟩

structure HostAnswer where
  rawAllocate : Option Nat
  insertThrows : Bool
  growThrows : Bool
  deriving DecidableEq, Repr

structure Allocator where
  dependencyTree : Dict Int (List Block)

namespace Allocator

def new : Allocator := ⟨Dict.empty⟩

/-- `allocate_kv_context`: `error` is an escaping `std::bad_alloc`.  The raw
pointer is not released on either throwing path. -/
def allocateKvContext (allocator : Allocator) (adapterId : Int) (size : Nat)
    (host : HostAnswer) : Except Unit (Option Nat) × Allocator :=
  if size = 0 then (.ok none, allocator)
  else
    match host.rawAllocate with
    | none => (.ok none, allocator)
    | some ptr =>
        match allocator.dependencyTree.get? adapterId with
        | none =>
            if host.insertThrows then (.error (), allocator)
            else if host.growThrows then
              (.error (), ⟨allocator.dependencyTree.set adapterId []⟩)
            else (.ok (some ptr), ⟨allocator.dependencyTree.set adapterId [⟨ptr, size⟩]⟩)
        | some blocks =>
            if host.growThrows then (.error (), allocator)
            else (.ok (some ptr),
              ⟨allocator.dependencyTree.set adapterId (blocks ++ [⟨ptr, size⟩])⟩)

/-- `execute_dependency_eviction`, with the pointers handed to `raw_free`. -/
def executeDependencyEviction (allocator : Allocator) (adapterId : Int) :
    List Nat × Allocator :=
  match allocator.dependencyTree.get? adapterId with
  | none => ([], allocator)
  | some blocks => (blocks.map Block.ptr, ⟨allocator.dependencyTree.erase adapterId⟩)

/-- The destructor: the pointers it hands to `raw_free`. -/
def destroy (allocator : Allocator) : List Nat :=
  allocator.dependencyTree.values.flatMap fun blocks => blocks.map Block.ptr

def bytesResidentFor (allocator : Allocator) (adapterId : Int) : Nat :=
  match allocator.dependencyTree.get? adapterId with
  | none => 0
  | some blocks => blocks.foldl (fun total block => (total + block.size) % sizeModulus) 0

def residentAdapterCount (allocator : Allocator) : Nat :=
  allocator.dependencyTree.keys.length

def blockBytes (blocks : List Block) : Nat := (blocks.map Block.size).sum

def heldBytes (allocator : Allocator) (adapterId : Int) : Nat :=
  ((allocator.dependencyTree.get? adapterId).map blockBytes).getD 0

def totalBytes (allocator : Allocator) : Nat :=
  allocator.dependencyTree.total blockBytes

def blocks (allocator : Allocator) : List Block := allocator.dependencyTree.values.flatten

/-- `malloc` hands out blocks of one 64-bit address space: never at the null
address, never past the end, and never over a block that is still live. -/
def HostContract (allocator : Allocator) : Prop :=
  (allocator.blocks.map Block.range).Pairwise Range.Apart ∧
    ∀ range ∈ allocator.blocks.map Block.range, range.Inside 1 sizeModulus

instance (allocator : Allocator) : Decidable allocator.HostContract :=
  inferInstanceAs (Decidable (_ ∧ _))

def push (allocator : Allocator) (adapterId : Int) (block : Block) : Allocator :=
  ⟨allocator.dependencyTree.set adapterId
    ((allocator.dependencyTree.get? adapterId).getD [] ++ [block])⟩

theorem foldl_wrap (blocks : List Block) : ∀ start : Nat,
    blocks.foldl (fun total block => (total + block.size) % sizeModulus)
        (start % sizeModulus) =
      (start + blockBytes blocks) % sizeModulus := by
  induction blocks with
  | nil => intro start; simp [blockBytes]
  | cons block rest ih =>
      intro start
      rw [List.foldl_cons, Nat.mod_add_mod, ih (start + block.size)]
      simp [blockBytes, Nat.add_assoc]

theorem bytesResidentFor_eq (allocator : Allocator) (adapterId : Int) :
    allocator.bytesResidentFor adapterId = allocator.heldBytes adapterId % sizeModulus := by
  unfold bytesResidentFor heldBytes
  cases allocator.dependencyTree.get? adapterId with
  | none => rfl
  | some blocks => simpa using foldl_wrap blocks 0

theorem heldBytes_le_totalBytes (allocator : Allocator) (adapterId : Int) :
    allocator.heldBytes adapterId ≤ allocator.totalBytes := by
  unfold heldBytes
  cases found : allocator.dependencyTree.get? adapterId with
  | none => exact Nat.zero_le _
  | some blocks => exact Dict.le_total blockBytes found

theorem sum_blocks (allocator : Allocator) :
    ((allocator.blocks.map Block.range).map Range.length).sum = allocator.totalBytes := by
  have flat : ∀ lists : List (List Block),
      ((lists.flatten.map Block.range).map Range.length).sum = (lists.map blockBytes).sum := by
    intro lists
    induction lists with
    | nil => rfl
    | cons head tail ih =>
        simp only [List.flatten_cons, List.map_append, List.sum_append, List.map_cons,
          List.sum_cons, ih]
        congr 1
        rw [List.map_map]
        rfl
  exact flat allocator.dependencyTree.values

theorem totalBytes_lt (allocator : Allocator) (lawful : allocator.HostContract) :
    allocator.totalBytes < sizeModulus := by
  have bound := sum_length_le 1 sizeModulus _ lawful.1 lawful.2
  rw [sum_blocks] at bound
  have positive : 0 < sizeModulus := by decide
  omega

theorem bytesResidentFor_exact (allocator : Allocator) (lawful : allocator.HostContract)
    (adapterId : Int) :
    allocator.bytesResidentFor adapterId = allocator.heldBytes adapterId := by
  rw [bytesResidentFor_eq, Nat.mod_eq_of_lt]
  exact Nat.lt_of_le_of_lt (heldBytes_le_totalBytes allocator adapterId)
    (totalBytes_lt allocator lawful)

theorem get?_push (allocator : Allocator) (adapterId other : Int) (block : Block) :
    (allocator.push adapterId block).dependencyTree.get? other =
      if adapterId = other then
        some ((allocator.dependencyTree.get? adapterId).getD [] ++ [block])
      else allocator.dependencyTree.get? other :=
  Dict.get?_set _ _ _ _

theorem heldBytes_push (allocator : Allocator) (adapterId other : Int) (block : Block) :
    (allocator.push adapterId block).heldBytes other =
      allocator.heldBytes other + if adapterId = other then block.size else 0 := by
  unfold heldBytes
  rw [get?_push]
  by_cases same : adapterId = other
  · subst same
    cases found : allocator.dependencyTree.get? adapterId <;> simp [blockBytes]
  · simp [same]

theorem totalBytes_push (allocator : Allocator) (adapterId : Int) (block : Block) :
    (allocator.push adapterId block).totalBytes = allocator.totalBytes + block.size := by
  have stored := Dict.total_set blockBytes allocator.dependencyTree adapterId
    ((allocator.dependencyTree.get? adapterId).getD [] ++ [block])
  unfold totalBytes push
  cases found : allocator.dependencyTree.get? adapterId with
  | none =>
      simp only [found, Option.map_none, Option.getD_none, List.nil_append] at stored ⊢
      simpa [blockBytes] using stored
  | some blocks =>
      simp only [found, Option.map_some, Option.getD_some] at stored ⊢
      simp only [blockBytes, List.map_append, List.sum_append, List.map_cons, List.map_nil,
        List.sum_cons, List.sum_nil] at stored ⊢
      omega

/-- Everything one call can do: refuse, store one block, or throw having at
most created an empty vector for the id. -/
theorem allocateKvContext_cases (allocator : Allocator) (adapterId : Int) (size : Nat)
    (host : HostAnswer) :
    allocator.allocateKvContext adapterId size host = (.ok none, allocator) ∨
    (∃ ptr, size ≠ 0 ∧ allocator.allocateKvContext adapterId size host =
      (.ok (some ptr), allocator.push adapterId ⟨ptr, size⟩)) ∨
    (∃ next, allocator.allocateKvContext adapterId size host = (.error (), next) ∧
      (next = allocator ∨ (allocator.dependencyTree.get? adapterId = none ∧
        next = ⟨allocator.dependencyTree.set adapterId []⟩))) := by
  unfold allocateKvContext push
  split
  · exact Or.inl rfl
  · rename_i nonzero
    cases host.rawAllocate with
    | none => exact Or.inl rfl
    | some ptr =>
        cases found : allocator.dependencyTree.get? adapterId with
        | none =>
            cases host.insertThrows with
            | true => exact Or.inr (Or.inr ⟨allocator, rfl, Or.inl rfl⟩)
            | false =>
                cases host.growThrows with
                | true => exact Or.inr (Or.inr ⟨_, rfl, Or.inr ⟨rfl, rfl⟩⟩)
                | false => exact Or.inr (Or.inl ⟨ptr, nonzero, rfl⟩)
        | some blocks =>
            cases host.growThrows with
            | true => exact Or.inr (Or.inr ⟨allocator, rfl, Or.inl rfl⟩)
            | false => exact Or.inr (Or.inl ⟨ptr, nonzero, rfl⟩)

theorem get?_evict_self (allocator : Allocator) (adapterId : Int) :
    (allocator.executeDependencyEviction adapterId).2.dependencyTree.get? adapterId = none := by
  unfold executeDependencyEviction
  cases found : allocator.dependencyTree.get? adapterId with
  | none => exact found
  | some blocks => exact Dict.get?_erase_self _ _

theorem get?_evict_of_ne (allocator : Allocator) {adapterId other : Int}
    (differ : adapterId ≠ other) :
    (allocator.executeDependencyEviction adapterId).2.dependencyTree.get? other =
      allocator.dependencyTree.get? other := by
  unfold executeDependencyEviction
  cases found : allocator.dependencyTree.get? adapterId with
  | none => rfl
  | some blocks => exact Dict.get?_erase_of_ne _ differ

theorem heldBytes_evict_of_ne (allocator : Allocator) {adapterId other : Int}
    (differ : adapterId ≠ other) :
    (allocator.executeDependencyEviction adapterId).2.heldBytes other =
      allocator.heldBytes other := by
  rw [heldBytes, get?_evict_of_ne allocator differ, heldBytes]

theorem totalBytes_evict (allocator : Allocator) (adapterId : Int) :
    allocator.totalBytes =
      allocator.heldBytes adapterId +
        (allocator.executeDependencyEviction adapterId).2.totalBytes := by
  unfold executeDependencyEviction heldBytes totalBytes
  cases found : allocator.dependencyTree.get? adapterId with
  | none => simp
  | some blocks => exact Dict.total_erase blockBytes found

end Allocator

inductive NativeError where
  | memoryError
  | typeError
  deriving DecidableEq, Repr

/-- pybind11's `int` caster accepts exactly the values of a C `int`. -/
def fitsCInt (value : Int) : Bool := decide (cIntMin ≤ value) && decide (value ≤ cIntMax)

/-- `msp_native.EloraAllocator.allocate_kv_context`: both arguments are
converted first, then the handle or `None` is returned. -/
def pyAllocateKvContext (allocator : Allocator) (adapterId : Int) (size : Nat)
    (host : HostAnswer) : Except NativeError (Option Nat) × Allocator :=
  if fitsCInt adapterId && decide (size < sizeModulus) then
    match allocator.allocateKvContext adapterId size host with
    | (.ok handle, next) => (.ok handle, next)
    | (.error _, next) => (.error .memoryError, next)
  else (.error .typeError, allocator)

def pyExecuteDependencyEviction (allocator : Allocator) (adapterId : Int) :
    Except NativeError Unit × Allocator :=
  if fitsCInt adapterId then (.ok (), (allocator.executeDependencyEviction adapterId).2)
  else (.error .typeError, allocator)

theorem pyAllocateKvContext_cases (allocator : Allocator) (adapterId : Int) (size : Nat)
    (host : HostAnswer) :
    pyAllocateKvContext allocator adapterId size host = (.ok none, allocator) ∨
    (∃ ptr, size ≠ 0 ∧ pyAllocateKvContext allocator adapterId size host =
      (.ok (some ptr), allocator.push adapterId ⟨ptr, size⟩)) ∨
    (∃ error next, pyAllocateKvContext allocator adapterId size host = (.error error, next) ∧
      (next = allocator ∨ (allocator.dependencyTree.get? adapterId = none ∧
        next = ⟨allocator.dependencyTree.set adapterId []⟩))) := by
  unfold pyAllocateKvContext
  split
  · rcases allocator.allocateKvContext_cases adapterId size host with
      refused | ⟨ptr, nonzero, stored⟩ | ⟨next, threw, effect⟩
    · rw [refused]
      exact Or.inl rfl
    · rw [stored]
      exact Or.inr (Or.inl ⟨ptr, nonzero, rfl⟩)
    · rw [threw]
      exact Or.inr (Or.inr ⟨.memoryError, next, rfl, effect⟩)
  · exact Or.inr (Or.inr ⟨.typeError, allocator, rfl, Or.inl rfl⟩)

end Msp.Cpp.EloraAllocator
