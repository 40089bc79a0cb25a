import Mathlib.Data.List.Perm.Basic
import Mathlib.Data.List.Nodup
import Mathlib.Logic.Function.Basic
import Mathlib.Tactic.Common

/-!
# Workers that each write at most one location

The workers read only what nobody writes, so a worker is its write, if it makes
one.  When no two workers of a schedule write the same location, every location
ends up with the one value written to it, or with what it held, and the order
of the schedule does not matter.
-/

set_option autoImplicit false

namespace Msp.Library.ParallelWrites

section Schedules
variable {Worker Address Value : Type*} [DecidableEq Address]

def perform (write : Worker → Option (Address × Value)) (memory : Address → Value)
    (worker : Worker) : Address → Value :=
  match write worker with
  | none => memory
  | some (address, value) => Function.update memory address value

def performAll (write : Worker → Option (Address × Value)) (schedule : List Worker)
    (memory : Address → Value) : Address → Value :=
  schedule.foldl (perform write) memory

def Apart (write : Worker → Option (Address × Value)) (first second : Worker) : Prop :=
  ∀ address value other, write first = some (address, value) →
    write second ≠ some (address, other)

variable {write : Worker → Option (Address × Value)}

omit [DecidableEq Address] in
theorem Apart.symm {first second : Worker} (apart : Apart write first second) :
    Apart write second first :=
  fun address value other writes same => apart address other value same writes

theorem perform_of_not_writes {memory : Address → Value} {worker : Worker} {address : Address}
    (silent : ∀ value, write worker ≠ some (address, value)) :
    perform write memory worker address = memory address := by
  cases writes : write worker with
  | none => simp only [perform, writes]
  | some written =>
      have elsewhere : address ≠ written.1 := by
        rintro rfl
        exact silent written.2 writes
      simp only [perform, writes]
      exact Function.update_of_ne elsewhere _ _

theorem performAll_of_untouched {address : Address} : ∀ (schedule : List Worker)
    (memory : Address → Value),
    (∀ worker ∈ schedule, ∀ value, write worker ≠ some (address, value)) →
      performAll write schedule memory address = memory address := by
  intro schedule
  induction schedule with
  | nil => intro memory _; rfl
  | cons worker rest ih =>
      intro memory silent
      have later := ih (perform write memory worker)
        fun other member => silent other (List.mem_cons_of_mem _ member)
      exact later.trans (perform_of_not_writes (silent worker List.mem_cons_self))

theorem performAll_of_written {address : Address} {value : Value} {worker : Worker} :
    ∀ (schedule : List Worker) (memory : Address → Value),
      schedule.Pairwise (Apart write) → worker ∈ schedule →
        write worker = some (address, value) →
          performAll write schedule memory address = value := by
  intro schedule
  induction schedule with
  | nil => intro memory _ member _; cases member
  | cons first rest ih =>
      intro memory apart member writes
      obtain ⟨apartFirst, apartRest⟩ := List.pairwise_cons.mp apart
      rcases List.mem_cons.mp member with here | there
      · rw [here] at writes
        have later : performAll write rest (perform write memory first) address =
            perform write memory first address :=
          performAll_of_untouched rest _ fun other after otherValue =>
            apartFirst other after address value otherValue writes
        have stored : perform write memory first address = value := by
          simp [perform, writes]
        exact later.trans stored
      · exact ih _ apartRest there writes

omit [DecidableEq Address] in
/-- Distinct workers that write distinct locations, in any order. -/
theorem pairwise_apart_of_perm {workers schedule : List Worker} (distinct : workers.Nodup)
    (apart : ∀ first ∈ workers, ∀ second ∈ workers, first ≠ second → Apart write first second)
    (reordered : schedule.Perm workers) : schedule.Pairwise (Apart write) := by
  have inOrder : workers.Pairwise (Apart write) := distinct.pairwise_of_forall_ne apart
  exact inOrder.perm reordered.symm fun apartOne => Apart.symm apartOne

end Schedules

end Msp.Library.ParallelWrites
