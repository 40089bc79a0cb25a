import Msp.Library.Machine
import Mathlib.Data.List.Perm.Basic

/-!
# Handles, and statements with a way out

A handle is acquired, used while it is live, and released.  `Leaves` says which
handles a list of uses leaves live, with no handle acquired twice, used or
released when it is not live; `Clean` that it leaves none.

A body of checked statements is left at the first one that fails, for the
clean-up behind it.  `Chain` carries conditions through such a body: one from
statement to statement, and one that holds wherever it is left.
-/

set_option autoImplicit false

namespace Msp.Library.Handles

inductive Use (Handle : Type*) where
  | acquire (handle : Handle)
  | use (handle : Handle)
  | release (handle : Handle)
  deriving DecidableEq, Repr

section Uses
variable {Handle : Type*} [DecidableEq Handle]

def step (live : List Handle) : Use Handle → Option (List Handle)
  | .acquire handle => if handle ∈ live then none else some (handle :: live)
  | .use handle => if handle ∈ live then some live else none
  | .release handle => if handle ∈ live then some (live.erase handle) else none

/-- All uses are of live handles, and these are live afterwards. -/
def Leaves (uses : List (Use Handle)) (live : List Handle) : Prop :=
  ∃ last, Machine.run step uses [] = some last ∧ last.Perm live

def Clean (uses : List (Use Handle)) : Prop := Leaves uses []

theorem leaves_nil : Leaves ([] : List (Use Handle)) [] := ⟨[], rfl, .refl []⟩

variable {uses : List (Use Handle)} {live : List Handle} {handle : Handle}

theorem run_snoc {last : List Handle} (ran : Machine.run step uses [] = some last)
    (next : Use Handle) : Machine.run step (uses ++ [next]) [] = step last next := by
  have general : ∀ (before : List (Use Handle)) (start : List Handle),
      Machine.run step before start = some last →
        Machine.run step (before ++ [next]) start = step last next := by
    intro before
    induction before with
    | nil =>
        intro start done
        cases done
        simp [Machine.run]
    | cons first rest ih =>
        intro start done
        obtain ⟨middle, stepped, restRan⟩ := Machine.run_cons_eq_some.mp done
        rw [List.cons_append, Machine.run_cons, stepped]
        exact ih middle restRan
  exact general uses [] ran

theorem Leaves.acquire (leaves : Leaves uses live) (fresh : handle ∉ live) :
    Leaves (uses ++ [.acquire handle]) (handle :: live) := by
  obtain ⟨last, ran, perm⟩ := leaves
  have absent : handle ∉ last := fun inside => fresh (perm.mem_iff.mp inside)
  exact ⟨handle :: last, by rw [run_snoc ran]; exact if_neg absent, perm.cons handle⟩

theorem Leaves.use (leaves : Leaves uses live) (inside : handle ∈ live) :
    Leaves (uses ++ [.use handle]) live := by
  obtain ⟨last, ran, perm⟩ := leaves
  exact ⟨last, by rw [run_snoc ran]; exact if_pos (perm.mem_iff.mpr inside), perm⟩

theorem Leaves.useAll (leaves : Leaves uses live) :
    ∀ handles : List Handle, (∀ handle ∈ handles, handle ∈ live) →
      Leaves (uses ++ handles.map .use) live := by
  intro handles
  induction handles generalizing uses with
  | nil =>
      intro _
      rwa [List.map_nil, List.append_nil]
  | cons first rest ih =>
      intro inside
      rw [List.map_cons, List.append_cons]
      exact ih (leaves.use (inside first List.mem_cons_self)) fun handle member =>
        inside handle (List.mem_cons_of_mem first member)

theorem Leaves.release (leaves : Leaves uses (handle :: live)) :
    Leaves (uses ++ [.release handle]) live := by
  obtain ⟨last, ran, perm⟩ := leaves
  have inside : handle ∈ last := perm.mem_iff.mpr List.mem_cons_self
  refine ⟨last.erase handle, by rw [run_snoc ran]; exact if_pos inside, ?_⟩
  have erased := perm.erase handle
  rwa [List.erase_cons_head] at erased

theorem Leaves.perm {other : List Handle} (leaves : Leaves uses live) (same : live.Perm other) :
    Leaves uses other := by
  obtain ⟨last, ran, perm⟩ := leaves
  exact ⟨last, ran, perm.trans same⟩

theorem Leaves.clean (leaves : Leaves uses live) {order : List Handle} (same : order.Perm live) :
    Clean (uses ++ order.map .release) := by
  induction order generalizing uses live with
  | nil =>
      rw [List.map_nil, List.append_nil]
      exact leaves.perm same.symm
  | cons first rest ih =>
      have others := (leaves.perm same.symm).release
      rw [List.map_cons, List.append_cons]
      exact ih others (.refl rest)

/-- In a clean list of uses a handle is released as often as it is acquired. -/
theorem Clean.count_eq (clean : Clean uses) (handle : Handle) :
    uses.count (.acquire handle) = uses.count (.release handle) := by
  have balance : ∀ (before : List (Use Handle)) (start last : List Handle),
      Machine.run step before start = some last →
        start.count handle + before.count (.acquire handle) =
          last.count handle + before.count (.release handle) := by
    intro before
    induction before with
    | nil =>
        intro start last done
        cases done
        rfl
    | cons first rest ih =>
        intro start last done
        obtain ⟨middle, stepped, restRan⟩ := Machine.run_cons_eq_some.mp done
        have later := ih middle last restRan
        cases first with
        | acquire other =>
            simp only [step] at stepped
            split at stepped
            · cases stepped
            · cases stepped
              by_cases same : other = handle
              · subst same
                simp only [List.count_cons_self, List.count_cons, beq_iff_eq, reduceCtorEq,
                  if_false] at later ⊢
                omega
              · simpa [same, List.count_cons] using later
        | use other =>
            simp only [step] at stepped
            split at stepped
            · cases stepped
              simpa using later
            · cases stepped
        | release other =>
            simp only [step] at stepped
            split at stepped
            · rename_i inside
              cases stepped
              by_cases same : other = handle
              · subst same
                have positive := List.count_pos_iff.mpr inside
                rw [List.count_erase_self] at later
                simp only [List.count_cons, beq_iff_eq, reduceCtorEq, if_false, if_true] at later ⊢
                omega
              · rw [List.count_erase_of_ne (Ne.symm same)] at later
                simpa [same] using later
            · cases stepped
  obtain ⟨last, ran, perm⟩ := clean
  have balanced := balance uses [] last ran
  rw [perm.count_eq] at balanced
  simpa using balanced

end Uses

section Checks
variable {State : Type*}

/-- What a statement does, and whether it is gone on behind it. -/
abbrev Check (State : Type*) := State → Bool × State

def runChecks : List (Check State) → State → Bool × State
  | [], state => (true, state)
  | check :: rest, state =>
      if (check state).1 then runChecks rest (check state).2 else check state

/-- From `before`, a body leads to `after`, or is left with `out`. -/
inductive Chain (out : State → Prop) :
    (State → Prop) → List (Check State) → (State → Prop) → Prop where
  | nil (condition : State → Prop) : Chain out condition [] condition
  | cons {before middle after : State → Prop} {check : Check State} {rest : List (Check State)}
      (passes : ∀ state, before state → (check state).1 = true → middle (check state).2)
      (fails : ∀ state, before state → (check state).1 = false → out (check state).2)
      (others : Chain out middle rest after) : Chain out before (check :: rest) after

/-- The rule for bodies. -/
theorem Chain.sound {out before after : State → Prop} {checks : List (Check State)}
    (chain : Chain out before checks after) (state : State) (holds : before state) :
    ((runChecks checks state).1 = true ∧ after (runChecks checks state).2) ∨
      ((runChecks checks state).1 = false ∧ out (runChecks checks state).2) := by
  induction chain generalizing state with
  | nil condition => exact Or.inl ⟨rfl, holds⟩
  | @cons before middle after check rest passes fails others ih =>
      cases passed : (check state).1 with
      | true =>
          rw [runChecks, if_pos passed]
          exact ih _ (passes state holds passed)
      | false =>
          rw [runChecks, if_neg (by simp [passed])]
          exact Or.inr ⟨passed, fails state holds passed⟩

theorem Chain.skip {after : State → Prop} {check : Check State} {rest : List (Check State)}
    (others : Chain (fun _ => True) (fun _ => True) rest after) :
    Chain (fun _ => True) (fun _ => True) (check :: rest) after :=
  .cons (fun _ _ _ => trivial) (fun _ _ _ => trivial) others

theorem runChecks_ok_iff {checks : List (Check State)} {results : List Bool}
    (constant : List.Forall₂ (fun check result => ∀ state, (check state).1 = result) checks
      results) (state : State) :
    (runChecks checks state).1 = true ↔ ∀ result ∈ results, result = true := by
  induction constant generalizing state with
  | nil => simp [runChecks]
  | @cons check result rest others same _ ih =>
      rw [List.forall_mem_cons, runChecks, same state]
      cases result with
      | true => simpa using ih _
      | false => simp [same state]

end Checks

end Msp.Library.Handles
