import Mathlib.Data.List.Basic
import Mathlib.Tactic.Common

/-!
# Runs of a machine whose step function may refuse an event

A machine is a step function `step : State → Event → Option State`; an event
that cannot happen in a state is refused with `none`.  `run` folds it over a
list of events.  `Throughout` says that a predicate holds in every state a run
visits, `Along` that a condition holds at every step it takes, and the three
rules below reduce both to one step.
-/

set_option autoImplicit false

namespace Msp.Library.Machine

section Runs
variable {State Event : Type*} (step : State → Event → Option State)

def run : List Event → State → Option State
  | [], state => some state
  | event :: rest, state => (step state event).bind (run rest)

def Throughout (holds : State → Prop) : List Event → State → Prop
  | [], state => holds state
  | event :: rest, state =>
      holds state ∧
        ∀ next, step state event = some next → Throughout holds rest next

def Along (condition : State → Event → Prop) : List Event → State → Prop
  | [], _ => True
  | event :: rest, state =>
      ∀ next, step state event = some next →
        condition state event ∧ Along condition rest next

local instance decidableSuccessor (outcome : Option State) (holds : State → Prop)
    [∀ next, Decidable (holds next)] : Decidable (∀ next, outcome = some next → holds next) :=
  match outcome with
  | none => isTrue fun _ refused => nomatch refused
  | some next =>
      decidable_of_iff (holds next)
        ⟨fun isGood _ same => Option.some.inj same ▸ isGood, fun every => every next rfl⟩

instance decidableThroughout (holds : State → Prop) [DecidablePred holds] :
    ∀ (events : List Event) (state : State),
      Decidable (Throughout step holds events state)
  | [], state => inferInstanceAs (Decidable (holds state))
  | event :: rest, state =>
      have : ∀ next, Decidable (Throughout step holds rest next) :=
        decidableThroughout holds rest
      inferInstanceAs (Decidable (_ ∧ ∀ next, step state event = some next → _))

instance decidableAlong (condition : State → Event → Prop)
    [∀ state event, Decidable (condition state event)] :
    ∀ (events : List Event) (state : State),
      Decidable (Along step condition events state)
  | [], _ => isTrue trivial
  | event :: rest, state =>
      have : ∀ next, Decidable (Along step condition rest next) :=
        decidableAlong condition rest
      inferInstanceAs (Decidable (∀ next, step state event = some next → _ ∧ _))

variable {step}

@[simp] theorem run_nil (state : State) : run step [] state = some state := rfl

theorem run_cons (event : Event) (rest : List Event) (state : State) :
    run step (event :: rest) state = (step state event).bind (run step rest) := rfl

theorem run_cons_eq_some {event : Event} {rest : List Event} {state final : State} :
    run step (event :: rest) state = some final ↔
      ∃ next, step state event = some next ∧ run step rest next = some final := by
  rw [run_cons, Option.bind_eq_some_iff]

theorem run_preserves {invariant : State → Prop}
    (preserved : ∀ state event next, invariant state →
      step state event = some next → invariant next) :
    ∀ (events : List Event) (state final : State), invariant state →
      run step events state = some final → invariant final := by
  intro events
  induction events with
  | nil =>
      intro state final holds ran
      cases Option.some.inj ran
      exact holds
  | cons event rest ih =>
      intro state final holds ran
      obtain ⟨next, stepped, restRan⟩ := run_cons_eq_some.mp ran
      exact ih next final (preserved state event next holds stepped) restRan

theorem Throughout.head {holds : State → Prop} {events : List Event} {state : State}
    (everywhere : Throughout step holds events state) : holds state := by
  cases events with
  | nil => exact everywhere
  | cons event rest => exact everywhere.1

theorem Throughout.last {holds : State → Prop} :
    ∀ {events : List Event} {state final : State},
      Throughout step holds events state → run step events state = some final →
        holds final := by
  intro events
  induction events with
  | nil =>
      intro state final everywhere ran
      cases Option.some.inj ran
      exact everywhere
  | cons event rest ih =>
      intro state final everywhere ran
      obtain ⟨next, stepped, restRan⟩ := run_cons_eq_some.mp ran
      exact ih (everywhere.2 next stepped) restRan

/-- When, under a plain invariant, a step leads to a good state exactly when it
meets the condition, a run is good throughout exactly when all its steps meet
the condition. -/
theorem throughout_iff_along {invariant good : State → Prop}
    {condition : State → Event → Prop}
    (preserved : ∀ state event next, invariant state →
      step state event = some next → invariant next)
    (exactly : ∀ state event next, invariant state → good state →
      step state event = some next → (good next ↔ condition state event)) :
    ∀ (events : List Event) (state : State), invariant state → good state →
      (Throughout step good events state ↔ Along step condition events state) := by
  intro events
  induction events with
  | nil => intro state _ isGood; exact ⟨fun _ => trivial, fun _ => isGood⟩
  | cons event rest ih =>
      intro state holds isGood
      constructor
      · intro everywhere next stepped
        have restGood := everywhere.2 next stepped
        have holdsNext := preserved state event next holds stepped
        exact ⟨(exactly state event next holds isGood stepped).mp restGood.head,
          (ih next holdsNext restGood.head).mp restGood⟩
      · intro along
        refine ⟨isGood, fun next stepped => ?_⟩
        obtain ⟨met, restAlong⟩ := along next stepped
        have goodNext := (exactly state event next holds isGood stepped).mpr met
        have holdsNext := preserved state event next holds stepped
        exact (ih next holdsNext goodNext).mpr restAlong

end Runs

/-! ## What a run shows, and machines that show the same -/

section Traces
variable {Left Right Event Output : Type*}

/-- The outputs of the steps a run takes. -/
def trace {State : Type*} (step : State → Event → Option State)
    (output : State → Event → Output) : List Event → State → List Output
  | [], _ => []
  | event :: rest, state =>
      match step state event with
      | none => []
      | some next => output state event :: trace step output rest next

/-- The rule for simulations in lockstep: related states refuse the same events
and otherwise show the same and stay related, so their runs show the same. -/
theorem trace_eq_of_lockstep {stepLeft : Left → Event → Option Left}
    {stepRight : Right → Event → Option Right} {outputLeft : Left → Event → Output}
    {outputRight : Right → Event → Output} {related : Left → Right → Prop}
    {condition : Left → Event → Prop}
    (refuses : ∀ left right event, related left right → stepLeft left event = none →
      stepRight right event = none)
    (simulates : ∀ left right event next, related left right → condition left event →
      stepLeft left event = some next → outputLeft left event = outputRight right event ∧
        ∃ other, stepRight right event = some other ∧ related next other) :
    ∀ (events : List Event) (left : Left) (right : Right), related left right →
      Along stepLeft condition events left →
        trace stepLeft outputLeft events left = trace stepRight outputRight events right := by
  intro events
  induction events with
  | nil => intro left right _ _; rfl
  | cons event rest ih =>
      intro left right areRelated along
      cases stepped : stepLeft left event with
      | none =>
          have refused := refuses left right event areRelated stepped
          simp only [trace, stepped, refused]
      | some next =>
          obtain ⟨met, restAlong⟩ := along next stepped
          obtain ⟨same, other, otherStepped, stillRelated⟩ :=
            simulates left right event next areRelated met stepped
          simp only [trace, stepped, otherStepped, same]
          rw [ih next other stillRelated restAlong]

theorem split_behind {Shown : Type*} {front tail before after : List Shown} {shown : Shown}
    (absent : shown ∉ front) (split : front ++ tail = before ++ shown :: after) :
    ∃ middle, before = front ++ middle ∧ tail = middle ++ shown :: after := by
  rcases List.append_eq_append_iff.mp split with ⟨middle, isBefore, isTail⟩ | ⟨rest, isFront, isRest⟩
  · exact ⟨middle, isBefore, isTail⟩
  · cases rest with
    | nil =>
        rw [List.append_nil] at isFront
        exact ⟨[], by rw [isFront, List.append_nil], isRest.symm⟩
    | cons first others =>
        have isShown : first = shown := (List.cons.inj isRest).1.symm
        rw [isFront, isShown] at absent
        exact absurd (List.mem_append_right _ List.mem_cons_self) absent

end Traces

end Msp.Library.Machine
