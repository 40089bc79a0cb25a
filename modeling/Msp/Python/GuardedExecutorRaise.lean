import Msp.Python.GuardedExecutorValue

/-!
# When `raise_if_error` raises

The field `exception` is filled at four exits of `run`.  At two of them the child
completed and its target, or the pickling of its value, failed: there
`raise_if_error` is documented to raise.  The other two are a fallback after a
failed probe and a child that vanished, where it is documented to do nothing.
-/

set_option autoImplicit false

namespace Msp.Python.GuardedExecutor

open Msp.Library Msp.Python.WatchdogPolicy

section Raise
variable {Value Payload : Type*}

def Failed (dumps : Value → Except Raised Payload) (ended : Except Raised Value) : Prop :=
  (∃ raised, ended = .error raised) ∨
    ∃ value raised, ended = .ok value ∧ dumps value = .error raised

theorem failed_iff {dumps : Value → Except Raised Payload} {ended : Except Raised Value} :
    Failed dumps ended ↔
      ∃ typeName message traceback,
        childEntrypoint dumps ended = .error typeName message traceback := by
  cases ended with
  | error raised => exact iff_of_true (Or.inl ⟨raised, rfl⟩) ⟨_, _, _, rfl⟩
  | ok value =>
      cases dumped : dumps value with
      | error raised =>
          exact iff_of_true (Or.inr ⟨value, raised, rfl, dumped⟩)
            ⟨_, _, _, by simp only [childEntrypoint, dumped]; rfl⟩
      | ok payload =>
          refine iff_of_false ?_ ?_
          · rintro (⟨raised, isError⟩ | ⟨other, raised, isValue, refused⟩)
            · cases isError
            · cases isValue
              cases dumped.symm.trans refused
          · rintro ⟨typeName, message, traceback, isError⟩
            simp only [childEntrypoint, dumped] at isError
            cases isError

structure RaisesOnFailure (dumps : Value → Except Raised Payload) (ended : Except Raised Value)
    (result : ProtectedRunResult Value) : Prop where
  raises_iff : (∃ exception, result.raiseIfError = .error exception) ↔
    result.completed = true ∧ Failed dumps ended
  fallback_silent : result.fallbackTriggered = true → result.raiseIfError = .ok ()

/-- Every message is the one the child puts into the queue. -/
structure FromChild (message : Message Payload) (iterations : List (Iteration Payload))
    (tail : Tail Payload) : Prop where
  inLoop : ∀ iteration ∈ iterations, ∀ other,
    iteration.get = some other ∨ iteration.drain = some other → other = message
  late : ∀ other, tail.lateGet = some other → other = message

structure TelemetryFails (policy : ViolationPolicy) (iteration : Iteration Payload) : Prop where
  nothingYet : iteration.get = none
  alive : iteration.alive = true
  raised : ∃ message now, iteration.probe = .exception message now
  failSafe : policy.failSafeOnTelemetryError = true

structure Vanishes (iteration : Iteration Payload) (tail : Tail Payload) : Prop where
  nothingYet : iteration.get = none
  dead : iteration.alive = false
  nothingLeft : iteration.drain = none
  nothingLate : tail.lateGet = none

theorem loop_telemetryFails {policy : ViolationPolicy} {iteration : Iteration Payload}
    (fails : TelemetryFails policy iteration) (rest : List (Iteration Payload)) :
    ∃ reading message,
      (loop policy (iteration :: rest)).1 = .violation .telemetryError reading (some message) := by
  obtain ⟨get, alive, drain, probe⟩ := iteration
  obtain ⟨nothingYet, isAlive, ⟨message, now, raised⟩, failSafe⟩ := fails
  cases nothingYet
  cases isAlive
  cases raised
  exact ⟨standInReading now, message, by simp [loop, failSafe]⟩

theorem loop_vanishes (policy : ViolationPolicy) {iteration : Iteration Payload}
    {tail : Tail Payload} (vanishes : Vanishes iteration tail) (rest : List (Iteration Payload)) :
    (loop policy (iteration :: rest)).1 = .finished none := by
  obtain ⟨get, alive, drain, probe⟩ := iteration
  obtain ⟨nothingYet, dead, nothingLeft, _⟩ := vanishes
  cases nothingYet
  cases dead
  cases nothingLeft
  rfl

/-- A loop that is left ends in its first iteration that is not quiet: with a
message or a dead child, with a fallback, or with a way out of `run`. -/
theorem loop_ends {policy : ViolationPolicy} : ∀ {iterations : List (Iteration Payload)},
    (loop policy iterations).1 ≠ .looping →
    ∃ earlier last rest, iterations = earlier ++ last :: rest ∧
      (∀ iteration ∈ earlier, Quiet policy iteration) ∧
      ((∃ message, last.get = some message ∧
          (loop policy iterations).1 = .finished (some message)) ∨
        (last.get = none ∧ last.alive = false ∧
          (loop policy iterations).1 = .finished last.drain) ∨
        (∃ reason reading, (loop policy iterations).1 = .violation reason reading none) ∨
        TelemetryFails policy last ∨
        ∃ name, (loop policy iterations).1 = .escaped name) := by
  intro iterations
  induction iterations with
  | nil => intro left; exact absurd rfl left
  | cons iteration rest ih =>
      intro left
      by_cases quiet : Quiet policy iteration
      · rw [loop_quiet quiet] at left ⊢
        obtain ⟨earlier, last, others, split, allQuiet, ends⟩ := ih left
        refine ⟨iteration :: earlier, last, others, by rw [split, List.cons_append], ?_, ends⟩
        intro other member
        rcases List.mem_cons.mp member with first | later
        · rw [first]
          exact quiet
        · exact allQuiet other later
      · refine ⟨[], iteration, rest, rfl, fun _ member => (by cases member), ?_⟩
        obtain ⟨get, alive, drain, probe⟩ := iteration
        cases get with
        | some message => exact Or.inl ⟨message, rfl, rfl⟩
        | none =>
            cases alive with
            | false => exact Or.inr (Or.inl ⟨rfl, rfl, rfl⟩)
            | true =>
                refine Or.inr (Or.inr ?_)
                cases probe with
                | baseException name => exact Or.inr (Or.inr ⟨name, rfl⟩)
                | exception message now =>
                    cases failSafe : policy.failSafeOnTelemetryError with
                    | true => exact Or.inr (Or.inl ⟨rfl, rfl, ⟨message, now, rfl⟩, failSafe⟩)
                    | false =>
                        have harmless : violation policy (.exception message now) = none := by
                          simp [violation, failSafe]
                        exact absurd ⟨rfl, rfl, harmless, fun _ escapes => by cases escapes⟩ quiet
                | reading reading =>
                    cases verdict : policy.evaluate reading with
                    | some reason => exact Or.inl ⟨reason, reading, by simp [loop, verdict]⟩
                    | none =>
                        have harmless : violation policy (.reading reading) = none := by
                          simp [violation, verdict]
                        exact absurd ⟨rfl, rfl, harmless, fun _ escapes => by cases escapes⟩ quiet

theorem run_violation {policy : ViolationPolicy} (loads : Payload → Except Raised Value)
    {iterations : List (Iteration Payload)} (tail : Tail Payload) {reason : FallbackReason}
    {reading : TelemetryReading} {telemetryError : Option String}
    (violated : (loop policy iterations).1 = .violation reason reading telemetryError) :
    (run policy loads iterations tail).1 =
      some (.returned (fallbackResult tail reason reading telemetryError)) := by
  unfold run
  generalize loop policy iterations = looped at violated ⊢
  obtain ⟨exit, calls⟩ := looped
  cases violated
  rfl

theorem run_escaped {policy : ViolationPolicy} (loads : Payload → Except Raised Value)
    {iterations : List (Iteration Payload)} (tail : Tail Payload) {name : String}
    (escaped : (loop policy iterations).1 = .escaped name) :
    (run policy loads iterations tail).1 = some (.escaped name) := by
  unfold run
  generalize loop policy iterations = looped at escaped ⊢
  obtain ⟨exit, calls⟩ := looped
  cases escaped
  rfl

theorem run_looping {policy : ViolationPolicy} (loads : Payload → Except Raised Value)
    {iterations : List (Iteration Payload)} (tail : Tail Payload)
    (looping : (loop policy iterations).1 = .looping) :
    (run policy loads iterations tail).1 = none := by
  unfold run
  generalize loop policy iterations = looped at looping ⊢
  obtain ⟨exit, calls⟩ := looped
  cases looping
  rfl

section Results
variable {dumps : Value → Except Raised Payload} {ended : Except Raised Value}

theorem raisesOnFailure_reported {loads : Payload → Except Raised Value} {tail : Tail Payload}
    {result : ProtectedRunResult Value}
    (reported : report loads tail (some (childEntrypoint dumps ended)) = .returned result) :
    RaisesOnFailure dumps ended result := by
  cases message : childEntrypoint dumps ended with
  | ok payload =>
      have notFailed : ¬ Failed dumps ended := by
        rw [failed_iff]
        rintro ⟨typeName, text, traceback, isError⟩
        cases message.symm.trans isError
      rw [message] at reported
      simp only [report] at reported
      cases loaded : loads payload with
      | error raised =>
          rw [loaded] at reported
          cases reported
      | ok value =>
          rw [loaded] at reported
          cases reported
          constructor
          · refine iff_of_false ?_ fun both => notFailed both.2
            rintro ⟨exception, raised⟩
            cases raised
          · exact fun triggered => by cases triggered
  | error typeName text traceback =>
      rw [message] at reported
      cases reported
      constructor
      · exact iff_of_true ⟨_, rfl⟩ ⟨rfl, failed_iff.mpr ⟨typeName, text, traceback, message⟩⟩
      · exact fun triggered => by cases triggered

theorem raisesOnFailure_violation (tail : Tail Payload) (reason : FallbackReason)
    (reading : TelemetryReading) :
    RaisesOnFailure dumps ended (fallbackResult tail reason reading none) := by
  constructor
  · refine iff_of_false ?_ fun both => nomatch both.1
    rintro ⟨exception, raised⟩
    cases raised
  · exact fun _ => rfl

theorem not_raisesOnFailure {result : ProtectedRunResult Value} {exception : PyException}
    (carried : result.exception = some exception) (incomplete : result.completed = false) :
    ¬ RaisesOnFailure dumps ended result := by
  intro promise
  have raises : result.raiseIfError = .error exception := by
    rw [ProtectedRunResult.raiseIfError, carried]
  have completed := (promise.raises_iff.mp ⟨exception, raises⟩).1
  cases incomplete.symm.trans completed

end Results

/-- For every policy and every trace of events of a child: `raise_if_error` on the
result does what it promises exactly when `run` was not left through a failed
probe or a vanished child. -/
theorem raise_if_error_iff (policy : ViolationPolicy) (loads : Payload → Except Raised Value)
    (dumps : Value → Except Raised Payload) (ended : Except Raised Value)
    (iterations : List (Iteration Payload)) (tail : Tail Payload)
    (fromChild : FromChild (childEntrypoint dumps ended) iterations tail)
    (result : ProtectedRunResult Value)
    (returned : (run policy loads iterations tail).1 = some (.returned result)) :
    RaisesOnFailure dumps ended result ↔
      ∀ earlier last rest, iterations = earlier ++ last :: rest →
        (∀ iteration ∈ earlier, Quiet policy iteration) →
          ¬ TelemetryFails policy last ∧ ¬ Vanishes last tail := by
  constructor
  · rintro promise earlier last rest rfl quiet
    constructor
    · intro fails
      obtain ⟨reading, message, violated⟩ := loop_telemetryFails fails rest
      have left := run_violation loads tail
        ((loop_quiet_steps (last :: rest) earlier quiet).trans violated)
      cases returned.symm.trans left
      exact not_raisesOnFailure rfl rfl promise
    · intro vanishes
      have left := run_finished loads tail
        ((loop_quiet_steps (last :: rest) earlier quiet).trans (loop_vanishes policy vanishes rest))
      rw [awaitLate, vanishes.nothingLate] at left
      cases returned.symm.trans left
      exact not_raisesOnFailure rfl rfl promise
  · intro spared
    have isLeft : (loop policy iterations).1 ≠ .looping := by
      intro looping
      cases returned.symm.trans (run_looping loads tail looping)
    obtain ⟨earlier, last, rest, split, quiet, ends⟩ := loop_ends isLeft
    obtain ⟨noTelemetryError, present⟩ := spared earlier last rest split quiet
    have member : last ∈ iterations := by
      rw [split]
      exact List.mem_append_right _ List.mem_cons_self
    have ownMessages := fromChild.inLoop last member
    rcases ends with ⟨message, got, finished⟩ | ⟨nothing, dead, finished⟩ |
      ⟨reason, reading, violated⟩ | fails | ⟨name, escaped⟩
    · have reported := run_finished loads tail finished
      rw [ownMessages message (Or.inl got)] at reported
      exact raisesOnFailure_reported (Option.some.inj (reported.symm.trans returned))
    · have reported := run_finished loads tail finished
      cases drained : last.drain with
      | some message =>
          rw [drained, ownMessages message (Or.inr drained)] at reported
          exact raisesOnFailure_reported (Option.some.inj (reported.symm.trans returned))
      | none =>
          rw [drained, awaitLate] at reported
          cases late : tail.lateGet with
          | some message =>
              rw [late, fromChild.late message late] at reported
              exact raisesOnFailure_reported (Option.some.inj (reported.symm.trans returned))
          | none => exact absurd ⟨nothing, dead, drained, late⟩ present
    · cases returned.symm.trans (run_violation loads tail violated)
      exact raisesOnFailure_violation tail reason reading
    · exact absurd fails noTelemetryError
    · cases returned.symm.trans (run_escaped loads tail escaped)

def raisedTarget : Except Raised Nat := .error ⟨"ValueError", "no such adapter", "Traceback"⟩

theorem raise_if_error_iff_raised :
    let dumps : Nat → Except Raised Nat := fun value => .ok value
    let last : Iteration Nat :=
      ⟨some (childEntrypoint dumps raisedTarget), true, none, .baseException ""⟩
    let tail : Tail Nat := ⟨none, false, false, false, .finite 1, some 0⟩
    ∃ result, (run ViolationPolicy.defaults (fun payload : Nat => Except.ok payload)
        [last] tail).1 = some (.returned result) ∧ RaisesOnFailure dumps raisedTarget result := by
  intro dumps last tail
  have fromChild : FromChild (childEntrypoint dumps raisedTarget) [last] tail := by
    refine ⟨fun iteration member other delivered => ?_, fun other late => (nomatch late)⟩
    cases List.mem_singleton.mp member
    rcases delivered with got | drained
    · exact (Option.some.inj got).symm
    · cases drained
  refine ⟨_, rfl, (raise_if_error_iff ViolationPolicy.defaults (fun payload => .ok payload) dumps
    raisedTarget [last] tail fromChild _ rfl).mpr ?_⟩
  intro earlier other rest split _
  have same : other = last := by
    cases earlier with
    | nil => exact (List.cons.inj split).1.symm
    | cons first others => cases others <;> cases split
  rw [same]
  exact ⟨fun fails => (nomatch fails.nothingYet), fun vanishes => (nomatch vanishes.nothingYet)⟩

/-- The fallback was triggered, and `raise_if_error` raises. -/
theorem failed_probe_raises :
    let dumps : Nat → Except Raised Nat := fun value => .ok value
    let failing : Iteration Nat := ⟨none, true, none, .exception "socket gone" (.finite 2)⟩
    let tail : Tail Nat := ⟨none, true, false, false, .finite 3, some (-15)⟩
    ∃ result, (run ViolationPolicy.defaults (fun payload : Nat => Except.ok payload)
        [failing] tail).1 = some (.returned result) ∧ result.fallbackTriggered = true ∧
      ¬ RaisesOnFailure dumps (.ok 7) result := by
  intro dumps failing tail
  refine ⟨_, rfl, rfl, ?_⟩
  exact not_raisesOnFailure rfl rfl

end Raise

end Msp.Python.GuardedExecutor
