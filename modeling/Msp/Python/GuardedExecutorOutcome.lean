import Msp.Python.GuardedExecutor

/-!
# What a result of `run` says about the calls it made

The probes made and the messages received are read off the calls.  One lemma
says what each exit of the loop leaves behind, by induction on the iterations;
the result is then a case distinction on the exits.
-/

set_option autoImplicit false

namespace Msp.Python.GuardedExecutor

open Msp.Library Msp.Python.WatchdogPolicy

section Outcome
variable {Value Payload : Type*}

def probes (calls : List (Action Payload)) : List ProbeOutcome :=
  calls.filterMap fun
    | .probe outcome => some outcome
    | _ => none

def received (calls : List (Action Payload)) : List (Message Payload) :=
  calls.filterMap fun
    | .get answer => answer
    | .getNowait answer => answer
    | _ => none

theorem probes_append (first second : List (Action Payload)) :
    probes (first ++ second) = probes first ++ probes second := List.filterMap_append

theorem received_append (first second : List (Action Payload)) :
    received (first ++ second) = received first ++ received second := List.filterMap_append

def violation (policy : ViolationPolicy) : ProbeOutcome → Option (FallbackReason × TelemetryReading)
  | .reading reading => (policy.evaluate reading).map fun reason => (reason, reading)
  | .exception _ now =>
      if policy.failSafeOnTelemetryError then some (.telemetryError, standInReading now) else none
  | .baseException _ => none

/-- What the calls of the loop show, by the way it is left. -/
def LoopSound (policy : ViolationPolicy) (exit : LoopExit Payload)
    (calls : List (Action Payload)) : Prop :=
  match exit with
  | .finished childResult =>
      (∀ outcome ∈ probes calls, violation policy outcome = none) ∧
        received calls = childResult.toList ∧
        (childResult = none → Action.isAlive false ∈ calls)
  | .violation reason reading _ =>
      received calls = [] ∧
        ∃ earlier last, probes calls = earlier ++ [last] ∧
          (∀ outcome ∈ earlier, violation policy outcome = none) ∧
          violation policy last = some (reason, reading)
  | .escaped _ => True
  | .looping => True

theorem loopSound_prepend {policy : ViolationPolicy} {exit : LoopExit Payload}
    {calls : List (Action Payload)} {outcome : ProbeOutcome}
    (sound : LoopSound policy exit calls) (harmless : violation policy outcome = none) :
    LoopSound policy exit ([.get none, .isAlive true, .probe outcome] ++ calls) := by
  have moreProbes : probes ([.get none, .isAlive true, .probe outcome] ++ calls) =
      outcome :: probes calls := rfl
  have sameReceived : received ([.get none, .isAlive true, .probe outcome] ++ calls) =
      received calls := rfl
  cases exit with
  | finished childResult =>
      obtain ⟨none, messages, dead⟩ := sound
      refine ⟨?_, sameReceived.trans messages, fun missing =>
        List.mem_append_right _ (dead missing)⟩
      rw [moreProbes]
      intro other member
      rcases List.mem_cons.mp member with first | later
      · rw [first]
        exact harmless
      · exact none other later
  | violation reason reading telemetryError =>
      obtain ⟨messages, earlier, last, shape, none, why⟩ := sound
      refine ⟨sameReceived.trans messages, outcome :: earlier, last, ?_, ?_, why⟩
      · rw [moreProbes, shape, List.cons_append]
      · intro other member
        rcases List.mem_cons.mp member with first | later
        · rw [first]
          exact harmless
        · exact none other later
  | escaped name => trivial
  | looping => trivial

theorem loopSound_violation {policy : ViolationPolicy} {outcome : ProbeOutcome}
    {reason : FallbackReason} {reading : TelemetryReading} (telemetryError : Option String)
    (why : violation policy outcome = some (reason, reading)) :
    LoopSound policy (.violation reason reading telemetryError : LoopExit Payload)
      [.get none, .isAlive true, .probe outcome] :=
  ⟨rfl, [], outcome, rfl, fun _ member => (nomatch member), why⟩

theorem loop_sound (policy : ViolationPolicy) : ∀ iterations : List (Iteration Payload),
    LoopSound policy (loop policy iterations).1 (loop policy iterations).2 := by
  intro iterations
  induction iterations with
  | nil => trivial
  | cons iteration rest ih =>
      obtain ⟨get, alive, drain, probe⟩ := iteration
      cases get with
      | some message =>
          exact ⟨fun _ member => (nomatch member), rfl, fun missing => (nomatch missing)⟩
      | none =>
          cases alive with
          | false =>
              refine ⟨fun _ member => (nomatch member), ?_, fun _ => ?_⟩
              · cases drain <;> rfl
              · exact List.mem_cons_of_mem _ List.mem_cons_self
          | true =>
              cases probe with
              | baseException name => trivial
              | exception message now =>
                  simp only [loop, if_true]
                  cases failSafe : policy.failSafeOnTelemetryError with
                  | true => exact loopSound_violation (some message) (by simp [violation, failSafe])
                  | false => exact loopSound_prepend ih (by simp [violation, failSafe])
              | reading reading =>
                  simp only [loop, if_true]
                  cases verdict : policy.evaluate reading with
                  | some reason => exact loopSound_violation none (by simp [violation, verdict])
                  | none => exact loopSound_prepend ih (by simp [violation, verdict])

theorem terminate_silent (tail : Tail Payload) :
    probes (terminate tail) = [] ∧ received (terminate tail) = [] := by
  obtain ⟨lateGet, before, after, finally_, elapsedS, exitCode⟩ := tail
  cases before <;> cases after <;> exact ⟨rfl, rfl⟩

theorem cleanUp_silent (tail : Tail Payload) :
    probes (cleanUp tail) = [] ∧ received (cleanUp tail) = [] := by
  obtain ⟨lateGet, before, after, finally_, elapsedS, exitCode⟩ := tail
  cases finally_ <;> exact ⟨rfl, rfl⟩

theorem awaitLate_sound (tail : Tail Payload) {childResult : Option (Message Payload)}
    {calls : List (Action Payload)} (messages : received calls = childResult.toList) :
    probes (awaitLate tail childResult).2 = [] ∧
      received (calls ++ (awaitLate tail childResult).2) =
        (awaitLate tail childResult).1.toList := by
  rw [received_append, messages]
  cases childResult with
  | some message => exact ⟨rfl, rfl⟩
  | none =>
      unfold awaitLate
      cases tail.lateGet <;> exact ⟨rfl, rfl⟩

/-- What a result promises about the calls behind it. -/
structure OutcomeSound (policy : ViolationPolicy) (loads : Payload → Except Raised Value)
    (calls : List (Action Payload)) (result : ProtectedRunResult Value) : Prop where
  /-- A fallback is reported exactly when some probe call was a violation. -/
  fallback_iff : result.fallbackTriggered = true ↔
    ∃ outcome ∈ probes calls, (violation policy outcome).isSome = true
  /-- That probe was the last one, and the result reports it and nothing else. -/
  fallback_reported : ∀ outcome ∈ probes calls, ∀ reason reading,
    violation policy outcome = some (reason, reading) →
      (∃ earlier, probes calls = earlier ++ [outcome] ∧
        ∀ other ∈ earlier, violation policy other = none) ∧
      result.fallbackReason = some reason ∧ result.violationTelemetry = some reading ∧
      result.completed = false ∧ result.returnValue = none
  completed_iff : result.completed = true ↔ received calls ≠ []
  completed_no_fallback : result.completed = true → result.fallbackTriggered = false
  returnValue_from_ok : ∀ value, result.returnValue = some value →
    ∃ payload, Message.ok payload ∈ received calls ∧ loads payload = .ok value
  guarded_from_error : ∀ typeName message traceback,
    result.exception = some (.guardedProcessError typeName message traceback) →
      Message.error typeName message traceback ∈ received calls
  not_both : ¬ (result.completed = true ∧ result.fallbackTriggered = true)
  /-- With neither, the child was seen dead and no message ever came; the result
  says so and carries nothing else. -/
  neither : result.completed = false → result.fallbackTriggered = false →
    Action.isAlive false ∈ calls ∧ received calls = [] ∧ result.returnValue = none ∧
      result.fallbackReason = none ∧ result.violationTelemetry = none ∧
      ∃ exitCode : Option Int, result.exception = some (.runtimeError
        ("guarded process exited without producing a result (exit code " ++
          exitCodeText exitCode ++ ")"))

theorem outcomeSound_fallback {policy : ViolationPolicy} (loads : Payload → Except Raised Value)
    {calls : List (Action Payload)} (tail : Tail Payload) {reason : FallbackReason}
    {reading : TelemetryReading} (telemetryError : Option String)
    (sound : LoopSound policy (.violation reason reading telemetryError) calls) :
    OutcomeSound policy loads calls (fallbackResult tail reason reading telemetryError) := by
  obtain ⟨messages, earlier, last, shape, none, why⟩ := sound
  have lastMember : last ∈ probes calls := by
    rw [shape]
    exact List.mem_append_right _ (List.mem_singleton_self last)
  constructor
  case fallback_iff => exact ⟨fun _ => ⟨last, lastMember, by rw [why]; rfl⟩, fun _ => rfl⟩
  case fallback_reported =>
    intro outcome member otherReason otherReading otherWhy
    rw [shape] at member
    rcases List.mem_append.mp member with early | same
    · rw [none outcome early] at otherWhy
      cases otherWhy
    · cases List.mem_singleton.mp same
      cases why.symm.trans otherWhy
      exact ⟨⟨earlier, shape, none⟩, rfl, rfl, rfl, rfl⟩
  case completed_iff =>
    exact ⟨fun completed => (nomatch completed), fun some => absurd messages some⟩
  case completed_no_fallback => exact fun completed => nomatch completed
  case returnValue_from_ok => exact fun _ returned => nomatch returned
  case guarded_from_error =>
    intro typeName message traceback guarded
    cases telemetryError <;> cases guarded
  case not_both => exact fun both => nomatch both.1
  case neither => exact fun _ quiet => nomatch quiet

theorem report_some_eq_returned {loads : Payload → Except Raised Value} {tail : Tail Payload}
    {message : Message Payload} {result : ProtectedRunResult Value}
    (reported : report loads tail (some message) = .returned result) :
    ∃ returnValue exception, result = completedResult tail returnValue exception ∧
      (∀ value, returnValue = some value →
        ∃ payload, message = .ok payload ∧ loads payload = .ok value) ∧
      ∀ typeName text traceback,
        exception = some (.guardedProcessError typeName text traceback) →
          message = .error typeName text traceback := by
  cases message with
  | ok payload =>
      simp only [report] at reported
      cases loaded : loads payload with
      | error raised =>
          rw [loaded] at reported
          cases reported
      | ok value =>
          rw [loaded] at reported
          cases reported
          refine ⟨some value, none, rfl, fun other same => ?_,
            fun _ _ _ guarded => by cases guarded⟩
          cases same
          exact ⟨payload, rfl, loaded⟩
  | error typeName text traceback =>
      cases reported
      refine ⟨none, _, rfl, fun _ same => (by cases same), fun _ _ _ guarded => ?_⟩
      cases guarded
      rfl

theorem outcomeSound_report {policy : ViolationPolicy} {loads : Payload → Except Raised Value}
    {calls : List (Action Payload)} {tail : Tail Payload} {late : Option (Message Payload)}
    {result : ProtectedRunResult Value}
    (harmless : ∀ outcome ∈ probes calls, violation policy outcome = none)
    (messages : received calls = late.toList)
    (dead : late = none → Action.isAlive false ∈ calls)
    (reported : report loads tail late = .returned result) :
    OutcomeSound policy loads calls result := by
  have noFallback : ¬ ∃ outcome ∈ probes calls, (violation policy outcome).isSome = true := by
    rintro ⟨outcome, member, some⟩
    rw [harmless outcome member] at some
    cases some
  have unreported : ∀ outcome ∈ probes calls, ∀ reason reading,
      violation policy outcome ≠ some (reason, reading) := by
    intro outcome member reason reading why
    rw [harmless outcome member] at why
    cases why
  cases late with
  | none =>
      cases reported
      constructor
      case fallback_iff =>
        exact ⟨fun triggered => (nomatch triggered), fun some => absurd some noFallback⟩
      case fallback_reported =>
        exact fun outcome member reason reading why =>
          absurd why (unreported outcome member reason reading)
      case completed_iff =>
        exact ⟨fun completed => (nomatch completed), fun some => absurd messages some⟩
      case completed_no_fallback => exact fun _ => rfl
      case returnValue_from_ok => exact fun _ returned => nomatch returned
      case guarded_from_error => exact fun _ _ _ guarded => nomatch guarded
      case not_both => exact fun both => nomatch both.1
      case neither => exact fun _ _ => ⟨dead rfl, messages, rfl, rfl, rfl, tail.exitCode, rfl⟩
  | some message =>
      have there : message ∈ received calls := by
        rw [messages]
        exact List.mem_singleton_self message
      obtain ⟨returnValue, exception, same, fromOk, fromError⟩ :=
        report_some_eq_returned reported
      cases same
      constructor
      case fallback_iff =>
        exact ⟨fun triggered => (nomatch triggered), fun some => absurd some noFallback⟩
      case fallback_reported =>
        exact fun outcome member reason reading why =>
          absurd why (unreported outcome member reason reading)
      case completed_iff => exact ⟨fun _ => List.ne_nil_of_mem there, fun _ => rfl⟩
      case completed_no_fallback => exact fun _ => rfl
      case returnValue_from_ok =>
        intro value returned
        obtain ⟨payload, isOk, loaded⟩ := fromOk value returned
        exact ⟨payload, isOk ▸ there, loaded⟩
      case guarded_from_error =>
        intro typeName text traceback guarded
        exact fromError typeName text traceback guarded ▸ there
      case not_both => exact fun both => nomatch both.2
      case neither => exact fun completed => nomatch completed

/-- Every result `run` returns is sound for the calls it made: for every policy,
every pickle, every sequence of answers in the loop and behind it. -/
theorem run_outcome_sound (policy : ViolationPolicy) (loads : Payload → Except Raised Value)
    (iterations : List (Iteration Payload)) (tail : Tail Payload)
    (result : ProtectedRunResult Value)
    (returned : (run policy loads iterations tail).1 = some (.returned result)) :
    OutcomeSound policy loads (run policy loads iterations tail).2 result := by
  have sound := loop_sound policy iterations
  obtain ⟨noProbeT, noMessageT⟩ := terminate_silent tail
  obtain ⟨noProbeC, noMessageC⟩ := cleanUp_silent tail
  unfold run at returned ⊢
  generalize loop policy iterations = left at sound returned ⊢
  obtain ⟨exit, calls⟩ := left
  cases exit with
  | looping => cases returned
  | escaped name => cases returned
  | violation reason reading telemetryError =>
      cases returned
      apply outcomeSound_fallback loads tail telemetryError
      obtain ⟨messages, earlier, last, shape, none, why⟩ := sound
      refine ⟨?_, earlier, last, ?_, none, why⟩
      · simp only [received_append, noMessageT, noMessageC, List.append_nil]
        exact messages
      · simp only [probes_append, noProbeT, noProbeC, List.append_nil]
        exact shape
  | finished childResult =>
      obtain ⟨harmless, messages, dead⟩ := sound
      obtain ⟨noProbeL, messagesL⟩ := awaitLate_sound tail messages
      apply outcomeSound_report _ _ _ (Option.some.inj returned)
      · simp only [probes_append, noProbeL, noProbeT, noProbeC, List.append_nil]
        exact harmless
      · rw [received_append, received_append, noMessageT, noMessageC, List.append_nil,
          List.append_nil]
        exact messagesL
      · intro missing
        have never : childResult = none := by
          cases childResult with
          | none => rfl
          | some message => cases missing
        exact List.mem_append_left _ (List.mem_append_left _
          (List.mem_append_left _ (dead never)))

theorem run_outcome_sound_sample :
    let safe : Iteration Nat := ⟨none, true, none, .reading ⟨.finite 40, 0, false, .finite 1⟩⟩
    let hot : Iteration Nat := ⟨none, true, none, .reading ⟨.finite 95, 0, false, .finite 2⟩⟩
    let tail : Tail Nat := ⟨none, true, false, false, .finite 3, some (-15)⟩
    OutcomeSound ViolationPolicy.defaults (fun payload : Nat => Except.ok payload)
      (run ViolationPolicy.defaults (fun payload : Nat => Except.ok payload)
        [safe, safe, hot] tail).2
      (fallbackResult tail .temperature ⟨.finite 95, 0, false, .finite 2⟩ none) :=
  run_outcome_sound _ _ _ _ _ (by decide +kernel)

end Outcome

end Msp.Python.GuardedExecutor
