import Msp.Library.Machine
import Msp.Python.GuardedExecutor

/-!
# The child does not outlive `run`

Every way out of `run` passes the `finally` block, whose calls leave the child
seen dead or sent a SIGKILL.  A SIGKILL is an escalation: where `run` returns
a result, SIGTERM and the grace join came first and the child was still alive.
-/

set_option autoImplicit false

namespace Msp.Python.GuardedExecutor

open Msp.Library Msp.Python.WatchdogPolicy

section Child
variable {Value Payload : Type*}

/-- A dead child stays dead. -/
def DeathPermanent (calls : List (Action Payload)) : Prop :=
  calls.Pairwise fun earlier later => earlier = .isAlive false → later ≠ .isAlive true

instance [DecidableEq Payload] (calls : List (Action Payload)) :
    Decidable (DeathPermanent calls) :=
  inferInstanceAs (Decidable (calls.Pairwise _))

def outlivedGrace : List (Action Payload) := [.sigterm, .join, .isAlive true]

def SigkillsEscalate (calls : List (Action Payload)) : Prop :=
  ∀ before after, calls = before ++ .sigkill :: after → outlivedGrace <:+: before

theorem sigkillsEscalate_of_notMem {calls : List (Action Payload)}
    (none : Action.sigkill ∉ calls) : SigkillsEscalate calls := by
  intro before after split
  exact absurd (split ▸ List.mem_append_right _ List.mem_cons_self) none

theorem sigkillsEscalate_append {quiet : List (Action Payload)}
    (none : Action.sigkill ∉ quiet) (escalated : outlivedGrace <:+: quiet)
    (rest : List (Action Payload)) : SigkillsEscalate (quiet ++ rest) := by
  intro before after split
  obtain ⟨middle, isBefore, _⟩ := Machine.split_behind none split
  rw [isBefore]
  exact escalated.trans (List.infix_append' [] quiet middle)

theorem loop_sends_nothing (policy : ViolationPolicy) : ∀ iterations : List (Iteration Payload),
    Action.sigkill ∉ (loop policy iterations).2 := by
  intro iterations
  induction iterations with
  | nil => exact List.not_mem_nil
  | cons iteration rest ih =>
      obtain ⟨get, alive, drain, probe⟩ := iteration
      cases get with
      | some message => simp [loop]
      | none =>
          cases alive with
          | false => simp [loop]
          | true =>
              cases probe with
              | baseException name => simp [loop]
              | exception message now =>
                  cases failSafe : policy.failSafeOnTelemetryError with
                  | true => simp [loop, failSafe]
                  | false => simpa [loop, failSafe] using ih
              | reading reading =>
                  cases verdict : policy.evaluate reading with
                  | some reason => simp [loop, verdict]
                  | none => simpa [loop, verdict] using ih

theorem awaitLate_sends_nothing (tail : Tail Payload) (childResult : Option (Message Payload)) :
    Action.sigkill ∉ (awaitLate tail childResult).2 := by
  cases childResult <;> simp [awaitLate]

theorem cleanUp_ends_child (tail : Tail Payload) :
    Action.isAlive false ∈ cleanUp tail ∨ Action.sigkill ∈ cleanUp tail := by
  cases last : tail.aliveAtFinally with
  | false => simp [cleanUp, last]
  | true => simp [cleanUp, last]

theorem dead_at_finally {tail : Tail Payload} {calls : List (Action Payload)}
    (permanent : DeathPermanent (calls ++ terminate tail ++ cleanUp tail))
    (seenDead : Action.isAlive false ∈ terminate tail) : tail.aliveAtFinally = false := by
  have acrossBlocks := (List.pairwise_append.mp permanent).2.2 _
    (List.mem_append_right calls seenDead) (.isAlive tail.aliveAtFinally) List.mem_cons_self rfl
  cases last : tail.aliveAtFinally with
  | false => rfl
  | true => exact absurd (congrArg Action.isAlive last) acrossBlocks

/-- `_terminate` and then the `finally` block, after calls that sent nothing. -/
theorem terminate_then_cleanUp_escalate (tail : Tail Payload) {calls : List (Action Payload)}
    (none : Action.sigkill ∉ calls)
    (permanent : DeathPermanent (calls ++ terminate tail ++ cleanUp tail)) :
    SigkillsEscalate (calls ++ terminate tail ++ cleanUp tail) := by
  cases before : tail.aliveBeforeSigterm with
  | false =>
      have dead := dead_at_finally permanent (by simp [terminate, before])
      refine sigkillsEscalate_of_notMem ?_
      simp [terminate, cleanUp, before, dead, none]
  | true =>
      cases afterGrace : tail.aliveAfterGrace with
      | false =>
          have dead := dead_at_finally permanent (by simp [terminate, before, afterGrace])
          refine sigkillsEscalate_of_notMem ?_
          simp [terminate, cleanUp, before, afterGrace, dead, none]
      | true =>
          have regrouped : calls ++ terminate tail ++ cleanUp tail =
              (calls ++ [.isAlive true] ++ outlivedGrace) ++
                ([.sigkill, .join] ++ cleanUp tail) := by
            simp [terminate, outlivedGrace, before, afterGrace]
          rw [regrouped]
          refine sigkillsEscalate_append ?_ ?_ _
          · simp [outlivedGrace, none]
          · exact List.infix_append' _ _ []

/-- For every policy, every pickle, and every way the child, the probe and the
queue behave: when `run` is left the child is dead or killed, and a result was
never reached by killing a child that had not outlived SIGTERM and the grace
period. -/
theorem no_child_survives (policy : ViolationPolicy) (loads : Payload → Except Raised Value)
    (iterations : List (Iteration Payload)) (tail : Tail Payload) (exit : RunExit Value)
    (left : (run policy loads iterations tail).1 = some exit) :
    (Action.isAlive false ∈ (run policy loads iterations tail).2 ∨
      Action.sigkill ∈ (run policy loads iterations tail).2) ∧
    ∀ result, exit = .returned result →
      DeathPermanent (run policy loads iterations tail).2 →
        SigkillsEscalate (run policy loads iterations tail).2 := by
  have ended := cleanUp_ends_child tail
  have nothing := loop_sends_nothing policy iterations
  unfold run at left ⊢
  generalize loop policy iterations = looped at nothing left ⊢
  obtain ⟨loopExit, calls⟩ := looped
  have endedAfter : ∀ earlier, Action.isAlive false ∈ earlier ++ cleanUp tail ∨
      Action.sigkill ∈ earlier ++ cleanUp tail :=
    fun earlier => ended.imp (List.mem_append_right _) (List.mem_append_right _)
  cases loopExit with
  | looping => cases left
  | escaped name =>
      cases left
      exact ⟨endedAfter _, fun result returned => (nomatch returned)⟩
  | violation reason reading telemetryError =>
      exact ⟨endedAfter _, fun _ _ permanent =>
        terminate_then_cleanUp_escalate tail nothing permanent⟩
  | finished childResult =>
      have nothingYet : Action.sigkill ∉ calls ++ (awaitLate tail childResult).2 := by
        intro member
        rcases List.mem_append.mp member with inLoop | late
        · exact nothing inLoop
        · exact awaitLate_sends_nothing tail childResult late
      exact ⟨endedAfter _, fun _ _ permanent =>
        terminate_then_cleanUp_escalate tail nothingYet permanent⟩

theorem no_child_survives_stubborn :
    let hot : Iteration Nat := ⟨none, true, none, .reading ⟨.finite 95, 0, false, .finite 2⟩⟩
    let tail : Tail Nat := ⟨none, true, true, false, .finite 3, some (-9)⟩
    let calls := (run ViolationPolicy.defaults (fun payload : Nat => Except.ok payload)
      [hot] tail).2
    (Action.isAlive false ∈ calls ∨ Action.sigkill ∈ calls) ∧ SigkillsEscalate calls := by
  intro hot tail calls
  obtain ⟨ended, escalates⟩ := no_child_survives ViolationPolicy.defaults
    (fun payload : Nat => Except.ok payload) [hot] tail
    (.returned (fallbackResult tail .temperature ⟨.finite 95, 0, false, .finite 2⟩ none))
    (by decide +kernel)
  exact ⟨ended, escalates _ rfl (by decide +kernel)⟩

end Child

end Msp.Python.GuardedExecutor
