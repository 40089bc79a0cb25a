import Msp.Python.GuardedExecutorOutcome

/-!
# A return value on its way to the parent

The child pickles what the target returned, the parent unpickles it.  Without a
violation and without a crash the child's message reaches `report`, by the
loop's `get`, by the drain of a dead child's queue, or by the last `get`; what
then decides is the second half of the crossing.
-/

set_option autoImplicit false

namespace Msp.Python.GuardedExecutor

open Msp.Library Msp.Python.WatchdogPolicy

section Value
variable {Value Payload : Type*}

/-- Nothing to read yet, the child alive, and the probe neither a violation nor
a way out. -/
structure Quiet (policy : ViolationPolicy) (iteration : Iteration Payload) : Prop where
  nothingYet : iteration.get = none
  alive : iteration.alive = true
  harmless : violation policy iteration.probe = none
  stays : ∀ name, iteration.probe ≠ .baseException name

def Delivers (message : Message Payload) (iteration : Iteration Payload) (tail : Tail Payload) :
    Prop :=
  iteration.get = some message ∨
    (iteration.get = none ∧ iteration.alive = false ∧
      (iteration.drain = some message ∨
        (iteration.drain = none ∧ tail.lateGet = some message)))

theorem loop_quiet {policy : ViolationPolicy} {iteration : Iteration Payload}
    (quiet : Quiet policy iteration) (rest : List (Iteration Payload)) :
    (loop policy (iteration :: rest)).1 = (loop policy rest).1 := by
  obtain ⟨get, alive, drain, probe⟩ := iteration
  obtain ⟨nothingYet, isAlive, harmless, stays⟩ := quiet
  cases nothingYet
  cases isAlive
  cases probe with
  | baseException name => exact absurd rfl (stays name)
  | exception message now =>
      have ignored : policy.failSafeOnTelemetryError = false := by
        simpa [violation] using harmless
      simp [loop, ignored]
  | reading reading =>
      have within : policy.evaluate reading = none := by
        simpa [violation] using harmless
      simp [loop, within]

theorem loop_quiet_steps {policy : ViolationPolicy} (last : List (Iteration Payload)) :
    ∀ earlier : List (Iteration Payload), (∀ iteration ∈ earlier, Quiet policy iteration) →
      (loop policy (earlier ++ last)).1 = (loop policy last).1 := by
  intro earlier
  induction earlier with
  | nil => intro _; rfl
  | cons iteration rest ih =>
      intro quiet
      rw [List.cons_append, loop_quiet (quiet iteration List.mem_cons_self)]
      exact ih fun other member => quiet other (List.mem_cons_of_mem _ member)

theorem loop_delivers (policy : ViolationPolicy) {message : Message Payload}
    {iteration : Iteration Payload} {tail : Tail Payload} (rest : List (Iteration Payload))
    (delivers : Delivers message iteration tail) :
    ∃ childResult, (loop policy (iteration :: rest)).1 = .finished childResult ∧
      (awaitLate tail childResult).1 = some message := by
  obtain ⟨get, alive, drain, probe⟩ := iteration
  rcases delivers with atOnce | ⟨nothing, dead, drained | ⟨empty, late⟩⟩
  · cases atOnce
    exact ⟨some message, rfl, rfl⟩
  · cases nothing
    cases dead
    cases drained
    exact ⟨some message, rfl, rfl⟩
  · cases nothing
    cases dead
    cases empty
    exact ⟨none, rfl, late⟩

theorem run_finished {policy : ViolationPolicy} (loads : Payload → Except Raised Value)
    {iterations : List (Iteration Payload)} (tail : Tail Payload)
    {childResult : Option (Message Payload)}
    (finished : (loop policy iterations).1 = .finished childResult) :
    (run policy loads iterations tail).1 =
      some (report loads tail (awaitLate tail childResult).1) := by
  unfold run
  generalize loop policy iterations = looped at finished ⊢
  obtain ⟨exit, calls⟩ := looped
  cases finished
  rfl

theorem run_delivered {policy : ViolationPolicy} (loads : Payload → Except Raised Value)
    {message : Message Payload} {earlier rest : List (Iteration Payload)}
    {last : Iteration Payload} {tail : Tail Payload}
    (quiet : ∀ iteration ∈ earlier, Quiet policy iteration)
    (delivers : Delivers message last tail) :
    (run policy loads (earlier ++ last :: rest) tail).1 =
      some (report loads tail (some message)) := by
  obtain ⟨childResult, finished, awaited⟩ := loop_delivers policy rest delivers
  rw [run_finished loads tail ((loop_quiet_steps (last :: rest) earlier quiet).trans finished),
    awaited]

/-- `run` returns with the target's value, or with why it could not cross. -/
def ReportsValue (dumps : Value → Except Raised Payload) (loads : Payload → Except Raised Value)
    (value : Value) (exit : Option (RunExit Value)) : Prop :=
  ∃ result, exit = some (.returned result) ∧ result.completed = true ∧
    ((∃ payload loaded, dumps value = .ok payload ∧ loads payload = .ok loaded ∧
        result.returnValue = some loaded) ∨
      ∃ typeName message traceback,
        result.exception = some (.guardedProcessError typeName message traceback))

def LoadsFails (dumps : Value → Except Raised Payload) (loads : Payload → Except Raised Value)
    (value : Value) : Prop :=
  ∃ payload raised, dumps value = .ok payload ∧ loads payload = .error raised

/-- In a run without violation or crash the value is reported exactly when the
parent does not fail to unpickle it; then `run` itself raises. -/
theorem value_reported_iff (policy : ViolationPolicy) (dumps : Value → Except Raised Payload)
    (loads : Payload → Except Raised Value) (value : Value)
    (earlier rest : List (Iteration Payload)) (last : Iteration Payload) (tail : Tail Payload)
    (quiet : ∀ iteration ∈ earlier, Quiet policy iteration)
    (delivers : Delivers (childEntrypoint dumps (.ok value)) last tail) :
    ReportsValue dumps loads value (run policy loads (earlier ++ last :: rest) tail).1 ↔
      ¬ LoadsFails dumps loads value := by
  rw [run_delivered loads quiet delivers]
  cases dumped : dumps value with
  | error raised =>
      have reported : ReportsValue dumps loads value
          (some (report loads tail (some (childEntrypoint dumps (.ok value))))) := by
        simp only [childEntrypoint, dumped, report]
        exact ⟨_, rfl, rfl, Or.inr ⟨_, _, _, rfl⟩⟩
      refine iff_of_true reported ?_
      rintro ⟨payload, _, isPayload, _⟩
      cases dumped.symm.trans isPayload
  | ok payload =>
      cases loaded : loads payload with
      | ok value' =>
          have reported : ReportsValue dumps loads value
              (some (report loads tail (some (childEntrypoint dumps (.ok value))))) := by
            simp only [childEntrypoint, dumped, report, loaded]
            exact ⟨_, rfl, rfl, Or.inl ⟨payload, value', dumped, loaded, rfl⟩⟩
          refine iff_of_true reported ?_
          rintro ⟨other, raised, isPayload, fails⟩
          cases dumped.symm.trans isPayload
          cases loaded.symm.trans fails
      | error raised =>
          refine iff_of_false ?_ (not_not_intro ⟨payload, raised, dumped, loaded⟩)
          rintro ⟨result, returned, _⟩
          simp only [childEntrypoint, dumped, report, loaded] at returned
          cases returned

/-- A value of the kind `dumps` accepts and `loads` refuses, such as an exception
whose constructor takes other arguments than it hands to its base class. -/
theorem unloadable_value_escapes :
    let dumps : String → Except Raised String := fun _ => .ok "bytes"
    let loads : String → Except Raised String := fun _ =>
      .error ⟨"TypeError", "__init__() missing 1 required positional argument: 'code'", ""⟩
    let last : Iteration String := ⟨some (.ok "bytes"), true, none, .baseException ""⟩
    let tail : Tail String := ⟨none, false, false, false, .finite 1, some 0⟩
    Delivers (childEntrypoint dumps (.ok "error")) last tail ∧
      ¬ ReportsValue dumps loads "error" (run ViolationPolicy.defaults loads [last] tail).1 := by
  intro dumps loads last tail
  refine ⟨Or.inl rfl, ?_⟩
  rintro ⟨result, returned, _⟩
  cases returned

theorem value_reported_iff_unpicklable :
    let refuses : String → Except Raised String := fun _ =>
      .error ⟨"PicklingError", "Can't pickle <function <lambda>>", "Traceback"⟩
    let last : Iteration String :=
      ⟨some (childEntrypoint refuses (.ok "lambda")), true, none, .baseException ""⟩
    let tail : Tail String := ⟨none, false, false, false, .finite 1, some 0⟩
    ReportsValue refuses (fun payload => .ok payload) "lambda"
        (run ViolationPolicy.defaults (fun payload => .ok payload) [last] tail).1 ↔
      ¬ LoadsFails refuses (fun payload : String => .ok payload) "lambda" := by
  intro refuses last tail
  exact value_reported_iff ViolationPolicy.defaults refuses (fun payload => .ok payload) "lambda"
    [] [] last tail (fun _ member => (nomatch member)) (Or.inl rfl)

end Value

end Msp.Python.GuardedExecutor
