import Msp.Python.WatchdogPolicy

/-!
# `WatchdogGuardedExecutor`

Model of `_child_entrypoint`, `ProtectedRunResult` and
`WatchdogGuardedExecutor.run` (`src/python/msp/watchdog_control.py`).  What the
queue, the child process, the probe and the clock answer is given from outside,
one record for each iteration of the loop and one for the statements behind it;
`run` returns with the calls it made, in order.

`Value` is what a target can return and `Payload` what `pickle.dumps` makes of
it.  The clock and the probe's readings are floats.
-/

set_option autoImplicit false

namespace Msp.Python.GuardedExecutor

open Msp.Library Msp.Python.WatchdogPolicy

inductive Message (Payload : Type*) where
  | ok (payload : Payload)
  | error (typeName message traceback : String)
  deriving DecidableEq, Repr

structure Raised where
  typeName : String
  message : String
  traceback : String
  deriving DecidableEq, Repr

/-- `_child_entrypoint`, given how the target ends and what pickling does. -/
def childEntrypoint {Value Payload : Type*} (dumps : Value → Except Raised Payload) :
    Except Raised Value → Message Payload
  | .error raised => .error raised.typeName raised.message raised.traceback
  | .ok value =>
      match dumps value with
      | .error raised =>
          .error "PicklingError" ("return value could not be pickled: " ++ raised.message)
            raised.traceback
      | .ok payload => .ok payload

inductive PyException where
  | runtimeError (message : String)
  | guardedProcessError (originalTypeName message childTraceback : String)
  deriving DecidableEq, Repr

def PyException.text : PyException → String
  | .runtimeError message => message
  | .guardedProcessError originalTypeName message _ => originalTypeName ++ ": " ++ message

structure ProtectedRunResult (Value : Type*) where
  completed : Bool
  fallbackTriggered : Bool
  fallbackReason : Option FallbackReason
  violationTelemetry : Option TelemetryReading
  returnValue : Option Value
  exception : Option PyException
  elapsedS : FloatValue
  deriving DecidableEq, Repr

def ProtectedRunResult.raiseIfError {Value : Type*} (result : ProtectedRunResult Value) :
    Except PyException Unit :=
  match result.exception with
  | some exception => .error exception
  | none => .ok ()

/-! ## The parent -/

/-- How a call of the probe ends.  An `Exception` comes with its text and the
time read while handling it; anything else, a `KeyboardInterrupt` say, leaves `run`. -/
inductive ProbeOutcome where
  | reading (reading : TelemetryReading)
  | exception (message : String) (now : FloatValue)
  | baseException (name : String)
  deriving DecidableEq, Repr

/-- What one iteration of the loop would be answered by the calls it may make. -/
structure Iteration (Payload : Type*) where
  get : Option (Message Payload)
  alive : Bool
  drain : Option (Message Payload)
  probe : ProbeOutcome
  deriving DecidableEq, Repr

structure Tail (Payload : Type*) where
  lateGet : Option (Message Payload)
  aliveBeforeSigterm : Bool
  aliveAfterGrace : Bool
  aliveAtFinally : Bool
  elapsedS : FloatValue
  exitCode : Option Int
  deriving DecidableEq, Repr

inductive Action (Payload : Type*) where
  | get (answer : Option (Message Payload))
  | getNowait (answer : Option (Message Payload))
  | isAlive (answer : Bool)
  | probe (outcome : ProbeOutcome)
  | sigterm
  | sigkill
  | join
  | closeQueue
  | joinQueueThread
  deriving DecidableEq, Repr

section Run
variable {Value Payload : Type*}

/-- How the loop is left.  A violation carries the text of the probe's
exception when that is what it was. -/
inductive LoopExit (Payload : Type*) where
  | finished (childResult : Option (Message Payload))
  | violation (reason : FallbackReason) (reading : TelemetryReading)
      (telemetryError : Option String)
  | escaped (name : String)
  | looping
  deriving DecidableEq, Repr

def standInReading (now : FloatValue) : TelemetryReading := ⟨.posInf, 0, false, now⟩

def loop (policy : ViolationPolicy) :
    List (Iteration Payload) → LoopExit Payload × List (Action Payload)
  | [] => (.looping, [])
  | iteration :: rest =>
      match iteration.get with
      | some message => (.finished (some message), [.get (some message)])
      | none =>
          if iteration.alive then
            let calls := [.get none, .isAlive true, .probe iteration.probe]
            match iteration.probe with
            | .baseException name => (.escaped name, calls)
            | .exception message now =>
                if policy.failSafeOnTelemetryError then
                  (.violation .telemetryError (standInReading now) (some message), calls)
                else ((loop policy rest).1, calls ++ (loop policy rest).2)
            | .reading reading =>
                match policy.evaluate reading with
                | some reason => (.violation reason reading none, calls)
                | none => ((loop policy rest).1, calls ++ (loop policy rest).2)
          else
            (.finished iteration.drain,
              [.get none, .isAlive false, .getNowait iteration.drain])

def terminate (tail : Tail Payload) : List (Action Payload) :=
  .isAlive tail.aliveBeforeSigterm ::
    if tail.aliveBeforeSigterm then
      .sigterm :: .join :: .isAlive tail.aliveAfterGrace ::
        if tail.aliveAfterGrace then [.sigkill, .join] else []
    else []

def cleanUp (tail : Tail Payload) : List (Action Payload) :=
  .isAlive tail.aliveAtFinally ::
    ((if tail.aliveAtFinally then [.sigkill, .join] else []) ++ [.closeQueue, .joinQueueThread])

/-- How `run` is left: with a result, with an exception of the probe that is no
`Exception`, or with one of `pickle.loads`. -/
inductive RunExit (Value : Type*) where
  | returned (result : ProtectedRunResult Value)
  | escaped (name : String)
  | loadsRaised (raised : Raised)
  deriving DecidableEq, Repr

def exitCodeText : Option Int → String
  | none => "None"
  | some code => toString code

def fallbackResult (tail : Tail Payload) (reason : FallbackReason) (reading : TelemetryReading)
    (telemetryError : Option String) : ProtectedRunResult Value where
  completed := false
  fallbackTriggered := true
  fallbackReason := some reason
  violationTelemetry := some reading
  returnValue := none
  exception := telemetryError.map fun message =>
    .runtimeError ("telemetry probe failed: " ++ message)
  elapsedS := tail.elapsedS

def vanishedResult (tail : Tail Payload) : ProtectedRunResult Value where
  completed := false
  fallbackTriggered := false
  fallbackReason := none
  violationTelemetry := none
  returnValue := none
  exception := some (.runtimeError
    ("guarded process exited without producing a result (exit code " ++
      exitCodeText tail.exitCode ++ ")"))
  elapsedS := tail.elapsedS

def completedResult (tail : Tail Payload) (returnValue : Option Value)
    (exception : Option PyException) : ProtectedRunResult Value where
  completed := true
  fallbackTriggered := false
  fallbackReason := none
  violationTelemetry := none
  returnValue := returnValue
  exception := exception
  elapsedS := tail.elapsedS

def report (loads : Payload → Except Raised Value) (tail : Tail Payload) :
    Option (Message Payload) → RunExit Value
  | none => .returned (vanishedResult tail)
  | some (.ok payload) =>
      match loads payload with
      | .ok value => .returned (completedResult tail (some value) none)
      | .error raised => .loadsRaised raised
  | some (.error typeName message traceback) =>
      .returned (completedResult tail none
        (some (.guardedProcessError typeName message traceback)))

def awaitLate (tail : Tail Payload) :
    Option (Message Payload) → Option (Message Payload) × List (Action Payload)
  | some message => (some message, [])
  | none => (tail.lateGet, [.get tail.lateGet])

/-- `run`; nothing is left behind while it is still in its loop. -/
def run (policy : ViolationPolicy) (loads : Payload → Except Raised Value)
    (iterations : List (Iteration Payload)) (tail : Tail Payload) :
    Option (RunExit Value) × List (Action Payload) :=
  let (exit, calls) := loop policy iterations
  match exit with
  | .looping => (none, calls)
  | .escaped name => (some (.escaped name), calls ++ cleanUp tail)
  | .violation reason reading telemetryError =>
      (some (.returned (fallbackResult tail reason reading telemetryError)),
        calls ++ terminate tail ++ cleanUp tail)
  | .finished childResult =>
      let (late, lateCalls) := awaitLate tail childResult
      (some (report loads tail late), calls ++ lateCalls ++ terminate tail ++ cleanUp tail)

end Run

end Msp.Python.GuardedExecutor
