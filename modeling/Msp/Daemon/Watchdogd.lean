import Msp.Daemon.TelemetryServer
import Msp.Library.Machine

/-!
# `watchdogd`

The loop of `main` (`src/daemon/watchdogd_main.c`) with the telemetry server it
calls, the detached watchdog threads it creates, and the signals of both.  One
event is one step of one thread, or of the outside world.

The flag `watchdog_keep_running` is a block-scoped variable whose storage every
iteration reuses, so there is one flag for all threads.  `sigaction` in
`msp_install_fallback_handler` is taken to succeed.  `SIGUSR1` is pending from
`pthread_kill` until it is delivered, at any later point of the main thread.
-/

set_option autoImplicit false

namespace Msp.Daemon.Watchdogd

open Msp.Library Msp.Daemon.SandboxWatchdog Msp.Daemon.TelemetryServer

/-- A thread running `msp_telemetry_watchdog_daemon`, with the iteration of
`main`'s loop that created it. -/
structure WatchdogThread where
  born : Nat
  pc : WatchdogPc
  deriving DecidableEq, Repr

inductive MainPc where
  | loopTest
  | installHandler
  | sigsetjmp
  | cooldown
  | initKeepRunning
  | createThread
  | serving (pc : ServerPc)
  | clearKeepRunning
  | leaving
  | exited (status : Nat)
  deriving DecidableEq, Repr

structure Process where
  keepRunning : Bool
  watchdogKeepRunning : Bool
  violationFlag : Bool
  fallbackArmed : Bool
  signalPending : Bool
  iteration : Nat
  main : MainPc
  threads : List WatchdogThread
  kernel : Kernel
  deriving DecidableEq, Repr

/-- The process in front of its loop; `leftover` says that a file of somebody
else is at the socket path. -/
def start (leftover : Bool) : Process where
  keepRunning := true
  watchdogKeepRunning := false
  violationFlag := false
  fallbackArmed := false
  signalPending := false
  iteration := 0
  main := .loopTest
  threads := []
  kernel := ⟨0, [], [], if leftover then .foreign else .absent, []⟩

inductive Event where
  | main (answer : Answer)
  | watchdog (index : Nat) (telemetry : Telemetry)
  | deliver
  /-- `SIGINT` or `SIGTERM`: `handle_shutdown_signal`. -/
  | shutdown
  | connect (client : Nat)
  deriving DecidableEq, Repr

def mainStep (process : Process) : MainPc → Answer → Option Process
  | .loopTest, .ok =>
      some
        (if process.keepRunning then
          { process with
            iteration := process.iteration + 1
            violationFlag := false
            main := .installHandler }
        else { process with main := .leaving })
  | .installHandler, .ok => some { process with fallbackArmed := true, main := .sigsetjmp }
  | .sigsetjmp, .ok => some { process with main := .initKeepRunning }
  | .cooldown, .ok => some { process with main := .loopTest }
  | .initKeepRunning, .ok =>
      some { process with watchdogKeepRunning := true, main := .createThread }
  | .createThread, .ok =>
      some { process with
        threads := process.threads ++ [⟨process.iteration, .check⟩]
        main := .serving .socket }
  | .createThread, .fails => some { process with main := .exited 1 }
  | .serving pc, answer =>
      (serverStep process.keepRunning process.kernel pc answer).map fun after =>
        { process with
          kernel := after.1
          main :=
            match after.2 with
            | some next => .serving next
            | none => .clearKeepRunning }
  | .clearKeepRunning, .ok =>
      some { process with watchdogKeepRunning := false, main := .loopTest }
  | .leaving, .ok => some { process with main := .exited 0 }
  | _, _ => none

def watchdogStep (process : Process) (index : Nat) (thread : WatchdogThread)
    (telemetry : Telemetry) : Process :=
  { process with
    threads := process.threads.set index
      { thread with pc := daemonStep process.watchdogKeepRunning telemetry thread.pc }
    violationFlag := process.violationFlag || decide (thread.pc = .raiseFlag)
    signalPending := process.signalPending || decide (thread.pc = .kill) }

/-- `fallback_signal_handler` in the main thread: back to the fallback branch. -/
def deliverSignal (process : Process) : Process :=
  { process with
    signalPending := false
    main := if process.fallbackArmed then .cooldown else process.main }

def MainPc.isExited : MainPc → Bool
  | .exited _ => true
  | _ => false

def step (process : Process) (event : Event) : Option Process :=
  if process.main.isExited then none
  else
    match event with
    | .main answer => mainStep process process.main answer
    | .watchdog index telemetry =>
        (process.threads[index]?).bind fun thread =>
          if thread.pc = .finished then none
          else some (watchdogStep process index thread telemetry)
    | .deliver => if process.signalPending then some (deliverSignal process) else none
    | .shutdown => some { process with keepRunning := false }
    | .connect client =>
        (process.kernel.connect client).map fun kernel => { process with kernel := kernel }

inductive Transition (process : Process) : Event → Process → Prop where
  | enterLoop (here : process.main = .loopTest) (running : process.keepRunning = true) :
      Transition process (.main .ok)
        { process with
          iteration := process.iteration + 1
          violationFlag := false
          main := .installHandler }
  | leaveLoop (here : process.main = .loopTest) (stopped : process.keepRunning = false) :
      Transition process (.main .ok) { process with main := .leaving }
  | install (here : process.main = .installHandler) :
      Transition process (.main .ok) { process with fallbackArmed := true, main := .sigsetjmp }
  | setjmp (here : process.main = .sigsetjmp) :
      Transition process (.main .ok) { process with main := .initKeepRunning }
  | resume (here : process.main = .cooldown) :
      Transition process (.main .ok) { process with main := .loopTest }
  | initFlag (here : process.main = .initKeepRunning) :
      Transition process (.main .ok)
        { process with watchdogKeepRunning := true, main := .createThread }
  | create (here : process.main = .createThread) :
      Transition process (.main .ok)
        { process with
          threads := process.threads ++ [⟨process.iteration, .check⟩]
          main := .serving .socket }
  | createFails (here : process.main = .createThread) :
      Transition process (.main .fails) { process with main := .exited 1 }
  | serve (answer : Answer) (pc next : ServerPc) (kernel : Kernel)
      (here : process.main = .serving pc) (effect : Effect process.kernel pc kernel (some next)) :
      Transition process (.main answer) { process with kernel := kernel, main := .serving next }
  | serverReturns (answer : Answer) (pc : ServerPc) (kernel : Kernel)
      (here : process.main = .serving pc) (effect : Effect process.kernel pc kernel none) :
      Transition process (.main answer) { process with kernel := kernel, main := .clearKeepRunning }
  | clearFlag (here : process.main = .clearKeepRunning) :
      Transition process (.main .ok)
        { process with watchdogKeepRunning := false, main := .loopTest }
  | exit (here : process.main = .leaving) :
      Transition process (.main .ok) { process with main := .exited 0 }
  | thread (index : Nat) (thread : WatchdogThread) (telemetry : Telemetry)
      (found : process.threads[index]? = some thread) (alive : thread.pc ≠ .finished) :
      Transition process (.watchdog index telemetry) (watchdogStep process index thread telemetry)
  | signal (pending : process.signalPending = true) :
      Transition process .deliver (deliverSignal process)
  | shutdown : Transition process .shutdown { process with keepRunning := false }
  | connect (client : Nat) (kernel : Kernel)
      (connected : process.kernel.connect client = some kernel) :
      Transition process (.connect client) { process with kernel := kernel }

theorem transition_of_mainStep {process next : Process} {answer : Answer}
    (stepped : mainStep process process.main answer = some next) :
    Transition process (.main answer) next := by
  cases here : process.main with
  | loopTest =>
      rw [here] at stepped
      cases answer with
      | ok =>
          simp only [mainStep, Option.some.injEq] at stepped
          split at stepped
          · rename_i running
            cases stepped
            exact .enterLoop here running
          · rename_i stopped
            cases stepped
            exact .leaveLoop here (by simpa using stopped)
      | _ => cases stepped
  | installHandler =>
      rw [here] at stepped
      cases answer with
      | ok => cases stepped; exact .install here
      | _ => cases stepped
  | sigsetjmp =>
      rw [here] at stepped
      cases answer with
      | ok => cases stepped; exact .setjmp here
      | _ => cases stepped
  | cooldown =>
      rw [here] at stepped
      cases answer with
      | ok => cases stepped; exact .resume here
      | _ => cases stepped
  | initKeepRunning =>
      rw [here] at stepped
      cases answer with
      | ok => cases stepped; exact .initFlag here
      | _ => cases stepped
  | createThread =>
      rw [here] at stepped
      cases answer with
      | ok => cases stepped; exact .create here
      | fails => cases stepped; exact .createFails here
      | _ => cases stepped
  | serving pc =>
      rw [here] at stepped
      obtain ⟨⟨kernel, target⟩, served, same⟩ := Option.map_eq_some_iff.mp stepped
      cases same
      have effect := effect_of_serverStep served
      cases target with
      | some next => exact .serve answer pc next kernel here effect
      | none => exact .serverReturns answer pc kernel here effect
  | clearKeepRunning =>
      rw [here] at stepped
      cases answer with
      | ok => cases stepped; exact .clearFlag here
      | _ => cases stepped
  | leaving =>
      rw [here] at stepped
      cases answer with
      | ok => cases stepped; exact .exit here
      | _ => cases stepped
  | exited status =>
      rw [here] at stepped
      cases stepped

theorem transition_of_step {process next : Process} {event : Event}
    (stepped : step process event = some next) : Transition process event next := by
  unfold step at stepped
  split at stepped
  · cases stepped
  · cases event with
    | main answer => exact transition_of_mainStep stepped
    | watchdog index telemetry =>
        obtain ⟨thread, found, moved⟩ := Option.bind_eq_some_iff.mp stepped
        split at moved
        · cases moved
        · rename_i alive
          cases moved
          exact .thread index thread telemetry found alive
    | deliver =>
        simp only at stepped
        split at stepped
        · rename_i pending
          cases stepped
          exact .signal pending
        · cases stepped
    | shutdown =>
        cases stepped
        exact .shutdown
    | connect client =>
        obtain ⟨kernel, connected, same⟩ := Option.map_eq_some_iff.mp stepped
        cases same
        exact .connect client kernel connected

end Msp.Daemon.Watchdogd
