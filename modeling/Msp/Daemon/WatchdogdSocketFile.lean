import Msp.Daemon.WatchdogdDescriptors

/-!
# The socket file of `watchdogd` at shutdown

The server removes its socket file on its way out.  A fallback jumps past that,
and if the shutdown signal comes before the next server call gets to its stale
`unlink`, nothing ever removes the file.
-/

set_option autoImplicit false

namespace Msp.Daemon.Watchdogd

open Msp.Library Msp.Daemon.TelemetryServer

def MainPc.bound : MainPc → Bool
  | .serving pc => pc.bound
  | _ => false

def MainPc.unlinks : MainPc → Bool
  | .serving pc => pc.unlinks
  | _ => false

/-- How one step changes whether a jump has left a bound path behind: a jump out
of the bound part does, the next `unlink` of the path makes up for it. -/
def abandonedNext (process : Process) (event : Event) (abandoned : Bool) : Bool :=
  match event with
  | .main _ => abandoned && !process.main.unlinks
  | .deliver => abandoned || (process.fallbackArmed && process.main.bound)
  | _ => abandoned

/-- Whether, after the run, a jump out of the bound part of a server call has
not been made up for. -/
def abandonedAfter : List Event → Process → Bool → Bool
  | [], _, abandoned => abandoned
  | event :: rest, process, abandoned =>
      match step process event with
      | none => abandoned
      | some next => abandonedAfter rest next (abandonedNext process event abandoned)

/-- The file at the path is ours exactly in the bound part of a server call and
while one is abandoned. -/
def FileAccounted (process : Process) (abandoned : Bool) : Prop :=
  process.kernel.socketFile.ours = (process.main.bound || abandoned)

theorem fileAccounted_start (leftover : Bool) : FileAccounted (start leftover) false := by
  cases leftover <;> rfl

theorem ours_connect {kernel after : Kernel} {client : Nat}
    (connected : kernel.connect client = some after) : after.socketFile = kernel.socketFile := by
  obtain ⟨fd, same⟩ := connect_eq_some connected
  rw [same]
  rfl

theorem ours_effect {kernel after : Kernel} {pc : ServerPc} {next : Option ServerPc}
    {abandoned : Bool} (accounted : kernel.socketFile.ours = (pc.bound || abandoned))
    (effect : Effect kernel pc after next) :
    after.socketFile.ours = (boundAt next || (abandoned && !pc.unlinks)) := by
  have untouched : ∀ {file : SocketFile}, file = kernel.socketFile → boundAt next = pc.bound →
      pc.unlinks = false → file.ours = (boundAt next || (abandoned && !pc.unlinks)) := by
    intro file sameFile bound keeps
    rw [sameFile, accounted, bound, keeps, Bool.not_false, Bool.and_true]
  cases effect with
  | quiet _ _ _ _ _ sameFile _ bound keeps => exact untouched sameFile bound keeps
  | opened _ _ bound keeps => exact untouched rfl bound keeps
  | accepted _ _ _ bound keeps => exact untouched rfl bound keeps
  | closed _ _ _ bound keeps => exact untouched rfl bound keeps
  | bound fd _ free _ bound keeps =>
      rw [bound, Bool.true_or]
      rfl
  | listening _ _ _ _ bound keeps => exact untouched rfl bound keeps
  | unlinked _ _ _ _ _ gone _ bound removes =>
      rw [gone, bound, removes, Bool.not_true, Bool.and_false, Bool.false_or]

theorem fileAccounted_step {process next : Process} {event : Event} {abandoned : Bool}
    (accounted : FileAccounted process abandoned) (stepped : step process event = some next) :
    FileAccounted next (abandonedNext process event abandoned) := by
  unfold FileAccounted abandonedNext at *
  cases transition_of_step stepped with
  | serve answer pc target kernel here effect =>
      rw [here] at accounted ⊢
      exact ours_effect accounted effect
  | serverReturns answer pc kernel here effect =>
      rw [here] at accounted ⊢
      exact ours_effect accounted effect
  | signal pending =>
      simp only [deliverSignal]
      cases process.fallbackArmed with
      | false => simpa using accounted
      | true =>
          rw [accounted]
          simp only [if_true, MainPc.bound, Bool.false_or, Bool.true_and]
          exact Bool.or_comm _ _
  | connect client kernel connected =>
      simp only [ours_connect connected]
      exact accounted
  | thread index thread telemetry found alive => exact accounted
  | shutdown => exact accounted
  | enterLoop here running => simpa [here, MainPc.bound, MainPc.unlinks] using accounted
  | leaveLoop here stopped => simpa [here, MainPc.bound, MainPc.unlinks] using accounted
  | _ =>
      rename_i here
      simpa [here, MainPc.bound, MainPc.unlinks, ServerPc.bound] using accounted

theorem fileAccounted_run : ∀ (events : List Event) (process final : Process) (abandoned : Bool),
    FileAccounted process abandoned → Machine.run step events process = some final →
      FileAccounted final (abandonedAfter events process abandoned) := by
  intro events
  induction events with
  | nil =>
      intro process final abandoned accounted ran
      cases Option.some.inj ran
      exact accounted
  | cons event rest ih =>
      intro process final abandoned accounted ran
      obtain ⟨next, stepped, restRan⟩ := Machine.run_cons_eq_some.mp ran
      simp only [abandonedAfter, stepped]
      exact ih next final _ (fileAccounted_step accounted stepped) restRan

/-- When main returns 0, no socket file of this process is at the path exactly
when every jump out of the bound part of a server call was followed by an
`unlink` of a later call. -/
theorem no_socket_file_iff (leftover : Bool) (events : List Event) (final : Process)
    (ran : Machine.run step events (start leftover) = some final)
    (returned : final.main = .exited 0) :
    final.kernel.socketFile.ours = false ↔
      abandonedAfter events (start leftover) false = false := by
  have accounted := fileAccounted_run events _ final false (fileAccounted_start leftover) ran
  rw [FileAccounted, returned] at accounted
  rw [accounted]
  simp [MainPc.bound]

def shutDownWhileServing : List Event :=
  serveUntilSelect ++ .shutdown :: .main .fails :: List.replicate 6 (.main .ok)

def shutDownAfterRestart : List Event :=
  serveUntilSelect ++ violate 0 ++ .deliver :: .main .ok ::
    (List.replicate 9 (.main .ok) ++ .shutdown :: List.replicate 6 (.main .ok))

theorem no_socket_file_iff_sample :
    (∃ final, Machine.run step shutDownWhileServing (start false) = some final ∧
        final.kernel.socketFile.ours = false) ∧
      ∃ final, Machine.run step shutDownAfterRestart (start false) = some final ∧
        final.kernel.socketFile.ours = false :=
  ⟨⟨_, rfl, (no_socket_file_iff false shutDownWhileServing _ rfl rfl).mpr (by decide)⟩,
    ⟨_, rfl, (no_socket_file_iff false shutDownAfterRestart _ rfl rfl).mpr (by decide)⟩⟩

/-- A violation interrupts the server, the shutdown signal comes during the
cooldown, and main returns 0 with the socket file still there. -/
theorem socket_file_left :
    ∃ cooling final,
      Machine.run step (serveUntilSelect ++ violate 0 ++ [.deliver]) (start false) = some cooling ∧
        cooling.main = .cooldown ∧ cooling.kernel.socketFile = .boundTo 0 ∧
        Machine.run step [.shutdown, .main .ok, .main .ok, .main .ok] cooling = some final ∧
        final.main = .exited 0 ∧ final.kernel.socketFile = .boundTo 0 :=
  ⟨_, _, rfl, rfl, rfl, rfl, rfl, rfl⟩

end Msp.Daemon.Watchdogd
