import Msp.Daemon.TelemetryLine

/-!
# The telemetry server

`msp_telemetry_server_run` (`src/daemon/telemetry_server.c`) as a program
counter that carries the function's local descriptors, stepping against the part
of the kernel it uses.  Each step consumes what the system call of that line
answers.

Descriptors are numbered in the order they are opened and never reused, so a
number names one open socket.  `unlink` of a socket file the process itself has
made succeeds; of any other file at the path it may fail.
-/

set_option autoImplicit false

namespace Msp.Daemon.TelemetryServer

open Msp.Daemon.SandboxWatchdog Msp.Daemon.TelemetryLine

structure Listener where
  fd : Nat
  queue : List Nat
  deriving DecidableEq, Repr

/-- What is at the configured path: nothing, a file of somebody else, or the
socket file made by binding the descriptor. -/
inductive SocketFile where
  | absent
  | foreign
  | boundTo (fd : Nat)
  deriving DecidableEq, Repr

def SocketFile.ours : SocketFile → Bool
  | .boundTo _ => true
  | _ => false

structure Kernel where
  nextFd : Nat
  openFds : List Nat
  listeners : List Listener
  socketFile : SocketFile
  sent : List (Nat × List UInt8)
  deriving DecidableEq, Repr

namespace Kernel

def openFd (kernel : Kernel) : Kernel :=
  { kernel with nextFd := kernel.nextFd + 1, openFds := kernel.openFds ++ [kernel.nextFd] }

/-- `close`; whoever waits on a closed listener is disconnected. -/
def close (kernel : Kernel) (fd : Nat) : Kernel :=
  { kernel with
    openFds := kernel.openFds.filter fun other => decide (other ≠ fd)
    listeners := kernel.listeners.filter fun listener => decide (listener.fd ≠ fd) }

def bind (kernel : Kernel) (fd : Nat) : Kernel := { kernel with socketFile := .boundTo fd }

def listen (kernel : Kernel) (fd : Nat) : Kernel :=
  { kernel with listeners := kernel.listeners ++ [⟨fd, []⟩] }

def updateQueue (kernel : Kernel) (fd : Nat) (update : List Nat → List Nat) : Kernel :=
  { kernel with
    listeners := kernel.listeners.map fun listener =>
      if listener.fd = fd then { listener with queue := update listener.queue } else listener }

def waiting (kernel : Kernel) (fd : Nat) : Bool :=
  kernel.listeners.any fun listener => decide (listener.fd = fd ∧ listener.queue ≠ [])

def accept (kernel : Kernel) (fd : Nat) : Kernel := (kernel.updateQueue fd List.tail).openFd

def send (kernel : Kernel) (fd : Nat) (bytes : List UInt8) : Kernel :=
  { kernel with sent := kernel.sent ++ [(fd, bytes)] }

def unlinked (kernel : Kernel) : Kernel := { kernel with socketFile := .absent }

/-- A client connects by the path; refused unless the socket there is listening. -/
def connect (kernel : Kernel) (client : Nat) : Option Kernel :=
  match kernel.socketFile with
  | .boundTo fd =>
      if kernel.listeners.any fun listener => decide (listener.fd = fd) then
        some (kernel.updateQueue fd (· ++ [client]))
      else none
  | _ => none

end Kernel

inductive Answer where
  | ok
  | fails
  | interrupted
  | reading (telemetry : Telemetry)
  | wrote (count : Nat)
  deriving DecidableEq, Repr

def Kernel.unlink (kernel : Kernel) : Answer → Option Kernel
  | .ok => if kernel.socketFile = .absent then none else some kernel.unlinked
  | .fails => if kernel.socketFile.ours then none else some kernel
  | _ => none

inductive ServerPc where
  | socket
  | unlinkStale (listenFd : Nat)
  | bind (listenFd : Nat)
  | closeUnbound (listenFd : Nat)
  | listen (listenFd : Nat)
  | closeDeaf (listenFd : Nat)
  | unlinkDeaf
  | loopTest (listenFd : Nat)
  | select (listenFd : Nat)
  | accept (listenFd : Nat)
  | readTelemetry (listenFd connFd : Nat)
  | write (listenFd connFd : Nat) (rest : List UInt8)
  | closeConnection (listenFd connFd : Nat)
  | closeListener (listenFd : Nat)
  | unlinkPath
  deriving DecidableEq, Repr

def writeLoop (listenFd connFd : Nat) (rest : List UInt8) : ServerPc :=
  if rest = [] then .closeConnection listenFd connFd else .write listenFd connFd rest

/-- One step; no program counter is left when the function returns. -/
def serverStep (keepRunning : Bool) (kernel : Kernel) :
    ServerPc → Answer → Option (Kernel × Option ServerPc)
  | .socket, .ok => some (kernel.openFd, some (.unlinkStale kernel.nextFd))
  | .socket, .fails => some (kernel, none)
  | .unlinkStale fd, answer =>
      (kernel.unlink answer).map fun after => (after, some (.bind fd))
  | .bind fd, .ok =>
      if kernel.socketFile = .absent then some (kernel.bind fd, some (.listen fd)) else none
  | .bind fd, .fails => some (kernel, some (.closeUnbound fd))
  | .closeUnbound fd, .ok => some (kernel.close fd, none)
  | .listen fd, .ok => some (kernel.listen fd, some (.loopTest fd))
  | .listen fd, .fails => some (kernel, some (.closeDeaf fd))
  | .closeDeaf fd, .ok => some (kernel.close fd, some .unlinkDeaf)
  | .unlinkDeaf, answer => (kernel.unlink answer).map fun after => (after, none)
  | .loopTest fd, .ok =>
      some (kernel, some (if keepRunning then .select fd else .closeListener fd))
  | .select fd, .ok => some (kernel, some (.accept fd))
  | .select fd, .fails => some (kernel, some (.loopTest fd))
  | .accept fd, .ok =>
      if kernel.waiting fd then
        some (kernel.accept fd, some (.readTelemetry fd kernel.nextFd))
      else none
  | .accept fd, .fails => some (kernel, some (.loopTest fd))
  | .readTelemetry fd conn, .reading telemetry =>
      some (kernel, some (writeLoop fd conn (telemetryLine telemetry)))
  | .write fd conn rest, .wrote count =>
      if count ≤ rest.length then
        some (kernel.send conn (rest.take count), some (writeLoop fd conn (rest.drop count)))
      else none
  | .write fd conn rest, .interrupted => some (kernel, some (.write fd conn rest))
  | .write fd conn _, .fails => some (kernel, some (.closeConnection fd conn))
  | .closeConnection fd conn, .ok => some (kernel.close conn, some (.loopTest fd))
  | .closeListener fd, .ok => some (kernel.close fd, some .unlinkPath)
  | .unlinkPath, answer => (kernel.unlink answer).map fun after => (after, none)
  | _, _ => none

def ServerPc.descriptors : ServerPc → List Nat
  | .socket | .unlinkDeaf | .unlinkPath => []
  | .unlinkStale fd | .bind fd | .closeUnbound fd | .listen fd | .closeDeaf fd | .loopTest fd
  | .select fd | .accept fd | .closeListener fd => [fd]
  | .readTelemetry fd conn | .write fd conn _ | .closeConnection fd conn => [fd, conn]

/-- Between a successful `bind` and the `unlink` that undoes it. -/
def ServerPc.bound : ServerPc → Bool
  | .socket | .unlinkStale _ | .bind _ | .closeUnbound _ => false
  | _ => true

def ServerPc.unlinks : ServerPc → Bool
  | .unlinkStale _ | .unlinkDeaf | .unlinkPath => true
  | _ => false

def descriptorsOf : Option ServerPc → List Nat
  | none => []
  | some pc => pc.descriptors

def boundAt : Option ServerPc → Bool
  | none => false
  | some pc => pc.bound

inductive Effect (kernel : Kernel) (pc : ServerPc) : Kernel → Option ServerPc → Prop where
  | quiet (after : Kernel) (next : Option ServerPc)
      (sameFds : after.openFds = kernel.openFds) (sameNext : after.nextFd = kernel.nextFd)
      (sameListeners : after.listeners = kernel.listeners)
      (sameFile : after.socketFile = kernel.socketFile)
      (descriptors : descriptorsOf next = pc.descriptors) (bound : boundAt next = pc.bound)
      (keeps : pc.unlinks = false) : Effect kernel pc after next
  | opened (next : Option ServerPc)
      (descriptors : descriptorsOf next = pc.descriptors ++ [kernel.nextFd])
      (bound : boundAt next = pc.bound) (keeps : pc.unlinks = false) :
      Effect kernel pc kernel.openFd next
  | accepted (fd : Nat) (next : Option ServerPc)
      (descriptors : descriptorsOf next = pc.descriptors ++ [kernel.nextFd])
      (bound : boundAt next = pc.bound) (keeps : pc.unlinks = false) :
      Effect kernel pc (kernel.accept fd) next
  | closed (fd : Nat) (next : Option ServerPc)
      (descriptors : pc.descriptors = descriptorsOf next ++ [fd])
      (bound : boundAt next = pc.bound) (keeps : pc.unlinks = false) :
      Effect kernel pc (kernel.close fd) next
  | bound (fd : Nat) (next : Option ServerPc) (free : kernel.socketFile = .absent)
      (descriptors : descriptorsOf next = pc.descriptors) (bound : boundAt next = true)
      (keeps : pc.unlinks = false) : Effect kernel pc (kernel.bind fd) next
  | listening (fd : Nat) (next : Option ServerPc) (held : fd ∈ pc.descriptors)
      (descriptors : descriptorsOf next = pc.descriptors) (bound : boundAt next = pc.bound)
      (keeps : pc.unlinks = false) : Effect kernel pc (kernel.listen fd) next
  | unlinked (after : Kernel) (next : Option ServerPc)
      (sameFds : after.openFds = kernel.openFds) (sameNext : after.nextFd = kernel.nextFd)
      (sameListeners : after.listeners = kernel.listeners) (gone : after.socketFile.ours = false)
      (descriptors : descriptorsOf next = pc.descriptors) (bound : boundAt next = false)
      (removes : pc.unlinks = true) : Effect kernel pc after next

theorem unlink_eq_some {kernel after : Kernel} {answer : Answer}
    (done : kernel.unlink answer = some after) :
    after.openFds = kernel.openFds ∧ after.nextFd = kernel.nextFd ∧
      after.listeners = kernel.listeners ∧ after.socketFile.ours = false := by
  cases answer with
  | ok =>
      simp only [Kernel.unlink] at done
      split at done
      · cases done
      · cases done
        exact ⟨rfl, rfl, rfl, rfl⟩
  | fails =>
      simp only [Kernel.unlink] at done
      split at done
      · cases done
      · rename_i foreign
        cases done
        exact ⟨rfl, rfl, rfl, by simpa using foreign⟩
  | interrupted => cases done
  | reading telemetry => cases done
  | wrote count => cases done

theorem descriptors_writeLoop (listenFd connFd : Nat) (rest : List UInt8) :
    (writeLoop listenFd connFd rest).descriptors = [listenFd, connFd] := by
  unfold writeLoop
  split <;> rfl

theorem bound_writeLoop (listenFd connFd : Nat) (rest : List UInt8) :
    (writeLoop listenFd connFd rest).bound = true := by
  unfold writeLoop
  split <;> rfl

theorem effect_unlink {kernel after : Kernel} {pc : ServerPc} {answer : Answer}
    {target next : Option ServerPc}
    (stepped : ((kernel.unlink answer).map fun unlinked => (unlinked, target)) =
      some (after, next))
    (descriptors : descriptorsOf target = pc.descriptors) (bound : boundAt target = false)
    (removes : pc.unlinks = true) : Effect kernel pc after next := by
  obtain ⟨unlinked, done, same⟩ := Option.map_eq_some_iff.mp stepped
  cases same
  obtain ⟨sameFds, sameNext, sameListeners, gone⟩ := unlink_eq_some done
  exact .unlinked _ _ sameFds sameNext sameListeners gone descriptors bound removes

theorem effect_of_serverStep {keepRunning : Bool} {kernel after : Kernel} {pc : ServerPc}
    {answer : Answer} {next : Option ServerPc}
    (stepped : serverStep keepRunning kernel pc answer = some (after, next)) :
    Effect kernel pc after next := by
  cases pc with
  | socket =>
      cases answer with
      | ok => cases stepped; exact .opened _ rfl rfl rfl
      | fails => cases stepped; exact .quiet _ _ rfl rfl rfl rfl rfl rfl rfl
      | _ => cases stepped
  | unlinkStale fd => exact effect_unlink stepped rfl rfl rfl
  | bind fd =>
      cases answer with
      | ok =>
          simp only [serverStep] at stepped
          split at stepped
          · rename_i free
            cases stepped
            exact .bound fd _ free rfl rfl rfl
          · cases stepped
      | fails => cases stepped; exact .quiet _ _ rfl rfl rfl rfl rfl rfl rfl
      | _ => cases stepped
  | closeUnbound fd =>
      cases answer with
      | ok => cases stepped; exact .closed fd _ rfl rfl rfl
      | _ => cases stepped
  | listen fd =>
      cases answer with
      | ok => cases stepped; exact .listening fd _ (List.mem_singleton_self fd) rfl rfl rfl
      | fails => cases stepped; exact .quiet _ _ rfl rfl rfl rfl rfl rfl rfl
      | _ => cases stepped
  | closeDeaf fd =>
      cases answer with
      | ok => cases stepped; exact .closed fd _ rfl rfl rfl
      | _ => cases stepped
  | unlinkDeaf => exact effect_unlink stepped rfl rfl rfl
  | loopTest fd =>
      cases answer with
      | ok =>
          cases stepped
          cases keepRunning <;> exact .quiet _ _ rfl rfl rfl rfl rfl rfl rfl
      | _ => cases stepped
  | select fd =>
      cases answer with
      | ok => cases stepped; exact .quiet _ _ rfl rfl rfl rfl rfl rfl rfl
      | fails => cases stepped; exact .quiet _ _ rfl rfl rfl rfl rfl rfl rfl
      | _ => cases stepped
  | accept fd =>
      cases answer with
      | ok =>
          simp only [serverStep] at stepped
          split at stepped
          · cases stepped
            exact .accepted fd _ rfl rfl rfl
          · cases stepped
      | fails => cases stepped; exact .quiet _ _ rfl rfl rfl rfl rfl rfl rfl
      | _ => cases stepped
  | readTelemetry fd conn =>
      cases answer with
      | reading telemetry =>
          cases stepped
          exact .quiet _ _ rfl rfl rfl rfl (descriptors_writeLoop _ _ _) (bound_writeLoop _ _ _) rfl
      | _ => cases stepped
  | write fd conn rest =>
      cases answer with
      | wrote count =>
          simp only [serverStep] at stepped
          split at stepped
          · cases stepped
            exact .quiet _ _ rfl rfl rfl rfl (descriptors_writeLoop _ _ _) (bound_writeLoop _ _ _)
              rfl
          · cases stepped
      | interrupted => cases stepped; exact .quiet _ _ rfl rfl rfl rfl rfl rfl rfl
      | fails => cases stepped; exact .quiet _ _ rfl rfl rfl rfl rfl rfl rfl
      | _ => cases stepped
  | closeConnection fd conn =>
      cases answer with
      | ok => cases stepped; exact .closed conn _ rfl rfl rfl
      | _ => cases stepped
  | closeListener fd =>
      cases answer with
      | ok => cases stepped; exact .closed fd _ rfl rfl rfl
      | _ => cases stepped
  | unlinkPath => exact effect_unlink stepped rfl rfl rfl

end Msp.Daemon.TelemetryServer
