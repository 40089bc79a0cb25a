import Msp.Daemon.TelemetryServer
import Msp.Library.Machine
import Mathlib.Data.List.Nodup

/-!
# A run of the telemetry server

One call of `msp_telemetry_server_run` from its first line on, with a log of
what it did to its descriptors, its connections and its reader.  `Logged` says
what a step can log; the rest follows from it.  The log of the connections is a
list of visits, one after the other: accept, one reading, pieces of the line of
that reading.
-/

set_option autoImplicit false

namespace Msp.Daemon.TelemetryServer

open Msp.Library Msp.Daemon.SandboxWatchdog Msp.Daemon.TelemetryLine

inductive Action where
  | opened (fd : Nat)
  | bound (fd : Nat)
  | accepted (connFd : Nat)
  | readTelemetry (telemetry : Telemetry)
  | wrote (connFd : Nat) (bytes : List UInt8)
  | closed (fd : Nat)
  deriving DecidableEq, Repr

def record (kernel : Kernel) : ServerPc → Answer → List Action
  | .socket, .ok => [.opened kernel.nextFd]
  | .bind fd, .ok => [.bound fd]
  | .accept _, .ok => [.accepted kernel.nextFd]
  | .readTelemetry _ _, .reading telemetry => [.readTelemetry telemetry]
  | .write _ connFd rest, .wrote count => [.wrote connFd (rest.take count)]
  | .closeUnbound fd, _ | .closeDeaf fd, _ | .closeListener fd, _ => [.closed fd]
  | .closeConnection _ connFd, _ => [.closed connFd]
  | _, _ => []

structure Server where
  keepRunning : Bool
  kernel : Kernel
  pc : Option ServerPc
  log : List Action
  deriving DecidableEq, Repr

inductive Event where
  | call (answer : Answer)
  | stop
  | connect (client : Nat)
  deriving DecidableEq, Repr

namespace Server

def start (keepRunning : Bool) (kernel : Kernel) : Server :=
  ⟨keepRunning, kernel, some .socket, []⟩

def step (server : Server) : Event → Option Server
  | .call answer =>
      server.pc.bind fun pc =>
        (serverStep server.keepRunning server.kernel pc answer).map fun after =>
          { server with
            kernel := after.1
            pc := after.2
            log := server.log ++ record server.kernel pc answer }
  | .stop => some { server with keepRunning := false }
  | .connect client =>
      (server.kernel.connect client).map fun kernel => { server with kernel := kernel }

end Server

def ServerPc.visiting : ServerPc → Bool
  | .readTelemetry _ _ | .write _ _ _ => true
  | _ => false

def visitingAt : Option ServerPc → Bool
  | none => false
  | some pc => pc.visiting

inductive Logged (kernel : Kernel) (pc : ServerPc) :
    Kernel → Option ServerPc → List Action → Prop where
  | silent (next : Option ServerPc) (descriptors : descriptorsOf next = pc.descriptors)
      (bound : boundAt next = pc.bound) (idle : visitingAt next = false)
      (before : pc.visiting = false) : Logged kernel pc kernel next []
  | unlinked (after : Kernel) (next : Option ServerPc) (sameNext : after.nextFd = kernel.nextFd)
      (gone : after.socketFile.ours = false) (descriptors : descriptorsOf next = pc.descriptors)
      (returns : pc.bound = true → next = none) (bound : boundAt next = false)
      (idle : visitingAt next = false) (before : pc.visiting = false) :
      Logged kernel pc after next []
  | opened (next : Option ServerPc)
      (descriptors : descriptorsOf next = pc.descriptors ++ [kernel.nextFd])
      (bound : boundAt next = pc.bound) (idle : visitingAt next = false)
      (before : pc.visiting = false) :
      Logged kernel pc kernel.openFd next [.opened kernel.nextFd]
  | bound (fd : Nat) (next : Option ServerPc) (descriptors : descriptorsOf next = pc.descriptors)
      (isBound : boundAt next = true) (idle : visitingAt next = false)
      (before : pc.visiting = false) : Logged kernel pc (kernel.bind fd) next [.bound fd]
  | listening (fd : Nat) (next : Option ServerPc)
      (descriptors : descriptorsOf next = pc.descriptors) (bound : boundAt next = pc.bound)
      (idle : visitingAt next = false) (before : pc.visiting = false) :
      Logged kernel pc (kernel.listen fd) next []
  | closed (fd : Nat) (next : Option ServerPc)
      (descriptors : pc.descriptors = descriptorsOf next ++ [fd])
      (bound : boundAt next = pc.bound) (idle : visitingAt next = false)
      (before : pc.visiting = false) : Logged kernel pc (kernel.close fd) next [.closed fd]
  | accepted (listenFd : Nat) (here : pc = .accept listenFd) :
      Logged kernel pc (kernel.accept listenFd) (some (.readTelemetry listenFd kernel.nextFd))
        [.accepted kernel.nextFd]
  | read (listenFd connFd : Nat) (telemetry : Telemetry)
      (here : pc = .readTelemetry listenFd connFd) :
      Logged kernel pc kernel (some (writeLoop listenFd connFd (telemetryLine telemetry)))
        [.readTelemetry telemetry]
  | wrote (listenFd connFd : Nat) (rest : List UInt8) (count : Nat)
      (here : pc = .write listenFd connFd rest) :
      Logged kernel pc (kernel.send connFd (rest.take count))
        (some (writeLoop listenFd connFd (rest.drop count))) [.wrote connFd (rest.take count)]
  | interrupted (listenFd connFd : Nat) (rest : List UInt8)
      (here : pc = .write listenFd connFd rest) : Logged kernel pc kernel (some pc) []
  | gaveUp (listenFd connFd : Nat) (rest : List UInt8)
      (here : pc = .write listenFd connFd rest) :
      Logged kernel pc kernel (some (.closeConnection listenFd connFd)) []

theorem logged_unlink {kernel after : Kernel} {pc : ServerPc} {answer : Answer}
    {target next : Option ServerPc}
    (stepped : ((kernel.unlink answer).map fun unlinked => (unlinked, target)) =
      some (after, next))
    (descriptors : descriptorsOf target = pc.descriptors)
    (returns : pc.bound = true → target = none) (bound : boundAt target = false)
    (idle : visitingAt target = false) (before : pc.visiting = false) :
    Logged kernel pc after next [] := by
  obtain ⟨unlinked, done, same⟩ := Option.map_eq_some_iff.mp stepped
  cases same
  obtain ⟨_, sameNext, _, gone⟩ := unlink_eq_some done
  exact .unlinked _ _ sameNext gone descriptors returns bound idle before

theorem logged_of_serverStep {keepRunning : Bool} {kernel after : Kernel} {pc : ServerPc}
    {answer : Answer} {next : Option ServerPc}
    (stepped : serverStep keepRunning kernel pc answer = some (after, next)) :
    Logged kernel pc after next (record kernel pc answer) := by
  cases pc with
  | socket =>
      cases answer with
      | ok => cases stepped; exact .opened _ rfl rfl rfl rfl
      | fails => cases stepped; exact .silent _ rfl rfl rfl rfl
      | _ => cases stepped
  | unlinkStale fd =>
      exact logged_unlink stepped rfl (fun bound => (nomatch bound)) rfl rfl rfl
  | bind fd =>
      cases answer with
      | ok =>
          simp only [serverStep] at stepped
          split at stepped
          · cases stepped
            exact .bound fd _ rfl rfl rfl rfl
          · cases stepped
      | fails => cases stepped; exact .silent _ rfl rfl rfl rfl
      | _ => cases stepped
  | closeUnbound fd =>
      cases answer with
      | ok => cases stepped; exact .closed fd _ rfl rfl rfl rfl
      | _ => cases stepped
  | listen fd =>
      cases answer with
      | ok => cases stepped; exact .listening fd _ rfl rfl rfl rfl
      | fails => cases stepped; exact .silent _ rfl rfl rfl rfl
      | _ => cases stepped
  | closeDeaf fd =>
      cases answer with
      | ok => cases stepped; exact .closed fd _ rfl rfl rfl rfl
      | _ => cases stepped
  | unlinkDeaf => exact logged_unlink stepped rfl (fun _ => rfl) rfl rfl rfl
  | loopTest fd =>
      cases answer with
      | ok =>
          cases stepped
          cases keepRunning <;> exact .silent _ rfl rfl rfl rfl
      | _ => cases stepped
  | select fd =>
      cases answer with
      | ok => cases stepped; exact .silent _ rfl rfl rfl rfl
      | fails => cases stepped; exact .silent _ rfl rfl rfl rfl
      | _ => cases stepped
  | accept fd =>
      cases answer with
      | ok =>
          simp only [serverStep] at stepped
          split at stepped
          · cases stepped
            exact .accepted fd rfl
          · cases stepped
      | fails => cases stepped; exact .silent _ rfl rfl rfl rfl
      | _ => cases stepped
  | readTelemetry fd conn =>
      cases answer with
      | reading telemetry => cases stepped; exact .read fd conn telemetry rfl
      | _ => cases stepped
  | write fd conn rest =>
      cases answer with
      | wrote count =>
          simp only [serverStep] at stepped
          split at stepped
          · cases stepped
            exact .wrote fd conn rest count rfl
          · cases stepped
      | interrupted => cases stepped; exact .interrupted fd conn rest rfl
      | fails => cases stepped; exact .gaveUp fd conn rest rfl
      | _ => cases stepped
  | closeConnection fd conn =>
      cases answer with
      | ok => cases stepped; exact .closed conn _ rfl rfl rfl rfl
      | _ => cases stepped
  | closeListener fd =>
      cases answer with
      | ok => cases stepped; exact .closed fd _ rfl rfl rfl rfl
      | _ => cases stepped
  | unlinkPath => exact logged_unlink stepped rfl (fun _ => rfl) rfl rfl rfl

def openedFds (log : List Action) : List Nat :=
  log.filterMap fun
    | .opened fd => some fd
    | .accepted connFd => some connFd
    | _ => none

def closedFds (log : List Action) : List Nat :=
  log.filterMap fun
    | .closed fd => some fd
    | _ => none

theorem openedFds_append (first second : List Action) :
    openedFds (first ++ second) = openedFds first ++ openedFds second := List.filterMap_append

theorem closedFds_append (first second : List Action) :
    closedFds (first ++ second) = closedFds first ++ closedFds second := List.filterMap_append

/-- What was opened is closed or still in a local variable, and all of it differs. -/
structure DescriptorsLogged (server : Server) : Prop where
  accounted : (openedFds server.log).Perm (closedFds server.log ++ descriptorsOf server.pc)
  distinct : (openedFds server.log).Nodup
  below : ∀ fd ∈ openedFds server.log, fd < server.kernel.nextFd

section Descriptors
variable {log : List Action} {kernel after : Kernel} {pc : ServerPc} {next : Option ServerPc}
  {logged : List Action}

theorem descriptors_of_logged (did : Logged kernel pc after next logged) :
    (openedFds logged = [] ∧ closedFds logged = [] ∧ after.nextFd = kernel.nextFd ∧
      descriptorsOf next = pc.descriptors) ∨
    (openedFds logged = [kernel.nextFd] ∧ closedFds logged = [] ∧
      after.nextFd = kernel.nextFd + 1 ∧
      descriptorsOf next = pc.descriptors ++ [kernel.nextFd]) ∨
    (∃ fd, openedFds logged = [] ∧ closedFds logged = [fd] ∧ after.nextFd = kernel.nextFd ∧
      pc.descriptors = descriptorsOf next ++ [fd]) := by
  cases did with
  | silent _ descriptors => exact Or.inl ⟨rfl, rfl, rfl, descriptors⟩
  | unlinked _ _ sameNext _ descriptors => exact Or.inl ⟨rfl, rfl, sameNext, descriptors⟩
  | opened _ descriptors => exact Or.inr (Or.inl ⟨rfl, rfl, rfl, descriptors⟩)
  | bound _ _ descriptors => exact Or.inl ⟨rfl, rfl, rfl, descriptors⟩
  | listening _ _ descriptors => exact Or.inl ⟨rfl, rfl, rfl, descriptors⟩
  | closed fd _ descriptors => exact Or.inr (Or.inr ⟨fd, rfl, rfl, rfl, descriptors⟩)
  | accepted listenFd here =>
      rw [here]
      exact Or.inr (Or.inl ⟨rfl, rfl, rfl, rfl⟩)
  | read listenFd connFd telemetry here =>
      rw [here]
      exact Or.inl ⟨rfl, rfl, rfl, descriptors_writeLoop _ _ _⟩
  | wrote listenFd connFd rest count here =>
      rw [here]
      exact Or.inl ⟨rfl, rfl, rfl, descriptors_writeLoop _ _ _⟩
  | interrupted => exact Or.inl ⟨rfl, rfl, rfl, rfl⟩
  | gaveUp listenFd connFd rest here =>
      rw [here]
      exact Or.inl ⟨rfl, rfl, rfl, rfl⟩

theorem DescriptorsLogged.stepped {keepRunning : Bool}
    (sound : DescriptorsLogged ⟨keepRunning, kernel, some pc, log⟩)
    (did : Logged kernel pc after next logged) :
    DescriptorsLogged ⟨keepRunning, after, next, log ++ logged⟩ := by
  obtain ⟨accounted, distinct, below⟩ := sound
  simp only at accounted distinct below
  rcases descriptors_of_logged did with ⟨opens, closes, sameNext, descriptors⟩ |
    ⟨opens, closes, moreNext, descriptors⟩ | ⟨fd, opens, closes, sameNext, descriptors⟩
  · constructor <;> simp only [openedFds_append, closedFds_append, opens, closes, List.append_nil,
      sameNext, descriptors]
    · exact accounted
    · exact distinct
    · exact below
  · have unused : kernel.nextFd ∉ openedFds log := fun member => lt_irrefl _ (below _ member)
    constructor <;> simp only [openedFds_append, closedFds_append, opens, closes, List.append_nil,
      moreNext, descriptors]
    · rw [← List.append_assoc]
      exact accounted.append_right _
    · refine List.nodup_append.mpr ⟨distinct, List.nodup_singleton _, ?_⟩
      intro old member new isNew same
      rw [same, List.mem_singleton.mp isNew] at member
      exact unused member
    · intro fd member
      rcases List.mem_append.mp member with old | new
      · exact Nat.lt_succ_of_lt (below fd old)
      · rw [List.mem_singleton.mp new]
        exact Nat.lt_succ_self _
  · constructor <;> simp only [openedFds_append, closedFds_append, opens, closes, List.append_nil,
      sameNext]
    · rw [descriptorsOf, descriptors] at accounted
      rw [List.append_assoc]
      exact accounted.trans (List.perm_append_comm.append_left _)
    · exact distinct
    · exact below

theorem closed_once_of_perm {opened closed : List Nat} (distinct : opened.Nodup)
    (accounted : opened.Perm closed) :
    (∀ fd ∈ opened, closed.count fd = 1) ∧ ∀ fd ∈ closed, fd ∈ opened := by
  constructor
  · intro fd member
    rw [← accounted.count_eq]
    exact List.count_eq_one_of_mem distinct member
  · exact fun fd member => accounted.mem_iff.mpr member

end Descriptors

/-! ## Visits -/

/-- One connection: the reading made for it, and the pieces of its line that went
out there. -/
structure Visit where
  connFd : Nat
  telemetry : Telemetry
  pieces : List (List UInt8)
  isPrefix : pieces.flatten <+: telemetryLine telemetry

def Visit.exchange (visit : Visit) : List Action :=
  .accepted visit.connFd :: .readTelemetry visit.telemetry ::
    visit.pieces.map (.wrote visit.connFd)

def Action.isExchange : Action → Bool
  | .accepted _ | .readTelemetry _ | .wrote _ _ => true
  | _ => false

def exchanges (log : List Action) : List Action := log.filter Action.isExchange

/-- Where the program counter stands in the last visit. -/
def Visited (visits : List Visit) (pending : List Action) : Option ServerPc → Prop
  | some (.readTelemetry _ connFd) => pending = [.accepted connFd]
  | some (.write _ connFd rest) => pending = [] ∧ ∃ earlier last, visits = earlier ++ [last] ∧
      last.connFd = connFd ∧ telemetryLine last.telemetry = last.pieces.flatten ++ rest
  | _ => pending = []

/-- The connections are served one after the other. -/
def InTurn (server : Server) : Prop :=
  ∃ visits pending, exchanges server.log = visits.flatMap Visit.exchange ++ pending ∧
    Visited visits pending server.pc

section Visits
variable {log : List Action} {kernel after : Kernel} {pc : ServerPc} {next : Option ServerPc}
  {logged : List Action}

theorem exchanges_append (first second : List Action) :
    exchanges (first ++ second) = exchanges first ++ exchanges second := List.filter_append ..

theorem visited_idle {visits : List Visit} {pending : List Action} {pc : Option ServerPc}
    (idle : visitingAt pc = false) : Visited visits pending pc ↔ pending = [] := by
  cases pc with
  | none => exact Iff.rfl
  | some pc => cases pc <;> first | exact Iff.rfl | cases idle

theorem visited_writeLoop {earlier : List Visit} {last : Visit} {rest : List UInt8}
    (listenFd : Nat)
    (line : telemetryLine last.telemetry = last.pieces.flatten ++ rest) :
    Visited (earlier ++ [last]) [] (some (writeLoop listenFd last.connFd rest)) := by
  unfold writeLoop
  split
  · rfl
  · exact ⟨rfl, earlier, last, rfl, rfl, line⟩

theorem InTurn.idle_next {keepRunning : Bool}
    (turn : InTurn ⟨keepRunning, kernel, some pc, log⟩) (before : pc.visiting = false)
    (idle : visitingAt next = false) (nothing : exchanges logged = []) :
    InTurn ⟨keepRunning, after, next, log ++ logged⟩ := by
  obtain ⟨visits, pending, shape, visited⟩ := turn
  refine ⟨visits, pending, ?_, ?_⟩
  · rw [exchanges_append, nothing, List.append_nil, shape]
  · have none : pending = [] :=
      (visited_idle (show visitingAt (some pc) = false from before)).mp visited
    exact (visited_idle idle).mpr none

theorem InTurn.stepped {keepRunning : Bool} (turn : InTurn ⟨keepRunning, kernel, some pc, log⟩)
    (did : Logged kernel pc after next logged) :
    InTurn ⟨keepRunning, after, next, log ++ logged⟩ := by
  cases did with
  | silent _ _ _ idle before => exact turn.idle_next before idle rfl
  | unlinked _ _ _ _ _ _ _ idle before => exact turn.idle_next before idle rfl
  | opened _ _ _ idle before => exact turn.idle_next before idle rfl
  | bound _ _ _ _ idle before => exact turn.idle_next before idle rfl
  | listening _ _ _ _ idle before => exact turn.idle_next before idle rfl
  | closed _ _ _ _ idle before => exact turn.idle_next before idle rfl
  | accepted listenFd here =>
      obtain ⟨visits, pending, shape, visited⟩ := turn
      rw [here] at visited
      cases visited
      refine ⟨visits, [.accepted kernel.nextFd], ?_, rfl⟩
      rw [exchanges_append, shape, List.append_nil]
      rfl
  | read listenFd connFd telemetry here =>
      obtain ⟨visits, pending, shape, visited⟩ := turn
      rw [here] at visited
      cases visited
      refine ⟨visits ++ [⟨connFd, telemetry, [], List.nil_prefix⟩], [], ?_,
        visited_writeLoop listenFd rfl⟩
      rw [exchanges_append, shape, List.flatMap_append, List.append_nil, List.append_assoc]
      rfl
  | wrote listenFd connFd rest count here =>
      obtain ⟨visits, pending, shape, visited⟩ := turn
      rw [here] at visited
      obtain ⟨rfl, earlier, last, rfl, rfl, line⟩ := visited
      have written : telemetryLine last.telemetry =
          (last.pieces ++ [rest.take count]).flatten ++ rest.drop count := by
        rw [line, List.flatten_append, List.flatten_singleton, List.append_assoc,
          List.take_append_drop]
      refine ⟨earlier ++ [⟨last.connFd, last.telemetry, last.pieces ++ [rest.take count],
        ⟨_, written.symm⟩⟩], [], ?_, visited_writeLoop listenFd written⟩
      have more : exchanges [.wrote last.connFd (rest.take count)] =
          [.wrote last.connFd (rest.take count)] := rfl
      rw [exchanges_append, shape, more, List.flatMap_append, List.flatMap_append]
      simp [Visit.exchange]
  | interrupted listenFd connFd rest here =>
      rw [List.append_nil]
      exact turn
  | gaveUp listenFd connFd rest here =>
      obtain ⟨visits, pending, shape, visited⟩ := turn
      rw [here] at visited
      exact ⟨visits, pending, by rw [List.append_nil]; exact shape, visited.1⟩

end Visits

/-- A path once bound stays bound until the call returns and its file is gone. -/
def FileLogged (server : Server) : Prop :=
  ∀ fd, .bound fd ∈ server.log → boundAt server.pc = true ∨
    server.pc = none ∧ server.kernel.socketFile.ours = false

theorem FileLogged.stepped {keepRunning : Bool} {kernel after : Kernel} {pc : ServerPc}
    {next : Option ServerPc} {log logged : List Action}
    (file : FileLogged ⟨keepRunning, kernel, some pc, log⟩)
    (did : Logged kernel pc after next logged) :
    FileLogged ⟨keepRunning, after, next, log ++ logged⟩ := by
  intro fd member
  have isBound : .bound fd ∈ log → pc.bound = true := by
    intro earlier
    rcases file fd earlier with bound | ⟨returned, _⟩
    · exact bound
    · cases returned
  have kept : .bound fd ∈ log → boundAt next = pc.bound →
      boundAt next = true ∨ next = none ∧ after.socketFile.ours = false :=
    fun earlier same => Or.inl (same.trans (isBound earlier))
  cases did with
  | silent _ _ bound =>
      rw [List.append_nil] at member
      exact kept member bound
  | unlinked _ _ _ gone _ returns =>
      rw [List.append_nil] at member
      exact Or.inr ⟨returns (isBound member), gone⟩
  | opened _ _ bound => exact kept (by simpa using member) bound
  | bound _ _ _ isBoundNow => exact Or.inl isBoundNow
  | listening _ _ _ bound =>
      rw [List.append_nil] at member
      exact kept member bound
  | closed _ _ _ bound => exact kept (by simpa using member) bound
  | accepted => exact Or.inl rfl
  | read => exact Or.inl (bound_writeLoop _ _ _)
  | wrote => exact Or.inl (bound_writeLoop _ _ _)
  | interrupted _ _ _ here => exact Or.inl (by rw [here]; rfl)
  | gaveUp => exact Or.inl rfl

/-! ## The whole run -/

theorem kernel_connect {kernel after : Kernel} {client : Nat}
    (connected : kernel.connect client = some after) :
    after.nextFd = kernel.nextFd ∧ after.socketFile = kernel.socketFile := by
  unfold Kernel.connect at connected
  split at connected
  · split at connected
    · cases connected
      exact ⟨rfl, rfl⟩
    · cases connected
  · cases connected

structure ServerSound (server : Server) : Prop where
  descriptors : DescriptorsLogged server
  turn : InTurn server
  file : FileLogged server

theorem serverSound_start (keepRunning : Bool) (kernel : Kernel) :
    ServerSound (Server.start keepRunning kernel) where
  descriptors := ⟨List.Perm.refl _, List.nodup_nil, fun _ member => nomatch member⟩
  turn := ⟨[], [], rfl, rfl⟩
  file _ member := nomatch member

theorem serverSound_step {server next : Server} {event : Event} (sound : ServerSound server)
    (stepped : server.step event = some next) : ServerSound next := by
  obtain ⟨descriptors, turn, file⟩ := sound
  cases event with
  | call answer =>
      obtain ⟨pc, here, moved⟩ := Option.bind_eq_some_iff.mp stepped
      obtain ⟨⟨after, target⟩, served, rfl⟩ := Option.map_eq_some_iff.mp moved
      obtain ⟨keepRunning, kernel, at?, log⟩ := server
      cases here
      have did := logged_of_serverStep served
      exact ⟨descriptors.stepped did, turn.stepped did, file.stepped did⟩
  | stop =>
      cases stepped
      exact ⟨⟨descriptors.accounted, descriptors.distinct, descriptors.below⟩, turn, file⟩
  | connect client =>
      obtain ⟨kernel, connected, rfl⟩ := Option.map_eq_some_iff.mp stepped
      obtain ⟨sameNext, sameFile⟩ := kernel_connect connected
      refine ⟨⟨descriptors.accounted, descriptors.distinct, fun fd member => ?_⟩, turn,
        fun fd member => ?_⟩
      · rw [sameNext]
        exact descriptors.below fd member
      · rw [sameFile]
        exact file fd member

theorem serverSound_run (keepRunning : Bool) (kernel : Kernel) (events : List Event)
    (server : Server)
    (ran : Machine.run Server.step events (Server.start keepRunning kernel) = some server) :
    ServerSound server :=
  Machine.run_preserves (fun _ _ _ sound stepped => serverSound_step sound stepped) events _ server
    (serverSound_start keepRunning kernel) ran

def acceptedFds (log : List Action) : List Nat :=
  log.filterMap fun
    | .accepted connFd => some connFd
    | _ => none

theorem acceptedFds_sublist (log : List Action) :
    (acceptedFds log).Sublist (openedFds log) := by
  induction log with
  | nil => exact List.Sublist.refl _
  | cons action rest ih =>
      cases action with
      | accepted connFd => exact ih.cons_cons connFd
      | opened fd => exact ih.cons fd
      | _ => exact ih

/-- In every state of every run: what was done with connections and with the reader
is a list of visits of different connections, the last of which may still wait for
its reading; and once the function has returned, every descriptor it opened is
closed exactly once, nothing else is closed, and the file of a bound path is gone. -/
theorem serves_in_turn_and_cleans_up (keepRunning : Bool) (kernel : Kernel)
    (events : List Event) (server : Server)
    (ran : Machine.run Server.step events (Server.start keepRunning kernel) = some server) :
    (∃ (visits : List Visit) (pending : List Action),
      exchanges server.log = visits.flatMap Visit.exchange ++ pending ∧
      (acceptedFds server.log).Nodup ∧
      (pending = [] ∨ ∃ listenFd connFd, server.pc = some (.readTelemetry listenFd connFd) ∧
        pending = [.accepted connFd])) ∧
      (server.pc = none →
        (∀ fd ∈ openedFds server.log, (closedFds server.log).count fd = 1) ∧
          (∀ fd ∈ closedFds server.log, fd ∈ openedFds server.log) ∧
          ((∃ fd, .bound fd ∈ server.log) → server.kernel.socketFile.ours = false)) := by
  obtain ⟨descriptors, ⟨visits, pending, shape, visited⟩, file⟩ :=
    serverSound_run keepRunning kernel events server ran
  constructor
  · refine ⟨visits, pending, shape,
      (acceptedFds_sublist server.log).nodup descriptors.distinct, ?_⟩
    by_cases waiting : ∃ listenFd connFd, server.pc = some (.readTelemetry listenFd connFd)
    · obtain ⟨listenFd, connFd, here⟩ := waiting
      rw [here] at visited
      exact Or.inr ⟨listenFd, connFd, here, visited⟩
    · refine Or.inl ?_
      cases here : server.pc with
      | none =>
          rw [here] at visited
          exact visited
      | some pc =>
          rw [here] at visited
          cases pc with
          | readTelemetry listenFd connFd => exact absurd ⟨listenFd, connFd, here⟩ waiting
          | write listenFd connFd rest => exact visited.1
          | _ => exact visited
  · intro returned
    have accounted := descriptors.accounted
    rw [returned, descriptorsOf, List.append_nil] at accounted
    obtain ⟨once, onlyOpened⟩ := closed_once_of_perm descriptors.distinct accounted
    refine ⟨once, onlyOpened, ?_⟩
    rintro ⟨fd, member⟩
    rcases file fd member with bound | ⟨_, gone⟩
    · rw [returned] at bound
      cases bound
    · exact gone

def visitEvents : List Event :=
  [.call .ok, .call .fails, .call .ok, .call .ok, .connect 7, .call .ok, .call .ok, .call .ok,
    .call (.reading ⟨.finite (81 / 2), 4096, true⟩), .call (.wrote 5), .call .interrupted,
    .call (.wrote 9), .stop, .call .ok, .call .ok, .call .ok, .call .ok]

def visitServer : Server :=
  ⟨false, ⟨5, [], [], .absent,
      [(4, [52, 48, 46, 53, 48]), (4, [48, 32, 52, 48, 57, 54, 32, 49, 10])]⟩, none,
    [.opened 3, .bound 3, .accepted 4, .readTelemetry ⟨.finite (81 / 2), 4096, true⟩,
      .wrote 4 [52, 48, 46, 53, 48], .wrote 4 [48, 32, 52, 48, 57, 54, 32, 49, 10],
      .closed 4, .closed 3]⟩

theorem serves_in_turn_and_cleans_up_one_visit :
    (∃ (visits : List Visit) (pending : List Action),
      exchanges visitServer.log = visits.flatMap Visit.exchange ++ pending ∧
      (acceptedFds visitServer.log).Nodup ∧
      (pending = [] ∨ ∃ listenFd connFd,
        visitServer.pc = some (.readTelemetry listenFd connFd) ∧
          pending = [.accepted connFd])) ∧
      (visitServer.pc = none →
        (∀ fd ∈ openedFds visitServer.log, (closedFds visitServer.log).count fd = 1) ∧
          (∀ fd ∈ closedFds visitServer.log, fd ∈ openedFds visitServer.log) ∧
          ((∃ fd, .bound fd ∈ visitServer.log) →
            visitServer.kernel.socketFile.ours = false)) :=
  serves_in_turn_and_cleans_up true ⟨3, [], [], .absent, []⟩ visitEvents visitServer
    (by decide +kernel)

end Msp.Daemon.TelemetryServer
