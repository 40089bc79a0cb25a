import Msp.Daemon.Watchdogd
import Mathlib.Data.List.Nodup

/-!
# Descriptors of `watchdogd` across fallbacks

`msp_telemetry_server_run` closes what it opens on every way it returns, but the
jump of the fallback does not pass through any of them.  A run leaks nothing
exactly when the signal never finds the server holding a descriptor.
-/

set_option autoImplicit false

namespace Msp.Daemon.Watchdogd

open Msp.Library Msp.Daemon.TelemetryServer

structure Sound (kernel : Kernel) (held : List Nat) : Prop where
  heldOpen : ∀ fd ∈ held, fd ∈ kernel.openFds
  heldNodup : held.Nodup
  openNodup : kernel.openFds.Nodup
  openFresh : ∀ fd ∈ kernel.openFds, fd < kernel.nextFd
  listening : ∀ listener ∈ kernel.listeners, listener.fd ∈ kernel.openFds

/-- Every open descriptor is in a local variable of the running call. -/
def Owned (kernel : Kernel) (held : List Nat) : Prop := ∀ fd ∈ kernel.openFds, fd ∈ held

theorem sound_of_same {kernel after : Kernel} {held : List Nat} (sound : Sound kernel held)
    (sameFds : after.openFds = kernel.openFds) (sameNext : after.nextFd = kernel.nextFd)
    (sameListeners : ∀ listener ∈ after.listeners, ∃ before ∈ kernel.listeners,
      before.fd = listener.fd) : Sound after held where
  heldOpen fd member := sameFds ▸ sound.heldOpen fd member
  heldNodup := sound.heldNodup
  openNodup := sameFds ▸ sound.openNodup
  openFresh fd member := by
    rw [sameNext]
    exact sound.openFresh fd (sameFds ▸ member)
  listening listener member := by
    obtain ⟨before, there, same⟩ := sameListeners listener member
    rw [sameFds, ← same]
    exact sound.listening before there

theorem sound_forget {kernel : Kernel} {held : List Nat} (sound : Sound kernel held) :
    Sound kernel [] where
  heldOpen _ member := nomatch member
  heldNodup := List.nodup_nil
  openNodup := sound.openNodup
  openFresh := sound.openFresh
  listening := sound.listening

theorem nextFd_not_mem {kernel : Kernel} {held : List Nat} (sound : Sound kernel held) :
    kernel.nextFd ∉ kernel.openFds := fun member => lt_irrefl _ (sound.openFresh _ member)

theorem sound_openFd {kernel : Kernel} {held : List Nat} (sound : Sound kernel held) :
    Sound kernel.openFd (held ++ [kernel.nextFd]) where
  heldOpen fd member := by
    rcases List.mem_append.mp member with old | new
    · exact List.mem_append_left _ (sound.heldOpen fd old)
    · exact List.mem_append_right _ new
  heldNodup := by
    refine List.nodup_append.mpr ⟨sound.heldNodup, List.nodup_singleton _, ?_⟩
    rintro fd old other new rfl
    rw [List.mem_singleton.mp new] at old
    exact nextFd_not_mem sound (sound.heldOpen _ old)
  openNodup := by
    refine List.nodup_append.mpr ⟨sound.openNodup, List.nodup_singleton _, ?_⟩
    rintro fd old other new rfl
    rw [List.mem_singleton.mp new] at old
    exact nextFd_not_mem sound old
  openFresh fd member := by
    rcases List.mem_append.mp member with old | new
    · exact Nat.lt_succ_of_lt (sound.openFresh fd old)
    · rw [List.mem_singleton.mp new]
      exact Nat.lt_succ_self _
  listening listener member := List.mem_append_left _ (sound.listening listener member)

theorem sound_updateQueue {kernel : Kernel} {held : List Nat} (sound : Sound kernel held)
    (fd : Nat) (update : List Nat → List Nat) : Sound (kernel.updateQueue fd update) held := by
  refine sound_of_same sound rfl rfl fun listener member => ?_
  obtain ⟨before, there, same⟩ := List.mem_map.mp member
  refine ⟨before, there, ?_⟩
  rw [← same]
  split <;> rfl

theorem sound_listen {kernel : Kernel} {held : List Nat} (sound : Sound kernel held) {fd : Nat}
    (holds : fd ∈ held) : Sound (kernel.listen fd) held where
  heldOpen := sound.heldOpen
  heldNodup := sound.heldNodup
  openNodup := sound.openNodup
  openFresh := sound.openFresh
  listening listener member := by
    rcases List.mem_append.mp member with old | new
    · exact sound.listening listener old
    · rw [List.mem_singleton.mp new]
      exact sound.heldOpen fd holds

theorem mem_openFds_close {kernel : Kernel} {closed fd : Nat} :
    fd ∈ (kernel.close closed).openFds ↔ fd ∈ kernel.openFds ∧ fd ≠ closed := by
  simp [Kernel.close]

theorem sound_close {kernel : Kernel} {held : List Nat} {closed : Nat}
    (sound : Sound kernel (held ++ [closed])) : Sound (kernel.close closed) held where
  heldOpen fd member := by
    rw [mem_openFds_close]
    obtain ⟨_, _, apart⟩ := List.nodup_append.mp sound.heldNodup
    exact ⟨sound.heldOpen fd (List.mem_append_left _ member),
      apart fd member closed (List.mem_singleton_self _)⟩
  heldNodup := (List.nodup_append.mp sound.heldNodup).1
  openNodup := sound.openNodup.filter _
  openFresh fd member := sound.openFresh fd (mem_openFds_close.mp member).1
  listening listener member := by
    obtain ⟨there, other⟩ := List.mem_filter.mp member
    exact mem_openFds_close.mpr ⟨sound.listening listener there, of_decide_eq_true other⟩

theorem sound_effect {kernel after : Kernel} {pc : ServerPc} {next : Option ServerPc}
    (sound : Sound kernel pc.descriptors) (effect : Effect kernel pc after next) :
    Sound after (descriptorsOf next) := by
  cases effect with
  | quiet _ _ sameFds sameNext sameListeners sameFile descriptors =>
      rw [descriptors]
      exact sound_of_same sound sameFds sameNext
        fun listener member => ⟨listener, sameListeners ▸ member, rfl⟩
  | opened _ descriptors =>
      rw [descriptors]
      exact sound_openFd sound
  | accepted fd _ descriptors =>
      rw [descriptors]
      exact sound_openFd (sound_updateQueue sound fd List.tail)
  | closed fd _ descriptors =>
      rw [descriptors] at sound
      exact sound_close sound
  | bound fd _ free descriptors =>
      rw [descriptors]
      exact sound_of_same sound rfl rfl fun listener member => ⟨listener, member, rfl⟩
  | listening fd _ held descriptors =>
      rw [descriptors]
      exact sound_listen sound held
  | unlinked _ _ sameFds sameNext sameListeners gone descriptors =>
      rw [descriptors]
      exact sound_of_same sound sameFds sameNext
        fun listener member => ⟨listener, sameListeners ▸ member, rfl⟩

theorem owned_effect {kernel after : Kernel} {pc : ServerPc} {next : Option ServerPc}
    (owned : Owned kernel pc.descriptors) (effect : Effect kernel pc after next) :
    Owned after (descriptorsOf next) := by
  intro fd member
  cases effect with
  | quiet _ _ sameFds _ _ _ descriptors =>
      rw [descriptors]
      exact owned fd (sameFds ▸ member)
  | opened _ descriptors =>
      rw [descriptors]
      rcases List.mem_append.mp member with old | new
      · exact List.mem_append_left _ (owned fd old)
      · exact List.mem_append_right _ new
  | accepted listenFd _ descriptors =>
      rw [descriptors]
      rcases List.mem_append.mp member with old | new
      · exact List.mem_append_left _ (owned fd old)
      · exact List.mem_append_right _ new
  | closed closed _ descriptors =>
      obtain ⟨there, other⟩ := mem_openFds_close.mp member
      have held := owned fd there
      rw [descriptors] at held
      rcases List.mem_append.mp held with kept | last
      · exact kept
      · exact absurd (List.mem_singleton.mp last) other
  | bound _ _ _ descriptors =>
      rw [descriptors]
      exact owned fd member
  | listening _ _ _ descriptors =>
      rw [descriptors]
      exact owned fd member
  | unlinked _ _ sameFds _ _ _ descriptors =>
      rw [descriptors]
      exact owned fd (sameFds ▸ member)

def MainPc.descriptors : MainPc → List Nat
  | .serving pc => pc.descriptors
  | _ => []

theorem length_descriptors_le (pc : MainPc) : pc.descriptors.length ≤ 2 := by
  cases pc with
  | serving pc => cases pc <;> simp [MainPc.descriptors, ServerPc.descriptors]
  | _ => exact Nat.zero_le 2

/-- Nothing is left of an earlier server call: its descriptors are closed, in
particular at the loop test; there are never more than two; and a client waits
only on a listener the running call holds. -/
structure NoLeak (process : Process) : Prop where
  ofRunningCall : ∀ fd ∈ process.kernel.openFds, fd ∈ process.main.descriptors
  noneAtLoopTest : process.main = .loopTest → process.kernel.openFds = []
  atMostTwo : process.kernel.openFds.length ≤ 2
  clients : ∀ listener ∈ process.kernel.listeners, listener.queue ≠ [] →
    listener.fd ∈ process.main.descriptors

/-- If the handler jumps in this step, the server call it leaves holds no
descriptor: it is in front of its `socket` or behind its last `close`. -/
def JumpsHoldNothing (process : Process) (event : Event) : Prop :=
  event = .deliver → process.fallbackArmed = true → process.main.descriptors = []

def SoundProcess (process : Process) : Prop := Sound process.kernel process.main.descriptors

theorem soundProcess_start (leftover : Bool) : SoundProcess (start leftover) where
  heldOpen _ member := nomatch member
  heldNodup := List.nodup_nil
  openNodup := List.nodup_nil
  openFresh _ member := nomatch member
  listening _ member := nomatch member

theorem noLeak_iff_owned {process : Process} (sound : SoundProcess process) :
    NoLeak process ↔ Owned process.kernel process.main.descriptors := by
  constructor
  · intro noLeak
    exact noLeak.ofRunningCall
  · intro owned
    refine ⟨owned, fun here => ?_, ?_, fun listener member _ => owned _ (sound.listening _ member)⟩
    · rw [here] at owned
      exact List.eq_nil_iff_forall_not_mem.mpr fun fd member => nomatch owned fd member
    · exact le_trans (List.subperm_of_subset sound.openNodup owned).length_le
        (length_descriptors_le _)

theorem connect_eq_some {kernel after : Kernel} {client : Nat}
    (connected : kernel.connect client = some after) :
    ∃ fd, after = kernel.updateQueue fd (· ++ [client]) := by
  unfold Kernel.connect at connected
  split at connected
  · rename_i fd _
    split at connected
    · cases connected
      exact ⟨fd, rfl⟩
    · cases connected
  · cases connected

theorem soundProcess_step (process : Process) (event : Event) (next : Process)
    (sound : SoundProcess process) (stepped : step process event = some next) :
    SoundProcess next := by
  unfold SoundProcess at sound ⊢
  cases transition_of_step stepped with
  | serve answer pc target kernel here effect =>
      rw [here] at sound
      exact sound_effect sound effect
  | serverReturns answer pc kernel here effect =>
      rw [here] at sound
      exact sound_effect sound effect
  | signal pending =>
      simp only [deliverSignal]
      split
      · exact sound_forget sound
      · exact sound
  | connect client kernel connected =>
      obtain ⟨fd, same⟩ := connect_eq_some connected
      simp only [same]
      exact sound_updateQueue sound _ _
  | thread index thread telemetry found alive => exact sound
  | shutdown => exact sound
  | _ => exact sound_forget sound

/-- A step keeps everything owned, unless the handler jumps out of a call that
holds a descriptor. -/
theorem owned_step_iff (process : Process) (event : Event) (next : Process)
    (sound : SoundProcess process) (owned : Owned process.kernel process.main.descriptors)
    (stepped : step process event = some next) :
    Owned next.kernel next.main.descriptors ↔ JumpsHoldNothing process event := by
  have noJump : event ≠ .deliver → Owned next.kernel next.main.descriptors →
      (Owned next.kernel next.main.descriptors ↔ JumpsHoldNothing process event) :=
    fun other kept => ⟨fun _ jump => absurd jump other, fun _ => kept⟩
  cases transition_of_step stepped with
  | signal pending =>
      simp only [deliverSignal]
      cases armed : process.fallbackArmed with
      | false =>
          exact ⟨fun _ _ jumps => absurd (armed.symm.trans jumps) Bool.false_ne_true,
            fun _ => owned⟩
      | true =>
          constructor
          · intro clean _ _
            exact List.eq_nil_iff_forall_not_mem.mpr
              fun fd held => nomatch clean fd (sound.heldOpen fd held)
          · intro nothing fd member
            have held := owned fd member
            rw [nothing rfl armed] at held
            exact held
  | serve answer pc target kernel here effect =>
      rw [here] at owned
      exact noJump nofun (owned_effect owned effect)
  | serverReturns answer pc kernel here effect =>
      rw [here] at owned
      exact noJump nofun (owned_effect owned effect)
  | connect client kernel connected =>
      obtain ⟨fd, same⟩ := connect_eq_some connected
      subst same
      exact noJump nofun owned
  | thread index thread telemetry found alive => exact noJump nofun owned
  | shutdown => exact noJump nofun owned
  | enterLoop here running =>
      rw [here] at owned
      exact noJump nofun owned
  | leaveLoop here stopped =>
      rw [here] at owned
      exact noJump nofun owned
  | _ =>
      rename_i here
      rw [here] at owned
      exact noJump nofun owned

/-- In every run, nothing of an earlier server call is left in any state exactly
when no jump of the handler leaves a call that holds a descriptor. -/
theorem no_leak_iff (leftover : Bool) (events : List Event) :
    Machine.Throughout step NoLeak events (start leftover) ↔
      Machine.Along step JumpsHoldNothing events (start leftover) := by
  apply Machine.throughout_iff_along soundProcess_step
  · intro process event next sound noLeak stepped
    rw [noLeak_iff_owned (soundProcess_step process event next sound stepped)]
    exact owned_step_iff process event next sound
      ((noLeak_iff_owned sound).mp noLeak) stepped
  · exact soundProcess_start leftover
  · exact (noLeak_iff_owned (soundProcess_start leftover)).mpr fun _ member => nomatch member

def serveUntilSelect : List Event :=
  List.replicate 6 (.main .ok) ++ .main .fails :: List.replicate 3 (.main .ok)

def violate (index : Nat) : List Event :=
  List.replicate 4 (.watchdog index ⟨.posInf, 0, false⟩)

/-- A client connects, the violation interrupts the server, and after the
cooldown main is back at the loop test with the listener open and the client
queued on it. -/
theorem fallback_leaks_listener :
    ¬ ∀ (leftover : Bool) (events : List Event),
      Machine.Throughout step NoLeak events (start leftover) := by
  intro never
  have everywhere := never false
    (serveUntilSelect ++ [.connect 7] ++ violate 0 ++ [.deliver, .main .ok])
  have final := Machine.Throughout.last everywhere rfl
  exact absurd (final.noneAtLoopTest rfl) (by decide)

end Msp.Daemon.Watchdogd
