import Msp.Library.Machine

/-!
# Arming the fallback point and jumping to it

Model of `MSP_ARM_FALLBACK_POINT()`, `msp_install_fallback_handler` and
`fallback_signal_handler` (`src/daemon/sandbox_watchdog.{h,c}`) for one
monitored thread that runs any program: calls, returns, ordinary work and
arming in any order, with the watchdog's signal arriving between any two steps.

A function activation is a number that is never reused.  `msp_fallback_env`
remembers the activation whose `sigsetjmp` filled it last; jumping to an
activation that has returned, or through a buffer nobody filled, loses control.
-/

set_option autoImplicit false

namespace Msp.Daemon.FallbackPoint

open Msp.Library

structure Thread where
  frames : List Nat
  nextFrame : Nat
  fallbackArmed : Bool
  fallbackEnv : Option Nat
  /-- Between the two halves of `MSP_ARM_FALLBACK_POINT()`. -/
  arming : Bool
  lost : Bool
  deriving DecidableEq, Repr

inductive Event where
  | call
  | returned
  | work
  | install (sigactionSucceeds : Bool)
  | sigsetjmp
  | signal
  deriving DecidableEq, Repr

def start : Thread := ⟨[0], 1, false, none, false, false⟩

/-- `siglongjmp(msp_fallback_env, 1)`: the activations above the target are
discarded and the second return of its `sigsetjmp` runs. -/
def siglongjmp (thread : Thread) : Thread :=
  match thread.fallbackEnv with
  | none => { thread with lost := true }
  | some frame =>
      if frame ∈ thread.frames then
        { thread with
          frames := thread.frames.dropWhile (fun other => decide (other ≠ frame))
          arming := false }
      else { thread with lost := true }

def fallbackSignalHandler (thread : Thread) : Thread :=
  if thread.fallbackArmed then siglongjmp thread else thread

/-- One step of the thread.  A signal that finds no handler at all ends the
process, hence the run; one that finds another thread's handler finds
`msp_fallback_armed` clear and returns. -/
def step (thread : Thread) (event : Event) : Option Thread :=
  if thread.lost then none
  else
    match event, thread.frames with
    | _, [] => none
    | .signal, _ => some (fallbackSignalHandler thread)
    | .sigsetjmp, frame :: _ =>
        if thread.arming then
          some { thread with fallbackEnv := some frame, arming := false }
        else none
    | other, _ :: rest =>
        if thread.arming then none
        else
          match other with
          | .call =>
              some { thread with
                frames := thread.nextFrame :: thread.frames
                nextFrame := thread.nextFrame + 1 }
          | .returned => some { thread with frames := rest }
          | .install sigactionSucceeds =>
              some { thread with
                fallbackArmed := thread.fallbackArmed || sigactionSucceeds
                arming := true }
          | _ => some thread

/-- If this step makes the handler jump, the buffer was filled by a completed
`sigsetjmp` of an activation that has not returned. -/
def JumpsIntoLiveFrame (thread : Thread) (event : Event) : Prop :=
  event = .signal → thread.fallbackArmed = true →
    ∃ frame, thread.fallbackEnv = some frame ∧ frame ∈ thread.frames

instance (thread : Thread) (event : Event) : Decidable (JumpsIntoLiveFrame thread event) :=
  match filled : thread.fallbackEnv with
  | none =>
      decidable_of_iff (event = .signal → thread.fallbackArmed = true → False) (by
        simp [JumpsIntoLiveFrame, filled])
  | some frame =>
      decidable_of_iff
        (event = .signal → thread.fallbackArmed = true → frame ∈ thread.frames) (by
          simp [JumpsIntoLiveFrame, filled])

/-- `armed`: an installation has succeeded.  `depth`: the last completed
`sigsetjmp` was executed that many calls ago and its function is still running. -/
structure Window where
  armed : Bool
  depth : Option Nat
  deriving DecidableEq, Repr

def Window.closed : Window := ⟨false, none⟩

def Window.next (window : Window) : Event → Window
  | .call => { window with depth := window.depth.map (· + 1) }
  | .returned =>
      { window with
        depth :=
          match window.depth with
          | some (calls + 1) => some calls
          | _ => none }
  | .work => window
  | .install sigactionSucceeds => { window with armed := window.armed || sigactionSucceeds }
  | .sigsetjmp => { window with depth := some 0 }
  | .signal => if window.armed then { window with depth := window.depth.map fun _ => 0 } else window

/-- No signal arrives while the thread is armed and the window is shut: neither
between the first installation and its `sigsetjmp`, nor after the function that
executed the last `sigsetjmp` has returned. -/
def SignalsInWindow : List Event → Window → Bool
  | [], _ => true
  | event :: rest, window =>
      (!(decide (event = .signal) && window.armed) || window.depth.isSome) &&
        SignalsInWindow rest (window.next event)

/-! ## The window is an abstraction of the thread -/

def depthOf (frame : Nat) : List Nat → Option Nat
  | [] => none
  | other :: rest => if other = frame then some 0 else (depthOf frame rest).map (· + 1)

def windowOf (thread : Thread) : Window where
  armed := thread.fallbackArmed
  depth := thread.fallbackEnv.bind fun frame => depthOf frame thread.frames

structure Fresh (thread : Thread) : Prop where
  ordered : thread.frames.Pairwise (· > ·)
  below : ∀ frame ∈ thread.frames, frame < thread.nextFrame
  envBelow : ∀ frame, thread.fallbackEnv = some frame → frame < thread.nextFrame

theorem fresh_start : Fresh start where
  ordered := List.pairwise_singleton _ _
  below frame member := by
    rw [List.mem_singleton.mp member]
    exact Nat.zero_lt_one
  envBelow frame filled := by cases filled

theorem depthOf_isSome (frame : Nat) : ∀ frames : List Nat,
    (depthOf frame frames).isSome = true ↔ frame ∈ frames := by
  intro frames
  induction frames with
  | nil => simp [depthOf]
  | cons other rest ih =>
      by_cases same : other = frame
      · simp [depthOf, same]
      · have differ : ¬ frame = other := fun equal => same equal.symm
        simp [depthOf, same, differ, ih]

theorem depthOf_dropWhile (frame : Nat) : ∀ frames : List Nat, frame ∈ frames →
    depthOf frame (frames.dropWhile (fun other => decide (other ≠ frame))) = some 0 := by
  intro frames
  induction frames with
  | nil => intro member; cases member
  | cons other rest ih =>
      intro member
      by_cases same : other = frame
      · simp [depthOf, same]
      · have inRest : frame ∈ rest := by
          rcases List.mem_cons.mp member with equal | tail
          · exact absurd equal.symm same
          · exact tail
        rw [List.dropWhile_cons_of_pos (by simpa using same)]
        exact ih inRest

theorem depthOf_map_zero (frame : Nat) (frames : List Nat) (member : frame ∈ frames) :
    (depthOf frame frames).map (fun _ => 0) = some 0 := by
  have present := (depthOf_isSome frame frames).mpr member
  cases found : depthOf frame frames with
  | none => rw [found] at present; cases present
  | some depth => rfl

theorem isSome_windowOf_depth (thread : Thread) :
    (windowOf thread).depth.isSome = true ↔
      ∃ frame, thread.fallbackEnv = some frame ∧ frame ∈ thread.frames := by
  unfold windowOf
  cases thread.fallbackEnv with
  | none => simp
  | some frame => simp [depthOf_isSome]

theorem jumpsIntoLiveFrame_iff (thread : Thread) (event : Event) :
    JumpsIntoLiveFrame thread event ↔
      (!(decide (event = .signal) && (windowOf thread).armed) ||
        (windowOf thread).depth.isSome) = true := by
  rw [Bool.or_eq_true, isSome_windowOf_depth]
  unfold JumpsIntoLiveFrame windowOf
  cases thread.fallbackArmed <;> by_cases signalled : event = .signal <;> simp [signalled]

theorem siglongjmp_live {thread : Thread} (isFresh : Fresh thread) {frame : Nat}
    (filled : thread.fallbackEnv = some frame) (live : frame ∈ thread.frames) :
    Fresh (siglongjmp thread) ∧
      windowOf (siglongjmp thread) =
        { windowOf thread with depth := (windowOf thread).depth.map fun _ => 0 } := by
  unfold siglongjmp
  simp only [filled, if_pos live]
  have suffix := List.dropWhile_sublist
    (fun other => decide (other ≠ frame)) (l := thread.frames)
  refine ⟨⟨isFresh.ordered.sublist suffix,
    fun other member => isFresh.below other (suffix.subset member),
    fun other same => isFresh.envBelow other (filled.trans same)⟩, ?_⟩
  simp only [windowOf, filled, Option.bind_some, depthOf_dropWhile frame _ live,
    depthOf_map_zero frame _ live]

theorem fresh_call {thread : Thread} (isFresh : Fresh thread) :
    Fresh { thread with
      frames := thread.nextFrame :: thread.frames
      nextFrame := thread.nextFrame + 1 } where
  ordered := List.pairwise_cons.mpr ⟨isFresh.below, isFresh.ordered⟩
  below frame member := by
    rcases List.mem_cons.mp member with new | old
    · rw [new]
      exact Nat.lt_succ_self _
    · exact Nat.lt_succ_of_lt (isFresh.below frame old)
  envBelow frame filled := Nat.lt_succ_of_lt (isFresh.envBelow frame filled)

theorem windowOf_call {thread : Thread} (isFresh : Fresh thread) :
    windowOf { thread with
        frames := thread.nextFrame :: thread.frames
        nextFrame := thread.nextFrame + 1 } =
      (windowOf thread).next .call := by
  unfold windowOf Window.next
  cases filled : thread.fallbackEnv with
  | none => rfl
  | some frame =>
      have differ : ¬ thread.nextFrame = frame := by
        have := isFresh.envBelow frame filled
        omega
      simp [depthOf, differ]

theorem windowOf_returned {thread : Thread} (isFresh : Fresh thread) {top : Nat}
    {rest : List Nat} (shape : thread.frames = top :: rest) :
    windowOf { thread with frames := rest } = (windowOf thread).next .returned := by
  unfold windowOf Window.next
  cases filled : thread.fallbackEnv with
  | none => rfl
  | some frame =>
      simp only [Option.bind_some, shape, depthOf]
      by_cases same : top = frame
      · have ordered := isFresh.ordered
        rw [shape, List.pairwise_cons] at ordered
        have gone : frame ∉ rest := by
          intro member
          have := ordered.1 frame member
          omega
        rw [if_pos same]
        have absent : depthOf frame rest = none := by
          rw [← Option.not_isSome_iff_eq_none, depthOf_isSome]
          exact gone
        rw [absent]
      · rw [if_neg same]
        cases depthOf frame rest <;> rfl

/-- One step of the thread is one step of the window, as long as a jump it
makes is into a live frame. -/
theorem step_window {thread next : Thread} {event : Event} (isFresh : Fresh thread)
    (live : JumpsIntoLiveFrame thread event) (stepped : step thread event = some next) :
    Fresh next ∧ windowOf next = (windowOf thread).next event := by
  unfold step at stepped
  split at stepped
  · cases stepped
  · cases shape : thread.frames with
    | nil => simp [shape] at stepped
    | cons top rest =>
        rw [shape] at stepped
        cases event with
        | signal =>
            cases stepped
            unfold fallbackSignalHandler Window.next
            cases armed : thread.fallbackArmed with
            | false =>
                rw [if_neg (by simp), if_neg (by simp [windowOf, armed])]
                exact ⟨isFresh, rfl⟩
            | true =>
                obtain ⟨frame, filled, member⟩ := live rfl armed
                rw [if_pos rfl, if_pos (by simp [windowOf, armed])]
                exact siglongjmp_live isFresh filled member
        | sigsetjmp =>
            simp only at stepped
            split at stepped
            · cases stepped
              rw [← shape]
              refine ⟨⟨isFresh.ordered, isFresh.below, fun frame filled => ?_⟩, ?_⟩
              · cases filled
                exact isFresh.below top (by rw [shape]; exact List.mem_cons_self)
              · simp [windowOf, Window.next, shape, depthOf]
            · cases stepped
        | call =>
            simp only at stepped
            split at stepped
            · cases stepped
            · cases stepped
              rw [← shape]
              exact ⟨fresh_call isFresh, windowOf_call isFresh⟩
        | returned =>
            simp only at stepped
            split at stepped
            · cases stepped
            · cases stepped
              refine ⟨⟨?_, ?_, isFresh.envBelow⟩, windowOf_returned isFresh shape⟩
              · have ordered := isFresh.ordered
                rw [shape] at ordered
                exact (List.pairwise_cons.mp ordered).2
              · intro frame member
                exact isFresh.below frame (by rw [shape]; exact List.mem_cons_of_mem top member)
        | work =>
            simp only at stepped
            split at stepped
            · cases stepped
            · cases stepped
              exact ⟨isFresh, rfl⟩
        | install sigactionSucceeds =>
            simp only at stepped
            split at stepped
            · cases stepped
            · cases stepped
              rw [← shape]
              exact ⟨⟨isFresh.ordered, isFresh.below, isFresh.envBelow⟩, rfl⟩

theorem along_iff_signalsInWindow : ∀ (events : List Event) (thread final : Thread),
    Fresh thread → Machine.run step events thread = some final →
      (Machine.Along step JumpsIntoLiveFrame events thread ↔
        SignalsInWindow events (windowOf thread) = true) := by
  intro events
  induction events with
  | nil => intro thread final _ _; simp [Machine.Along, SignalsInWindow]
  | cons event rest ih =>
      intro thread final isFresh ran
      obtain ⟨next, stepped, restRan⟩ := Machine.run_cons_eq_some.mp ran
      rw [SignalsInWindow, Bool.and_eq_true, ← jumpsIntoLiveFrame_iff]
      constructor
      · intro along
        obtain ⟨live, restAlong⟩ := along next stepped
        obtain ⟨freshNext, sameWindow⟩ := step_window isFresh live stepped
        rw [← sameWindow]
        exact ⟨live, (ih next final freshNext restRan).mp restAlong⟩
      · rintro ⟨live, restIn⟩ other otherStepped
        cases stepped.symm.trans otherStepped
        obtain ⟨freshNext, sameWindow⟩ := step_window isFresh live stepped
        rw [← sameWindow] at restIn
        exact ⟨live, (ih next final freshNext restRan).mpr restIn⟩

/-- In every run of every program, all jumps go into live frames exactly when no
signal arrives outside the window. -/
theorem fallback_jumps_live_iff (events : List Event) (final : Thread)
    (ran : Machine.run step events start = some final) :
    Machine.Along step JumpsIntoLiveFrame events start ↔
      SignalsInWindow events Window.closed = true :=
  along_iff_signalsInWindow events start final fresh_start ran

theorem fallback_jumps_live_iff_sample :
    Machine.Along step JumpsIntoLiveFrame
        [.install true, .sigsetjmp, .call, .work, .signal, .install true, .signal] start ∧
      ¬ Machine.Along step JumpsIntoLiveFrame
        [.call, .install true, .sigsetjmp, .returned, .signal] start :=
  ⟨(fallback_jumps_live_iff _ ⟨[0], 2, true, some 0, false, false⟩ (by decide)).mpr (by decide),
    fun along => absurd
      ((fallback_jumps_live_iff _ ⟨[0], 2, true, some 1, false, true⟩ (by decide)).mp along)
      (by decide)⟩

/-- A signal between the two halves of the first arming, and one after the
function that armed has returned. -/
theorem fallback_jumps_dead :
    ¬ Machine.Along step JumpsIntoLiveFrame [.install true, .signal] start ∧
      ¬ Machine.Along step JumpsIntoLiveFrame
        [.call, .install true, .sigsetjmp, .returned, .signal] start := by
  decide

end Msp.Daemon.FallbackPoint
