import Msp.Daemon.WatchdogdDescriptors

/-!
# Watchdog threads of `watchdogd`

The threads are detached and one flag in reused storage is all that stops them.
A thread past its test of the flag still signals, and a thread that has not come
back to the test when the next iteration sets the flag again goes on.
-/

set_option autoImplicit false

namespace Msp.Daemon.Watchdogd

open Msp.Library Msp.Daemon.SandboxWatchdog Msp.Daemon.TelemetryServer

/-- The thread can still send `SIGUSR1` with the flag as it is. -/
def canSignal (watchdogKeepRunning : Bool) (thread : WatchdogThread) : Bool :=
  match thread.pc with
  | .check => watchdogKeepRunning
  | .finished => false
  | _ => true

def runAlone (watchdogKeepRunning : Bool) : List Telemetry → WatchdogPc → WatchdogPc
  | [], pc => pc
  | telemetry :: rest, pc =>
      runAlone watchdogKeepRunning rest (daemonStep watchdogKeepRunning telemetry pc)

theorem runAlone_finished (watchdogKeepRunning : Bool) : ∀ readings : List Telemetry,
    runAlone watchdogKeepRunning readings .finished = .finished := by
  intro readings
  induction readings with
  | nil => rfl
  | cons telemetry rest ih => exact ih

/-- `canSignal` says exactly that some readings bring the thread, left alone, to
its `pthread_kill`. -/
theorem canSignal_iff (watchdogKeepRunning : Bool) (thread : WatchdogThread) :
    canSignal watchdogKeepRunning thread = true ↔
      ∃ readings, runAlone watchdogKeepRunning readings thread.pc = .kill := by
  unfold canSignal
  cases thread.pc with
  | check =>
      cases watchdogKeepRunning with
      | true => exact ⟨fun _ => ⟨List.replicate 3 ⟨.posInf, 0, false⟩, rfl⟩, fun _ => rfl⟩
      | false =>
          constructor
          · intro able
            cases able
          · rintro ⟨readings, killed⟩
            cases readings with
            | nil => cases killed
            | cons telemetry rest =>
                have ended : runAlone false rest .finished = .kill := killed
                rw [runAlone_finished] at ended
                cases ended
  | poll => exact ⟨fun _ => ⟨List.replicate 2 ⟨.posInf, 0, false⟩, rfl⟩, fun _ => rfl⟩
  | raiseFlag => exact ⟨fun _ => ⟨[⟨.posInf, 0, false⟩], rfl⟩, fun _ => rfl⟩
  | kill => exact ⟨fun _ => ⟨[], rfl⟩, fun _ => rfl⟩
  | finished =>
      constructor
      · intro able
        cases able
      · rintro ⟨readings, killed⟩
        rw [runAlone_finished] at killed
        cases killed

def MainPc.leftLoop : MainPc → Bool
  | .leaving | .exited _ => true
  | _ => false

/-- At most one thread can still signal, it belongs to the current iteration,
and none can once main has left the loop. -/
structure NoStaleWatchdog (process : Process) : Prop where
  atMostOne : process.threads.countP (canSignal process.watchdogKeepRunning) ≤ 1
  current : ∀ thread ∈ process.threads,
    canSignal process.watchdogKeepRunning thread = true → thread.born = process.iteration
  afterLoop : process.main.leftLoop = true → ∀ thread ∈ process.threads,
    canSignal process.watchdogKeepRunning thread = false

/-- Whenever main tests its loop condition each thread has ended or is about to
test a flag that is false, and whenever main sets the flag for a new thread
every earlier one has ended. -/
def ThreadsQuiet (process : Process) (event : Event) : Prop :=
  ∀ answer, event = .main answer →
    (process.main = .loopTest → ∀ thread ∈ process.threads,
      thread.pc = .finished ∨ thread.pc = .check ∧ process.watchdogKeepRunning = false) ∧
    (process.main = .initKeepRunning → ∀ thread ∈ process.threads, thread.pc = .finished)

theorem canSignal_eq_false_iff {watchdogKeepRunning : Bool} {thread : WatchdogThread} :
    canSignal watchdogKeepRunning thread = false ↔
      thread.pc = .finished ∨ thread.pc = .check ∧ watchdogKeepRunning = false := by
  unfold canSignal
  cases thread.pc <;> simp

theorem canSignal_of_cleared {watchdogKeepRunning : Bool} {thread : WatchdogThread}
    (able : canSignal false thread = true) : canSignal watchdogKeepRunning thread = true := by
  unfold canSignal at able ⊢
  cases pc : thread.pc <;> simp_all

theorem canSignal_true_iff {thread : WatchdogThread} :
    canSignal true thread = true ↔ thread.pc ≠ .finished := by
  unfold canSignal
  cases thread.pc <;> simp

def MainPc.beforeCreate : MainPc → Bool
  | .installHandler | .sigsetjmp | .initKeepRunning | .createThread => true
  | _ => false

structure BornInOrder (process : Process) : Prop where
  notLater : ∀ thread ∈ process.threads, thread.born ≤ process.iteration
  earlier : process.main.beforeCreate = true → ∀ thread ∈ process.threads,
    thread.born < process.iteration

theorem bornInOrder_start (leftover : Bool) : BornInOrder (start leftover) where
  notLater _ member := nomatch member
  earlier _ _ member := nomatch member

theorem mem_watchdogStep {process : Process} {index : Nat} {thread other : WatchdogThread}
    {telemetry : Telemetry} (found : process.threads[index]? = some thread)
    (member : other ∈ (watchdogStep process index thread telemetry).threads) :
    ∃ before ∈ process.threads, before.born = other.born ∧
      (canSignal process.watchdogKeepRunning other = true →
        canSignal process.watchdogKeepRunning before = true) := by
  rcases List.mem_or_eq_of_mem_set member with old | new
  · exact ⟨other, old, rfl, id⟩
  · refine ⟨thread, List.mem_of_getElem? found, by rw [new], ?_⟩
    rw [new]
    unfold canSignal
    cases thread.pc <;> cases process.watchdogKeepRunning <;> simp [daemonStep]

theorem bornInOrder_step (process : Process) (event : Event) (next : Process)
    (born : BornInOrder process) (stepped : step process event = some next) :
    BornInOrder next := by
  cases transition_of_step stepped with
  | enterLoop here running =>
      exact ⟨fun thread member => Nat.le_succ_of_le (born.notLater thread member),
        fun _ thread member => Nat.lt_succ_of_le (born.notLater thread member)⟩
  | create here =>
      refine ⟨fun thread member => ?_, fun before => by cases before⟩
      rcases List.mem_append.mp member with old | new
      · exact born.notLater thread old
      · rw [List.mem_singleton.mp new]
  | thread index thread telemetry found alive =>
      refine ⟨fun other member => ?_, fun before other member => ?_⟩
      · obtain ⟨previous, there, same, _⟩ := mem_watchdogStep found member
        rw [← same]
        exact born.notLater previous there
      · obtain ⟨previous, there, same, _⟩ := mem_watchdogStep found member
        rw [← same]
        exact born.earlier before previous there
  | signal pending =>
      refine ⟨born.notLater, fun before => ?_⟩
      simp only [deliverSignal] at before
      split at before
      · cases before
      · exact born.earlier before
  | install here => exact ⟨born.notLater, fun _ => born.earlier (by rw [here]; rfl)⟩
  | setjmp here => exact ⟨born.notLater, fun _ => born.earlier (by rw [here]; rfl)⟩
  | initFlag here => exact ⟨born.notLater, fun _ => born.earlier (by rw [here]; rfl)⟩
  | shutdown => exact ⟨born.notLater, born.earlier⟩
  | connect client kernel connected => exact ⟨born.notLater, born.earlier⟩
  | _ => exact ⟨born.notLater, fun before => by cases before⟩

theorem noStaleWatchdog_of_quiet {process : Process}
    (quiet : ∀ thread ∈ process.threads, canSignal process.watchdogKeepRunning thread = false) :
    NoStaleWatchdog process where
  atMostOne := by
    rw [List.countP_eq_zero.mpr fun thread member => by simp [quiet thread member]]
    exact Nat.zero_le 1
  current thread member able := by simp [quiet thread member] at able
  afterLoop _ := quiet

theorem noStaleWatchdog_mono {process next : Process} (noStale : NoStaleWatchdog process)
    (fewer : next.threads.countP (canSignal next.watchdogKeepRunning) ≤
      process.threads.countP (canSignal process.watchdogKeepRunning))
    (inherited : ∀ thread ∈ next.threads, canSignal next.watchdogKeepRunning thread = true →
      ∃ before ∈ process.threads, before.born = thread.born ∧
        canSignal process.watchdogKeepRunning before = true)
    (sameIteration : next.iteration = process.iteration)
    (left : next.main.leftLoop = true → process.main.leftLoop = true) :
    NoStaleWatchdog next where
  atMostOne := le_trans fewer noStale.atMostOne
  current thread member able := by
    obtain ⟨before, there, same, wasAble⟩ := inherited thread member able
    rw [sameIteration, ← same]
    exact noStale.current before there wasAble
  afterLoop here thread member := by
    cases able : canSignal next.watchdogKeepRunning thread with
    | false => rfl
    | true =>
        obtain ⟨before, there, _, wasAble⟩ := inherited thread member able
        rw [noStale.afterLoop (left here) before there] at wasAble
        cases wasAble

theorem noStaleWatchdog_same {process next : Process} (noStale : NoStaleWatchdog process)
    (sameThreads : next.threads = process.threads)
    (sameFlag : next.watchdogKeepRunning = process.watchdogKeepRunning)
    (sameIteration : next.iteration = process.iteration)
    (left : next.main.leftLoop = true → process.main.leftLoop = true) :
    NoStaleWatchdog next := by
  refine noStaleWatchdog_mono noStale ?_ ?_ sameIteration left
  · rw [sameThreads, sameFlag]
  · rw [sameThreads, sameFlag]
    exact fun thread member able => ⟨thread, member, rfl, able⟩

theorem noStaleWatchdog_watchdogStep {process : Process} {index : Nat} {thread : WatchdogThread}
    {telemetry : Telemetry} (noStale : NoStaleWatchdog process)
    (found : process.threads[index]? = some thread) :
    NoStaleWatchdog (watchdogStep process index thread telemetry) := by
  refine noStaleWatchdog_mono noStale ?_ ?_ rfl id
  · obtain ⟨inRange, there⟩ := List.getElem?_eq_some_iff.mp found
    simp only [watchdogStep]
    rw [List.countP_set inRange, there]
    have counted : canSignal process.watchdogKeepRunning thread = true →
        1 ≤ process.threads.countP (canSignal process.watchdogKeepRunning) := fun able =>
      List.one_le_countP_iff.mpr ⟨thread, List.mem_of_getElem? found, able⟩
    have noNew : canSignal process.watchdogKeepRunning
          { thread with pc := daemonStep process.watchdogKeepRunning telemetry thread.pc } = true →
        canSignal process.watchdogKeepRunning thread = true := by
      unfold canSignal
      cases thread.pc <;> cases process.watchdogKeepRunning <;> simp [daemonStep]
    split_ifs with before after
    · have := counted before
      omega
    · omega
    · rename_i after
      exact absurd (noNew after) before
    · omega
  · intro other member able
    obtain ⟨before, there, same, wasAble⟩ := mem_watchdogStep found member
    exact ⟨before, there, same, wasAble able⟩

theorem none_before_create {process : Process} (born : BornInOrder process)
    (noStale : NoStaleWatchdog process) (before : process.main.beforeCreate = true) :
    ∀ thread ∈ process.threads, canSignal process.watchdogKeepRunning thread = false := by
  intro thread member
  cases able : canSignal process.watchdogKeepRunning thread with
  | false => rfl
  | true =>
      have same := noStale.current thread member able
      have less := born.earlier before thread member
      omega

theorem threadsQuiet_elsewhere {process : Process} (event : Event)
    (notTest : process.main ≠ .loopTest) (notInit : process.main ≠ .initKeepRunning) :
    ThreadsQuiet process event :=
  fun _ _ => ⟨fun here => absurd here notTest, fun here => absurd here notInit⟩

theorem noStaleWatchdog_created {process next : Process} {thread : WatchdogThread}
    (none : ∀ other ∈ process.threads, canSignal next.watchdogKeepRunning other = false)
    (created : next.threads = process.threads ++ [thread])
    (isCurrent : thread.born = next.iteration) (notLeft : next.main.leftLoop = false) :
    NoStaleWatchdog next where
  atMostOne := by
    have before : process.threads.countP (canSignal next.watchdogKeepRunning) = 0 :=
      List.countP_eq_zero.mpr fun other member => by simp [none other member]
    rw [created, List.countP_append, before, Nat.zero_add]
    exact List.countP_le_length
  current other member able := by
    rw [created] at member
    rcases List.mem_append.mp member with old | new
    · rw [none other old] at able
      cases able
    · rw [List.mem_singleton.mp new]
      exact isCurrent
  afterLoop left := by
    rw [notLeft] at left
    cases left

/-- Main at its loop condition: a thread that could signal would outlive its iteration. -/
theorem quiet_of_enterLoop {process next : Process} (born : BornInOrder process)
    (noStale : NoStaleWatchdog next) (sameThreads : next.threads = process.threads)
    (sameFlag : next.watchdogKeepRunning = process.watchdogKeepRunning)
    (later : next.iteration = process.iteration + 1) :
    ∀ thread ∈ process.threads, canSignal process.watchdogKeepRunning thread = false := by
  intro thread member
  cases able : canSignal process.watchdogKeepRunning thread with
  | false => rfl
  | true =>
      rw [← sameThreads] at member
      rw [← sameFlag] at able
      have bornNow := noStale.current thread member able
      have bornBefore := born.notLater thread (sameThreads ▸ member)
      omega

theorem finished_of_initFlag {process next : Process} (born : BornInOrder process)
    (before : process.main.beforeCreate = true) (noStale : NoStaleWatchdog next)
    (sameThreads : next.threads = process.threads) (flag : next.watchdogKeepRunning = true)
    (sameIteration : next.iteration = process.iteration) :
    ∀ thread ∈ process.threads, thread.pc = .finished := by
  intro thread member
  by_contra alive
  have able : canSignal next.watchdogKeepRunning thread = true := by
    rw [flag]
    exact canSignal_true_iff.mpr alive
  have bornNow := noStale.current thread (sameThreads ▸ member) able
  have less := born.earlier before thread member
  omega

theorem noStaleWatchdog_step_iff (process : Process) (event : Event) (next : Process)
    (born : BornInOrder process) (noStale : NoStaleWatchdog process)
    (stepped : step process event = some next) :
    NoStaleWatchdog next ↔ ThreadsQuiet process event := by
  have elsewhere : process.main ≠ .loopTest → process.main ≠ .initKeepRunning →
      NoStaleWatchdog next → (NoStaleWatchdog next ↔ ThreadsQuiet process event) :=
    fun notTest notInit good => ⟨fun _ => threadsQuiet_elsewhere event notTest notInit,
      fun _ => good⟩
  have notMain : (∀ answer, event ≠ .main answer) → NoStaleWatchdog next →
      (NoStaleWatchdog next ↔ ThreadsQuiet process event) :=
    fun other good => ⟨fun _ answer main => absurd main (other answer), fun _ => good⟩
  cases transition_of_step stepped with
  | enterLoop here running =>
      constructor
      · intro good answer _
        refine ⟨fun _ thread member => canSignal_eq_false_iff.mp ?_,
          fun other => by cases here.symm.trans other⟩
        exact quiet_of_enterLoop born good rfl rfl rfl thread member
      · intro quiet
        exact noStaleWatchdog_of_quiet fun thread member =>
          canSignal_eq_false_iff.mpr ((quiet .ok rfl).1 here thread member)
  | leaveLoop here stopped =>
      constructor
      · intro good answer _
        exact ⟨fun _ thread member => canSignal_eq_false_iff.mp (good.afterLoop rfl thread member),
          fun other => by cases here.symm.trans other⟩
      · intro quiet
        exact noStaleWatchdog_of_quiet fun thread member =>
          canSignal_eq_false_iff.mpr ((quiet .ok rfl).1 here thread member)
  | initFlag here =>
      constructor
      · intro good answer _
        refine ⟨fun other => (by cases here.symm.trans other), fun _ => ?_⟩
        exact finished_of_initFlag born (by rw [here]; rfl) good rfl rfl rfl
      · intro quiet
        exact noStaleWatchdog_of_quiet fun thread member =>
          canSignal_eq_false_iff.mpr (Or.inl ((quiet .ok rfl).2 here thread member))
  | create here =>
      refine elsewhere (by simp [here]) (by simp [here]) ?_
      have none := none_before_create born noStale (by rw [here]; rfl)
      exact noStaleWatchdog_created none rfl rfl rfl
  | createFails here =>
      refine elsewhere (by simp [here]) (by simp [here]) ?_
      have none := none_before_create born noStale (by rw [here]; rfl)
      exact noStaleWatchdog_of_quiet none
  | clearFlag here =>
      refine elsewhere (by simp [here]) (by simp [here]) ?_
      refine noStaleWatchdog_mono noStale ?_ ?_ rfl fun left => by cases left
      · exact List.countP_mono_left fun thread _ => canSignal_of_cleared
      · exact fun thread member able => ⟨thread, member, rfl, canSignal_of_cleared able⟩
  | thread index thread telemetry found alive =>
      exact notMain (fun _ main => by cases main) (noStaleWatchdog_watchdogStep noStale found)
  | signal pending =>
      refine notMain (fun _ main => by cases main) (noStaleWatchdog_same noStale rfl rfl rfl ?_)
      simp only [deliverSignal]
      split
      · exact fun left => by cases left
      · exact id
  | shutdown =>
      exact notMain (fun _ main => by cases main) (noStaleWatchdog_same noStale rfl rfl rfl id)
  | connect client kernel connected =>
      exact notMain (fun _ main => by cases main) (noStaleWatchdog_same noStale rfl rfl rfl id)
  | exit here =>
      refine elsewhere (by simp [here]) (by simp [here]) ?_
      exact noStaleWatchdog_same noStale rfl rfl rfl fun _ => by rw [here]; rfl
  | serve answer pc target kernel here effect =>
      refine elsewhere (by simp [here]) (by simp [here]) ?_
      exact noStaleWatchdog_same noStale rfl rfl rfl fun left => by cases left
  | serverReturns answer pc kernel here effect =>
      refine elsewhere (by simp [here]) (by simp [here]) ?_
      exact noStaleWatchdog_same noStale rfl rfl rfl fun left => by cases left
  | _ =>
      rename_i here
      refine elsewhere (by simp [here]) (by simp [here]) ?_
      exact noStaleWatchdog_same noStale rfl rfl rfl fun left => by cases left

/-- In every run no stale watchdog thread can signal in any state exactly when
main finds the threads quiet each time it tests its loop condition or sets the
flag again. -/
theorem no_stale_watchdog_iff (leftover : Bool) (events : List Event) :
    Machine.Throughout step NoStaleWatchdog events (start leftover) ↔
      Machine.Along step ThreadsQuiet events (start leftover) := by
  apply Machine.throughout_iff_along bornInOrder_step noStaleWatchdog_step_iff
  · exact bornInOrder_start leftover
  · exact noStaleWatchdog_of_quiet fun _ member => nomatch member

/-- `socket` fails while the thread sleeps: the next iteration finds it able to
signal. -/
def restartAfterSocketFailure : List Event :=
  List.replicate 5 (.main .ok) ++
    [.watchdog 0 ⟨.finite 20, 0, false⟩, .main .fails, .main .ok, .main .ok]

/-- A graceful shutdown while the thread sleeps: it reads a violation afterwards
and signals a main thread that has left its loop. -/
def signalAfterShutdown : List Event :=
  List.replicate 5 (.main .ok) ++
    [.watchdog 0 ⟨.finite 20, 0, false⟩, .shutdown, .main .ok, .main .fails] ++
      List.replicate 7 (.main .ok) ++ List.replicate 3 (.watchdog 0 ⟨.posInf, 0, false⟩)

theorem stale_watchdog :
    ¬ Machine.Throughout step NoStaleWatchdog restartAfterSocketFailure (start false) ∧
      ∃ final, Machine.run step signalAfterShutdown (start false) = some final ∧
        final.main = .leaving ∧ final.signalPending = true := by
  constructor
  · intro everywhere
    have final := Machine.Throughout.last everywhere rfl
    exact absurd (final.current ⟨1, .poll⟩ (by decide) rfl) (by decide)
  · exact ⟨_, rfl, rfl, rfl⟩

end Msp.Daemon.Watchdogd
