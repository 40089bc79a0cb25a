import Mathlib.Logic.Function.Basic
import Msp.Library.Machine

/-!
# Streams of a device

A host program puts operations on streams and may wait for one of them; each
stream is a queue, and the device executes the heads of the queues in any order.

`Observes` is what a program of kernels on a stream of its own can compute when
another stream still has operations to execute: the kernels read what those
write, and only kernels write what the kernels write.  A result is observed
exactly when it is computed from readings of the other stream's memory at
points of its queue that do not go back (`observes_iff`), and exactly when a run
of the device leaves it (`exists_run_iff`).
-/

set_option autoImplicit false

namespace Msp.Library.Streams

inductive Instruction (Stream Memory : Type*) where
  | launch (stream : Stream) (operation : Memory → Memory)
  | synchronize (stream : Stream)
  | perform (operation : Memory → Memory)

structure System (Stream Memory : Type*) where
  program : List (Instruction Stream Memory)
  queue : Stream → List (Memory → Memory)
  memory : Memory

inductive Event (Stream : Type*) where
  | host
  | execute (stream : Stream)
  deriving DecidableEq, Repr

section Step
variable {Stream Memory : Type*} [DecidableEq Stream]

def step (system : System Stream Memory) : Event Stream → Option (System Stream Memory)
  | .host =>
      match system.program with
      | [] => none
      | .launch stream operation :: rest =>
          some
            { system with
              program := rest
              queue := Function.update system.queue stream
                (system.queue stream ++ [operation]) }
      | .synchronize stream :: rest =>
          if (system.queue stream).isEmpty then some { system with program := rest } else none
      | .perform operation :: rest =>
          some { system with program := rest, memory := operation system.memory }
  | .execute stream =>
      match system.queue stream with
      | [] => none
      | operation :: rest =>
          some
            { system with
              queue := Function.update system.queue stream rest
              memory := operation system.memory }

variable {system : System Stream Memory} {stream : Stream} {operation : Memory → Memory}

theorem step_launch {rest : List (Instruction Stream Memory)}
    (here : system.program = .launch stream operation :: rest) :
    step system .host =
      some
        { system with
          program := rest
          queue := Function.update system.queue stream (system.queue stream ++ [operation]) } := by
  simp only [step, here]

theorem step_synchronize {rest : List (Instruction Stream Memory)}
    (here : system.program = .synchronize stream :: rest) (empty : system.queue stream = []) :
    step system .host = some { system with program := rest } := by
  simp only [step, here, empty]
  rfl

theorem step_execute {rest : List (Memory → Memory)}
    (here : system.queue stream = operation :: rest) :
    step system (.execute stream) =
      some
        { system with
          queue := Function.update system.queue stream rest
          memory := operation system.memory } := by
  simp only [step, here]

theorem memory_of_performed : ∀ (events : List (Event Stream))
    {operations : List (Memory → Memory)} {system final : System Stream Memory},
    system.program = operations.map .perform → (∀ stream, system.queue stream = []) →
      Machine.run step events system = some final → final.program = [] →
        final.memory = operations.foldl (fun memory operation => operation memory)
          system.memory := by
  intro events
  induction events with
  | nil =>
      intro operations system final program _ ran finished
      cases Option.some.inj ran
      rw [program, List.map_eq_nil_iff] at finished
      rw [finished]
      rfl
  | cons event events ih =>
      intro operations system final program idle ran finished
      obtain ⟨next, stepped, restRan⟩ := Machine.run_cons_eq_some.mp ran
      cases event with
      | host =>
          cases operations with
          | nil =>
              simp only [step, program, List.map_nil] at stepped
              cases stepped
          | cons operation operations =>
              simp only [step, program, List.map_cons] at stepped
              cases stepped
              refine @ih operations _ final ?_ ?_ restRan finished
              · rfl
              · exact idle
      | execute stream =>
          simp only [step, idle stream] at stepped
          cases stepped

end Step

section Observes
variable {Shared Local : Type*}

inductive Observes : List (Shared → Local → Local) → List (Shared → Shared) →
    Shared → Local → Local → Prop where
  | done (pending : List (Shared → Shared)) (shared : Shared) (own : Local) :
      Observes [] pending shared own own
  | other {kernels : List (Shared → Local → Local)} {operation : Shared → Shared}
      {pending : List (Shared → Shared)} {shared : Shared} {own result : Local}
      (behind : Observes kernels pending (operation shared) own result) :
      Observes kernels (operation :: pending) shared own result
  | kernel {first : Shared → Local → Local} {kernels : List (Shared → Local → Local)}
      {pending : List (Shared → Shared)} {shared : Shared} {own result : Local}
      (behind : Observes kernels pending shared (first shared own) result) :
      Observes (first :: kernels) pending shared own result

def after (pending : List (Shared → Shared)) (shared : Shared) (count : ℕ) : Shared :=
  (pending.take count).foldl (fun memory operation => operation memory) shared

def readAt (memories : ℕ → Shared) : List ℕ → List (Shared → Local → Local) → Local → Local
  | moment :: moments, first :: kernels, own =>
      readAt memories moments kernels (first (memories moment) own)
  | _, _, own => own

/-- One moment for each kernel, none before its predecessor's or behind the queue. -/
structure IsSchedule (kernels : List (Shared → Local → Local)) (pending : List (Shared → Shared))
    (moments : List ℕ) : Prop where
  each : moments.length = kernels.length
  ordered : moments.Pairwise (· ≤ ·)
  inside : ∀ moment ∈ moments, moment ≤ pending.length

theorem readAt_shift (operation : Shared → Shared) (pending : List (Shared → Shared))
    (shared : Shared) : ∀ (moments : List ℕ) (kernels : List (Shared → Local → Local))
      (own : Local),
    readAt (after (operation :: pending) shared) (moments.map (· + 1)) kernels own =
      readAt (after pending (operation shared)) moments kernels own := by
  intro moments
  induction moments with
  | nil => intro kernels own; cases kernels <;> rfl
  | cons moment rest ih =>
      intro kernels own
      cases kernels with
      | nil => rfl
      | cons first kernels => exact ih kernels _

theorem Observes.advance {kernels : List (Shared → Local → Local)} {own result : Local} :
    ∀ (count : ℕ) {pending : List (Shared → Shared)} {shared : Shared},
      Observes kernels (pending.drop count) (after pending shared count) own result →
        Observes kernels pending shared own result := by
  intro count
  induction count with
  | zero => intro pending shared behind; exact behind
  | succ count ih =>
      intro pending shared behind
      cases pending with
      | nil => exact behind
      | cons operation rest => exact .other (ih behind)

theorem after_drop (pending : List (Shared → Shared)) (shared : Shared) {first second : ℕ}
    (ordered : first ≤ second) :
    after (pending.drop first) (after pending shared first) (second - first) =
      after pending shared second := by
  unfold after
  rw [← List.foldl_append, ← List.take_add, Nat.add_sub_cancel' ordered]

/-- From a point of the queue on, kernels may read at any later moments. -/
theorem Observes.of_moments (pending : List (Shared → Shared)) (shared : Shared) :
    ∀ (kernels : List (Shared → Local → Local)) (moments : List ℕ) (start : ℕ) (own : Local),
      IsSchedule kernels pending moments → (∀ moment ∈ moments, start ≤ moment) →
        Observes kernels (pending.drop start) (after pending shared start) own
          (readAt (after pending shared) moments kernels own) := by
  intro kernels
  induction kernels with
  | nil =>
      intro moments start own schedule _
      have none := List.eq_nil_of_length_eq_zero schedule.each
      rw [none]
      exact .done _ _ _
  | cons first kernels ih =>
      intro moments start own schedule later
      obtain ⟨each, ordered, inside⟩ := schedule
      cases moments with
      | nil => cases each
      | cons moment moments =>
          obtain ⟨notBefore, restOrdered⟩ := List.pairwise_cons.mp ordered
          have behind := ih moments moment (first (after pending shared moment) own)
            ⟨Nat.succ.inj each, restOrdered,
              fun other member => inside other (List.mem_cons_of_mem _ member)⟩ notBefore
          have reached := later moment List.mem_cons_self
          refine .advance (moment - start) ?_
          rw [List.drop_drop, Nat.add_sub_cancel' reached, after_drop pending shared reached]
          exact .kernel behind

theorem observes_iff {kernels : List (Shared → Local → Local)} {pending : List (Shared → Shared)}
    {shared : Shared} {own result : Local} :
    Observes kernels pending shared own result ↔
      ∃ moments, IsSchedule kernels pending moments ∧
        readAt (after pending shared) moments kernels own = result := by
  constructor
  · intro observes
    induction observes with
    | done pending shared own =>
        exact ⟨[], ⟨rfl, List.Pairwise.nil, fun _ member => nomatch member⟩, rfl⟩
    | @other kernels operation pending shared own result _ ih =>
        obtain ⟨moments, ⟨each, ordered, inside⟩, read⟩ := ih
        refine ⟨moments.map (· + 1), ⟨?_, ?_, ?_⟩, (readAt_shift _ _ _ _ _ _).trans read⟩
        · rw [List.length_map]
          exact each
        · exact ordered.map _ fun _ _ notAfter => Nat.succ_le_succ notAfter
        · intro moment member
          obtain ⟨before, isBefore, rfl⟩ := List.mem_map.mp member
          exact Nat.succ_le_succ (inside before isBefore)
    | @kernel first kernels pending shared own result _ ih =>
        obtain ⟨moments, ⟨each, ordered, inside⟩, read⟩ := ih
        refine ⟨0 :: moments, ⟨congrArg Nat.succ each, ?_, ?_⟩, read⟩
        · exact List.pairwise_cons.mpr ⟨fun _ _ => Nat.zero_le _, ordered⟩
        · intro moment member
          rcases List.mem_cons.mp member with rfl | later
          · exact Nat.zero_le _
          · exact inside moment later
  · rintro ⟨moments, schedule, rfl⟩
    exact Observes.of_moments pending shared kernels moments 0 own schedule
      fun _ _ => Nat.zero_le _

end Observes

/-! ## Runs of the device -/

section Runs
variable {Stream Shared Local : Type*}

def onShared (operation : Shared → Shared) : Shared × Local → Shared × Local :=
  fun memory => (operation memory.1, memory.2)

def onLocal (kernel : Shared → Local → Local) : Shared × Local → Shared × Local :=
  fun memory => (memory.1, kernel memory.1 memory.2)

theorem foldl_onLocal (shared : Shared) : ∀ (kernels : List (Shared → Local → Local))
    (start : Local),
    (kernels.map onLocal).foldl (fun memory operation => operation memory) (shared, start) =
      (shared, readAt (fun _ => shared) (List.replicate kernels.length 0) kernels start) := by
  intro kernels
  induction kernels with
  | nil => exact fun _ => rfl
  | cons first kernels ih => exact fun start => ih (first shared start)

/-- Launch the kernels on a stream and wait for it. -/
def launchAll (own : Stream) (kernels : List (Shared → Local → Local)) :
    List (Instruction Stream (Shared × Local)) :=
  kernels.map (fun kernel => .launch own (onLocal kernel)) ++ [.synchronize own]

/-- Kernels launched and to be launched, and operations pending on the other stream,
at the end of which the host has nothing left to do. -/
structure Standing (other own : Stream) (launched rest : List (Shared → Local → Local))
    (pending : List (Shared → Shared)) (system : System Stream (Shared × Local)) : Prop where
  program : system.program = launchAll own rest ∨
    system.program = [] ∧ launched = [] ∧ rest = []
  onOwn : system.queue own = launched.map onLocal
  onOther : system.queue other = pending.map onShared
  idle : ∀ stream, stream ≠ own → stream ≠ other → system.queue stream = []

def OnCourse (other own : Stream) (system : System Stream (Shared × Local)) : Prop :=
  ∃ launched rest pending, Standing other own launched rest pending system

variable [DecidableEq Stream] {other own : Stream} {launched rest : List (Shared → Local → Local)}
  {pending : List (Shared → Shared)} {system : System Stream (Shared × Local)}

theorem Standing.launch {kernel : Shared → Local → Local} (distinct : own ≠ other)
    (standing : Standing other own launched (kernel :: rest) pending system) :
    ∃ next, step system .host = some next ∧ next.memory = system.memory ∧
      Standing other own (launched ++ [kernel]) rest pending next := by
  obtain ⟨program, onOwn, onOther, idle⟩ := standing
  have isProgram : system.program = .launch own (onLocal kernel) :: launchAll own rest := by
    rcases program with launches | ⟨_, _, absurdly⟩
    · exact launches
    · cases absurdly
  refine ⟨_, step_launch isProgram, rfl, ⟨Or.inl rfl, ?_, ?_, ?_⟩⟩
  · refine (Function.update_self _ _ _).trans ?_
    rw [onOwn, List.map_append]
    rfl
  · exact (Function.update_of_ne distinct.symm _ _).trans onOther
  · intro stream notOwn notOther
    exact (Function.update_of_ne notOwn _ _).trans (idle stream notOwn notOther)

theorem Standing.executeOwn {kernel : Shared → Local → Local} (distinct : own ≠ other)
    (standing : Standing other own (kernel :: launched) rest pending system) :
    ∃ next, step system (.execute own) = some next ∧
      next.memory = onLocal kernel system.memory ∧
        Standing other own launched rest pending next := by
  obtain ⟨program, onOwn, onOther, idle⟩ := standing
  refine ⟨_, step_execute onOwn, rfl, ⟨?_, ?_, ?_, ?_⟩⟩
  · rcases program with launches | ⟨_, absurdly, _⟩
    · exact Or.inl launches
    · cases absurdly
  · exact Function.update_self _ _ _
  · exact (Function.update_of_ne distinct.symm _ _).trans onOther
  · intro stream notOwn notOther
    exact (Function.update_of_ne notOwn _ _).trans (idle stream notOwn notOther)

theorem Standing.executeOther {operation : Shared → Shared} (distinct : own ≠ other)
    (standing : Standing other own launched rest (operation :: pending) system) :
    ∃ next, step system (.execute other) = some next ∧
      next.memory = onShared operation system.memory ∧
        Standing other own launched rest pending next := by
  obtain ⟨program, onOwn, onOther, idle⟩ := standing
  refine ⟨_, step_execute onOther, rfl, ⟨program, ?_, ?_, ?_⟩⟩
  · exact (Function.update_of_ne distinct _ _).trans onOwn
  · exact Function.update_self _ _ _
  · intro stream notOwn notOther
    exact (Function.update_of_ne notOther _ _).trans (idle stream notOwn notOther)

omit [DecidableEq Stream] in
theorem Standing.finished (standing : Standing other own [] [] pending system) :
    Standing other own [] [] pending { system with program := [] } :=
  ⟨Or.inr ⟨rfl, rfl, rfl⟩, standing.onOwn, standing.onOther, standing.idle⟩

theorem Standing.finish (standing : Standing other own [] [] pending system) :
    ∃ events final, Machine.run step events system = some final ∧ final.program = [] ∧
      final.memory = system.memory := by
  obtain ⟨program, onOwn, _, _⟩ := standing
  rcases program with waits | ⟨finished, _, _⟩
  · refine ⟨[.host], { system with program := [] }, ?_, rfl, rfl⟩
    rw [Machine.run_cons, step_synchronize waits onOwn]
    rfl
  · exact ⟨[], system, rfl, finished, rfl⟩

/-- A step launches a kernel, ends the host's program, or executes the head of one of the
two queues. -/
theorem Standing.step_cases {event : Event Stream} {next : System Stream (Shared × Local)}
    (distinct : own ≠ other) (standing : Standing other own launched rest pending system)
    (stepped : step system event = some next) :
    (∃ kernel behind, rest = kernel :: behind ∧ next.memory = system.memory ∧
      Standing other own (launched ++ [kernel]) behind pending next) ∨
    (launched = [] ∧ rest = [] ∧ next.memory = system.memory ∧
      Standing other own [] [] pending next) ∨
    (∃ kernel behind, launched = kernel :: behind ∧
      next.memory = onLocal kernel system.memory ∧ Standing other own behind rest pending next) ∨
    (∃ operation behind, pending = operation :: behind ∧
      next.memory = onShared operation system.memory ∧
        Standing other own launched rest behind next) := by
  obtain ⟨program, onOwn, onOther, idle⟩ := id standing
  cases event with
  | host =>
      rcases program with launches | ⟨finished, _, _⟩
      · cases rest with
        | nil =>
            have waits : system.program = .synchronize own :: [] := launches
            simp only [step, waits] at stepped
            split at stepped
            · rename_i empty
              rw [onOwn, List.isEmpty_iff, List.map_eq_nil_iff] at empty
              subst empty
              cases stepped
              exact Or.inr (Or.inl ⟨rfl, rfl, rfl, standing.finished⟩)
            · cases stepped
        | cons kernel behind =>
            obtain ⟨_, launched, same, stands⟩ := standing.launch distinct
            cases stepped.symm.trans launched
            exact Or.inl ⟨kernel, behind, rfl, same, stands⟩
      · simp only [step, finished] at stepped
        cases stepped
  | execute stream =>
      by_cases isOwn : stream = own
      · subst isOwn
        cases launched with
        | nil =>
            simp only [step, onOwn, List.map_nil] at stepped
            cases stepped
        | cons kernel behind =>
            obtain ⟨_, executed, written, stands⟩ := standing.executeOwn distinct
            cases stepped.symm.trans executed
            exact Or.inr (Or.inr (Or.inl ⟨kernel, behind, rfl, written, stands⟩))
      · by_cases isOther : stream = other
        · subst isOther
          cases pending with
          | nil =>
              simp only [step, onOther, List.map_nil] at stepped
              cases stepped
          | cons operation behind =>
              obtain ⟨_, executed, written, stands⟩ := standing.executeOther distinct
              cases stepped.symm.trans executed
              exact Or.inr (Or.inr (Or.inr ⟨operation, behind, rfl, written, stands⟩))
        · simp only [step, idle stream isOwn isOther] at stepped
          cases stepped

theorem onCourse_step (distinct : own ≠ other) (system : System Stream (Shared × Local))
    (event : Event Stream) (next : System Stream (Shared × Local))
    (onCourse : OnCourse other own system) (stepped : step system event = some next) :
    OnCourse other own next := by
  obtain ⟨launched, rest, pending, standing⟩ := onCourse
  rcases standing.step_cases distinct stepped with ⟨_, _, _, _, stands⟩ | ⟨_, _, _, stands⟩ |
    ⟨_, _, _, _, stands⟩ | ⟨_, _, _, _, stands⟩ <;>
  exact ⟨_, _, _, stands⟩

theorem observes_of_run (distinct : own ≠ other) : ∀ (events : List (Event Stream))
    {launched rest : List (Shared → Local → Local)} {pending : List (Shared → Shared)}
    {system final : System Stream (Shared × Local)},
    Standing other own launched rest pending system →
      Machine.run step events system = some final → final.program = [] →
        Observes (launched ++ rest) pending system.memory.1 system.memory.2 final.memory.2 := by
  intro events
  induction events with
  | nil =>
      intro launched rest pending system final standing ran finished
      cases Option.some.inj ran
      rcases standing.program with launches | ⟨_, rfl, rfl⟩
      · rw [finished] at launches
        cases rest <;> cases launches
      · exact .done pending _ _
  | cons event events ih =>
      intro launched rest pending system final standing ran finished
      obtain ⟨next, stepped, restRan⟩ := Machine.run_cons_eq_some.mp ran
      rcases standing.step_cases distinct stepped with ⟨kernel, behind, rfl, same, stands⟩ |
        ⟨rfl, rfl, same, stands⟩ | ⟨kernel, behind, rfl, written, stands⟩ |
        ⟨operation, behind, rfl, written, stands⟩
      · have observes := ih stands restRan finished
        rw [same, List.append_assoc] at observes
        exact observes
      · have observes := ih stands restRan finished
        rwa [same] at observes
      · have observes := ih stands restRan finished
        rw [written] at observes
        exact .kernel observes
      · have observes := ih stands restRan finished
        rw [written] at observes
        exact .other observes

theorem exists_run_of_launched (distinct : own ≠ other)
    {kernels : List (Shared → Local → Local)} {shared : Shared} {start result : Local}
    (observes : Observes kernels pending shared start result) :
    ∀ {system : System Stream (Shared × Local)}, Standing other own kernels [] pending system →
      system.memory = (shared, start) →
        ∃ events final, Machine.run step events system = some final ∧ final.program = [] ∧
          final.memory.2 = result := by
  induction observes with
  | done pending shared start =>
      intro system standing memory
      obtain ⟨events, final, ran, finished, same⟩ := standing.finish
      exact ⟨events, final, ran, finished, by rw [same, memory]⟩
  | other _ ih =>
      intro system standing memory
      obtain ⟨next, executes, written, stands⟩ := standing.executeOther distinct
      obtain ⟨events, final, ran, finished, result⟩ := ih stands (by rw [written, memory]; rfl)
      exact ⟨.execute other :: events, final,
        Machine.run_cons_eq_some.mpr ⟨next, executes, ran⟩, finished, result⟩
  | kernel _ ih =>
      intro system standing memory
      obtain ⟨next, executes, written, stands⟩ := standing.executeOwn distinct
      obtain ⟨events, final, ran, finished, result⟩ := ih stands (by rw [written, memory]; rfl)
      exact ⟨.execute own :: events, final,
        Machine.run_cons_eq_some.mpr ⟨next, executes, ran⟩, finished, result⟩

theorem exists_run (distinct : own ≠ other) {result : Local} :
    ∀ (rest : List (Shared → Local → Local)) {launched : List (Shared → Local → Local)}
      {system : System Stream (Shared × Local)},
      Standing other own launched rest pending system →
        Observes (launched ++ rest) pending system.memory.1 system.memory.2 result →
          ∃ events final, Machine.run step events system = some final ∧ final.program = [] ∧
            final.memory.2 = result := by
  intro rest
  induction rest with
  | nil =>
      intro launched system standing observes
      rw [List.append_nil] at observes
      exact exists_run_of_launched distinct observes standing rfl
  | cons kernel rest ih =>
      intro launched system standing observes
      obtain ⟨next, launches, same, stands⟩ := standing.launch distinct
      rw [← same, List.append_cons] at observes
      obtain ⟨events, final, ran, finished, isResult⟩ := ih stands observes
      exact ⟨.host :: events, final, Machine.run_cons_eq_some.mpr ⟨next, launches, ran⟩,
        finished, isResult⟩

/-- The results that runs leave are the observed ones. -/
theorem exists_run_iff (distinct : own ≠ other)
    (standing : Standing other own launched rest pending system) {result : Local} :
    (∃ events final, Machine.run step events system = some final ∧ final.program = [] ∧
      final.memory.2 = result) ↔
        Observes (launched ++ rest) pending system.memory.1 system.memory.2 result := by
  constructor
  · rintro ⟨events, final, ran, finished, rfl⟩
    exact observes_of_run distinct events standing ran finished
  · exact exists_run distinct rest standing

theorem exists_observes (pending : List (Shared → Shared)) (shared : Shared) :
    ∀ (kernels : List (Shared → Local → Local)) (start : Local),
      ∃ result, Observes kernels pending shared start result := by
  intro kernels
  induction kernels with
  | nil => exact fun start => ⟨start, .done pending shared start⟩
  | cons first kernels ih =>
      intro start
      obtain ⟨result, observes⟩ := ih (first shared start)
      exact ⟨result, .kernel observes⟩

/-- No run gets stuck: the host can always come to its end. -/
theorem exists_finish (distinct : own ≠ other) {events : List (Event Stream)}
    {next : System Stream (Shared × Local)} (onCourse : OnCourse other own system)
    (ran : Machine.run step events system = some next) :
    ∃ more final, Machine.run step more next = some final ∧ final.program = [] := by
  obtain ⟨launched, rest, pending, standing⟩ :=
    Machine.run_preserves (onCourse_step distinct) events system next onCourse ran
  obtain ⟨result, observes⟩ :=
    exists_observes pending next.memory.1 (launched ++ rest) next.memory.2
  obtain ⟨more, final, goesOn, finished, _⟩ := exists_run distinct rest standing observes
  exact ⟨more, final, goesOn, finished⟩

end Runs

end Msp.Library.Streams
