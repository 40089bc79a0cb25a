import Mathlib.Tactic.Linarith
import Msp.Daemon.ThermalReader
import Msp.Library.Machine

/-!
# The watchdog on the thermal reader

`msp_telemetry_watchdog_daemon` with `msp_thermal_reader_telemetry_fn` and the
maximum as aggregate, from the files it reads to the signal it sends.  Every
step sees whatever the base directory then holds.
-/

set_option autoImplicit false

namespace Msp.Daemon.ThermalWatchdog

open Msp.Library Msp.ThermalTree Msp.Daemon.SandboxWatchdog Msp.Daemon.ThermalReader

abbrev Directory := Option (List Entry)

inductive Action where
  | polled (directory : Directory)
  | setFlag
  | signal
  deriving DecidableEq, Repr

structure Moment where
  keepRunning : Bool
  directory : Directory
  deriving DecidableEq, Repr

structure State where
  pc : WatchdogPc
  actions : List Action
  deriving DecidableEq, Repr

def maxConfig (basePath zoneTypeFilter : List Char) : Config := ⟨basePath, zoneTypeFilter, .max⟩

def raiseFlag (hasFlag : Bool) : List Action := if hasFlag then [.setFlag] else []

def actionsAt (hasFlag : Bool) (directory : Directory) : WatchdogPc → List Action
  | .poll => [.polled directory]
  | .raiseFlag => raiseFlag hasFlag
  | .kill => [.signal]
  | _ => []

def step (config : Config) (hasFlag : Bool) (state : State) (moment : Moment) : State where
  pc := daemonStep moment.keepRunning (thermalReaderTelemetry config moment.directory) state.pc
  actions := state.actions ++ actionsAt hasFlag moment.directory state.pc

def daemonRun (config : Config) (hasFlag : Bool) (moments : List Moment) : State :=
  moments.foldl (step config hasFlag) ⟨.check, []⟩

/-- No zone matches the filter and yields a value, or one yields more than 85
degrees. -/
def Bad (config : Config) (directory : Directory) : Prop :=
  (directory.getD []).filterMap (zoneValue config) = [] ∨
    ∃ millideg ∈ (directory.getD []).filterMap (zoneValue config), 85000 < millideg

theorem violated_iff_bad (basePath zoneTypeFilter : List Char) (directory : Directory) :
    violated (thermalReaderTelemetry (maxConfig basePath zoneTypeFilter) directory) = true ↔
      Bad (maxConfig basePath zoneTypeFilter) directory := by
  have onlyTemperature : ∀ telemetry : Telemetry, telemetry.sramUsageBytes = 0 →
      telemetry.securityViolation = false →
        violated telemetry = telemetry.temperatureC.exceeds (.finite criticalTempC) := by
    intro telemetry noSram secure
    have within : decide (maxSramAlloc < telemetry.sramUsageBytes) = false := by
      rw [noSram]
      decide
    rw [violated, within, secure, Bool.or_false, Bool.or_false]
  rw [onlyTemperature _ rfl rfl, thermalReaderTelemetry, thermalReaderRead_eq]
  unfold Bad temperatures aggregated
  generalize (directory.getD []).filterMap (zoneValue (maxConfig basePath zoneTypeFilter)) = values
  by_cases empty : values = []
  · rw [empty]
    exact iff_of_true rfl (Or.inl rfl)
  · rw [if_neg (by rwa [List.map_eq_nil_iff]), Option.getD_some]
    simp only [maxConfig, Maximum.maximum_exceeds_iff, criticalTempC, List.mem_map, empty, false_or]
    constructor
    · rintro ⟨_, ⟨millideg, member, rfl⟩, hot⟩
      have above : (85000 : ℚ) < millideg := by linarith
      exact ⟨millideg, member, by exact_mod_cast above⟩
    · rintro ⟨millideg, member, hot⟩
      have above : (85000 : ℚ) < millideg := by exact_mod_cast hot
      exact ⟨_, ⟨millideg, member, rfl⟩, by linarith⟩

/-! ## Runs -/

def polls (actions : List Action) : List Directory :=
  actions.filterMap fun
    | .polled directory => some directory
    | _ => none

/-- What every second step finds. -/
def due : List Moment → List Directory
  | _ :: poll :: rest => poll.directory :: due rest
  | _ => []

/-- The poll numbered `index` is the first bad one. -/
def FirstBad (config : Config) (polled : List Directory) (index : Nat) : Prop :=
  ∃ directory, polled[index]? = some directory ∧ Bad config directory ∧
    ∀ earlier < index, ∀ other, polled[earlier]? = some other → ¬ Bad config other

def HappensAt (actions : List Action) (action : Action) (index : Nat) : Prop :=
  ∃ before after, actions = before ++ action :: after ∧ (polls before).length = index + 1

theorem polls_append (first second : List Action) :
    polls (first ++ second) = polls first ++ polls second := List.filterMap_append

theorem polls_map_polled (directories : List Directory) :
    polls (directories.map .polled) = directories := by
  induction directories with
  | nil => rfl
  | cons first rest ih =>
      rw [List.map_cons]
      exact congrArg (first :: ·) ih

/-- What is left to do after a bad poll, as far as it has come. -/
def Answering (hasFlag : Bool) : WatchdogPc → List Action → Prop
  | .raiseFlag, done => done = []
  | .kill, done => done = raiseFlag hasFlag
  | .finished, done => done = raiseFlag hasFlag ++ [.signal]
  | _, _ => False

/-- Good polls only, or good polls, a bad one, and the answer to it. -/
def Standing (config : Config) (hasFlag : Bool) (state : State) : Prop :=
  ∃ good : List Directory, (∀ directory ∈ good, ¬ Bad config directory) ∧
    ((state.actions = good.map .polled ∧ state.pc ≠ .raiseFlag ∧ state.pc ≠ .kill) ∨
      ∃ bad done, Bad config bad ∧ state.actions = (good.map .polled ++ [.polled bad]) ++ done ∧
        Answering hasFlag state.pc done)

section Run
variable {basePath zoneTypeFilter : List Char} {hasFlag : Bool}

theorem answering_step {config : Config} {pc : WatchdogPc} {done : List Action} (moment : Moment)
    (answering : Answering hasFlag pc done) :
    Answering hasFlag
      (daemonStep moment.keepRunning (thermalReaderTelemetry config moment.directory) pc)
      (done ++ actionsAt hasFlag moment.directory pc) := by
  cases pc with
  | check => exact answering.elim
  | poll => exact answering.elim
  | raiseFlag => exact congrArg (· ++ raiseFlag hasFlag) answering
  | kill => exact congrArg (· ++ [Action.signal]) answering
  | finished =>
      have silent : actionsAt hasFlag moment.directory .finished = [] := rfl
      rw [silent, List.append_nil]
      exact answering

theorem standing_step {state : State} (moment : Moment)
    (standing : Standing (maxConfig basePath zoneTypeFilter) hasFlag state) :
    Standing (maxConfig basePath zoneTypeFilter) hasFlag
      (step (maxConfig basePath zoneTypeFilter) hasFlag state moment) := by
  obtain ⟨pc, actions⟩ := state
  obtain ⟨good, allGood, ⟨sameActions, notRaising, notKilling⟩ |
    ⟨bad, done, isBad, sameActions, answering⟩⟩ := standing
  · dsimp only at sameActions notRaising notKilling
    subst sameActions
    cases pc with
    | check =>
        refine ⟨good, allGood, Or.inl ⟨List.append_nil _, ?_⟩⟩
        cases running : moment.keepRunning <;> simp [step, daemonStep, running]
    | poll =>
        have verdict := violated_iff_bad basePath zoneTypeFilter moment.directory
        cases isViolated :
            violated (thermalReaderTelemetry (maxConfig basePath zoneTypeFilter)
              moment.directory) with
        | true =>
            refine ⟨good, allGood, Or.inr ⟨moment.directory, [], verdict.mp isViolated, ?_, ?_⟩⟩
            · exact (List.append_nil _).symm
            · simp only [step, daemonStep, isViolated, if_true]
              rfl
        | false =>
            have isGood : ¬ Bad (maxConfig basePath zoneTypeFilter) moment.directory := by
              rw [← verdict, isViolated]
              exact Bool.false_ne_true
            refine ⟨good ++ [moment.directory], ?_, Or.inl ⟨?_, ?_⟩⟩
            · intro directory member
              rcases List.mem_append.mp member with earlier | last
              · exact allGood directory earlier
              · exact List.mem_singleton.mp last ▸ isGood
            · simp only [step, actionsAt, List.map_append, List.map_cons, List.map_nil]
            · simp [step, daemonStep, isViolated]
    | raiseFlag => exact absurd rfl notRaising
    | kill => exact absurd rfl notKilling
    | finished => exact ⟨good, allGood, Or.inl ⟨List.append_nil _, nofun, nofun⟩⟩
  · refine ⟨good, allGood, Or.inr ⟨bad, done ++ actionsAt hasFlag moment.directory pc, isBad, ?_,
      answering_step moment answering⟩⟩
    rw [← List.append_assoc, ← sameActions]
    rfl

theorem standing_daemonRun (moments : List Moment) :
    Standing (maxConfig basePath zoneTypeFilter) hasFlag
      (daemonRun (maxConfig basePath zoneTypeFilter) hasFlag moments) := by
  refine List.foldlRecOn moments _ ?_ fun _ standing moment _ => standing_step moment standing
  exact ⟨[], by simp, Or.inl ⟨rfl, nofun, nofun⟩⟩

theorem actions_grow (config : Config) (hasFlag : Bool) (moments : List Moment) :
    ∀ state : State, state.actions <+: (moments.foldl (step config hasFlag) state).actions := by
  induction moments with
  | nil => intro state; exact List.prefix_rfl
  | cons moment rest ih =>
      intro state
      exact (List.prefix_append _ _).trans (ih (step config hasFlag state moment))

/-- While `keep_running` is set and no poll is bad, the daemon checks and polls in turn. -/
theorem polls_eq_due (moments : List Moment) (running : ∀ moment ∈ moments, moment.keepRunning = true) :
    ∀ actions, (∀ directory ∈ polls (moments.foldl
        (step (maxConfig basePath zoneTypeFilter) hasFlag) ⟨.check, actions⟩).actions,
          ¬ Bad (maxConfig basePath zoneTypeFilter) directory) →
      polls (moments.foldl (step (maxConfig basePath zoneTypeFilter) hasFlag)
        ⟨.check, actions⟩).actions = polls actions ++ due moments := by
  induction moments using due.induct with
  | case1 check poll rest ih =>
      intro actions good
      have isRunning := running check List.mem_cons_self
      have checked : step (maxConfig basePath zoneTypeFilter) hasFlag ⟨.check, actions⟩ check =
          ⟨.poll, actions⟩ := by
        simp [step, daemonStep, actionsAt, isRunning]
      rw [List.foldl_cons, List.foldl_cons, checked] at good ⊢
      have grown := actions_grow (maxConfig basePath zoneTypeFilter) hasFlag rest
        (step (maxConfig basePath zoneTypeFilter) hasFlag ⟨.poll, actions⟩ poll)
      have inside : Action.polled poll.directory ∈ (rest.foldl
          (step (maxConfig basePath zoneTypeFilter) hasFlag)
          (step (maxConfig basePath zoneTypeFilter) hasFlag ⟨.poll, actions⟩ poll)).actions :=
        grown.subset (List.mem_append_right _ List.mem_cons_self)
      have isGood := good poll.directory
        (List.mem_filterMap.mpr ⟨.polled poll.directory, inside, rfl⟩)
      have quiet : violated (thermalReaderTelemetry (maxConfig basePath zoneTypeFilter)
          poll.directory) = false := by
        rw [← Bool.not_eq_true, violated_iff_bad]
        exact isGood
      have polled : step (maxConfig basePath zoneTypeFilter) hasFlag ⟨.poll, actions⟩ poll =
          ⟨.check, actions ++ [.polled poll.directory]⟩ := by
        simp [step, daemonStep, actionsAt, quiet]
      rw [polled] at good ⊢
      have others := fun moment member => running moment
        (List.mem_cons_of_mem _ (List.mem_cons_of_mem _ member))
      rw [ih others _ good, polls_append, List.append_assoc]
      rfl
  | case2 short shortOnly =>
      intro actions _
      match short with
      | [] => exact (List.append_nil _).symm
      | [last] =>
          simp [step, actionsAt, due]
      | first :: second :: rest => exact (shortOnly first second rest rfl).elim

theorem happensAt_behind_iff {front tail : List Action} {action : Action} {index : Nat}
    (absent : action ∉ front) (noPolls : polls tail = []) :
    HappensAt (front ++ tail) action index ↔
      action ∈ tail ∧ (polls front).length = index + 1 := by
  constructor
  · rintro ⟨before, after, split, count⟩
    obtain ⟨middle, isBefore, isTail⟩ := Machine.split_behind absent split
    have quiet : polls middle = [] := by
      rw [isTail, polls_append] at noPolls
      exact (List.append_eq_nil_iff.mp noPolls).1
    rw [isBefore, polls_append, quiet, List.append_nil] at count
    exact ⟨isTail ▸ List.mem_append_right _ List.mem_cons_self, count⟩
  · rintro ⟨member, count⟩
    obtain ⟨middle, after, isTail⟩ := List.append_of_mem member
    refine ⟨front ++ middle, after, by rw [isTail, List.append_assoc], ?_⟩
    have quiet : polls middle = [] := by
      rw [isTail, polls_append] at noPolls
      exact (List.append_eq_nil_iff.mp noPolls).1
    rw [polls_append, quiet, List.append_nil, count]

theorem firstBad_iff {config : Config} {good : List Directory} {bad : Directory}
    (allGood : ∀ directory ∈ good, ¬ Bad config directory) (isBad : Bad config bad)
    (index : Nat) : FirstBad config (good ++ [bad]) index ↔ index = good.length := by
  constructor
  · rintro ⟨directory, atIndex, alsoBad, _⟩
    have inside : index < (good ++ [bad]).length := (List.getElem?_eq_some_iff.mp atIndex).1
    rw [List.length_append, List.length_singleton] at inside
    by_contra differs
    have earlier : index < good.length := by omega
    rw [List.getElem?_append_left earlier] at atIndex
    exact allGood directory (List.mem_of_getElem? atIndex) alsoBad
  · rintro rfl
    refine ⟨bad, by simp, isBad, ?_⟩
    intro earlier before other atEarlier
    rw [List.getElem?_append_left before] at atEarlier
    exact allGood other (List.mem_of_getElem? atEarlier)

theorem not_firstBad {config : Config} {good : List Directory}
    (allGood : ∀ directory ∈ good, ¬ Bad config directory) (index : Nat) :
    ¬ FirstBad config good index := by
  rintro ⟨directory, atIndex, isBad, _⟩
  exact allGood directory (List.mem_of_getElem? atIndex) isBad

theorem notMem_map_polled {action : Action} (directories : List Directory)
    (noPoll : ∀ directory, action ≠ .polled directory) : action ∉ directories.map .polled := by
  intro member
  obtain ⟨directory, _, same⟩ := List.mem_map.mp member
  exact noPoll directory same.symm

theorem notMem_front {action : Action} (good : List Directory) (bad : Directory)
    (noPoll : ∀ directory, action ≠ .polled directory) :
    action ∉ good.map .polled ++ [.polled bad] := by
  have behind := notMem_map_polled (good ++ [bad]) noPoll
  rwa [List.map_append] at behind

theorem polls_front (good : List Directory) (bad : Directory) :
    polls (good.map .polled ++ [.polled bad]) = good ++ [bad] := by
  rw [polls_append, polls_map_polled]
  rfl

theorem not_happensAt {actions : List Action} {action : Action} (absent : action ∉ actions)
    (index : Nat) : ¬ HappensAt actions action index := by
  rintro ⟨before, after, split, _⟩
  exact absent (split ▸ List.mem_append_right _ List.mem_cons_self)

theorem happensAt_answer_iff {good : List Directory} {bad : Directory} {done : List Action}
    {action : Action} {index : Nat} (noPoll : ∀ directory, action ≠ .polled directory)
    (noPolls : polls done = []) :
    HappensAt ((good.map .polled ++ [.polled bad]) ++ done) action index ↔
      action ∈ done ∧ index = good.length := by
  rw [happensAt_behind_iff (notMem_front good bad noPoll) noPolls, polls_front,
    List.length_append, List.length_singleton]
  have same : good.length + 1 = index + 1 ↔ index = good.length := by omega
  rw [same]

theorem Answering.polls_eq {pc : WatchdogPc} {done : List Action}
    (answering : Answering hasFlag pc done) : polls done = [] := by
  cases pc with
  | check => exact answering.elim
  | poll => exact answering.elim
  | raiseFlag => exact answering ▸ rfl
  | kill => cases hasFlag <;> exact answering ▸ rfl
  | finished => cases hasFlag <;> exact answering ▸ rfl

theorem Answering.count_signal {pc : WatchdogPc} {done : List Action}
    (answering : Answering hasFlag pc done) : done.count .signal ≤ 1 := by
  cases pc with
  | check => exact answering.elim
  | poll => exact answering.elim
  | raiseFlag => exact answering ▸ by decide
  | kill => cases hasFlag <;> exact answering ▸ by decide
  | finished => cases hasFlag <;> exact answering ▸ by decide

theorem Answering.setFlag_mem (given : hasFlag = true) {pc : WatchdogPc}
    {middle after : List Action} (answering : Answering hasFlag pc (middle ++ .signal :: after)) :
    Action.setFlag ∈ middle := by
  subst given
  have whole : middle ++ .signal :: after = [.setFlag, .signal] := by
    have sent : Action.signal ∈ middle ++ .signal :: after :=
      List.mem_append_right _ List.mem_cons_self
    cases pc with
    | check => exact answering.elim
    | poll => exact answering.elim
    | raiseFlag =>
        rw [show _ = [] from answering] at sent
        cases sent
    | kill =>
        rw [show _ = [Action.setFlag] from answering] at sent
        cases List.mem_singleton.mp sent
    | finished => exact answering
  cases middle with
  | nil => cases (List.cons.inj whole).1
  | cons first rest =>
      have isFlag : first = .setFlag := (List.cons.inj whole).1
      rw [isFlag]
      exact List.mem_cons_self

theorem Answering.finishes {state : State} {done : List Action}
    (answering : Answering hasFlag state.pc done) (config : Config) (next last : Moment) :
    ∃ whole, (step config hasFlag (step config hasFlag state next) last).actions =
        state.actions ++ whole ∧
      done ++ whole = raiseFlag hasFlag ++ [.signal] := by
  obtain ⟨pc, actions⟩ := state
  cases pc with
  | check => exact answering.elim
  | poll => exact answering.elim
  | raiseFlag =>
      refine ⟨raiseFlag hasFlag ++ [.signal], ?_, ?_⟩
      · exact List.append_assoc actions (raiseFlag hasFlag) [.signal]
      · rw [show done = [] from answering]
        rfl
  | kill =>
      refine ⟨[.signal], List.append_nil _, ?_⟩
      rw [show done = raiseFlag hasFlag from answering]
  | finished =>
      refine ⟨[], by simp [step, actionsAt, daemonStep], ?_⟩
      rw [List.append_nil]
      exact answering

end Run

/-- For every base path, filter, listing at each step and point at which
`keep_running` is cleared: the signal is sent at the first bad poll, by the two
steps behind it, and at no other; at most once; behind the flag, which is set
nowhere else.  While `keep_running` is set and no poll was bad, every second step
polls. -/
theorem signals_at_first_bad_poll (basePath zoneTypeFilter : List Char) (hasFlag : Bool)
    (moments : List Moment) :
    let config := maxConfig basePath zoneTypeFilter
    let state := daemonRun config hasFlag moments
    (∀ index, HappensAt state.actions .signal index →
      FirstBad config (polls state.actions) index) ∧
    (∀ index, FirstBad config (polls state.actions) index →
      (state.pc = .finished → HappensAt state.actions .signal index) ∧
      ∀ next last,
        HappensAt (daemonRun config hasFlag (moments ++ [next, last])).actions .signal index) ∧
    state.actions.count .signal ≤ 1 ∧
    (hasFlag = true → ∀ before after, state.actions = before ++ .signal :: after →
      Action.setFlag ∈ before) ∧
    (∀ index, HappensAt state.actions .setFlag index →
      FirstBad config (polls state.actions) index) ∧
    ((∀ moment ∈ moments, moment.keepRunning = true) →
      (∀ directory ∈ polls state.actions, ¬ Bad config directory) →
        polls state.actions = due moments) := by
  intro config state
  have inTurn : (∀ moment ∈ moments, moment.keepRunning = true) →
      (∀ directory ∈ polls state.actions, ¬ Bad config directory) →
        polls state.actions = due moments :=
    fun running good => polls_eq_due moments running [] good
  have continued : ∀ next last, daemonRun config hasFlag (moments ++ [next, last]) =
      step config hasFlag (step config hasFlag state next) last :=
    fun next last => List.foldl_append
  obtain ⟨good, allGood, ⟨quiet, _, _⟩ | ⟨bad, done, isBad, shape, answering⟩⟩ :
      Standing config hasFlag state := standing_daemonRun moments
  · have noSignal : Action.signal ∉ state.actions := quiet ▸ notMem_map_polled good nofun
    have noFlag : Action.setFlag ∉ state.actions := quiet ▸ notMem_map_polled good nofun
    have onlyGood : polls state.actions = good := by rw [quiet, polls_map_polled]
    refine ⟨fun index happens => absurd happens (not_happensAt noSignal index), ?_, ?_, ?_,
      fun index happens => absurd happens (not_happensAt noFlag index), inTurn⟩
    · intro index firstBad
      rw [onlyGood] at firstBad
      exact absurd firstBad (not_firstBad allGood index)
    · rw [List.count_eq_zero_of_not_mem noSignal]
      exact Nat.zero_le 1
    · intro _ before after split
      exact absurd (split ▸ List.mem_append_right _ List.mem_cons_self) noSignal
  · have noPoll : ∀ directory, Action.signal ≠ .polled directory := nofun
    have quietFront : Action.signal ∉ good.map .polled ++ [.polled bad] :=
      notMem_front good bad noPoll
    have allPolls : polls state.actions = good ++ [bad] := by
      rw [shape, polls_append, answering.polls_eq, List.append_nil, polls_front]
    have atFirstBad : ∀ action index, (∀ directory, action ≠ .polled directory) →
        HappensAt state.actions action index →
          FirstBad config (polls state.actions) index := by
      intro action index noPoll happens
      rw [shape, happensAt_answer_iff noPoll answering.polls_eq] at happens
      rw [allPolls, firstBad_iff allGood isBad]
      exact happens.2
    refine ⟨fun index => atFirstBad .signal index nofun, ?_, ?_, ?_,
      fun index => atFirstBad .setFlag index nofun, inTurn⟩
    · intro index firstBad
      rw [allPolls, firstBad_iff allGood isBad] at firstBad
      constructor
      · intro finished
        rw [finished] at answering
        rw [shape, happensAt_answer_iff noPoll answering.polls_eq,
          show done = raiseFlag hasFlag ++ [.signal] from answering]
        exact ⟨List.mem_append_right _ List.mem_cons_self, firstBad⟩
      · intro next last
        obtain ⟨whole, grown, complete⟩ := answering.finishes config next last
        have silent : polls (raiseFlag hasFlag ++ [.signal]) = [] := by
          cases hasFlag <;> rfl
        rw [continued, grown, shape, List.append_assoc, complete,
          happensAt_answer_iff noPoll silent]
        exact ⟨List.mem_append_right _ List.mem_cons_self, firstBad⟩
    · rw [shape, List.count_append, List.count_eq_zero_of_not_mem quietFront, Nat.zero_add]
      exact answering.count_signal
    · intro given before after split
      rw [shape] at split
      obtain ⟨middle, isBefore, isDone⟩ := Machine.split_behind quietFront split
      rw [isDone] at answering
      rw [isBefore]
      exact List.mem_append_right _ (answering.setFlag_mem given)

end Msp.Daemon.ThermalWatchdog
