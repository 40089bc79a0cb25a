import Msp.Python.GuardedExecutorValue
import Msp.TelemetryDelivery

/-!
# The executor over the daemon's socket

A guarded run whose telemetry comes from the daemon's socket: every poll is a
connection that the server serves with a sample, on which the writes may come
out in pieces, be interrupted and give up, and the client's calls may fail.
With the daemon's thresholds, the run ends in a fallback exactly when the child
is polled, before it has finished, on a sample that the daemon falls back on
too, or on a line that did not arrive.
-/

set_option autoImplicit false

namespace Msp.GuardedTelemetry

open Msp.Library Msp.Daemon.SandboxWatchdog Msp.Daemon.TelemetryLine Msp.Daemon.TelemetryServer
open Msp.Python.TelemetryReader Msp.Python.WatchdogPolicy Msp.Python.GuardedExecutor
open Msp.TelemetryWire Msp.TelemetryAgreement Msp.TelemetryDelivery

/-- The server went through a connection with this sample, and these bytes went out. -/
def Serves (telemetry : Telemetry) (sent : List UInt8) : Prop :=
  ∃ keepRunning kernel after listenFd connFd answers,
    Machine.run (sessionStep keepRunning) (.reading telemetry :: answers)
        (kernel, .readTelemetry listenFd connFd) =
      some (after, .closeConnection listenFd connFd) ∧
    sent = sentBetween connFd kernel after

/-- What the client's socket calls are answered: what went out, in some pieces, or an
`OSError` at some point. -/
inductive Exchange (telemetry : Telemetry) : Connection → Prop where
  | received (chunks : List (List UInt8)) (nonempty : ∀ chunk ∈ chunks, chunk ≠ [])
      (serves : Serves telemetry chunks.flatten) :
      Exchange telemetry ⟨.ok (), chunks.map .ok ++ [.ok []]⟩
  | refused (error : String) (recvs : List (Except String (List UInt8))) :
      Exchange telemetry ⟨.error error, recvs⟩
  | broken (chunks : List (List UInt8)) (nonempty : ∀ chunk ∈ chunks, chunk ≠ [])
      (error : String) (recvs : List (Except String (List UInt8))) :
      Exchange telemetry ⟨.ok (), chunks.map .ok ++ .error error :: recvs⟩

def Arrived (telemetry : Telemetry) (connection : Connection) : Prop :=
  ∃ received, connection.connect = .ok () ∧ recvLoop connection.recvs = .ok received ∧
    lengthThroughFlag telemetry ≤ received.length

/-- How `telemetry_probe_from_watchdog_socket` ends; the text of an exception is left open. -/
def Probed (socketPath : String) (connection : Connection) (now : FloatValue) :
    ProbeOutcome → Prop
  | .reading reading => probeFromWatchdogSocket socketPath connection now = .ok reading
  | .exception _ _ => ∃ error, probeFromWatchdogSocket socketPath connection now = .error error
  | .baseException _ => False

/-- One iteration of the executor's loop, with the connection that a probe makes in it. -/
structure Poll (socketPath : String) (Payload : Type*) where
  iteration : Iteration Payload
  telemetry : Telemetry
  within : WithinFloat telemetry.temperatureC
  domain : telemetry.temperatureC = .posInf ∨ ∃ value, telemetry.temperatureC = .finite value
  connection : Connection
  exchange : Exchange telemetry connection
  now : FloatValue
  probed : Probed socketPath connection now iteration.probe

def Unfinished {Payload : Type*} (iteration : Iteration Payload) : Prop :=
  iteration.get = none ∧ iteration.alive = true

def Poll.Alarming {socketPath : String} {Payload : Type*} (poll : Poll socketPath Payload) : Prop :=
  ¬ Arrived poll.telemetry poll.connection ∨
    (violated poll.telemetry = true ∧ ¬ JustAboveThreshold poll.telemetry)

section Exchange
variable {telemetry : Telemetry} {connection : Connection}

theorem recvLoop_broken (error : String) (recvs : List (Except String (List UInt8))) :
    ∀ chunks : List (List UInt8), (∀ chunk ∈ chunks, chunk ≠ []) →
      recvLoop (chunks.map .ok ++ .error error :: recvs) = .error error := by
  intro chunks
  induction chunks with
  | nil => intro _; rfl
  | cons chunk rest ih =>
      intro nonempty
      have later := ih fun other member => nonempty other (List.mem_cons_of_mem chunk member)
      rw [List.map_cons, List.cons_append, recvLoop, if_neg (nonempty chunk List.mem_cons_self),
        later]
      rfl

theorem probe_of_exchange (socketPath : String) (within : WithinFloat telemetry.temperatureC)
    (exchange : Exchange telemetry connection) (now : FloatValue) :
    (Arrived telemetry connection ∧ probeFromWatchdogSocket socketPath connection now =
      .ok ⟨rounded telemetry.temperatureC, telemetry.sramUsageBytes.toNat,
        telemetry.securityViolation, now⟩) ∨
    (¬ Arrived telemetry connection ∧
      ∃ error, probeFromWatchdogSocket socketPath connection now = .error error) := by
  cases exchange with
  | received chunks nonempty serves =>
      obtain ⟨keepRunning, kernel, after, listenFd, connFd, answers, session, same⟩ := serves
      obtain ⟨isPrefix, -⟩ := sent_of_session session
      have read := readFull_front socketPath within nonempty same isPrefix
      rw [parseLine_take_lineText, ← same] at read
      have got : recvLoop (chunks.map .ok ++ [.ok []]) = .ok chunks.flatten :=
        recvLoop_chunks chunks nonempty
      by_cases complete : lengthThroughFlag telemetry ≤ chunks.flatten.length
      · rw [if_pos complete] at read
        refine Or.inl ⟨⟨chunks.flatten, rfl, got, complete⟩, ?_⟩
        rw [probeFromWatchdogSocket, read]
        rfl
      · rw [if_neg complete] at read
        refine Or.inr ⟨?_, ?_⟩
        · rintro ⟨other, -, gotOther, long⟩
          cases got.symm.trans gotOther
          exact complete long
        · rw [probeFromWatchdogSocket, read]
          exact ⟨_, rfl⟩
  | refused error recvs =>
      refine Or.inr ⟨?_, ⟨_, rfl⟩⟩
      rintro ⟨other, connected, -, -⟩
      cases connected
  | broken chunks nonempty error recvs =>
      have lost := recvLoop_broken error recvs chunks nonempty
      refine Or.inr ⟨?_, ?_⟩
      · rintro ⟨other, -, got, -⟩
        cases lost.symm.trans got
      · simp only [probeFromWatchdogSocket, readFull, lost]
        exact ⟨_, rfl⟩

end Exchange

theorem violated_of_justAbove {telemetry : Telemetry} (above : JustAboveThreshold telemetry) :
    violated telemetry = true := by
  unfold JustAboveThreshold at above
  rw [violated_iff]
  cases shape : telemetry.temperatureC with
  | finite value =>
      rw [shape] at above
      refine Or.inr (Or.inl ?_)
      rw [FloatValue.exceeds_finite, decide_eq_true_eq]
      exact above.1
  | posInf => rw [shape] at above; exact absurd above id
  | negInf => rw [shape] at above; exact absurd above id
  | nan => rw [shape] at above; exact absurd above id

section Poll
variable {socketPath : String} {Payload : Type*}

/-- The executor may not go on from a poll exactly when the policy falls back on its probe. -/
theorem Poll.alarming_iff (poll : Poll socketPath Payload) :
    poll.Alarming ↔ (violation nativePolicy poll.iteration.probe).isSome = true := by
  have agree := decisions_agree_iff poll.telemetry poll.now poll.domain
  have probed := poll.probed
  rcases probe_of_exchange socketPath poll.within poll.exchange poll.now with
    ⟨arrived, read⟩ | ⟨lost, error, raised⟩
  · cases outcome : poll.iteration.probe with
    | reading reading =>
        rw [outcome] at probed
        cases read.symm.trans probed
        simp only [Poll.Alarming, arrived, not_true_eq_false, false_or, violation,
          Option.isSome_map]
        by_cases above : JustAboveThreshold poll.telemetry
        · have unsafeSample : violated poll.telemetry = true := violated_of_justAbove above
          have differ := (not_congr agree).mpr (not_not.mpr above)
          simp only [above, not_true_eq_false, and_false, false_iff]
          exact fun falls => differ (iff_of_true falls unsafeSample)
        · simp only [above, not_false_eq_true, and_true]
          exact (agree.mpr above).symm
    | exception message now =>
        rw [outcome] at probed
        obtain ⟨error, raised⟩ := probed
        cases read.symm.trans raised
    | baseException name =>
        rw [outcome] at probed
        exact absurd probed id
  · cases outcome : poll.iteration.probe with
    | reading reading =>
        rw [outcome] at probed
        cases raised.symm.trans probed
    | exception message now =>
        exact iff_of_true (Or.inl lost) rfl
    | baseException name =>
        rw [outcome] at probed
        exact absurd probed id

theorem Poll.stays (poll : Poll socketPath Payload) (name : String) :
    poll.iteration.probe ≠ .baseException name := by
  intro outcome
  have probed := poll.probed
  rw [outcome] at probed
  exact probed

end Poll

/-! ## The loop -/

section Loop
variable {Payload : Type*} {policy : ViolationPolicy}

def Violates (exit : LoopExit Payload) : Prop :=
  ∃ reason reading telemetryError, exit = .violation reason reading telemetryError

theorem violates_of_some {iteration : Iteration Payload} (unfinished : Unfinished iteration)
    {why : FallbackReason × TelemetryReading}
    (harm : violation policy iteration.probe = some why) (rest : List (Iteration Payload)) :
    Violates (loop policy (iteration :: rest)).1 := by
  obtain ⟨get, alive, drain, probe⟩ := iteration
  obtain ⟨nothingYet, isAlive⟩ := unfinished
  cases nothingYet
  cases isAlive
  cases probe with
  | baseException name => cases harm
  | exception message now =>
      have failSafe : policy.failSafeOnTelemetryError = true := by
        by_contra failsOpen
        simp [violation, failsOpen] at harm
      exact ⟨.telemetryError, standInReading now, some message, by
        simp only [loop, failSafe, if_true]⟩
  | reading reading =>
      obtain ⟨reason, evaluated, -⟩ := Option.map_eq_some_iff.mp harm
      exact ⟨reason, reading, none, by simp only [loop, if_true, evaluated]⟩

theorem not_violates_of_finished {iteration : Iteration Payload}
    (finished : ¬ Unfinished iteration) (rest : List (Iteration Payload)) :
    ¬ Violates (loop policy (iteration :: rest)).1 := by
  obtain ⟨get, alive, drain, probe⟩ := iteration
  rintro ⟨reason, reading, telemetryError, isViolation⟩
  cases get with
  | some message => cases isViolation
  | none =>
      cases alive with
      | false => cases isViolation
      | true => exact finished ⟨rfl, rfl⟩

/-- The loop falls back in an iteration that the child has not finished before, on a probe
that violates the policy, and goes on from no such iteration. -/
theorem loop_violates_iff (iterations : List (Iteration Payload))
    (stay : ∀ iteration ∈ iterations, ∀ name, iteration.probe ≠ .baseException name) :
    Violates (loop policy iterations).1 ↔
      ∃ earlier last later, iterations = earlier ++ last :: later ∧
        (∀ iteration ∈ earlier, Unfinished iteration) ∧ Unfinished last ∧
          (violation policy last.probe).isSome = true := by
  induction iterations with
  | nil =>
      constructor
      · rintro ⟨reason, reading, telemetryError, isViolation⟩
        cases isViolation
      · rintro ⟨earlier, last, later, split, -⟩
        exact absurd split (by simp)
  | cons iteration rest ih =>
      have restIff := ih fun other member => stay other (List.mem_cons_of_mem iteration member)
      by_cases unfinished : Unfinished iteration
      · cases harm : violation policy iteration.probe with
        | none =>
            have quiet : Quiet policy iteration :=
              ⟨unfinished.1, unfinished.2, harm, stay iteration List.mem_cons_self⟩
            rw [loop_quiet quiet rest, restIff]
            constructor
            · rintro ⟨earlier, last, later, rfl, unfinishedEarlier, isLast⟩
              refine ⟨iteration :: earlier, last, later, rfl, ?_, isLast⟩
              intro other member
              rcases List.mem_cons.mp member with rfl | member
              · exact unfinished
              · exact unfinishedEarlier other member
            · rintro ⟨earlier, last, later, split, unfinishedEarlier, isLast, violates⟩
              cases earlier with
              | nil =>
                  cases split
                  rw [harm] at violates
                  cases violates
              | cons first others =>
                  cases split
                  exact ⟨others, last, later, rfl, fun other member =>
                    unfinishedEarlier other (List.mem_cons_of_mem _ member), isLast, violates⟩
        | some why =>
            refine iff_of_true (violates_of_some unfinished harm rest) ?_
            exact ⟨[], iteration, rest, rfl, by simp, unfinished, by rw [harm]; rfl⟩
      · refine iff_of_false (not_violates_of_finished unfinished rest) ?_
        rintro ⟨earlier, last, later, split, unfinishedEarlier, isLast, -⟩
        cases earlier with
        | nil =>
            cases split
            exact unfinished isLast
        | cons first others =>
            cases split
            exact unfinished (unfinishedEarlier iteration List.mem_cons_self)

end Loop

section Run
variable {socketPath : String} {Value Payload : Type*}

def FallsBack (ended : Option (RunExit Value)) : Prop :=
  ∃ result, ended = some (.returned result) ∧ result.fallbackTriggered = true

theorem report_not_fallsBack (loads : Payload → Except Raised Value) (tail : Tail Payload)
    (childResult : Option (Message Payload)) : ¬ FallsBack (some (report loads tail childResult)) := by
  rintro ⟨result, returned, triggered⟩
  cases childResult with
  | none =>
      cases returned
      cases triggered
  | some message =>
      cases message with
      | error typeName text traceback =>
          cases returned
          cases triggered
      | ok payload =>
          simp only [report] at returned
          split at returned
          · cases returned
            cases triggered
          · cases returned

theorem fallsBack_iff (policy : ViolationPolicy) (loads : Payload → Except Raised Value)
    (iterations : List (Iteration Payload)) (tail : Tail Payload) :
    FallsBack (run policy loads iterations tail).1 ↔ Violates (loop policy iterations).1 := by
  unfold run
  generalize loop policy iterations = looped
  obtain ⟨exit, calls⟩ := looped
  cases exit with
  | looping =>
      refine iff_of_false ?_ ?_
      · rintro ⟨result, returned, -⟩
        cases returned
      · rintro ⟨reason, reading, telemetryError, isViolation⟩
        cases isViolation
  | escaped name =>
      refine iff_of_false ?_ ?_
      · rintro ⟨result, returned, -⟩
        cases returned
      · rintro ⟨reason, reading, telemetryError, isViolation⟩
        cases isViolation
  | violation reason reading telemetryError =>
      exact iff_of_true ⟨_, rfl, rfl⟩ ⟨reason, reading, telemetryError, rfl⟩
  | finished childResult =>
      refine iff_of_false (report_not_fallsBack loads tail _) ?_
      rintro ⟨reason, reading, telemetryError, isViolation⟩
      cases isViolation

theorem fallsBack_map_iff {Sample : Type*} (policy : ViolationPolicy)
    (loads : Payload → Except Raised Value) (iterationOf : Sample → Iteration Payload)
    (alarming : Sample → Prop)
    (stays : ∀ sample name, (iterationOf sample).probe ≠ .baseException name)
    (alarms : ∀ sample, alarming sample ↔
      (violation policy (iterationOf sample).probe).isSome = true)
    (samples : List Sample) (tail : Tail Payload) :
    FallsBack (run policy loads (samples.map iterationOf) tail).1 ↔
      ∃ earlier sample later, samples = earlier ++ sample :: later ∧
        (∀ other ∈ earlier, Unfinished (iterationOf other)) ∧ Unfinished (iterationOf sample) ∧
          alarming sample := by
  have stay : ∀ iteration ∈ samples.map iterationOf,
      ∀ name, iteration.probe ≠ .baseException name := by
    intro iteration member
    obtain ⟨sample, -, rfl⟩ := List.mem_map.mp member
    exact stays sample
  rw [fallsBack_iff, loop_violates_iff _ stay]
  constructor
  · rintro ⟨earlier, last, later, split, unfinished, isLast, violates⟩
    obtain ⟨front, back, rfl, rfl, isBack⟩ := List.map_eq_append_iff.mp split
    obtain ⟨sample, rest, rfl, rfl, rfl⟩ := List.map_eq_cons_iff.mp isBack
    exact ⟨front, sample, rest, rfl, fun other member =>
      unfinished _ (List.mem_map_of_mem member), isLast, (alarms sample).mpr violates⟩
  · rintro ⟨earlier, sample, later, rfl, unfinished, isLast, isAlarming⟩
    refine ⟨earlier.map iterationOf, iterationOf sample, later.map iterationOf, by simp, ?_,
      isLast, (alarms sample).mp isAlarming⟩
    intro iteration member
    obtain ⟨other, inside, rfl⟩ := List.mem_map.mp member
    exact unfinished other inside

/-- With the daemon's thresholds and telemetry from its socket, `run` falls back exactly
when it polls the child, before that has finished, on a sample on which the daemon
falls back as well, unless its temperature is just above the threshold, or on a line
that does not arrive. -/
theorem guarded_run_falls_back_iff (socketPath : String) (loads : Payload → Except Raised Value)
    (polls : List (Poll socketPath Payload)) (tail : Tail Payload) :
    FallsBack (run nativePolicy loads (polls.map Poll.iteration) tail).1 ↔
      ∃ earlier poll later, polls = earlier ++ poll :: later ∧
        (∀ other ∈ earlier, Unfinished other.iteration) ∧ Unfinished poll.iteration ∧
          (¬ Arrived poll.telemetry poll.connection ∨
            (violated poll.telemetry = true ∧ ¬ JustAboveThreshold poll.telemetry)) :=
  fallsBack_map_iff nativePolicy loads Poll.iteration Poll.Alarming Poll.stays Poll.alarming_iff
    polls tail

end Run

def cutKernel (sent : List (Nat × List UInt8)) : Kernel :=
  ⟨6, [3, 5], [⟨3, []⟩], .boundTo 3, sent⟩

example : Poll "" Unit where
  iteration := ⟨none, true, none, .reading ⟨.finite 90, 7, false, .finite 12⟩⟩
  telemetry := ⟨.finite 90, 7, false⟩
  within := by unfold WithinFloat; norm_num
  domain := Or.inr ⟨90, rfl⟩
  connection := ⟨.ok (), [.ok [57, 48, 46, 48, 48], .ok [48, 32, 55, 32, 48], .ok []]⟩
  exchange := .received [[57, 48, 46, 48, 48], [48, 32, 55, 32, 48]] (by decide)
    ⟨true, cutKernel [], cutKernel [(5, [57, 48, 46, 48, 48, 48, 32, 55, 32, 48])], 3, 5,
      [.wrote 10, .interrupted, .fails], by decide +kernel, by decide +kernel⟩
  now := .finite 12
  probed := by
    change probeFromWatchdogSocket _ _ _ = _
    decide +kernel

end Msp.GuardedTelemetry
