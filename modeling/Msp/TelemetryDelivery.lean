import Msp.Daemon.TelemetryServer
import Msp.Library.Machine
import Msp.TelemetryAgreement

/-!
# The telemetry line through partial writes

From reading a sample to closing the connection, the server's writes may come
out in any pieces, be interrupted, and give up.  What went out is a front part
of the line (`sent_of_session`), and a client that receives a front part
reads the sample or refuses.
-/

set_option autoImplicit false

namespace Msp.TelemetryDelivery

open Msp.Library Msp.Daemon.SandboxWatchdog Msp.Daemon.TelemetryLine Msp.Daemon.TelemetryServer
open Msp.Python.TelemetryReader Msp.TelemetryWire Msp.TelemetryAgreement

/-- `read_telemetry`, `snprintf` and `write_all`: the steps on one connection up
to its `close`. -/
def sessionStep (keepRunning : Bool) : Kernel × ServerPc → Answer → Option (Kernel × ServerPc)
  | (kernel, pc), answer =>
      match pc with
      | .readTelemetry _ _ | .write _ _ _ =>
          match serverStep keepRunning kernel pc answer with
          | some (after, some next) => some (after, next)
          | _ => none
      | _ => none

def sentBetween (connFd : Nat) (before after : Kernel) : List UInt8 :=
  ((after.sent.drop before.sent.length).filter fun piece => decide (piece.1 = connFd)).flatMap
    Prod.snd

section Session
variable {keepRunning : Bool} {listenFd connFd : Nat}

theorem write_cases {kernel : Kernel} {rest : List UInt8} {answer : Answer}
    {next : Kernel × ServerPc}
    (stepped : sessionStep keepRunning (kernel, .write listenFd connFd rest) answer = some next) :
    (∃ count, next =
      (kernel.send connFd (rest.take count), writeLoop listenFd connFd (rest.drop count))) ∨
    next = (kernel, .write listenFd connFd rest) ∨
    answer = .fails ∧ next = (kernel, .closeConnection listenFd connFd) := by
  cases answer with
  | wrote count =>
      simp only [sessionStep, serverStep] at stepped
      split at stepped
      · rename_i sent next' possible
        split at possible
        · cases possible
          cases stepped
          exact Or.inl ⟨count, rfl⟩
        · cases possible
      · cases stepped
  | interrupted =>
      cases stepped
      exact Or.inr (Or.inl rfl)
  | fails =>
      cases stepped
      exact Or.inr (Or.inr ⟨rfl, rfl⟩)
  | ok => cases stepped
  | reading telemetry => cases stepped

theorem pieces_of_writes : ∀ (answers : List Answer) (kernel after : Kernel) (rest : List UInt8),
    Machine.run (sessionStep keepRunning) answers (kernel, writeLoop listenFd connFd rest) =
      some (after, .closeConnection listenFd connFd) →
    ∃ pieces : List (List UInt8),
      after.sent = kernel.sent ++ pieces.map (fun piece => (connFd, piece)) ∧
      pieces.flatten <+: rest ∧ (Answer.fails ∉ answers → pieces.flatten = rest) := by
  intro answers
  induction answers with
  | nil =>
      intro kernel after rest ran
      have stopped := Option.some.inj ran
      have empty : rest = [] := by
        by_contra left
        rw [writeLoop, if_neg left] at stopped
        cases stopped
      rw [empty, writeLoop, if_pos rfl] at stopped
      cases stopped
      exact ⟨[], (List.append_nil _).symm, List.nil_prefix, fun _ => empty.symm⟩
  | cons answer others ih =>
      intro kernel after rest ran
      obtain ⟨next, stepped, othersRan⟩ := Machine.run_cons_eq_some.mp ran
      have later : Answer.fails ∉ answer :: others → Answer.fails ∉ others :=
        fun noFailure failed => noFailure (List.mem_cons_of_mem _ failed)
      by_cases empty : rest = []
      · rw [writeLoop, if_pos empty] at stepped
        cases stepped
      · have writing : writeLoop listenFd connFd rest = .write listenFd connFd rest := if_neg empty
        rw [writing] at stepped
        rcases write_cases stepped with ⟨count, rfl⟩ | rfl | ⟨rfl, rfl⟩
        · obtain ⟨pieces, sent, isPrefix, whole⟩ := ih _ after _ othersRan
          refine ⟨rest.take count :: pieces, ?_, ?_, ?_⟩
          · rw [sent, Kernel.send, List.append_assoc]
            rfl
          · rw [List.flatten_cons]
            have joined := (List.prefix_append_right_inj (rest.take count)).mpr isPrefix
            rwa [List.take_append_drop] at joined
          · intro noFailure
            rw [List.flatten_cons, whole (later noFailure), List.take_append_drop]
        · rw [← writing] at othersRan
          obtain ⟨pieces, sent, isPrefix, whole⟩ := ih _ after _ othersRan
          exact ⟨pieces, sent, isPrefix, fun noFailure => whole (later noFailure)⟩
        · have closing : writeLoop listenFd connFd [] = .closeConnection listenFd connFd :=
            if_pos rfl
          rw [← closing] at othersRan
          obtain ⟨pieces, sent, isPrefix, _⟩ := ih _ after _ othersRan
          have nothing := List.prefix_nil.mp isPrefix
          exact ⟨pieces, sent, nothing ▸ List.nil_prefix, fun noFailure =>
            absurd List.mem_cons_self noFailure⟩

theorem sentBetween_pieces {before after : Kernel} {pieces : List (List UInt8)}
    (sent : after.sent = before.sent ++ pieces.map (fun piece => (connFd, piece))) :
    sentBetween connFd before after = pieces.flatten := by
  unfold sentBetween
  rw [sent, List.drop_left]
  clear sent
  induction pieces with
  | nil => rfl
  | cons piece rest ih =>
      rw [List.map_cons, List.filter_cons_of_pos (by simp), List.flatMap_cons, ih,
        List.flatten_cons]

/-- Over a whole session, what goes out is a front part of the line, and all of
it if no write fails. -/
theorem sent_of_session {telemetry : Telemetry} {answers : List Answer} {kernel after : Kernel}
    (session : Machine.run (sessionStep keepRunning) (.reading telemetry :: answers)
      (kernel, .readTelemetry listenFd connFd) =
        some (after, .closeConnection listenFd connFd)) :
    sentBetween connFd kernel after <+: telemetryLine telemetry ∧
      (Answer.fails ∉ answers →
        sentBetween connFd kernel after = telemetryLine telemetry) := by
  obtain ⟨next, stepped, ran⟩ := Machine.run_cons_eq_some.mp session
  cases stepped
  obtain ⟨pieces, sent, isPrefix, whole⟩ := pieces_of_writes answers kernel after _ ran
  rw [sentBetween_pieces sent]
  exact ⟨isPrefix, whole⟩

end Session

def encoded (text : List Char) : List UInt8 :=
  text.map fun character => UInt8.ofNat character.toNat

theorem length_lineText_lt {telemetry : Telemetry} (within : WithinFloat telemetry.temperatureC) :
    (lineText telemetry).length < lineCapacity := by
  have flag := lengthThroughFlag_lt within
  rw [length_lineText]
  omega

theorem telemetryLine_eq {telemetry : Telemetry} (within : WithinFloat telemetry.temperatureC) :
    telemetryLine telemetry = encoded (lineText telemetry) := by
  have fits := length_lineText_lt within
  rw [telemetryLine, List.take_of_length_le (by omega)]
  rfl

theorem readFull_front (socketPath : String) {telemetry : Telemetry}
    (within : WithinFloat telemetry.temperatureC) {chunks : List (List UInt8)}
    (nonempty : ∀ chunk ∈ chunks, chunk ≠ []) {sent : List UInt8} (received : chunks.flatten = sent)
    (isPrefix : sent <+: telemetryLine telemetry) :
    readFull socketPath ⟨.ok (), chunks.map .ok ++ [.ok []]⟩ =
      parseLine ((lineText telemetry).take sent.length) := by
  have front : chunks.flatten = encoded ((lineText telemetry).take sent.length) := by
    rw [telemetryLine_eq within] at isPrefix
    rw [received, encoded, List.map_take]
    exact List.prefix_iff_eq_take.mp isPrefix
  have ascii : ∀ character ∈ (lineText telemetry).take sent.length, character.toNat < 128 :=
    fun character member => ascii_lineText telemetry character (List.mem_of_mem_take member)
  rw [readFull_chunks socketPath chunks nonempty, front, encoded, decodeAscii_encode ascii]

/-- Every sample a C `float` can hold, every behaviour of `write` and every
split into received chunks: the line fits its buffer, the client reads exactly
the sample or raises `RuntimeError`, and it reads the sample once every byte has
arrived, which is the case unless a write failed. -/
theorem read_full_exact_or_error (telemetry : Telemetry)
    (within : WithinFloat telemetry.temperatureC) (keepRunning : Bool) (kernel after : Kernel)
    (listenFd connFd : Nat) (answers : List Answer)
    (session : Machine.run (sessionStep keepRunning) (.reading telemetry :: answers)
      (kernel, .readTelemetry listenFd connFd) =
        some (after, .closeConnection listenFd connFd))
    (socketPath : String) (chunks : List (List UInt8)) (nonempty : ∀ chunk ∈ chunks, chunk ≠ [])
    (received : chunks.flatten = sentBetween connFd kernel after) :
    let sample : TelemetryTuple := ⟨rounded telemetry.temperatureC,
      telemetry.sramUsageBytes.toNat, telemetry.securityViolation⟩
    let answer := readFull socketPath ⟨.ok (), chunks.map .ok ++ [.ok []]⟩
    (lineText telemetry).length < lineCapacity ∧
    (answer = .ok sample ∨ ∃ message, answer = .error (.runtimeError message)) ∧
    (sentBetween connFd kernel after = encoded (lineText telemetry) → answer = .ok sample) ∧
    (Answer.fails ∉ answers → sentBetween connFd kernel after = encoded (lineText telemetry)) := by
  intro sample answer
  obtain ⟨isPrefix, whole⟩ := sent_of_session session
  have read : answer = _ := readFull_front socketPath within nonempty received isPrefix
  rw [parseLine_take_lineText] at read
  refine ⟨length_lineText_lt within, ?_, ?_, fun noFailure =>
    (whole noFailure).trans (telemetryLine_eq within)⟩
  · split at read
    · exact Or.inl read
    · exact Or.inr ⟨_, read⟩
  · intro all
    have enough : lengthThroughFlag telemetry ≤ (sentBetween connFd kernel after).length := by
      rw [all, encoded, List.length_map, length_lineText]
      omega
    rw [if_pos enough] at read
    exact read

theorem read_full_exact_or_error_pieces :
    let chunks : List (List UInt8) := [[52, 48], [46, 48, 48, 48, 32, 55], [32, 48, 10]]
    readFull "" ⟨.ok (), chunks.map .ok ++ [.ok []]⟩ = .ok ⟨.finite 40, 7, false⟩ := by
  intro chunks
  have written := read_full_exact_or_error ⟨.finite 40, 7, false⟩
    (by unfold WithinFloat; norm_num) true ⟨6, [3, 5], [⟨3, []⟩], .boundTo 3, []⟩
    ⟨6, [3, 5], [⟨3, []⟩], .boundTo 3, [(5, [52, 48, 46]), (5, [48, 48, 48, 32, 55, 32, 48, 10])]⟩
    3 5 [.wrote 3, .interrupted, .wrote 8] (by decide +kernel) "" chunks (by decide)
    (by decide +kernel)
  rw [written.2.2.1 (by decide +kernel)]
  decide +kernel

end Msp.TelemetryDelivery
