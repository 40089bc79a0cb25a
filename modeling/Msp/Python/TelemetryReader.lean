import Msp.Library.PythonText

/-!
# `WatchdogTelemetryReader.read_full`

Model of the client of the telemetry socket (`src/python/msp/thermal.py`).  The
socket is what `connect` and the successive `recv` calls answer.
-/

set_option autoImplicit false

namespace Msp.Python.TelemetryReader

open Msp.Library

/-- What leaves `read_full` other than a tuple.  `unicodeDecodeError` carries the
position of the byte that is not ASCII. -/
inductive ReadError where
  | runtimeError (message : String)
  | unicodeDecodeError (position : Nat)
  deriving DecidableEq, Repr

structure TelemetryTuple where
  temperatureC : FloatValue
  sramUsageBytes : Int
  securityViolation : Bool
  deriving DecidableEq, Repr

/-- The answers of the socket calls; an error is the text of the `OSError`.
A stream that has no answer left is at its end. -/
structure Connection where
  connect : Except String Unit
  recvs : List (Except String (List UInt8))
  deriving Repr

def connectionFailed (socketPath error : String) : ReadError :=
  .runtimeError
    ("failed to read telemetry from watchdog daemon at '" ++ socketPath ++ "': " ++ error ++
      ". Is watchdogd running? (see src/daemon/watchdogd_main.c)")

def malformedLine (line : List Char) : ReadError :=
  .runtimeError
    ("malformed telemetry line from watchdog daemon: " ++
      String.ofList (PythonText.repr line))

def recvLoop : List (Except String (List UInt8)) → Except String (List UInt8)
  | [] => .ok []
  | .error error :: _ => .error error
  | .ok chunk :: rest =>
      if chunk = [] then .ok []
      else (recvLoop rest).map (chunk ++ ·)

/-- From the decoded bytes on. -/
def parseLine (decoded : List Char) : Except ReadError TelemetryTuple :=
  let line := PythonText.strip decoded
  match PythonText.split line with
  | [temperature, sram, security] =>
      match PythonText.float temperature, PythonText.int sram with
      | some temperatureC, some sramUsageBytes =>
          .ok ⟨temperatureC, sramUsageBytes, decide (security ≠ ['0'])⟩
      | _, _ => .error (malformedLine line)
  | _ => .error (malformedLine line)

def readFull (socketPath : String) (connection : Connection) :
    Except ReadError TelemetryTuple :=
  match connection.connect with
  | .error error => .error (connectionFailed socketPath error)
  | .ok () =>
      match recvLoop connection.recvs with
      | .error error => .error (connectionFailed socketPath error)
      | .ok received =>
          match PythonText.decodeAscii received with
          | .error position => .error (.unicodeDecodeError position)
          | .ok decoded => parseLine decoded

theorem recvLoop_chunks : ∀ chunks : List (List UInt8), (∀ chunk ∈ chunks, chunk ≠ []) →
    recvLoop (chunks.map .ok ++ [.ok []]) = .ok chunks.flatten := by
  intro chunks
  induction chunks with
  | nil => intro _; rfl
  | cons chunk rest ih =>
      intro nonempty
      have restNonempty := ih fun other member => nonempty other (List.mem_cons_of_mem _ member)
      rw [List.map_cons, List.cons_append, recvLoop,
        if_neg (nonempty chunk List.mem_cons_self), restNonempty, List.flatten_cons]
      rfl

theorem readFull_chunks (socketPath : String) (chunks : List (List UInt8))
    (nonempty : ∀ chunk ∈ chunks, chunk ≠ []) :
    readFull socketPath ⟨.ok (), chunks.map .ok ++ [.ok []]⟩ =
      match PythonText.decodeAscii chunks.flatten with
      | .error position => .error (.unicodeDecodeError position)
      | .ok decoded => parseLine decoded := by
  simp only [readFull, recvLoop_chunks chunks nonempty]

theorem parseLine_few_words {decoded : List Char}
    (few : (PythonText.split decoded).length < 3) :
    parseLine decoded = .error (malformedLine (PythonText.strip decoded)) := by
  rw [← PythonText.split_strip] at few
  unfold parseLine
  dsimp only
  split
  · rename_i words
    rw [words] at few
    simp at few
  · rfl

theorem parseLine_three_words {decoded temperature sram security : List Char}
    (words : PythonText.split decoded = [temperature, sram, security])
    {temperatureC : FloatValue} {sramUsageBytes : Int}
    (temperatureRead : PythonText.float temperature = some temperatureC)
    (sramRead : PythonText.int sram = some sramUsageBytes) :
    parseLine decoded = .ok ⟨temperatureC, sramUsageBytes, decide (security ≠ ['0'])⟩ := by
  rw [← PythonText.split_strip] at words
  simp only [parseLine, words, temperatureRead, sramRead]

theorem parseLine_eq_ok {decoded : List Char} {tuple : TelemetryTuple}
    (parsed : parseLine decoded = .ok tuple) :
    ∃ temperature sram security, PythonText.split decoded = [temperature, sram, security] ∧
      PythonText.float temperature = some tuple.temperatureC ∧
      PythonText.int sram = some tuple.sramUsageBytes ∧
      tuple.securityViolation = decide (security ≠ ['0']) := by
  unfold parseLine at parsed
  dsimp only at parsed
  split at parsed
  · rename_i temperature sram security words
    rw [PythonText.split_strip] at words
    split at parsed
    · rename_i temperatureC sramUsageBytes temperatureRead sramRead
      cases parsed
      exact ⟨temperature, sram, security, words, temperatureRead, sramRead, rfl⟩
    · cases parsed
  · cases parsed

end Msp.Python.TelemetryReader
