import Msp.Library.PythonGrammar
import Msp.TelemetryDelivery

/-!
# Which received bytes the client takes for a telemetry line

The line of `src/daemon/telemetry_server.h` as a grammar, and the wider grammar
that `read_full` accepts: any three words of which the first two are Python
literals.  The decoding stands in front of the `try`, so a byte outside ASCII
leaves `read_full` as a `UnicodeDecodeError`.
-/

set_option autoImplicit false

namespace Msp.TelemetryProtocol

open Msp.Library Msp.Library.PythonGrammar Msp.Library.NumberText
open Msp.Daemon.SandboxWatchdog Msp.Daemon.TelemetryLine Msp.Python.TelemetryReader
open Msp.TelemetryWire Msp.TelemetryAgreement Msp.TelemetryDelivery

def characters (bytes : List UInt8) : List Char := bytes.map fun byte => Char.ofNat byte.toNat

/-- What `%.3f` prints: a number of thousandths of either sign, or a special value. -/
def PrintedFloat (text : List Char) : Prop :=
  (∃ mark units, (mark = [] ∨ mark = ['-']) ∧ text = mark ++ Decimal.fixedPoint 3 units) ∨
    text ∈ [['i', 'n', 'f'], ['-', 'i', 'n', 'f'], ['n', 'a', 'n'], ['-', 'n', 'a', 'n']]

structure ProtocolFields (text temperature sram flag : List Char) : Prop where
  whole : text = temperature ++ ' ' :: (sram ++ ' ' :: flag) ∨
    text = temperature ++ ' ' :: (sram ++ ' ' :: (flag ++ ['\n']))
  temperature : PrintedFloat temperature
  sram : Digits sram
  flag : flag = ['0'] ∨ flag = ['1']

def ProtocolLine (bytes : List UInt8) : Prop :=
  ∃ temperature sram flag, ProtocolFields (characters bytes) temperature sram flag

/-- `read_full` returns a tuple for the lines of the protocol, and raises
`RuntimeError` for all other bytes. -/
def AcceptsExactly (socketPath : String) (bytes : List UInt8) (connection : Connection) : Prop :=
  ((∃ tuple, readFull socketPath connection = .ok tuple) ↔ ProtocolLine bytes) ∧
    (¬ ProtocolLine bytes →
      ∃ message, readFull socketPath connection = .error (.runtimeError message))

/-- Three words, with white space of any kind around them; nothing is asked of the third. -/
def ToleratedLine (text : List Char) : Prop :=
  ∃ temperature sram flag, WordsOf text [temperature, sram, flag] ∧
    FloatLiteral temperature ∧ IntLiteral sram

theorem parseLine_isOk_iff (decoded : List Char) :
    (∃ tuple, parseLine decoded = .ok tuple) ↔ ToleratedLine decoded := by
  constructor
  · rintro ⟨tuple, parsed⟩
    obtain ⟨temperature, sram, flag, words, temperatureRead, sramRead, _⟩ :=
      parseLine_eq_ok parsed
    have noSpace := PythonText.noSpace_of_mem_split decoded
    rw [words] at noSpace
    refine ⟨temperature, sram, flag, split_eq_iff.mp words, ?_, ?_⟩
    · exact (float_isSome_iff (noSpace temperature (by simp))).mp (by rw [temperatureRead]; rfl)
    · exact (int_isSome_iff (noSpace sram (by simp))).mp (by rw [sramRead]; rfl)
  · rintro ⟨temperature, sram, flag, shape, isFloat, isInt⟩
    have words := split_eq_iff.mpr shape
    have noSpace := PythonText.noSpace_of_mem_split decoded
    rw [words] at noSpace
    obtain ⟨temperatureC, temperatureRead⟩ := Option.isSome_iff_exists.mp
      ((float_isSome_iff (noSpace temperature (by simp))).mpr isFloat)
    obtain ⟨sramUsageBytes, sramRead⟩ := Option.isSome_iff_exists.mp
      ((int_isSome_iff (noSpace sram (by simp))).mpr isInt)
    exact ⟨_, parseLine_three_words words temperatureRead sramRead⟩

theorem parseLine_cases (decoded : List Char) :
    (∃ tuple, parseLine decoded = .ok tuple) ∨
      parseLine decoded = .error (malformedLine (PythonText.strip decoded)) := by
  unfold parseLine
  dsimp only
  split
  · split
    · exact Or.inl ⟨_, rfl⟩
    · exact Or.inr rfl
  · exact Or.inr rfl

/-! ## The protocol is tolerated -/

theorem isWord_of_plain {text : List Char} (nonempty : text ≠ [])
    (plain : ∀ character ∈ text, Plain character) : IsWord text :=
  ⟨nonempty, noSpace_of_plain plain⟩

theorem plain_printedFloat {text : List Char} (printed : PrintedFloat text) :
    ∀ character ∈ text, Plain character := by
  rcases printed with ⟨mark, units, isMark, rfl⟩ | special
  · intro character member
    rcases List.mem_append.mp member with inMark | inDigits
    · rcases isMark with rfl | rfl
      · cases inMark
      · rw [List.mem_singleton.mp inMark]
        decide
    · exact plain_fixedPoint 3 units character inDigits
  · simp only [List.mem_cons, List.not_mem_nil, or_false] at special
    rcases special with rfl | rfl | rfl | rfl <;> exact plain_of_all rfl

theorem printedFloat_ne_nil {text : List Char} (printed : PrintedFloat text) : text ≠ [] := by
  rcases printed with ⟨mark, units, _, rfl⟩ | special
  · simp [Decimal.fixedPoint]
  · rintro rfl
    revert special
    decide

theorem floatLiteral_printedFloat {text : List Char} (printed : PrintedFloat text) :
    FloatLiteral text := by
  rcases printed with ⟨mark, units, isMark, rfl⟩ | special
  · have isSign : IsSign mark := isMark.imp id Or.inl
    have small : units % 10 ^ 3 < 10 ^ 3 := Nat.mod_lt _ (by decide)
    have whole := digitPart_of_digits (Decimal.natural (units / 10 ^ 3))
      ⟨Decimal.natural_ne_nil _, Decimal.isDigit_of_mem_natural⟩
    have someFraction : Decimal.padded 3 (units % 10 ^ 3) ≠ [] := by
      intro empty
      have length := Decimal.length_padded (by decide) small
      rw [empty] at length
      cases length
    have fraction := digitPart_of_digits _ ⟨someFraction, Decimal.isDigit_of_mem_padded⟩
    refine ⟨mark, _, rfl, isSign, Or.inl ⟨_, [], (List.append_nil _).symm, ?_, .absent⟩⟩
    exact .point _ _ (Or.inr whole) (Or.inr fraction) (Or.inl (Decimal.natural_ne_nil _))
  · simp only [List.mem_cons, List.not_mem_nil, or_false] at special
    rcases special with rfl | rfl | rfl | rfl
    · exact ⟨[], ['i', 'n', 'f'], rfl, Or.inl rfl, Or.inr (by decide)⟩
    · exact ⟨['-'], ['i', 'n', 'f'], rfl, Or.inr (Or.inl rfl), Or.inr (by decide)⟩
    · exact ⟨[], ['n', 'a', 'n'], rfl, Or.inl rfl, Or.inr (by decide)⟩
    · exact ⟨['-'], ['n', 'a', 'n'], rfl, Or.inr (Or.inl rfl), Or.inr (by decide)⟩

theorem plain_digits {text : List Char} (digits : Digits text) :
    ∀ character ∈ text, Plain character :=
  fun character member => plain_of_isDigit (digits.2 character member)

theorem plain_flag {flag : List Char} (isFlag : flag = ['0'] ∨ flag = ['1']) :
    ∀ character ∈ flag, Plain character := by
  rcases isFlag with rfl | rfl <;> exact plain_of_all rfl

section Protocol
variable {text temperature sram flag : List Char}

theorem ProtocolFields.exists_trail (fields : ProtocolFields text temperature sram flag) :
    ∃ trail, (trail = [] ∨ trail = ['\n']) ∧
      text = temperature ++ ' ' :: (sram ++ ' ' :: (flag ++ trail)) := by
  rcases fields.whole with whole | whole
  · exact ⟨[], Or.inl rfl, by rw [whole, List.append_nil]⟩
  · exact ⟨['\n'], Or.inr rfl, whole⟩

theorem ProtocolFields.words (fields : ProtocolFields text temperature sram flag) :
    WordsOf text [temperature, sram, flag] := by
  have first := isWord_of_plain (printedFloat_ne_nil fields.temperature)
    (plain_printedFloat fields.temperature)
  have second := isWord_of_plain fields.sram.1 (plain_digits fields.sram)
  have third : IsWord flag := by
    refine isWord_of_plain ?_ (plain_flag fields.flag)
    rcases fields.flag with rfl | rfl <;> simp
  have noBlank : Blank [] := by simp [Blank]
  obtain ⟨trail, ends, whole⟩ := fields.exists_trail
  have behind : Blank trail := by
    rcases ends with rfl | rfl
    · exact noBlank
    · simp only [Blank, List.mem_singleton, forall_eq]
      decide
  rw [whole]
  exact .cons [] temperature ' ' _ _ noBlank first rfl
    (.cons [] sram ' ' _ _ noBlank second rfl (.last [] flag trail noBlank third behind))

theorem ProtocolFields.tolerated (fields : ProtocolFields text temperature sram flag)
    (short : sram.length ≤ PythonText.maxStrDigits) : ToleratedLine text :=
  ⟨temperature, sram, flag, fields.words, floatLiteral_printedFloat fields.temperature,
    (intLiteral_digits fields.sram).mpr short⟩

theorem ProtocolFields.short (fields : ProtocolFields text temperature sram flag)
    (tolerated : ToleratedLine text) : sram.length ≤ PythonText.maxStrDigits := by
  obtain ⟨first, second, third, words, _, isInt⟩ := tolerated
  have same := (split_of_wordsOf fields.words).symm.trans (split_of_wordsOf words)
  cases same
  exact (intLiteral_digits fields.sram).mp isInt

theorem ProtocolFields.ascii (fields : ProtocolFields text temperature sram flag) :
    ∀ character ∈ text, character.toNat < 128 := by
  obtain ⟨trail, ends, whole⟩ := fields.exists_trail
  intro character member
  rw [whole] at member
  simp only [List.mem_append, List.mem_cons] at member
  rcases member with one | space | two | space | three | behind
  · exact (plain_printedFloat fields.temperature character one).2.2
  · rw [space]
    decide
  · exact (plain_digits fields.sram character two).2.2
  · rw [space]
    decide
  · exact (plain_flag fields.flag character three).2.2
  · rcases ends with rfl | rfl
    · cases behind
    · rw [List.mem_singleton.mp behind]
      decide

end Protocol

theorem ascii_of_protocolLine {bytes : List UInt8} (protocol : ProtocolLine bytes) :
    ∀ byte ∈ bytes, byte.toNat < 128 := by
  obtain ⟨temperature, sram, flag, fields⟩ := protocol
  intro byte member
  have small := fields.ascii _ (List.mem_map_of_mem member)
  rwa [PythonText.toNat_ofNat_byte] at small

theorem characters_encoded {text : List Char}
    (ascii : ∀ character ∈ text, character.toNat < 128) : characters (encoded text) = text := by
  have decoded := decodeAscii_encode ascii
  rw [PythonText.decodeAscii] at decoded
  split at decoded
  · exact Except.ok.inj decoded
  · cases decoded

theorem printedFloat_temperatureText (temperature : FloatValue) :
    PrintedFloat (temperatureText temperature) := by
  cases temperature with
  | finite value =>
      refine Or.inl ⟨if value < 0 then ['-'] else [], thousandths value, ?_, rfl⟩
      split
      · exact Or.inr rfl
      · exact Or.inl rfl
  | posInf => exact Or.inr (by decide)
  | negInf => exact Or.inr (by decide)
  | nan => exact Or.inr (by decide)

/-- The server keeps to the protocol. -/
theorem protocolLine_telemetryLine {telemetry : Telemetry}
    (within : WithinFloat telemetry.temperatureC) : ProtocolLine (telemetryLine telemetry) := by
  refine ⟨temperatureText telemetry.temperatureC, sramText telemetry,
    flagText telemetry.securityViolation, ?_⟩
  rw [telemetryLine_eq within, characters_encoded (ascii_lineText telemetry)]
  refine ⟨Or.inr rfl, printedFloat_temperatureText _,
    ⟨sramText_ne_nil telemetry, Decimal.isDigit_of_mem_natural⟩, ?_⟩
  cases telemetry.securityViolation
  · exact Or.inl rfl
  · exact Or.inr rfl

/-- The client keeps to the protocol on exactly the bytes that are ASCII, are no
line with a decimal longer than Python reads, and are no line that only the
wider grammar has. -/
theorem accepts_exactly_iff (socketPath : String) (bytes : List UInt8) (connection : Connection)
    (delivers : Delivers bytes connection) :
    AcceptsExactly socketPath bytes connection ↔
      (∀ byte ∈ bytes, byte.toNat < 128) ∧
        (∀ temperature sram flag, ProtocolFields (characters bytes) temperature sram flag →
          sram.length ≤ PythonText.maxStrDigits) ∧
        (ToleratedLine (characters bytes) → ProtocolLine bytes) := by
  obtain ⟨chunks, nonempty, rfl⟩ := delivers
  have read := readFull_chunks socketPath chunks nonempty
  by_cases ascii : ∀ byte ∈ chunks.flatten, byte.toNat < 128
  · have accepted := parseLine_isOk_iff (characters chunks.flatten)
    rw [PythonText.decodeAscii_ascii ascii] at read
    change readFull _ _ = parseLine (characters chunks.flatten) at read
    unfold AcceptsExactly
    rw [read, accepted]
    constructor
    · rintro ⟨exactly, _⟩
      refine ⟨ascii, fun temperature sram flag fields => ?_, exactly.mp⟩
      exact fields.short (exactly.mpr ⟨temperature, sram, flag, fields⟩)
    · rintro ⟨_, short, onlyProtocol⟩
      refine ⟨⟨onlyProtocol, ?_⟩, ?_⟩
      · rintro ⟨temperature, sram, flag, fields⟩
        exact fields.tolerated (short temperature sram flag fields)
      · intro other
        rcases parseLine_cases (characters chunks.flatten) with isOk | refused
        · exact absurd (onlyProtocol (accepted.mp isOk)) other
        · exact ⟨_, refused⟩
  · obtain ⟨position, undecoded⟩ := PythonText.decodeAscii_notAscii ascii
    rw [undecoded] at read
    constructor
    · rintro ⟨_, refuses⟩
      obtain ⟨message, refused⟩ := refuses fun protocol => ascii (ascii_of_protocolLine protocol)
      rw [read] at refused
      cases refused
    · exact fun condition => absurd condition.1 ascii

theorem accepts_exactly_iff_two_pieces :
    AcceptsExactly "" [54, 49, 46, 53, 48, 48, 32, 48, 32, 48, 10]
      ⟨.ok (), [.ok [54, 49, 46, 53], .ok [48, 48, 32, 48, 32, 48, 10], .ok []]⟩ := by
  refine (accepts_exactly_iff "" _ _
    (.intro [[54, 49, 46, 53], [48, 48, 32, 48, 32, 48, 10]] (by simp) rfl)).mpr ⟨?_, ?_, ?_⟩
  · decide +kernel
  · intro temperature sram flag fields
    have words : PythonText.split (characters [54, 49, 46, 53, 48, 48, 32, 48, 32, 48, 10]) =
        [temperature, sram, flag] := split_of_wordsOf fields.words
    rw [show PythonText.split (characters [54, 49, 46, 53, 48, 48, 32, 48, 32, 48, 10]) =
      [['6', '1', '.', '5', '0', '0'], ['0'], ['0']] by decide +kernel] at words
    cases words
    decide
  · intro _
    refine ⟨['6', '1', '.', '5', '0', '0'], ['0'], ['0'], Or.inr (by decide +kernel),
      Or.inl ⟨[], 61500, Or.inl rfl, by decide +kernel⟩, ⟨by simp, ?_⟩, Or.inl rfl⟩
    intro character member
    rw [List.mem_singleton.mp member]
    rfl

/-- A byte that is not ASCII raises `UnicodeDecodeError`, and `40.000 7 2` is
read as a violation. -/
theorem client_leaves_protocol :
    ¬ AcceptsExactly "" [255] ⟨.ok (), [.ok [255], .ok []]⟩ ∧
      ¬ AcceptsExactly "" [52, 48, 46, 48, 48, 48, 32, 55, 32, 50]
        ⟨.ok (), [.ok [52, 48, 46, 48, 48, 48, 32, 55, 32, 50], .ok []]⟩ := by
  constructor
  · rintro ⟨_, refuses⟩
    obtain ⟨message, refused⟩ := refuses fun protocol => by
      have ascii := ascii_of_protocolLine protocol 255 (by simp)
      exact absurd ascii (by decide)
    rw [show readFull "" ⟨.ok (), [.ok [255], .ok []]⟩ = .error (.unicodeDecodeError 0) by
      decide +kernel] at refused
    cases refused
  · rintro ⟨exactly, _⟩
    obtain ⟨temperature, sram, flag, fields⟩ :=
      exactly.mp ⟨⟨.finite 40, 7, true⟩, by decide +kernel⟩
    have words := split_of_wordsOf fields.words
    rw [show PythonText.split (characters [52, 48, 46, 48, 48, 48, 32, 55, 32, 50]) =
      [['4', '0', '.', '0', '0', '0'], ['7'], ['2']] by decide +kernel] at words
    cases words
    have isFlag := fields.flag
    revert isFlag
    decide

end Msp.TelemetryProtocol
