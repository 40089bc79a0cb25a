import Msp.Daemon.TelemetryLine
import Msp.Python.TelemetryReader
import Msp.Python.WatchdogPolicy
import Mathlib.Tactic.Linarith
import Mathlib.Tactic.NormNum

/-!
# The telemetry line, written in C and read in Python

The daemon prints a sample, the client parses it.  A line that fits the
server's buffer reads back as the sample with its temperature rounded to the
thousandth (`parseLine_take_lineText`); a line cut before its flag is refused.
-/

set_option autoImplicit false

namespace Msp.TelemetryWire

open Msp.Library Msp.Daemon.SandboxWatchdog Msp.Daemon.TelemetryLine
open Msp.Python.TelemetryReader Msp.Python.WatchdogPolicy

def Plain (character : Char) : Prop :=
  PythonText.isSpace character = false ∧ character ≠ '_' ∧ character.toNat < 128

instance (character : Char) : Decidable (Plain character) :=
  inferInstanceAs (Decidable (_ ∧ _ ∧ _))

theorem plain_of_all {text : List Char}
    (every : text.all (fun character => decide (Plain character)) = true) :
    ∀ character ∈ text, Plain character :=
  fun character member => of_decide_eq_true (List.all_eq_true.mp every character member)

theorem plain_of_isDigit {character : Char} (digit : character.isDigit = true) :
    Plain character := by
  refine ⟨PythonText.isSpace_of_isDigit digit, ?_, ?_⟩
  · rintro rfl
    exact absurd digit (by decide)
  · simp only [Char.isDigit, Bool.and_eq_true, decide_eq_true_eq] at digit
    have upper : character.toNat ≤ 57 := digit.2
    omega

theorem plain_natural (number : Nat) : ∀ character ∈ Decimal.natural number, Plain character :=
  fun character member => plain_of_isDigit (Decimal.isDigit_of_mem_natural character member)

theorem plain_fixedPoint (places units : Nat) :
    ∀ character ∈ Decimal.fixedPoint places units, Plain character := by
  intro character member
  rcases List.mem_append.mp member with whole | rest
  · exact plain_natural _ character whole
  · rcases List.mem_cons.mp rest with point | fraction
    · rw [point]
      decide
    · exact plain_of_isDigit (Decimal.isDigit_of_mem_padded character fraction)

theorem plain_temperatureText (temperature : FloatValue) :
    ∀ character ∈ temperatureText temperature, Plain character := by
  cases temperature with
  | finite value =>
      intro character member
      rcases List.mem_append.mp member with minus | digits
      · split at minus
        · rw [List.mem_singleton.mp minus]
          decide
        · cases minus
      · exact plain_fixedPoint 3 _ character digits
  | posInf => exact plain_of_all rfl
  | negInf => exact plain_of_all rfl
  | nan => exact plain_of_all rfl

theorem plain_sramText (telemetry : Telemetry) :
    ∀ character ∈ sramText telemetry, Plain character := plain_natural _

theorem plain_flagText (flag : Bool) : ∀ character ∈ flagText flag, Plain character := by
  cases flag <;> exact plain_of_all rfl

theorem noSpace_of_plain {text : List Char} (plain : ∀ character ∈ text, Plain character) :
    ∀ character ∈ text, PythonText.isSpace character = false :=
  fun character member => (plain character member).1

theorem temperatureText_ne_nil (temperature : FloatValue) : temperatureText temperature ≠ [] := by
  cases temperature with
  | finite value => simp [temperatureText, Decimal.fixedPoint]
  | posInf => decide
  | negInf => decide
  | nan => decide

theorem sramText_ne_nil (telemetry : Telemetry) : sramText telemetry ≠ [] :=
  Decimal.natural_ne_nil _

theorem flagText_ne_nil (flag : Bool) : flagText flag ≠ [] := by cases flag <;> decide

theorem ascii_lineText (telemetry : Telemetry) :
    ∀ character ∈ lineText telemetry, character.toNat < 128 := by
  intro character member
  simp only [lineText, List.mem_append, List.mem_cons, List.not_mem_nil, or_false] at member
  rcases member with temperature | space | sram | space | flag | newline
  · exact (plain_temperatureText _ character temperature).2.2
  · rw [space]; decide
  · exact (plain_sramText _ character sram).2.2
  · rw [space]; decide
  · exact (plain_flagText _ character flag).2.2
  · rw [newline]; decide

theorem decodeAscii_encode {text : List Char} (ascii : ∀ character ∈ text, character.toNat < 128) :
    PythonText.decodeAscii (text.map fun character => UInt8.ofNat character.toNat) = .ok text := by
  have small : ∀ character ∈ text, (UInt8.ofNat character.toNat).toNat = character.toNat := by
    intro character member
    rw [UInt8.toNat_ofNat']
    exact Nat.mod_eq_of_lt (lt_trans (ascii character member) (by decide))
  unfold PythonText.decodeAscii
  rw [if_pos]
  · rw [List.map_map]
    congr 1
    calc text.map
          ((fun byte => Char.ofNat byte.toNat) ∘ fun character => UInt8.ofNat character.toNat)
        = text.map id := by
          apply List.map_congr_left
          intro character member
          simp only [Function.comp_apply, small character member, Char.ofNat_toNat, id]
      _ = text := List.map_id text
  · rw [List.all_map, List.all_eq_true]
    intro character member
    simp only [Function.comp_apply, small character member, ascii character member, decide_true]

/-- The temperature after the trip: rounded to the thousandth. -/
def rounded : FloatValue → FloatValue
  | .finite value =>
      .finite
        (if value < 0 then -((thousandths value : ℚ) / 1000) else (thousandths value : ℚ) / 1000)
  | special => special

theorem decimal_fixedPoint (units : Nat) :
    PythonText.decimal (Decimal.fixedPoint 3 units) = some ((units : ℚ) / 1000) := by
  have small : units % 10 ^ 3 < 10 ^ 3 := Nat.mod_lt _ (by decide)
  unfold Decimal.fixedPoint
  rw [PythonText.decimal_point (Decimal.natural_ne_nil _)
    Decimal.isDigit_of_mem_natural Decimal.isDigit_of_mem_padded,
    Decimal.ofDigitChars_fixedPoint (by decide), Decimal.length_padded (by decide) small]
  norm_num

theorem sign_fixedPoint (units : Nat) :
    PythonText.sign (Decimal.fixedPoint 3 units) = (false, Decimal.fixedPoint 3 units) :=
  PythonText.sign_digits (Decimal.natural_ne_nil _) Decimal.isDigit_of_mem_natural _

/-- `float` inverts `%.3f` up to the rounding. -/
theorem float_temperatureText (temperature : FloatValue) :
    PythonText.float (temperatureText temperature) = some (rounded temperature) := by
  cases temperature with
  | finite value =>
      have plain := plain_temperatureText (.finite value)
      unfold PythonText.float
      rw [PythonText.strip_word (noSpace_of_plain plain)]
      rw [PythonText.dropUnderscores_of_not_mem _ 'x' (by decide)
        (fun member => (plain '_' member).2.1 rfl)]
      by_cases negative : value < 0
      · simp [temperatureText, negative, PythonText.sign, decimal_fixedPoint, rounded]
      · simp [temperatureText, negative, sign_fixedPoint, decimal_fixedPoint, rounded]
  | posInf => decide
  | negInf => decide
  | nan => decide

theorem length_sramText (telemetry : Telemetry) : (sramText telemetry).length ≤ 20 :=
  Decimal.length_natural_le (by decide)
    (lt_of_lt_of_le telemetry.sramUsageBytes.toNat_lt (by decide))

theorem int_sramText (telemetry : Telemetry) :
    PythonText.int (sramText telemetry) = some (telemetry.sramUsageBytes.toNat : Int) := by
  have short := length_sramText telemetry
  rw [sramText, PythonText.int_digits (Decimal.natural_ne_nil _) Decimal.isDigit_of_mem_natural,
    Decimal.ofDigitChars_natural]
  exact le_trans short (by decide)

/-! ## Whole lines -/

theorem length_flagText (flag : Bool) : (flagText flag).length = 1 := by cases flag <;> rfl

theorem flagText_ne_zero (flag : Bool) : decide (flagText flag ≠ ['0']) = flag := by
  cases flag <;> rfl

def lengthThroughFlag (telemetry : Telemetry) : Nat :=
  (temperatureText telemetry.temperatureC).length + (sramText telemetry).length + 3

theorem length_lineText (telemetry : Telemetry) :
    (lineText telemetry).length = lengthThroughFlag telemetry + 1 := by
  simp [lineText, lengthThroughFlag, length_flagText]
  omega

theorem split_take_lineText (telemetry : Telemetry) (count : Nat) :
    PythonText.split ((lineText telemetry).take count) =
      PythonText.split ((temperatureText telemetry.temperatureC).take count) ++
        (PythonText.split ((sramText telemetry).take
            (count - (temperatureText telemetry.temperatureC).length - 1)) ++
          PythonText.split ((flagText telemetry.securityViolation).take
            (count + 1 - lengthThroughFlag telemetry))) := by
  have remaining : count - (temperatureText telemetry.temperatureC).length - 1 -
      (sramText telemetry).length - 1 = count + 1 - lengthThroughFlag telemetry := by
    unfold lengthThroughFlag
    omega
  unfold lineText
  rw [PythonText.split_take_append_space _ _ (by decide),
    PythonText.split_take_append_space _ _ (by decide), remaining,
    PythonText.split_take_append_space _ _ (by decide)]
  simp

/-- What the client makes of a line cut after `count` characters: the sample
when the flag is there, a refusal otherwise. -/
theorem parseLine_take_lineText (telemetry : Telemetry) (count : Nat) :
    parseLine ((lineText telemetry).take count) =
      if lengthThroughFlag telemetry ≤ count then
        .ok ⟨rounded telemetry.temperatureC, telemetry.sramUsageBytes.toNat,
          telemetry.securityViolation⟩
      else .error (malformedLine (PythonText.strip ((lineText telemetry).take count))) := by
  have words := split_take_lineText telemetry count
  split_ifs with complete
  · have temperatureWhole :
        (temperatureText telemetry.temperatureC).length ≤ count := by
      unfold lengthThroughFlag at complete
      omega
    have sramWhole : (sramText telemetry).length ≤
        count - (temperatureText telemetry.temperatureC).length - 1 := by
      unfold lengthThroughFlag at complete
      omega
    have flagWhole : (flagText telemetry.securityViolation).length ≤
        count + 1 - lengthThroughFlag telemetry := by
      rw [length_flagText]
      omega
    rw [List.take_of_length_le temperatureWhole, List.take_of_length_le sramWhole,
      List.take_of_length_le flagWhole,
      PythonText.split_word (noSpace_of_plain (plain_temperatureText _)) (temperatureText_ne_nil _),
      PythonText.split_word (noSpace_of_plain (plain_sramText _)) (sramText_ne_nil _),
      PythonText.split_word (noSpace_of_plain (plain_flagText _)) (flagText_ne_nil _)] at words
    rw [parseLine_three_words words (float_temperatureText _) (int_sramText telemetry),
      flagText_ne_zero]
  · have noFlag : count + 1 - lengthThroughFlag telemetry = 0 := by omega
    have temperatureWords := PythonText.length_split_take_le_one
      (noSpace_of_plain (plain_temperatureText telemetry.temperatureC)) count
    have sramWords := PythonText.length_split_take_le_one
      (noSpace_of_plain (plain_sramText telemetry))
      (count - (temperatureText telemetry.temperatureC).length - 1)
    apply parseLine_few_words
    rw [words, noFlag, List.take_zero, PythonText.split_nil, List.append_nil, List.length_append]
    omega

theorem readFull_telemetryLine (socketPath : String) (telemetry : Telemetry)
    (chunks : List (List UInt8)) (nonempty : ∀ chunk ∈ chunks, chunk ≠ [])
    (delivered : chunks.flatten = telemetryLine telemetry) :
    readFull socketPath ⟨.ok (), chunks.map .ok ++ [.ok []]⟩ =
      parseLine ((lineText telemetry).take (lineCapacity - 1)) := by
  have ascii : ∀ character ∈ (lineText telemetry).take (lineCapacity - 1),
      character.toNat < 128 :=
    fun character member => ascii_lineText telemetry character (List.mem_of_mem_take member)
  rw [readFull_chunks socketPath chunks nonempty, delivered, telemetryLine,
    decodeAscii_encode ascii]

end Msp.TelemetryWire
