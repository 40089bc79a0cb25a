import Msp.Library.CText
import Msp.Library.PythonGrammar

/-!
# Python's text functions on all of Unicode

`bytes.decode("utf-8")`, `str.strip` and `int` on any text.  The tables of the
Unicode database behind `int` and `str.lower` are parameters.  On ASCII text
these are the functions of `PythonText`.
-/

set_option autoImplicit false

namespace Msp.Library.PythonUnicode

structure UnicodeTables where
  decimal : Char → Option (Fin 10)
  lower : List Char → List Char

def IsUtf8 (bytes : List UInt8) : Prop :=
  ∃ text : List Char, bytes = text.flatMap String.utf8EncodeChar

/-- The length of the longest front that decodes. -/
def errorStart (bytes : List UInt8) : Nat :=
  (((List.range bytes.length).filter fun count =>
    (bytes.take count).toByteArray.validateUTF8).getLast?).getD 0

/-- `decode("utf-8", errors="strict")`; on failure, the position of the first
byte that belongs to no character. -/
def decodeUtf8 (bytes : List UInt8) : Except Nat (List Char) :=
  match bytes.toByteArray.utf8Decode? with
  | some text => .ok text.toList
  | none => .error (errorStart bytes)

def isSpace (character : Char) : Bool :=
  let code := character.toNat
  PythonText.isSpace character || decide (0x2000 ≤ code ∧ code ≤ 0x200a) ||
    decide (code ∈ [0x85, 0xa0, 0x1680, 0x2028, 0x2029, 0x202f, 0x205f, 0x3000])

def strip (text : List Char) : List Char := (text.dropWhile isSpace).rdropWhile isSpace

def asciiOf (tables : UnicodeTables) (character : Char) : Option Char :=
  if character.toNat < 128 then some character
  else if isSpace character then some ' '
  else (tables.decimal character).map fun digit => Nat.digitChar digit

/-- The number parser's own white space is C's. -/
def trim (text : List Char) : List Char :=
  (text.dropWhile CText.isspace).rdropWhile CText.isspace

def int (tables : UnicodeTables) (text : List Char) : Option Int :=
  (text.mapM (asciiOf tables)).bind fun ascii =>
    if (trim ascii).any PythonText.isSpace then none else PythonText.int (trim ascii)

theorem decodeUtf8_ok_iff {bytes : List UInt8} {text : List Char} :
    decodeUtf8 bytes = .ok text ↔ bytes = text.flatMap String.utf8EncodeChar := by
  constructor
  · intro decoded
    unfold decodeUtf8 at decoded
    split at decoded
    · rename_i characters found
      cases decoded
      have isSome : bytes.toByteArray.utf8Decode?.isSome = true := by rw [found]; rfl
      have encoded := @ByteArray.utf8Encode_get_utf8Decode? _ isSome
      simp only [found, Option.get_some, List.utf8Encode] at encoded
      exact (List.toByteArray_inj.mp encoded).symm
    · cases decoded
  · rintro rfl
    have found := @List.utf8Decode?_utf8Encode text
    unfold List.utf8Encode at found
    rw [decodeUtf8, found]

theorem isUtf8_iff {bytes : List UInt8} :
    IsUtf8 bytes ↔ ∃ text, decodeUtf8 bytes = .ok text :=
  exists_congr fun _ => decodeUtf8_ok_iff.symm

def Ascii (text : List Char) : Prop := ∀ character ∈ text, character.toNat < 128

theorem utf8EncodeChar_ascii {character : Char} (ascii : character.toNat < 128) :
    String.utf8EncodeChar character = [UInt8.ofNat character.toNat] := by
  have small : character.val.toNat ≤ 127 := Nat.le_of_lt_succ ascii
  rw [String.utf8EncodeChar, if_pos small]
  rfl

theorem decodeUtf8_ascii : ∀ {text : List Char}, Ascii text →
    decodeUtf8 (text.map fun character => UInt8.ofNat character.toNat) = .ok text := by
  intro text ascii
  rw [decodeUtf8_ok_iff]
  induction text with
  | nil => rfl
  | cons character rest ih =>
      rw [List.map_cons, List.flatMap_cons, utf8EncodeChar_ascii (ascii _ List.mem_cons_self),
        ← ih fun other member => ascii other (List.mem_cons_of_mem _ member)]
      rfl

theorem isSpace_ascii {character : Char} (ascii : character.toNat < 128) :
    isSpace character = PythonText.isSpace character := by
  have plain : ¬ (0x2000 ≤ character.toNat ∧ character.toNat ≤ 0x200a) ∧
      character.toNat ∉ [0x85, 0xa0, 0x1680, 0x2028, 0x2029, 0x202f, 0x205f, 0x3000] := by
    simp only [List.mem_cons, List.not_mem_nil, or_false]
    omega
  rw [isSpace, decide_eq_false plain.1, decide_eq_false plain.2, Bool.or_false, Bool.or_false]

section Predicates
variable {first second : Char → Bool}

theorem dropWhile_congr : ∀ {text : List Char},
    (∀ character ∈ text, first character = second character) →
      text.dropWhile first = text.dropWhile second := by
  intro text same
  induction text with
  | nil => rfl
  | cons character rest ih =>
      have here := same character List.mem_cons_self
      by_cases dropped : second character = true
      · rw [List.dropWhile_cons_of_pos (here.trans dropped), List.dropWhile_cons_of_pos dropped]
        exact ih fun other member => same other (List.mem_cons_of_mem _ member)
      · rw [List.dropWhile_cons_of_neg (by rw [here]; exact dropped),
          List.dropWhile_cons_of_neg dropped]

theorem strip_congr {text : List Char}
    (same : ∀ character ∈ text, first character = second character) :
    (text.dropWhile first).rdropWhile first = (text.dropWhile second).rdropWhile second := by
  rw [dropWhile_congr same, List.rdropWhile, List.rdropWhile, dropWhile_congr]
  intro character member
  exact same character ((List.dropWhile_sublist second).subset (List.mem_reverse.mp member))

end Predicates

theorem strip_ascii {text : List Char} (ascii : Ascii text) :
    strip text = PythonText.strip text :=
  strip_congr fun character member => isSpace_ascii (ascii character member)

theorem mapM_ascii (tables : UnicodeTables) : ∀ {text : List Char}, Ascii text →
    text.mapM (asciiOf tables) = some text := by
  intro text ascii
  induction text with
  | nil => rfl
  | cons character rest ih =>
      rw [List.mapM_cons, asciiOf, if_pos (ascii character List.mem_cons_self),
        ih fun other member => ascii other (List.mem_cons_of_mem _ member)]
      rfl

/-- Without the four separators that only `str.isspace` counts as white space. -/
theorem int_ascii (tables : UnicodeTables) {text : List Char} (ascii : Ascii text)
    (noSeparator : ∀ character ∈ text, ¬ (28 ≤ character.toNat ∧ character.toNat ≤ 31)) :
    int tables text = PythonText.int text := by
  have trimmed : trim text = PythonText.strip text := by
    apply strip_congr
    intro character member
    have plain := noSeparator character member
    rw [CText.isspace, PythonText.isSpace]
    congr 1
    apply decide_eq_decide.mpr
    omega
  rw [int, mapM_ascii tables ascii, Option.bind_some, trimmed]
  split
  · rename_i spaced
    obtain ⟨character, member, isSpace⟩ := List.any_eq_true.mp spaced
    cases read : PythonText.int text with
    | none => rfl
    | some value =>
        rw [PythonGrammar.noSpace_of_int read character member] at isSpace
        cases isSpace
  · exact PythonGrammar.int_strip text

end Msp.Library.PythonUnicode
