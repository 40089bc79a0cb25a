import Msp.Library.Decimal

/-!
# JSON as Python writes and reads it

`json.dumps` with its default separators and in ASCII, and `json.loads` with the
scanner behind it, on values whose objects are lists of pairs.  What a float is
written as and how its text is read is a parameter; `Spelled` says which texts
the scanner takes for one.

A Python string is the list of its characters; a text with a surrogate that is
not part of a pair, which Python accepts, is refused.  Of the recursion limit
and of the limit on the digits of an integer nothing is said.
-/

set_option autoImplicit false

namespace Msp.Library.Json

inductive Value (F : Type) where
  | null
  | bool (value : Bool)
  | int (value : Int)
  | float (value : F)
  | string (text : List Char)
  | array (elements : List (Value F))
  | object (members : List (List Char × Value F))

/-! ## Writing -/

def hexDigit (digit : ℕ) : Char := Nat.digitChar digit

def unitText (unit : ℕ) : List Char :=
  ['\\', 'u', hexDigit (unit / 4096), hexDigit (unit / 256 % 16), hexDigit (unit / 16 % 16),
    hexDigit (unit % 16)]

/-- One character in `py_encode_basestring_ascii`. -/
def escape (character : Char) : List Char :=
  if character = '"' then ['\\', '"']
  else if character = '\\' then ['\\', '\\']
  else if character = '\n' then ['\\', 'n']
  else if character = '\r' then ['\\', 'r']
  else if character = '\t' then ['\\', 't']
  else if character.toNat = 12 then ['\\', 'f']
  else if character.toNat = 8 then ['\\', 'b']
  else if 32 ≤ character.toNat ∧ character.toNat ≤ 126 then [character]
  else if character.toNat < 0x10000 then unitText character.toNat
  else unitText (0xd800 + (character.toNat - 0x10000) / 1024) ++
    unitText (0xdc00 + (character.toNat - 0x10000) % 1024)

def stringText (text : List Char) : List Char := '"' :: (text.flatMap escape ++ ['"'])

def intText : Int → List Char
  | .ofNat number => Decimal.natural number
  | .negSucc number => '-' :: Decimal.natural (number + 1)

section Write
variable {F : Type} (floatText : F → List Char)

mutual

def dumps : Value F → List Char
  | .null => ['n', 'u', 'l', 'l']
  | .bool true => ['t', 'r', 'u', 'e']
  | .bool false => ['f', 'a', 'l', 's', 'e']
  | .int value => intText value
  | .float value => floatText value
  | .string text => stringText text
  | .array elements => '[' :: dumpsElements elements
  | .object members => '{' :: dumpsMembers members

def dumpsElements : List (Value F) → List Char
  | [] => [']']
  | [last] => dumps last ++ [']']
  | first :: second :: rest => dumps first ++ ',' :: ' ' :: dumpsElements (second :: rest)

def dumpsMembers : List (List Char × Value F) → List Char
  | [] => ['}']
  | [last] => stringText last.1 ++ ':' :: ' ' :: (dumps last.2 ++ ['}'])
  | first :: second :: rest =>
      stringText first.1 ++ ':' :: ' ' :: (dumps first.2 ++ ',' :: ' ' ::
        dumpsMembers (second :: rest))

end

end Write

/-! ## Reading -/

def isSpace (character : Char) : Bool := decide (character ∈ [' ', '\t', '\n', '\r'])

def skip (text : List Char) : List Char := text.dropWhile isSpace

def hexValue (character : Char) : Option ℕ :=
  if character.isDigit then some (character.toNat - 48)
  else if 97 ≤ character.toNat ∧ character.toNat ≤ 102 then some (character.toNat - 87)
  else if 65 ≤ character.toNat ∧ character.toNat ≤ 70 then some (character.toNat - 55)
  else none

/-- `_decode_uXXXX`: four hexadecimal digits, and what is behind them. -/
def scanUnit : List Char → Option (ℕ × List Char)
  | first :: second :: third :: fourth :: rest => do
      let a ← hexValue first
      let b ← hexValue second
      let c ← hexValue third
      let d ← hexValue fourth
      some (4096 * a + 256 * b + 16 * c + d, rest)
  | _ => none

def scanLow : List Char → Option (ℕ × List Char)
  | '\\' :: 'u' :: rest => (scanUnit rest).bind fun low =>
      if 0xdc00 ≤ low.1 ∧ low.1 < 0xe000 then some low else none
  | _ => none

def scanEscaped (text : List Char) : Option (Char × List Char) :=
  (scanUnit text).bind fun unit =>
    if 0xd800 ≤ unit.1 ∧ unit.1 < 0xdc00 then
      (scanLow unit.2).map fun low =>
        (Char.ofNat (0x10000 + (unit.1 - 0xd800) * 1024 + (low.1 - 0xdc00)), low.2)
    else if 0xdc00 ≤ unit.1 ∧ unit.1 < 0xe000 then none
    else some (Char.ofNat unit.1, unit.2)

def scanEscape : List Char → Option (Char × List Char)
  | '"' :: rest => some ('"', rest)
  | '\\' :: rest => some ('\\', rest)
  | '/' :: rest => some ('/', rest)
  | 'b' :: rest => some (Char.ofNat 8, rest)
  | 'f' :: rest => some (Char.ofNat 12, rest)
  | 'n' :: rest => some ('\n', rest)
  | 'r' :: rest => some ('\r', rest)
  | 't' :: rest => some ('\t', rest)
  | 'u' :: rest => scanEscaped rest
  | _ => none

/-- `scanstring`, behind the opening quote; control characters are refused. -/
def scanString : ℕ → List Char → Option (List Char × List Char)
  | 0, _ => none
  | _ + 1, [] => none
  | _ + 1, '"' :: rest => some ([], rest)
  | fuel + 1, '\\' :: rest =>
      (scanEscape rest).bind fun found =>
        (scanString fuel found.2).map fun others => (found.1 :: others.1, others.2)
  | fuel + 1, character :: rest =>
      if character.toNat < 32 then none
      else (scanString fuel rest).map fun others => (character :: others.1, others.2)

def digits (text : List Char) : List Char × List Char :=
  (text.takeWhile Char.isDigit, text.dropWhile Char.isDigit)

def scanNatural : List Char → Option (List Char × List Char)
  | [] => none
  | first :: rest =>
      if first = '0' then some (['0'], rest)
      else if first.isDigit then some (first :: (digits rest).1, (digits rest).2)
      else none

def scanInteger : List Char → Option (List Char × List Char)
  | '-' :: rest => (scanNatural rest).map fun found => ('-' :: found.1, found.2)
  | text => scanNatural text

def scanFraction : List Char → List Char × List Char
  | '.' :: rest =>
      if (digits rest).1 = [] then ([], '.' :: rest) else ('.' :: (digits rest).1, (digits rest).2)
  | text => ([], text)

def scanSign : List Char → List Char × List Char
  | '-' :: rest => (['-'], rest)
  | '+' :: rest => (['+'], rest)
  | text => ([], text)

def scanExponent : List Char → List Char × List Char
  | [] => ([], [])
  | first :: rest =>
      if first = 'e' ∨ first = 'E' then
        let (sign, body) := scanSign rest
        if (digits body).1 = [] then ([], first :: rest)
        else (first :: (sign ++ (digits body).1), (digits body).2)
      else ([], first :: rest)

/-- The integer part, what makes it a float, and what is behind. -/
def scanNumber (text : List Char) : Option (List Char × List Char × List Char) :=
  (scanInteger text).map fun integer =>
    let fraction := scanFraction integer.2
    let exponent := scanExponent fraction.2
    (integer.1, fraction.1 ++ exponent.1, exponent.2)

def intOf : List Char → Int
  | '-' :: rest => -(Nat.ofDigitChars 10 rest 0 : Int)
  | text => Nat.ofDigitChars 10 text 0

def words : List (List Char) :=
  [['N', 'a', 'N'], ['I', 'n', 'f', 'i', 'n', 'i', 't', 'y'],
    ['-', 'I', 'n', 'f', 'i', 'n', 'i', 't', 'y']]

section Read
variable {F : Type} (floatOf : List Char → F)

def scanWord (text : List Char) : Option (Value F × List Char) :=
  (words.find? fun word => word.isPrefixOf text).map fun word =>
    (.float (floatOf word), text.drop word.length)

def scanNumberOrWord (text : List Char) : Option (Value F × List Char) :=
  match scanNumber text with
  | some (integer, [], rest) => some (.int (intOf integer), rest)
  | some (integer, tail, rest) => some (.float (floatOf (integer ++ tail)), rest)
  | none => scanWord floatOf text

mutual

def scanOnce : ℕ → List Char → Option (Value F × List Char)
  | 0, _ => none
  | _ + 1, [] => none
  | fuel + 1, '"' :: rest => (scanString fuel rest).map fun found => (.string found.1, found.2)
  | fuel + 1, '{' :: rest =>
      match skip rest with
      | '}' :: rest => some (.object [], rest)
      | '"' :: rest => (scanMembers fuel rest).map fun found => (.object found.1, found.2)
      | _ => none
  | fuel + 1, '[' :: rest =>
      match skip rest with
      | ']' :: rest => some (.array [], rest)
      | rest => (scanElements fuel rest).map fun found => (.array found.1, found.2)
  | _ + 1, 'n' :: 'u' :: 'l' :: 'l' :: rest => some (.null, rest)
  | _ + 1, 't' :: 'r' :: 'u' :: 'e' :: rest => some (.bool true, rest)
  | _ + 1, 'f' :: 'a' :: 'l' :: 's' :: 'e' :: rest => some (.bool false, rest)
  | _ + 1, text => scanNumberOrWord floatOf text

/-- `JSONObject`, behind the quote that opens a key. -/
def scanMembers : ℕ → List Char → Option (List (List Char × Value F) × List Char)
  | 0, _ => none
  | fuel + 1, text =>
      (scanString fuel text).bind fun key =>
        match skip key.2 with
        | ':' :: rest =>
            (scanOnce fuel (skip rest)).bind fun value =>
              match skip value.2 with
              | '}' :: rest => some ([(key.1, value.1)], rest)
              | ',' :: rest =>
                  match skip rest with
                  | '"' :: rest =>
                      (scanMembers fuel rest).map fun others =>
                        ((key.1, value.1) :: others.1, others.2)
                  | _ => none
              | _ => none
        | _ => none

/-- `JSONArray`, at a value. -/
def scanElements : ℕ → List Char → Option (List (Value F) × List Char)
  | 0, _ => none
  | fuel + 1, text =>
      (scanOnce fuel text).bind fun value =>
        match skip value.2 with
        | ']' :: rest => some ([value.1], rest)
        | ',' :: rest =>
            (scanElements fuel (skip rest)).map fun others => (value.1 :: others.1, others.2)
        | _ => none

end

def loads (text : List Char) : Option (Value F) :=
  (scanOnce floatOf (text.length + 1) (skip text)).bind fun found =>
    if skip found.2 = [] then some found.1 else none

end Read

end Msp.Library.Json
