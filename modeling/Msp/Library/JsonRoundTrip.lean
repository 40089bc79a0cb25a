import Msp.Library.Json
import Msp.Library.PythonText

/-!
# What is written as JSON is read back

Strings first, character by character; then numbers, which end where a
character follows that cannot continue them; then values, by induction on the
fuel of the scanner, which exceeds the length of the text.
-/

set_option autoImplicit false

namespace Msp.Library.Json

theorem hexValue_hexDigit : ∀ digit < 16, hexValue (hexDigit digit) = some digit := by decide

theorem scanUnit_unitText {unit : ℕ} (small : unit < 0x10000) (rest : List Char) :
    scanUnit ((unitText unit).drop 2 ++ rest) = some (unit, rest) := by
  have first := hexValue_hexDigit (unit / 4096) (by omega)
  have second := hexValue_hexDigit (unit / 256 % 16) (by omega)
  have third := hexValue_hexDigit (unit / 16 % 16) (by omega)
  have fourth := hexValue_hexDigit (unit % 16) (by omega)
  have value : 4096 * (unit / 4096) + 256 * (unit / 256 % 16) + 16 * (unit / 16 % 16) +
      unit % 16 = unit := by omega
  simp [unitText, scanUnit, first, second, third, fourth, value]

theorem unitText_append (unit : ℕ) (rest : List Char) :
    unitText unit ++ rest = '\\' :: 'u' :: ((unitText unit).drop 2 ++ rest) := rfl

theorem toNat_lt (character : Char) : character.toNat < 0x110000 := by
  rcases character.valid with low | ⟨-, high⟩
  · have below : character.toNat < 0xd800 := low
    omega
  · exact high

theorem scanLow_unitText {low : ℕ} (small : low < 1024) (rest : List Char) :
    scanLow (unitText (0xdc00 + low) ++ rest) = some (0xdc00 + low, rest) := by
  rw [unitText_append, scanLow, scanUnit_unitText (by omega), Option.bind_some, if_pos (by omega)]

theorem scanEscaped_pair {high low : ℕ} (highSmall : high < 1024) (lowSmall : low < 1024)
    (rest : List Char) :
    scanEscaped ((unitText (0xd800 + high)).drop 2 ++ (unitText (0xdc00 + low) ++ rest)) =
      some (Char.ofNat (0x10000 + high * 1024 + low), rest) := by
  rw [scanEscaped, scanUnit_unitText (by omega), Option.bind_some, if_pos (by omega),
    scanLow_unitText lowSmall, Option.map_some]
  simp only [Nat.add_sub_cancel_left]

theorem scanEscaped_unit {character : Char} (small : character.toNat < 0x10000)
    (rest : List Char) :
    scanEscaped ((unitText character.toNat).drop 2 ++ rest) = some (character, rest) := by
  have valid : character.toNat < 0xd800 ∨ 0xdfff < character.toNat := by
    rcases character.valid with low | ⟨high, -⟩
    · exact Or.inl low
    · exact Or.inr high
  rw [scanEscaped, scanUnit_unitText small, Option.bind_some, if_neg (by omega),
    if_neg (by omega), Char.ofNat_toNat]

theorem scanString_escape (fuel : ℕ) (character : Char) (rest : List Char) :
    scanString (fuel + 1) (escape character ++ rest) =
      (scanString fuel rest).map fun others => (character :: others.1, others.2) := by
  have escaped : ∀ body, scanEscape (body ++ rest) = some (character, rest) →
      scanString (fuel + 1) ('\\' :: body ++ rest) =
        (scanString fuel rest).map fun others => (character :: others.1, others.2) := by
    intro body found
    rw [List.cons_append, scanString, found, Option.bind_some]
  unfold escape
  split_ifs with quote backslash newline carriage tab feed back plain small
  · subst quote
    exact escaped ['"'] rfl
  · subst backslash
    exact escaped ['\\'] rfl
  · subst newline
    exact escaped ['n'] rfl
  · subst carriage
    exact escaped ['r'] rfl
  · subst tab
    exact escaped ['t'] rfl
  · refine escaped ['f'] ?_
    rw [← Char.ofNat_toNat character, feed]
    rfl
  · refine escaped ['b'] ?_
    rw [← Char.ofNat_toNat character, back]
    rfl
  · rw [List.singleton_append, scanString, if_neg (by omega)]
    · exact quote
    · exact backslash
  · exact escaped ('u' :: (unitText character.toNat).drop 2) (scanEscaped_unit small rest)
  · have bound := toNat_lt character
    have pair := scanEscaped_pair
      (show (character.toNat - 0x10000) / 1024 < 1024 by omega)
      (show (character.toNat - 0x10000) % 1024 < 1024 by omega) rest
    have value : 0x10000 + (character.toNat - 0x10000) / 1024 * 1024 +
        (character.toNat - 0x10000) % 1024 = character.toNat := by omega
    rw [value, Char.ofNat_toNat] at pair
    rw [List.append_assoc, unitText_append, scanString]
    simp only [scanEscape]
    rw [pair, Option.bind_some]

theorem escape_ne_nil (character : Char) : escape character ≠ [] := by
  unfold escape
  split_ifs <;> simp [unitText]

theorem scanString_text (text : List Char) (rest : List Char) :
    ∀ fuel, (text.flatMap escape).length < fuel →
      scanString fuel (text.flatMap escape ++ '"' :: rest) = some (text, rest) := by
  induction text with
  | nil =>
      intro fuel enough
      obtain ⟨fuel, rfl⟩ := Nat.exists_eq_add_one_of_ne_zero (Nat.ne_of_gt enough)
      rfl
  | cons character more ih =>
      intro fuel enough
      have one := List.length_pos_of_ne_nil (escape_ne_nil character)
      rw [List.flatMap_cons, List.length_append] at enough
      obtain ⟨fuel, rfl⟩ := Nat.exists_eq_add_one_of_ne_zero (show fuel ≠ 0 by omega)
      rw [List.flatMap_cons, List.append_assoc, scanString_escape, ih fuel (by omega)]
      rfl

/-! ## Numbers -/

/-- No number goes on in `rest`. -/
def Stops (rest : List Char) : Prop :=
  ∀ character ∈ rest.head?,
    character.isDigit = false ∧ character ≠ '.' ∧ character ≠ 'e' ∧ character ≠ 'E'

inductive IsNatural : List Char → Prop
  | zero : IsNatural ['0']
  | number {first : Char} {body : List Char} (nonzero : first ≠ '0')
      (allDigits : ∀ character ∈ first :: body, character.isDigit = true) :
      IsNatural (first :: body)

inductive IsInteger : List Char → Prop
  | nonnegative {text : List Char} (isNatural : IsNatural text) : IsInteger text
  | negative {text : List Char} (isNatural : IsNatural text) : IsInteger ('-' :: text)

theorem digitChar_ne_zero : ∀ digit < 10, 0 < digit → digit.digitChar ≠ '0' := by decide

theorem natural_head {number : ℕ} (positive : 0 < number) :
    ∃ first more, Decimal.natural number = first :: more ∧ first ≠ '0' := by
  unfold Decimal.natural
  induction number using Nat.strong_induction_on with
  | _ number ih =>
      by_cases small : number < 10
      · refine ⟨number.digitChar, [], Nat.toDigits_of_lt_base small, ?_⟩
        exact digitChar_ne_zero number small positive
      · obtain ⟨first, more, same, nonzero⟩ := ih (number / 10) (by omega) (by omega)
        refine ⟨first, more ++ [(number % 10).digitChar], ?_, nonzero⟩
        rw [Nat.toDigits_of_base_le (by decide) (by omega), same, List.cons_append]

theorem isNatural_natural (number : ℕ) : IsNatural (Decimal.natural number) := by
  rcases Nat.eq_zero_or_pos number with rfl | positive
  · exact .zero
  · obtain ⟨first, more, same, nonzero⟩ := natural_head positive
    have allDigits : ∀ character ∈ Decimal.natural number, character.isDigit = true :=
      Decimal.isDigit_of_mem_natural
    rw [same] at allDigits ⊢
    exact .number nonzero allDigits

theorem isInteger_intText (value : Int) : IsInteger (intText value) := by
  cases value with
  | ofNat number => exact .nonnegative (isNatural_natural number)
  | negSucc number => exact .negative (isNatural_natural (number + 1))

theorem IsNatural.head {text : List Char} (isNatural : IsNatural text) :
    ∃ first more, text = first :: more ∧ first.isDigit = true := by
  cases isNatural with
  | zero => exact ⟨'0', [], rfl, rfl⟩
  | number nonzero allDigits => exact ⟨_, _, rfl, allDigits _ List.mem_cons_self⟩

theorem scanNatural_isNatural {text rest : List Char} (isNatural : IsNatural text)
    (stops : ∀ character ∈ rest.head?, character.isDigit = false) :
    scanNatural (text ++ rest) = some (text, rest) := by
  cases isNatural with
  | zero => rfl
  | number nonzero allDigits =>
      obtain ⟨taken, dropped⟩ := PythonText.takeWhile_digits rest
        (fun character member => allDigits character (List.mem_cons_of_mem _ member)) stops
      rw [List.cons_append, scanNatural, if_neg nonzero, if_pos (allDigits _ List.mem_cons_self)]
      simp only [digits, taken, dropped]

theorem scanInteger_isInteger {text rest : List Char} (isInteger : IsInteger text)
    (stops : ∀ character ∈ rest.head?, character.isDigit = false) :
    scanInteger (text ++ rest) = some (text, rest) := by
  cases isInteger with
  | negative isNatural =>
      rw [List.cons_append, scanInteger, scanNatural_isNatural isNatural stops]
      rfl
  | nonnegative isNatural =>
      have scanned := scanNatural_isNatural isNatural stops
      obtain ⟨first, more, rfl, digit⟩ := isNatural.head
      rw [List.cons_append] at scanned ⊢
      rw [scanInteger]
      · exact scanned
      · rintro _ ⟨⟩
        cases digit

inductive IsFraction : List Char → Prop
  | absent : IsFraction []
  | present {body : List Char} (nonempty : body ≠ [])
      (allDigits : ∀ character ∈ body, character.isDigit = true) : IsFraction ('.' :: body)

inductive IsExponent : List Char → Prop
  | absent : IsExponent []
  | present {mark : Char} {sign body : List Char} (isMark : mark = 'e' ∨ mark = 'E')
      (isSign : sign = [] ∨ sign = ['-'] ∨ sign = ['+']) (nonempty : body ≠ [])
      (allDigits : ∀ character ∈ body, character.isDigit = true) :
      IsExponent (mark :: (sign ++ body))

inductive IsFloat : List Char → Prop
  | word {text : List Char} (known : text ∈ words) : IsFloat text
  | number {integer fraction exponent : List Char} (isInteger : IsInteger integer)
      (isFraction : IsFraction fraction) (isExponent : IsExponent exponent)
      (float : fraction ++ exponent ≠ []) : IsFloat (integer ++ (fraction ++ exponent))

theorem scanFraction_isFraction {fraction rest : List Char} (isFraction : IsFraction fraction)
    (stops : ∀ character ∈ rest.head?, character.isDigit = false ∧ character ≠ '.') :
    scanFraction (fraction ++ rest) = (fraction, rest) := by
  cases isFraction with
  | absent =>
      cases rest with
      | nil => rfl
      | cons first more =>
          rw [List.nil_append, scanFraction]
          rintro _ ⟨⟩
          exact (stops _ rfl).2 rfl
  | present nonempty allDigits =>
      obtain ⟨taken, dropped⟩ := PythonText.takeWhile_digits rest allDigits
        fun character head => (stops character head).1
      simp only [List.cons_append, scanFraction, digits, taken, dropped, if_neg nonempty]

theorem scanSign_digits {sign body rest : List Char}
    (isSign : sign = [] ∨ sign = ['-'] ∨ sign = ['+']) (nonempty : body ≠ [])
    (allDigits : ∀ character ∈ body, character.isDigit = true) :
    scanSign (sign ++ body ++ rest) = (sign, body ++ rest) := by
  rcases isSign with rfl | rfl | rfl
  · obtain ⟨first, more, rfl⟩ := List.exists_cons_of_ne_nil nonempty
    have digit := allDigits first List.mem_cons_self
    rw [List.nil_append, List.cons_append, scanSign]
    · rintro _ ⟨⟩
      cases digit
    · rintro _ ⟨⟩
      cases digit
  · rfl
  · rfl

theorem scanExponent_isExponent {exponent rest : List Char} (isExponent : IsExponent exponent)
    (stops : ∀ character ∈ rest.head?,
      character.isDigit = false ∧ character ≠ 'e' ∧ character ≠ 'E') :
    scanExponent (exponent ++ rest) = (exponent, rest) := by
  cases isExponent with
  | absent =>
      cases rest with
      | nil => rfl
      | cons first more =>
          obtain ⟨-, notLower, notUpper⟩ := stops first rfl
          simp [scanExponent, notLower, notUpper]
  | present isMark isSign nonempty allDigits =>
      obtain ⟨taken, dropped⟩ := PythonText.takeWhile_digits rest allDigits
        fun character head => (stops character head).1
      simp only [List.cons_append, scanExponent, if_pos isMark,
        scanSign_digits isSign nonempty allDigits, digits, taken, dropped, if_neg nonempty]

theorem head_isFraction_append {fraction rest : List Char} (isFraction : IsFraction fraction)
    (stops : ∀ character ∈ rest.head?, character.isDigit = false) :
    ∀ character ∈ (fraction ++ rest).head?, character.isDigit = false := by
  cases isFraction with
  | absent => exact stops
  | present nonempty allDigits =>
      rintro _ ⟨⟩
      rfl

theorem head_isExponent_append {exponent rest : List Char} (isExponent : IsExponent exponent)
    (stops : ∀ character ∈ rest.head?, character.isDigit = false ∧ character ≠ '.') :
    ∀ character ∈ (exponent ++ rest).head?, character.isDigit = false ∧ character ≠ '.' := by
  cases isExponent with
  | absent => exact stops
  | present isMark _ _ _ =>
      rintro _ ⟨⟩
      rcases isMark with rfl | rfl <;> decide

theorem scanNumber_number {integer fraction exponent rest : List Char}
    (isInteger : IsInteger integer) (isFraction : IsFraction fraction)
    (isExponent : IsExponent exponent) (stops : Stops rest) :
    scanNumber (integer ++ (fraction ++ (exponent ++ rest))) =
      some (integer, fraction ++ exponent, rest) := by
  have afterFraction := head_isExponent_append isExponent
    fun character head => ⟨(stops character head).1, (stops character head).2.1⟩
  have afterInteger := head_isFraction_append isFraction
    fun character head => (afterFraction character head).1
  have ending := scanExponent_isExponent isExponent
    fun character head => ⟨(stops character head).1, (stops character head).2.2⟩
  rw [scanNumber, scanInteger_isInteger isInteger afterInteger, Option.map_some]
  simp only [scanFraction_isFraction isFraction afterFraction, ending]

structure Spelling (F : Type) where
  write : F → List Char
  read : List Char → F
  isFloat : ∀ value, IsFloat (write value)
  read_write : ∀ value, read (write value) = value

theorem intOf_intText (value : Int) : intOf (intText value) = value := by
  cases value with
  | ofNat number =>
      obtain ⟨first, more, same⟩ := List.exists_cons_of_ne_nil (Decimal.natural_ne_nil number)
      have digit : first.isDigit = true :=
        Decimal.isDigit_of_mem_natural first (same ▸ List.mem_cons_self)
      have value := Decimal.ofDigitChars_natural number
      rw [same] at value
      rw [intText, same, intOf, value]
      · rfl
      · rintro _ ⟨⟩
        cases digit
  | negSucc number =>
      rw [intText, intOf, Decimal.ofDigitChars_natural]
      rfl

def OpensNumber (character : Char) : Prop :=
  character.isDigit = true ∨ character = '-' ∨ character = 'N' ∨ character = 'I'

theorem IsInteger.opens {text : List Char} (isInteger : IsInteger text) :
    ∃ first more, text = first :: more ∧ OpensNumber first := by
  cases isInteger with
  | negative isNatural => exact ⟨'-', _, rfl, Or.inr (Or.inl rfl)⟩
  | nonnegative isNatural =>
      obtain ⟨first, more, same, digit⟩ := isNatural.head
      exact ⟨first, more, same, Or.inl digit⟩

theorem IsFloat.opens {text : List Char} (isFloat : IsFloat text) :
    ∃ first more, text = first :: more ∧ OpensNumber first := by
  cases isFloat with
  | word known =>
      simp only [words, List.mem_cons, List.not_mem_nil, or_false] at known
      rcases known with rfl | rfl | rfl <;> exact ⟨_, _, rfl, by simp [OpensNumber]⟩
  | number isInteger _ _ _ =>
      obtain ⟨first, more, same, opens⟩ := isInteger.opens
      exact ⟨first, _, by rw [same, List.cons_append], opens⟩

theorem scanOnce_number {F : Type} (floatOf : List Char → F) {first : Char}
    (opens : OpensNumber first) (fuel : ℕ) (more : List Char) :
    scanOnce floatOf (fuel + 1) (first :: more) = scanNumberOrWord floatOf (first :: more) := by
  rw [scanOnce]
  · nofun
  all_goals
    rintro _ ⟨⟩
    rcases opens with digit | same | same | same
    · cases digit
    all_goals cases same

section Values
variable {F : Type} (spelling : Spelling F)

theorem scanNumberOrWord_int (value : Int) {rest : List Char} (stops : Stops rest) :
    scanNumberOrWord spelling.read (intText value ++ rest) = some (.int value, rest) := by
  have scanned := scanNumber_number (isInteger_intText value) .absent .absent stops
  rw [scanNumberOrWord]
  simp only [List.nil_append] at scanned
  rw [scanned]
  simp only [intOf_intText]

theorem scanNumber_word {text : List Char} (known : text ∈ words) (rest : List Char) :
    scanNumber (text ++ rest) = none := by
  simp only [words, List.mem_cons, List.not_mem_nil, or_false] at known
  rcases known with rfl | rfl | rfl <;> rfl

theorem find_word {text : List Char} (known : text ∈ words) (rest : List Char) :
    (words.find? fun word => word.isPrefixOf (text ++ rest)) = some text := by
  simp only [words, List.mem_cons, List.not_mem_nil, or_false] at known
  rcases known with rfl | rfl | rfl <;> rfl

theorem scanNumberOrWord_float (value : F) {rest : List Char} (stops : Stops rest) :
    scanNumberOrWord spelling.read (spelling.write value ++ rest) =
      some (.float value, rest) := by
  have back := spelling.read_write value
  have isFloat := spelling.isFloat value
  generalize spelling.write value = text at back isFloat
  rw [scanNumberOrWord]
  cases isFloat with
  | word known =>
      rw [scanNumber_word known, scanWord, find_word known, Option.map_some, List.drop_left, back]
  | number isInteger isFraction isExponent float =>
      have scanned := scanNumber_number isInteger isFraction isExponent stops
      obtain ⟨first, more, nonempty⟩ := List.exists_cons_of_ne_nil float
      rw [List.append_assoc, List.append_assoc, scanned]
      rw [nonempty] at back ⊢
      simp only [back]

/-! ## Values -/

theorem stops_cons {first : Char} (ends : first = ',' ∨ first = ']' ∨ first = '}')
    (more : List Char) : Stops (first :: more) := by
  rintro _ ⟨⟩
  rcases ends with rfl | rfl | rfl <;> decide

theorem skip_cons {first : Char} (solid : isSpace first = false) (more : List Char) :
    skip (first :: more) = first :: more := by
  rw [skip, List.dropWhile_cons_of_neg (by simp [solid])]

/-- What stands where an array is read begins neither with white space nor with its end. -/
theorem dumps_opens (value : Value F) :
    ∃ first more, dumps spelling.write value = first :: more ∧ isSpace first = false ∧
      first ≠ ']' := by
  have number : ∀ {text : List Char}, (∃ first more, text = first :: more ∧ OpensNumber first) →
      ∃ first more, text = first :: more ∧ isSpace first = false ∧ first ≠ ']' := by
    rintro text ⟨first, more, same, opens⟩
    refine ⟨first, more, same, ?_, ?_⟩
    · rw [isSpace, decide_eq_false_iff_not]
      simp only [List.mem_cons, List.not_mem_nil, or_false]
      rintro (rfl | rfl | rfl | rfl) <;> simp [OpensNumber] at opens
    · rintro rfl
      simp [OpensNumber] at opens
  cases value with
  | null => exact ⟨'n', _, by rw [dumps], rfl, by decide⟩
  | bool value =>
      cases value with
      | true => exact ⟨'t', _, by rw [dumps], rfl, by decide⟩
      | false => exact ⟨'f', _, by rw [dumps], rfl, by decide⟩
  | int value =>
      rw [dumps]
      exact number (isInteger_intText value).opens
  | float value =>
      rw [dumps]
      exact number (spelling.isFloat value).opens
  | string text => exact ⟨'"', _, by rw [dumps, stringText], rfl, by decide⟩
  | array elements => exact ⟨'[', _, by rw [dumps], rfl, by decide⟩
  | object members => exact ⟨'{', _, by rw [dumps], rfl, by decide⟩

theorem skip_dumps (value : Value F) (rest : List Char) :
    skip (dumps spelling.write value ++ rest) = dumps spelling.write value ++ rest := by
  obtain ⟨first, more, same, solid, -⟩ := dumps_opens spelling value
  rw [same, List.cons_append, skip_cons solid]

theorem skip_space (text : List Char) : skip (' ' :: text) = skip text := rfl

theorem dumpsElements_opens (first : Value F) (others : List (Value F)) :
    ∃ head more, dumpsElements spelling.write (first :: others) = head :: more ∧
      isSpace head = false ∧ head ≠ ']' := by
  obtain ⟨head, more, same, opens⟩ := dumps_opens spelling first
  cases others with
  | nil => exact ⟨head, _, by rw [dumpsElements, same, List.cons_append], opens⟩
  | cons second rest => exact ⟨head, _, by rw [dumpsElements, same, List.cons_append], opens⟩

theorem skip_dumpsElements (first : Value F) (others : List (Value F)) (rest : List Char) :
    skip (dumpsElements spelling.write (first :: others) ++ rest) =
      dumpsElements spelling.write (first :: others) ++ rest := by
  obtain ⟨head, more, same, solid, -⟩ := dumpsElements_opens spelling first others
  rw [same, List.cons_append, skip_cons solid]

theorem dumpsMembers_opens (first : List Char × Value F)
    (others : List (List Char × Value F)) :
    ∃ more, dumpsMembers spelling.write (first :: others) = '"' :: more := by
  cases others with
  | nil => exact ⟨_, by rw [dumpsMembers, stringText, List.cons_append]⟩
  | cons second rest => exact ⟨_, by rw [dumpsMembers, stringText, List.cons_append]⟩

mutual

/-- A value that is written is read back, up to where it ends. -/
theorem scanOnce_dumps : ∀ (fuel : ℕ) (value : Value F) {rest : List Char}, Stops rest →
    (dumps spelling.write value).length < fuel →
      scanOnce spelling.read fuel (dumps spelling.write value ++ rest) = some (value, rest)
  | 0, _, _, _, enough => absurd enough (Nat.not_lt_zero _)
  | fuel + 1, .null, rest, _, _ => by simp [dumps, scanOnce]
  | fuel + 1, .bool true, rest, _, _ => by simp [dumps, scanOnce]
  | fuel + 1, .bool false, rest, _, _ => by simp [dumps, scanOnce]
  | fuel + 1, .int value, rest, stops, _ => by
      obtain ⟨first, more, shape, opens⟩ := (isInteger_intText value).opens
      have scanned := scanNumberOrWord_int spelling value stops
      rw [shape, List.cons_append] at scanned
      rw [dumps, shape, List.cons_append, scanOnce_number spelling.read opens, scanned]
  | fuel + 1, .float value, rest, stops, _ => by
      obtain ⟨first, more, shape, opens⟩ := (spelling.isFloat value).opens
      have scanned := scanNumberOrWord_float spelling value stops
      rw [shape, List.cons_append] at scanned
      rw [dumps, shape, List.cons_append, scanOnce_number spelling.read opens, scanned]
  | fuel + 1, .string text, rest, _, enough => by
      simp only [dumps, stringText, List.length_cons, List.length_append] at enough
      have scanned := scanString_text text rest fuel (by omega)
      simp only [dumps, stringText, List.cons_append, List.append_assoc, List.nil_append, scanOnce,
        scanned, Option.map_some]
  | fuel + 1, .array [], rest, _, _ => by
      simp [dumps, dumpsElements, scanOnce, skip_cons (show isSpace ']' = false by rfl)]
  | fuel + 1, .array (first :: others), rest, _, enough => by
      simp only [dumps, List.length_cons] at enough
      have scanned := scanElements_dumps fuel first others rest (by omega)
      obtain ⟨head, more, shape, solid, notEnd⟩ := dumpsElements_opens spelling first others
      rw [shape, List.cons_append] at scanned
      rw [dumps, shape, List.cons_append, List.cons_append, scanOnce, skip_cons solid]
      split
      · rename_i same
        exact absurd (List.cons.inj same).1 notEnd
      · rw [scanned]
        rfl
  | fuel + 1, .object [], rest, _, _ => by
      simp [dumps, dumpsMembers, scanOnce, skip_cons (show isSpace '}' = false by rfl)]
  | fuel + 1, .object (first :: others), rest, _, enough => by
      simp only [dumps, List.length_cons] at enough
      have scanned := scanMembers_dumps fuel first others rest (by omega)
      obtain ⟨more, shape⟩ := dumpsMembers_opens spelling first others
      rw [shape, List.tail_cons] at scanned
      rw [dumps, shape, List.cons_append, List.cons_append, scanOnce,
        skip_cons (show isSpace '"' = false by rfl)]
      simp only [scanned, Option.map_some]

theorem scanElements_dumps : ∀ (fuel : ℕ) (first : Value F) (others : List (Value F))
    (rest : List Char), (dumpsElements spelling.write (first :: others)).length < fuel →
      scanElements spelling.read fuel (dumpsElements spelling.write (first :: others) ++ rest) =
        some (first :: others, rest)
  | 0, _, _, _, enough => absurd enough (Nat.not_lt_zero _)
  | fuel + 1, first, [], rest, enough => by
      simp only [dumpsElements, List.length_append, List.length_singleton] at enough
      have scanned := scanOnce_dumps fuel first (stops_cons (Or.inr (Or.inl rfl)) rest) (by omega)
      rw [dumpsElements, List.append_assoc, List.singleton_append, scanElements, scanned]
      simp [skip_cons (show isSpace ']' = false by rfl)]
  | fuel + 1, first, second :: others, rest, enough => by
      simp only [dumpsElements.eq_3, List.length_append, List.length_cons] at enough
      have scanned := scanOnce_dumps fuel first
        (stops_cons (Or.inl rfl) (' ' :: dumpsElements spelling.write (second :: others) ++ rest))
        (by omega)
      have later := scanElements_dumps fuel second others rest (by omega)
      rw [dumpsElements.eq_3, List.append_assoc, List.cons_append, scanElements, scanned]
      simp only [Option.bind_some, skip_cons (show isSpace ',' = false by rfl), List.cons_append,
        skip_space, skip_dumpsElements, later, Option.map_some]

theorem scanMembers_dumps : ∀ (fuel : ℕ) (first : List Char × Value F)
    (others : List (List Char × Value F)) (rest : List Char),
    (dumpsMembers spelling.write (first :: others)).length < fuel →
      scanMembers spelling.read fuel
        ((dumpsMembers spelling.write (first :: others)).tail ++ rest) =
        some (first :: others, rest)
  | 0, _, _, _, enough => absurd enough (Nat.not_lt_zero _)
  | fuel + 1, first, [], rest, enough => by
      simp only [dumpsMembers, stringText, List.length_append, List.length_cons] at enough
      have key := scanString_text first.1
        (':' :: ' ' :: (dumps spelling.write first.2 ++ '}' :: rest)) fuel (by omega)
      have scanned := scanOnce_dumps fuel first.2 (stops_cons (Or.inr (Or.inr rfl)) rest)
        (by omega)
      simp only [dumpsMembers, stringText, List.cons_append, List.append_assoc, List.nil_append,
        List.tail_cons, scanMembers, key, Option.bind_some,
        skip_cons (show isSpace ':' = false by rfl), skip_space, skip_dumps, scanned,
        skip_cons (show isSpace '}' = false by rfl)]
  | fuel + 1, first, second :: others, rest, enough => by
      simp only [dumpsMembers.eq_3, stringText, List.length_append, List.length_cons] at enough
      have key := scanString_text first.1
        (':' :: ' ' :: (dumps spelling.write first.2 ++ ',' :: ' ' ::
          (dumpsMembers spelling.write (second :: others) ++ rest))) fuel (by omega)
      have scanned := scanOnce_dumps fuel first.2
        (stops_cons (Or.inl rfl) (' ' :: (dumpsMembers spelling.write (second :: others) ++ rest)))
        (by omega)
      have later := scanMembers_dumps fuel second others rest (by omega)
      obtain ⟨more, shape⟩ := dumpsMembers_opens spelling second others
      rw [shape] at key scanned later
      simp only [dumpsMembers.eq_3, shape, stringText, List.cons_append, List.append_assoc,
        List.nil_append, List.tail_cons, scanMembers] at key scanned later ⊢
      simp only [key, Option.bind_some, skip_cons (show isSpace ':' = false by rfl), skip_space,
        skip_dumps, scanned, skip_cons (show isSpace ',' = false by rfl),
        skip_cons (show isSpace '"' = false by rfl), later, Option.map_some]

end

/-- `json.loads(json.dumps(value))` is `value`. -/
theorem loads_dumps (value : Value F) :
    loads spelling.read (dumps spelling.write value) = some value := by
  have nothing : Stops [] := nofun
  have scanned := scanOnce_dumps spelling _ value nothing (Nat.lt_succ_self _)
  have front := skip_dumps spelling value []
  rw [List.append_nil] at scanned front
  rw [loads, front, scanned]
  rfl

end Values

end Msp.Library.Json
