import Mathlib.Data.List.DropRight
import Mathlib.Data.List.Basic
import Mathlib.Algebra.Field.Rat
import Mathlib.Algebra.GroupWithZero.Basic
import Msp.Library.FloatValue

/-!
# Python's text functions on ASCII text

`bytes.decode("ascii")`, `str.strip`, `str.split`, `float`, `int` and `repr`, as
the language reference describes them.  Text is a list of characters.  `float`
returns the exact value of the literal.
-/

set_option autoImplicit false

namespace Msp.Library.PythonText

/-- `decode("ascii", errors="strict")`; on failure, the position of the first
byte outside ASCII. -/
def decodeAscii (bytes : List UInt8) : Except Nat (List Char) :=
  if bytes.all (fun byte => decide (byte.toNat < 128)) then
    .ok (bytes.map fun byte => Char.ofNat byte.toNat)
  else .error (bytes.takeWhile fun byte => decide (byte.toNat < 128)).length

/-- `str.isspace` of one ASCII character. -/
def isSpace (character : Char) : Bool :=
  let code := character.toNat
  decide (9 ≤ code ∧ code ≤ 13) || decide (28 ≤ code ∧ code ≤ 32)

def strip (text : List Char) : List Char := (text.dropWhile isSpace).rdropWhile isSpace

/-- What reading in text mode makes of the ends of lines. -/
def universalNewlines : List Char → List Char
  | [] => []
  | character :: rest =>
      if character = '\r' then
        if rest.head? = some '\n' then universalNewlines rest else '\n' :: universalNewlines rest
      else character :: universalNewlines rest

/-- `str.split()` without a separator: the maximal runs of other characters. -/
def split (text : List Char) : List (List Char) :=
  (text.splitOnP isSpace).filter fun word => decide (word ≠ [])

def sign : List Char → Bool × List Char
  | '-' :: rest => (true, rest)
  | '+' :: rest => (false, rest)
  | text => (false, text)

/-- Underscores stand between digits only; they are dropped. -/
def dropUnderscores (previous : Char) : List Char → Option (List Char)
  | [] => if previous = '_' then none else some []
  | character :: rest =>
      if character = '_' then
        if previous.isDigit then dropUnderscores '_' rest else none
      else if previous = '_' ∧ character.isDigit = false then none
      else (dropUnderscores character rest).map (character :: ·)

def maxStrDigits : Nat := 4300

def int (text : List Char) : Option Int :=
  let (negative, body) := sign (strip text)
  match dropUnderscores 'x' body with
  | none => none
  | some digits =>
      if digits = [] ∨ digits.all Char.isDigit = false ∨ maxStrDigits < digits.length then none
      else
        let magnitude : Int := Nat.ofDigitChars 10 digits 0
        some (if negative then -magnitude else magnitude)

def exponent : List Char → Option Int
  | [] => some 0
  | marker :: rest =>
      if marker = 'e' ∨ marker = 'E' then
        let (negative, digits) := sign rest
        if digits = [] ∨ digits.all Char.isDigit = false then none
        else
          let magnitude : Int := Nat.ofDigitChars 10 digits 0
          some (if negative then -magnitude else magnitude)
      else none

/-- Digits, at most one point, at least one digit, and an optional exponent. -/
def decimal (body : List Char) : Option ℚ :=
  let whole := body.takeWhile Char.isDigit
  let afterWhole := body.dropWhile Char.isDigit
  let (fraction, tail) :=
    match afterWhole with
    | '.' :: rest => (rest.takeWhile Char.isDigit, rest.dropWhile Char.isDigit)
    | rest => ([], rest)
  if whole ++ fraction = [] then none
  else
    (exponent tail).map fun power =>
      (Nat.ofDigitChars 10 (whole ++ fraction) 0 : ℚ) * 10 ^ (power - (fraction.length : Int))

def specialValue (negative : Bool) (body : List Char) : Option FloatValue :=
  let lowered := body.map Char.toLower
  if lowered = ['i', 'n', 'f'] ∨ lowered = ['i', 'n', 'f', 'i', 'n', 'i', 't', 'y'] then
    some (if negative then .negInf else .posInf)
  else if lowered = ['n', 'a', 'n'] then some .nan
  else none

def float (text : List Char) : Option FloatValue :=
  match dropUnderscores 'x' (strip text) with
  | none => none
  | some literal =>
      let (negative, body) := sign literal
      match decimal body with
      | some magnitude => some (.finite (if negative then -magnitude else magnitude))
      | none => specialValue negative body

def singleQuote : Char := Char.ofNat 39

def doubleQuote : Char := Char.ofNat 34

def backslash : Char := Char.ofNat 92

def hexDigit (digit : Nat) : Char := Nat.digitChar digit

def escape (quote character : Char) : List Char :=
  if character = quote ∨ character = backslash then [backslash, character]
  else if character = '\t' then [backslash, 't']
  else if character = '\n' then [backslash, 'n']
  else if character = '\r' then [backslash, 'r']
  else if character.toNat < 32 ∨ character.toNat = 127 then
    [backslash, 'x', hexDigit (character.toNat / 16), hexDigit (character.toNat % 16)]
  else [character]

def repr (text : List Char) : List Char :=
  let quote :=
    if singleQuote ∈ text ∧ doubleQuote ∉ text then doubleQuote else singleQuote
  quote :: text.flatMap (escape quote) ++ [quote]

/-! ## Decoding -/

theorem toNat_ofNat_byte (byte : UInt8) : (Char.ofNat byte.toNat).toNat = byte.toNat := by
  have bound := byte.toNat_lt
  have valid : byte.toNat.isValidChar := Or.inl (by omega)
  rw [Char.ofNat, dif_pos valid]
  rfl

theorem decodeAscii_ascii {bytes : List UInt8} (ascii : ∀ byte ∈ bytes, byte.toNat < 128) :
    decodeAscii bytes = .ok (bytes.map fun byte => Char.ofNat byte.toNat) := by
  rw [decodeAscii, if_pos]
  rw [List.all_eq_true]
  exact fun byte member => decide_eq_true (ascii byte member)

theorem decodeAscii_notAscii {bytes : List UInt8} (other : ¬ ∀ byte ∈ bytes, byte.toNat < 128) :
    ∃ position, decodeAscii bytes = .error position := by
  rw [decodeAscii, if_neg]
  · exact ⟨_, rfl⟩
  · rw [List.all_eq_true]
    exact fun every => other fun byte member => of_decide_eq_true (every byte member)

theorem split_append_space (before after : List Char) {separator : Char}
    (space : isSpace separator = true) :
    split (before ++ separator :: after) = split before ++ split after := by
  unfold split
  rw [List.splitOnP_append_cons _ _ space, List.filter_append]

@[simp] theorem split_nil : split [] = [] := by decide

theorem split_cons_space {separator : Char} (space : isSpace separator = true)
    (text : List Char) : split (separator :: text) = split text := by
  have apart := split_append_space [] text space
  rwa [split_nil, List.nil_append, List.nil_append] at apart

theorem split_word {word : List Char} (noSpace : ∀ character ∈ word, isSpace character = false)
    (nonempty : word ≠ []) : split word = [word] := by
  unfold split
  rw [List.splitOnP_eq_singleton noSpace]
  simp [nonempty]

theorem length_split_le_one {word : List Char}
    (noSpace : ∀ character ∈ word, isSpace character = false) : (split word).length ≤ 1 := by
  unfold split
  rw [List.splitOnP_eq_singleton noSpace]
  exact List.length_filter_le _ _

theorem length_split_take_le_one {word : List Char}
    (noSpace : ∀ character ∈ word, isSpace character = false) (count : Nat) :
    (split (word.take count)).length ≤ 1 :=
  length_split_le_one fun character member => noSpace character (List.mem_of_mem_take member)

/-- A text cut anywhere: the words in front of a space and those behind it. -/
theorem split_take_append_space (before after : List Char) {separator : Char}
    (space : isSpace separator = true) (count : Nat) :
    split ((before ++ separator :: after).take count) =
      split (before.take count) ++ split (after.take (count - before.length - 1)) := by
  rw [List.take_append]
  cases reached : count - before.length with
  | zero => simp
  | succ left => rw [List.take_succ_cons, split_append_space _ _ space, Nat.add_sub_cancel]

theorem split_dropWhile (text : List Char) : split (text.dropWhile isSpace) = split text := by
  induction text with
  | nil => rfl
  | cons character rest ih =>
      by_cases space : isSpace character = true
      · rw [List.dropWhile_cons_of_pos space, ih, split_cons_space space]
      · rw [List.dropWhile_cons_of_neg space]

theorem split_rdropWhile (text : List Char) : split (text.rdropWhile isSpace) = split text := by
  induction text using List.reverseRecOn with
  | nil => rfl
  | append_singleton rest character ih =>
      by_cases space : isSpace character = true
      · rw [List.rdropWhile_concat_pos _ _ _ space, ih,
          split_append_space rest [] space, split_nil, List.append_nil]
      · rw [List.rdropWhile_concat_neg _ _ _ space]

theorem split_strip (text : List Char) : split (strip text) = split text := by
  rw [strip, split_rdropWhile, split_dropWhile]

theorem strip_word {word : List Char} (noSpace : ∀ character ∈ word, isSpace character = false) :
    strip word = word := by
  have kept : word.dropWhile isSpace = word := by
    cases word with
    | nil => rfl
    | cons character rest =>
        exact List.dropWhile_cons_of_neg (by simp [noSpace character List.mem_cons_self])
  rw [strip, kept, List.rdropWhile_eq_self_iff]
  intro nonempty space
  have := noSpace _ (List.getLast_mem nonempty)
  simp [this] at space

theorem strip_surrounded {lead body trail : List Char}
    (before : ∀ character ∈ lead, isSpace character = true)
    (first : ∀ character ∈ body.head?, isSpace character = false)
    (last : ∀ character ∈ body.getLast?, isSpace character = false)
    (behind : ∀ character ∈ trail, isSpace character = true) :
    strip (lead ++ body ++ trail) = body := by
  rw [strip, List.append_assoc, List.dropWhile_append_of_pos before]
  cases body with
  | nil =>
      rw [List.nil_append, List.dropWhile_eq_nil_iff.mpr behind]
      rfl
  | cons character rest =>
      have notSpace : ¬ isSpace character = true := by simp [first character rfl]
      rw [List.cons_append, List.dropWhile_cons_of_neg notSpace, ← List.cons_append]
      induction trail using List.reverseRecOn with
      | nil =>
          rw [List.append_nil, List.rdropWhile_eq_self_iff]
          intro nonempty space
          have ends := last _ (List.getLast?_eq_getLast_of_ne_nil nonempty)
          rw [ends] at space
          cases space
      | append_singleton shorter space ih =>
          rw [← List.append_assoc, List.rdropWhile_concat_pos _ _ _
            (behind space (List.mem_append_right _ (List.mem_singleton_self _)))]
          exact ih fun other member => behind other (List.mem_append_left _ member)

theorem exists_strip (text : List Char) : ∃ lead trail, text = lead ++ strip text ++ trail ∧
    ∀ character ∈ lead, isSpace character = true := by
  refine ⟨text.takeWhile isSpace, (text.dropWhile isSpace).rtakeWhile isSpace, ?_,
    fun character member => List.mem_takeWhile_imp member⟩
  rw [strip, List.append_assoc, List.rdropWhile_append_rtakeWhile,
    List.takeWhile_append_dropWhile]

theorem universalNewlines_eq_self : ∀ text : List Char, '\r' ∉ text →
    universalNewlines text = text := by
  intro text
  induction text with
  | nil => intro _; rfl
  | cons character rest ih =>
      intro absent
      have differs : character ≠ '\r' := fun same => absent (same ▸ List.mem_cons_self)
      rw [universalNewlines, if_neg differs, ih fun member => absent (List.mem_cons_of_mem _ member)]

theorem head_of_universalNewlines {text : List Char} {character : Char}
    (inLine : isSpace character = false)
    (head : (universalNewlines text).head? = some character) : text.head? = some character := by
  cases text with
  | nil => exact head
  | cons first rest =>
      rw [universalNewlines] at head
      split at head
      · split at head
        · rename_i isReturn newline
          cases rest with
          | nil => cases newline
          | cons second more =>
              cases newline
              rw [universalNewlines, if_neg (by decide)] at head
              cases head
              cases inLine
        · cases head
          cases inLine
      · exact head

theorem noSpace_of_mem_split (text : List Char) :
    ∀ word ∈ split text, ∀ character ∈ word, isSpace character = false := by
  have pieces : ∀ word ∈ text.splitOnP isSpace, ∀ character ∈ word,
      isSpace character = false := by
    induction text with
    | nil => simp
    | cons first rest ih =>
        rw [List.splitOnP_cons_eq_if_modifyHead]
        intro word member character inWord
        split at member
        · rcases List.mem_cons.mp member with empty | later
          · rw [empty] at inWord
            cases inWord
          · exact ih word later character inWord
        · rename_i notSpace
          cases tail : rest.splitOnP isSpace with
          | nil => exact absurd tail (List.splitOnP_ne_nil _ _)
          | cons head others =>
              rw [tail] at member ih
              rcases List.mem_cons.mp member with extended | later
              · rw [extended] at inWord
                rcases List.mem_cons.mp inWord with same | inHead
                · rw [same]
                  simpa using notSpace
                · exact ih head List.mem_cons_self character inHead
              · exact ih word (List.mem_cons_of_mem _ later) character inWord
  exact fun word member => pieces word (List.mem_of_mem_filter member)

theorem dropUnderscores_of_not_mem : ∀ (text : List Char) (previous : Char),
    previous ≠ '_' → '_' ∉ text → dropUnderscores previous text = some text := by
  intro text
  induction text with
  | nil => intro previous clean _; simp [dropUnderscores, clean]
  | cons character rest ih =>
      intro previous clean absent
      have differ : character ≠ '_' := fun same => absent (same ▸ List.mem_cons_self)
      have restAbsent : '_' ∉ rest := fun member => absent (List.mem_cons_of_mem _ member)
      simp [dropUnderscores, clean, differ, ih character differ restAbsent]

theorem head_of_dropUnderscores {previous : Char} (notDigit : previous.isDigit = false)
    {text literal : List Char} (dropped : dropUnderscores previous text = some literal) :
    text.head? = literal.head? := by
  cases text with
  | nil =>
      rw [dropUnderscores] at dropped
      split at dropped
      · cases dropped
      · cases dropped
        rfl
  | cons character rest =>
      rw [dropUnderscores, notDigit] at dropped
      split at dropped
      · cases dropped
      · split at dropped
        · cases dropped
        · obtain ⟨others, _, rfl⟩ := Option.map_eq_some_iff.mp dropped
          rfl

theorem isSpace_of_isDigit {character : Char} (digit : character.isDigit = true) :
    isSpace character = false := by
  simp only [Char.isDigit, Bool.and_eq_true, decide_eq_true_eq] at digit
  have lower : 48 ≤ character.toNat := digit.1
  simp [isSpace]
  omega

theorem underscore_not_digit : ('_').isDigit = false := by decide

theorem underscore_not_mem {digits : List Char}
    (allDigits : ∀ character ∈ digits, character.isDigit = true) : '_' ∉ digits := by
  intro member
  have digit := allDigits _ member
  rw [underscore_not_digit] at digit
  cases digit

theorem sign_digits {digits : List Char} (nonempty : digits ≠ [])
    (allDigits : ∀ character ∈ digits, character.isDigit = true) (rest : List Char) :
    sign (digits ++ rest) = (false, digits ++ rest) := by
  cases digits with
  | nil => exact absurd rfl nonempty
  | cons character more =>
      have digit := allDigits character List.mem_cons_self
      have notMinus : character ≠ '-' := by rintro rfl; cases digit
      have notPlus : character ≠ '+' := by rintro rfl; cases digit
      unfold sign
      split
      · rename_i same
        exact absurd (List.cons.inj same).1 notMinus
      · rename_i same
        exact absurd (List.cons.inj same).1 notPlus
      · rfl

theorem takeWhile_digits {digits : List Char} (rest : List Char)
    (allDigits : ∀ character ∈ digits, character.isDigit = true)
    (stops : ∀ character ∈ rest.head?, character.isDigit = false) :
    (digits ++ rest).takeWhile Char.isDigit = digits ∧
      (digits ++ rest).dropWhile Char.isDigit = rest := by
  induction digits with
  | nil =>
      cases rest with
      | nil => exact ⟨rfl, rfl⟩
      | cons character more => simp [stops character rfl]
  | cons character more ih =>
      have digit := allDigits character List.mem_cons_self
      have tail := ih fun other member => allDigits other (List.mem_cons_of_mem _ member)
      simpa [digit] using tail

theorem int_digits {digits : List Char} (nonempty : digits ≠ [])
    (allDigits : ∀ character ∈ digits, character.isDigit = true)
    (short : digits.length ≤ maxStrDigits) :
    int digits = some (Nat.ofDigitChars 10 digits 0 : Int) := by
  have noSpace : ∀ character ∈ digits, isSpace character = false :=
    fun character member => isSpace_of_isDigit (allDigits character member)
  have noSign := sign_digits nonempty allDigits []
  rw [List.append_nil] at noSign
  unfold int
  rw [strip_word noSpace, noSign]
  simp only [dropUnderscores_of_not_mem digits 'x' (by decide) (underscore_not_mem allDigits)]
  rw [if_neg]
  · rfl
  · rintro (empty | notAll | long)
    · exact nonempty empty
    · simp [List.all_eq_true.mpr allDigits] at notAll
    · omega

theorem decimal_point {whole fraction : List Char} (nonempty : whole ≠ [])
    (wholeDigits : ∀ character ∈ whole, character.isDigit = true)
    (fractionDigits : ∀ character ∈ fraction, character.isDigit = true) :
    decimal (whole ++ '.' :: fraction) =
      some ((Nat.ofDigitChars 10 (whole ++ fraction) 0 : ℚ) / 10 ^ fraction.length) := by
  have first := takeWhile_digits ('.' :: fraction) wholeDigits
    (by intro character head; cases head; decide)
  have second := takeWhile_digits [] fractionDigits (by intro _ head; cases head)
  rw [List.append_nil] at second
  unfold decimal
  simp only [first.1, first.2, second.1, second.2, exponent, Option.map_some]
  rw [if_neg (by simp [nonempty])]
  simp [div_eq_mul_inv, zpow_neg]

/-! ## Special values -/

theorem eq_of_dropUnderscores : ∀ (text literal : List Char) (previous : Char),
    previous.isDigit = false → dropUnderscores previous text = some literal →
      (∀ character ∈ literal, character.isDigit = false) → literal = text := by
  intro text
  induction text with
  | nil =>
      intro literal previous _ dropped _
      simp only [dropUnderscores] at dropped
      split at dropped
      · cases dropped
      · cases dropped
        rfl
  | cons character rest ih =>
      intro literal previous notDigit dropped noDigits
      simp only [dropUnderscores, notDigit] at dropped
      split at dropped
      · cases dropped
      · split at dropped
        · cases dropped
        · obtain ⟨shorter, restDropped, rfl⟩ := Option.map_eq_some_iff.mp dropped
          have ours := noDigits character List.mem_cons_self
          rw [ih shorter character ours restDropped
            fun other member => noDigits other (List.mem_cons_of_mem _ member)]

theorem decimal_noDigits {body : List Char}
    (noDigits : ∀ character ∈ body, character.isDigit = false) : decimal body = none := by
  have stops : ∀ text : List Char, (∀ character ∈ text, character.isDigit = false) →
      text.takeWhile Char.isDigit = [] ∧ text.dropWhile Char.isDigit = text := by
    intro text clean
    cases text with
    | nil => exact ⟨rfl, rfl⟩
    | cons first rest =>
        have notDigit := clean first List.mem_cons_self
        constructor
        · rw [List.takeWhile_cons_of_neg (by simp [notDigit])]
        · rw [List.dropWhile_cons_of_neg (by simp [notDigit])]
  unfold decimal
  rw [(stops body noDigits).1, (stops body noDigits).2]
  cases body with
  | nil => rfl
  | cons first rest =>
      have inRest := (stops rest fun other member =>
        noDigits other (List.mem_cons_of_mem _ member)).1
      by_cases point : first = '.'
      · subst point
        simp [inRest]
      · dsimp only
        split
        · rename_i isPoint
          exact absurd (List.cons.inj isPoint).1 point
        · simp

theorem toLower_of_isDigit {character : Char} (digit : character.isDigit = true) :
    character.toLower = character := by
  simp only [Char.isDigit, Bool.and_eq_true, decide_eq_true_eq] at digit
  have small : character.val ≤ 57 := digit.2
  unfold Char.toLower
  rw [dif_neg]
  rintro ⟨large, _⟩
  exact absurd (UInt32.le_trans large small) (by decide)

theorem plain_of_special {negative : Bool} {body : List Char} {value : FloatValue}
    (special : specialValue negative body = some value) :
    ∀ character ∈ body, character.isDigit = false ∧ character ≠ '_' := by
  have letters : (body.map Char.toLower).all fun character =>
      !character.isDigit && decide (character ≠ '_') := by
    unfold specialValue at special
    dsimp only at special
    split at special
    · rename_i infinite
      rcases infinite with short | long
      · rw [short]
        decide
      · rw [long]
        decide
    · split at special
      · rename_i notANumber
        rw [notANumber]
        decide
      · cases special
  intro character member
  have lowered := List.all_eq_true.mp letters _ (List.mem_map_of_mem member)
  simp only [Bool.and_eq_true, Bool.not_eq_true', decide_eq_true_eq] at lowered
  constructor
  · cases digit : character.isDigit with
    | false => rfl
    | true =>
        rw [toLower_of_isDigit digit, digit] at lowered
        exact absurd lowered.1 (by decide)
  · rintro rfl
    exact lowered.2 (by decide)

theorem sign_eq (text : List Char) :
    text = (sign text).2 ∨ ∃ mark, (mark = '-' ∨ mark = '+') ∧ text = mark :: (sign text).2 := by
  unfold sign
  split
  · exact Or.inr ⟨'-', Or.inl rfl, rfl⟩
  · exact Or.inr ⟨'+', Or.inr rfl, rfl⟩
  · exact Or.inl rfl

theorem forall_mem_of_sign (holds : Char → Prop) {text : List Char}
    (body : ∀ character ∈ (sign text).2, holds character) (minus : holds '-') (plus : holds '+') :
    ∀ character ∈ text, holds character := by
  rcases sign_eq text with same | ⟨mark, isSign, same⟩
  · rwa [← same] at body
  · intro character member
    rw [same] at member
    rcases List.mem_cons.mp member with first | later
    · rcases isSign with rfl | rfl
      · exact first ▸ minus
      · exact first ▸ plus
    · exact body character later

/-- `float` returns a special value for its name, with or without a sign, and
for no other word. -/
theorem float_eq_special_iff {word : List Char}
    (noSpace : ∀ character ∈ word, isSpace character = false) {value : FloatValue}
    (special : ∀ exact, value ≠ .finite exact) :
    float word = some value ↔ specialValue (sign word).1 (sign word).2 = some value := by
  unfold float
  rw [strip_word noSpace]
  constructor
  · intro read
    cases dropped : dropUnderscores 'x' word with
    | none =>
        rw [dropped] at read
        cases read
    | some literal =>
        rw [dropped] at read
        dsimp only at read
        cases number : decimal (sign literal).2 with
        | some magnitude =>
            rw [number] at read
            exact absurd (Option.some.inj read).symm (special _)
        | none =>
            rw [number] at read
            have plain := forall_mem_of_sign (fun character => character.isDigit = false)
              (fun character member => (plain_of_special read character member).1)
              (by decide) (by decide)
            rw [← eq_of_dropUnderscores word literal 'x' (by decide) dropped plain]
            exact read
  · intro read
    have plain := plain_of_special read
    have absent : ∀ character ∈ word, character ≠ '_' :=
      forall_mem_of_sign (fun character => character ≠ '_')
        (fun character member => (plain character member).2) (by decide) (by decide)
    have kept := dropUnderscores_of_not_mem word 'x' (by decide)
      fun member => absent _ member rfl
    rw [kept]
    dsimp only
    rw [decimal_noDigits fun character member => (plain character member).1]
    exact read

end Msp.Library.PythonText
