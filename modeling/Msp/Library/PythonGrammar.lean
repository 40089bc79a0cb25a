import Msp.Library.NumberText

/-!
# Words and number literals of Python, as a grammar

What `str.split`, `float` and `int` accept, said without reading: which words a
text consists of, and which words are literals.  The shape of a float literal is
stated for any notion of a digit part, so that it serves both before and after
the underscores are dropped.
-/

set_option autoImplicit false

namespace Msp.Library.PythonGrammar

open PythonText NumberText

def Blank (text : List Char) : Prop := ∀ character ∈ text, isSpace character = true

structure IsWord (word : List Char) : Prop where
  nonempty : word ≠ []
  noSpace : ∀ character ∈ word, isSpace character = false

/-- The words of a text, with white space around them and between any two. -/
inductive WordsOf : List Char → List (List Char) → Prop
  | none (text : List Char) (blank : Blank text) : WordsOf text []
  | last (lead word trail : List Char) (before : Blank lead) (isWord : IsWord word)
      (behind : Blank trail) : WordsOf (lead ++ word ++ trail) [word]
  | cons (lead word : List Char) (separator : Char) (rest : List Char)
      (others : List (List Char)) (before : Blank lead) (isWord : IsWord word)
      (space : isSpace separator = true) (more : WordsOf rest others) :
      WordsOf (lead ++ word ++ separator :: rest) (word :: others)

theorem split_blank : ∀ text : List Char, Blank text → split text = [] := by
  intro text
  induction text with
  | nil => intro _; exact split_nil
  | cons character rest ih =>
      intro blank
      rw [split_cons_space (blank character List.mem_cons_self)]
      exact ih fun other member => blank other (List.mem_cons_of_mem _ member)

theorem split_lead (rest : List Char) : ∀ lead : List Char, Blank lead →
    split (lead ++ rest) = split rest := by
  intro lead
  induction lead with
  | nil => intro _; rfl
  | cons character others ih =>
      intro blank
      rw [List.cons_append, split_cons_space (blank character List.mem_cons_self)]
      exact ih fun other member => blank other (List.mem_cons_of_mem _ member)

theorem split_of_wordsOf {text : List Char} {words : List (List Char)}
    (shape : WordsOf text words) : split text = words := by
  induction shape with
  | none text blank => exact split_blank text blank
  | last lead word trail before isWord behind =>
      rw [List.append_assoc, split_lead _ lead before]
      cases trail with
      | nil => rw [List.append_nil, split_word isWord.noSpace isWord.nonempty]
      | cons space more =>
          rw [split_append_space _ _ (behind space List.mem_cons_self),
            split_word isWord.noSpace isWord.nonempty,
            split_blank _ fun other member => behind other (List.mem_cons_of_mem _ member)]
          rfl
  | cons lead word separator rest others before isWord space more ih =>
      rw [List.append_assoc, split_lead _ lead before, split_append_space _ _ space,
        split_word isWord.noSpace isWord.nonempty, ih]
      rfl

/-- By induction on the length: cut off the white space in front and the first word. -/
theorem exists_wordsOf (text : List Char) : ∃ words, WordsOf text words := by
  induction measured : text.length using Nat.strong_induction_on generalizing text with
  | _ size ih =>
      have whole := (List.takeWhile_append_dropWhile (p := isSpace) (l := text)).symm
      have before : Blank (text.takeWhile isSpace) :=
        fun character member => List.mem_takeWhile_imp member
      cases body : text.dropWhile isSpace with
      | nil =>
          rw [body, List.append_nil] at whole
          rw [whole]
          exact ⟨[], .none _ before⟩
      | cons first more =>
          have head := List.head?_dropWhile_not isSpace text
          rw [body] at whole head
          have parts := (List.takeWhile_append_dropWhile
            (p := fun character => !isSpace character) (l := first :: more)).symm
          have isWord : IsWord ((first :: more).takeWhile fun character => !isSpace character) := by
            constructor
            · simpa using head
            · intro character member
              simpa using List.mem_takeWhile_imp member
          rw [parts, ← List.append_assoc] at whole
          cases tail : (first :: more).dropWhile fun character => !isSpace character with
          | nil =>
              rw [tail] at whole
              rw [whole]
              exact ⟨_, .last _ _ [] before isWord (by simp [Blank])⟩
          | cons separator rest =>
              have space := List.head?_dropWhile_not
                (fun character => !isSpace character) (first :: more)
              rw [tail] at whole space
              have shorter : rest.length < size := by
                have lengths := congrArg List.length whole
                simp only [List.length_append, List.length_cons] at lengths
                omega
              obtain ⟨others, shape⟩ := ih rest.length shorter rest rfl
              rw [whole]
              exact ⟨_, .cons _ _ separator rest others before isWord (by simpa using space) shape⟩

theorem split_eq_iff {text : List Char} {words : List (List Char)} :
    split text = words ↔ WordsOf text words := by
  constructor
  · intro same
    obtain ⟨others, shape⟩ := exists_wordsOf text
    rw [← same, split_of_wordsOf shape]
    exact shape
  · exact split_of_wordsOf

/-- `digit (["_"] digit)*` -/
inductive DigitPart : List Char → Prop
  | last (digit : Char) (isDigit : digit.isDigit = true) : DigitPart [digit]
  | next (digit : Char) (rest : List Char) (isDigit : digit.isDigit = true)
      (more : DigitPart rest) : DigitPart (digit :: rest)
  | grouped (digit : Char) (rest : List Char) (isDigit : digit.isDigit = true)
      (more : DigitPart rest) : DigitPart (digit :: '_' :: rest)

def Digits (text : List Char) : Prop :=
  text ≠ [] ∧ ∀ character ∈ text, character.isDigit = true

theorem digits_filter {text : List Char} (part : DigitPart text) :
    Digits (text.filter Char.isDigit) := by
  constructor
  · cases part with
    | last digit isDigit => simp [isDigit]
    | next digit rest isDigit more => simp [isDigit]
    | grouped digit rest isDigit more => simp [isDigit]
  · intro character member
    exact (List.mem_filter.mp member).2

theorem dropUnderscores_digitPart {text : List Char} (part : DigitPart text) :
    ∀ previous, dropUnderscores previous text = some (text.filter Char.isDigit) := by
  have clean : ∀ digit : Char, digit.isDigit = true → digit ≠ '_' := by
    rintro digit isDigit rfl
    cases isDigit
  induction part with
  | last digit isDigit =>
      intro previous
      simp [dropUnderscores, isDigit, clean digit isDigit]
  | next digit rest isDigit more ih =>
      intro previous
      simp [dropUnderscores, isDigit, clean digit isDigit, ih digit]
  | grouped digit rest isDigit more ih =>
      intro previous
      simp [dropUnderscores, isDigit, clean digit isDigit, ih '_', underscore_not_digit]

theorem digitPart_cases : ∀ (text digits : List Char) (previous : Char),
    dropUnderscores previous text = some digits →
      (∀ character ∈ digits, character.isDigit = true) →
        (text = [] ∧ digits = []) ∨ DigitPart text ∨
          (previous.isDigit = true ∧ ∃ rest, text = '_' :: rest ∧ DigitPart rest) := by
  intro text
  induction text with
  | nil =>
      intro digits previous dropped _
      rw [dropUnderscores] at dropped
      split at dropped
      · cases dropped
      · cases dropped
        exact Or.inl ⟨rfl, rfl⟩
  | cons character rest ih =>
      intro digits previous dropped allDigits
      rw [dropUnderscores] at dropped
      split at dropped
      · rename_i underscore
        split at dropped
        · rename_i behindDigit
          refine Or.inr (Or.inr ⟨behindDigit, rest, by rw [underscore], ?_⟩)
          rcases ih digits '_' dropped allDigits with ⟨rfl, _⟩ | part | ⟨isDigit, _⟩
          · cases dropped
          · exact part
          · cases isDigit
        · cases dropped
      · split at dropped
        · cases dropped
        · obtain ⟨others, restDropped, rfl⟩ := Option.map_eq_some_iff.mp dropped
          have isDigit := allDigits character List.mem_cons_self
          have later := ih others character restDropped
            fun other member => allDigits other (List.mem_cons_of_mem _ member)
          refine Or.inr (Or.inl ?_)
          rcases later with ⟨rfl, _⟩ | part | ⟨_, more, rfl, part⟩
          · exact .last character isDigit
          · exact .next character rest isDigit part
          · exact .grouped character more isDigit part

theorem digitPart_of_dropUnderscores {text digits : List Char} {previous : Char}
    (dropped : dropUnderscores previous text = some digits)
    (notDigit : previous.isDigit = false) (isDigits : Digits digits) : DigitPart text := by
  rcases digitPart_cases text digits previous dropped isDigits.2 with ⟨_, empty⟩ | part | behind
  · exact absurd empty isDigits.1
  · exact part
  · rw [notDigit] at behind
    cases behind.1

/-- Where a character that is no digit stands, the underscores in front of it and
those behind it are dropped independently. -/
theorem dropUnderscores_append {character : Char} (notDigit : character.isDigit = false)
    (clean : character ≠ '_') (behind : List Char) : ∀ (before : List Char) (previous : Char),
    dropUnderscores previous (before ++ character :: behind) =
      (dropUnderscores previous before).bind fun front =>
        (dropUnderscores character behind).map fun back => front ++ character :: back := by
  intro before
  induction before with
  | nil =>
      intro previous
      by_cases underscore : previous = '_' <;>
        simp [dropUnderscores, underscore, clean, notDigit]
  | cons first rest ih =>
      intro previous
      rw [List.cons_append, dropUnderscores, dropUnderscores, ih, ih]
      by_cases underscore : first = '_'
      · simp only [underscore, if_true]
        split <;> rfl
      · simp only [underscore, if_false]
        split
        · rfl
        · cases dropUnderscores first rest <;> cases dropUnderscores character behind <;> rfl

theorem split_of_dropUnderscores {character : Char} (notDigit : character.isDigit = false)
    (back : List Char) : ∀ (text front : List Char) (previous : Char),
    dropUnderscores previous text = some (front ++ character :: back) →
      ∃ before behind, text = before ++ character :: behind ∧
        dropUnderscores previous before = some front ∧
        dropUnderscores character behind = some back := by
  intro text
  induction text with
  | nil =>
      intro front previous dropped
      rw [dropUnderscores] at dropped
      split at dropped
      · cases dropped
      · cases front <;> cases dropped
  | cons first rest ih =>
      intro front previous dropped
      rw [dropUnderscores] at dropped
      split at dropped
      · rename_i underscore
        split at dropped
        · rename_i behindDigit
          obtain ⟨before, behind, rfl, frontDropped, backDropped⟩ := ih front '_' dropped
          refine ⟨first :: before, behind, rfl, ?_, backDropped⟩
          rw [dropUnderscores, if_pos underscore, if_pos behindDigit, frontDropped]
        · cases dropped
      · rename_i clean
        split at dropped
        · cases dropped
        · rename_i joined
          obtain ⟨others, restDropped, same⟩ := Option.map_eq_some_iff.mp dropped
          cases front with
          | nil =>
              obtain ⟨rfl, rfl⟩ := List.cons.inj same
              refine ⟨[], rest, rfl, ?_, restDropped⟩
              rw [dropUnderscores, if_neg]
              intro underscore
              exact joined ⟨underscore, notDigit⟩
          | cons head others =>
              obtain ⟨rfl, rfl⟩ := List.cons.inj same
              obtain ⟨before, behind, rfl, frontDropped, backDropped⟩ := ih others first restDropped
              refine ⟨first :: before, behind, rfl, ?_, backDropped⟩
              rw [dropUnderscores, if_neg clean, if_neg joined, frontDropped]
              rfl

/-! ## Numbers -/

section Shapes
variable (digits : List Char → Prop)

inductive Mantissa : List Char → Prop
  | whole (text : List Char) (isDigits : digits text) : Mantissa text
  | point (whole fraction : List Char) (wholeDigits : whole = [] ∨ digits whole)
      (fractionDigits : fraction = [] ∨ digits fraction) (digit : whole ≠ [] ∨ fraction ≠ []) :
      Mantissa (whole ++ '.' :: fraction)

inductive Exponent : List Char → Prop
  | absent : Exponent []
  | power (marker : Char) (mark text : List Char) (isMarker : marker = 'e' ∨ marker = 'E')
      (isSign : IsSign mark) (isDigits : digits text) : Exponent (marker :: (mark ++ text))

def NumberBody (text : List Char) : Prop :=
  ∃ mantissa power, text = mantissa ++ power ∧ Mantissa digits mantissa ∧ Exponent digits power

end Shapes

theorem all_digits {text : List Char} (digits : text = [] ∨ Digits text) :
    ∀ character ∈ text, character.isDigit = true := by
  rcases digits with rfl | isDigits
  · simp
  · exact isDigits.2

theorem digits_of_all {text : List Char}
    (every : ∀ character ∈ text, character.isDigit = true) : text = [] ∨ Digits text := by
  by_cases empty : text = []
  · exact Or.inl empty
  · exact Or.inr ⟨empty, every⟩

theorem digits_takeWhile (text : List Char) :
    text.takeWhile Char.isDigit = [] ∨ Digits (text.takeWhile Char.isDigit) :=
  digits_of_all fun _ member => List.mem_takeWhile_imp member

theorem sign_digits_eq {mark text : List Char} (isSign : IsSign mark) (digits : Digits text) :
    sign (mark ++ text) = (decide (mark = ['-']), text) := by
  cases text with
  | nil => exact absurd rfl digits.1
  | cons digit rest => exact sign_mark isSign (digits.2 digit List.mem_cons_self)

theorem isSign_of_sign (text : List Char) :
    ∃ mark, IsSign mark ∧ text = mark ++ (sign text).2 := by
  rcases sign_eq text with same | ⟨mark, isMark, same⟩
  · exact ⟨[], Or.inl rfl, same⟩
  · refine ⟨[mark], ?_, same⟩
    rcases isMark with rfl | rfl
    · exact Or.inr (Or.inl rfl)
    · exact Or.inr (Or.inr rfl)

theorem exponent_isSome_iff (tail : List Char) :
    (exponent tail).isSome = true ↔ Exponent Digits tail := by
  cases tail with
  | nil => exact ⟨fun _ => .absent, fun _ => rfl⟩
  | cons marker rest =>
      constructor
      · intro read
        rw [exponent] at read
        split at read
        · rename_i isMarker
          dsimp only at read
          split at read
          · cases read
          · rename_i accepted
            simp only [not_or, Bool.not_eq_false, List.all_eq_true] at accepted
            obtain ⟨mark, isSign, same⟩ := isSign_of_sign rest
            rw [same]
            exact .power marker mark _ isMarker isSign accepted
        · cases read
      · intro shape
        cases shape with
        | power _ mark text isMarker isSign isDigits =>
            have accepted : ¬ (text = [] ∨ text.all Char.isDigit = false) := by
              rw [not_or, Bool.not_eq_false, List.all_eq_true]
              exact isDigits
            rw [exponent, if_pos isMarker, sign_digits_eq isSign isDigits]
            dsimp only
            rw [if_neg accepted]
            rfl

theorem exponent_head {tail : List Char} (shape : Exponent Digits tail) :
    ∀ character ∈ tail.head?, character.isDigit = false ∧ character ≠ '.' := by
  cases shape with
  | absent => simp
  | power marker mark text isMarker isSign isDigits =>
      intro character head
      cases head
      rcases isMarker with rfl | rfl <;> decide

section Decimal
variable {whole fraction tail : List Char}
  (wholeDigits : ∀ character ∈ whole, character.isDigit = true)
  (stops : ∀ character ∈ tail.head?, character.isDigit = false)
include wholeDigits stops

theorem decimal_noPoint (noPoint : '.' ∉ tail.head?) :
    (decimal (whole ++ tail)).isSome = true ↔
      whole ≠ [] ∧ (exponent tail).isSome = true := by
  have parts := takeWhile_digits tail wholeDigits stops
  have form : ∀ rest, tail ≠ '.' :: rest := by
    rintro rest rfl
    exact noPoint rfl
  unfold decimal
  dsimp only
  rw [parts.1, parts.2]
  split
  · rename_i rest
    exact absurd rfl (form rest)
  · by_cases empty : whole = []
    · simp [empty]
    · simp [empty]

theorem decimal_withPoint
    (fractionDigits : ∀ character ∈ fraction, character.isDigit = true) :
    (decimal (whole ++ '.' :: (fraction ++ tail))).isSome = true ↔
      (whole ≠ [] ∨ fraction ≠ []) ∧ (exponent tail).isSome = true := by
  have parts := takeWhile_digits ('.' :: (fraction ++ tail)) wholeDigits
    (by intro character head; cases head; decide)
  have behind := takeWhile_digits tail fractionDigits stops
  unfold decimal
  simp only [parts.1, parts.2, behind.1, behind.2]
  by_cases empty : whole ++ fraction = []
  · simp only [List.append_eq_nil_iff] at empty
    simp [empty]
  · simp only [if_neg empty, Option.isSome_map]
    rw [List.append_eq_nil_iff, not_and_or] at empty
    exact (and_iff_right empty).symm

end Decimal

theorem head_dropWhile (text : List Char) :
    ∀ character ∈ (text.dropWhile Char.isDigit).head?, character.isDigit = false := by
  intro character head
  have stops := List.head?_dropWhile_not Char.isDigit text
  rw [Option.mem_def.mp head] at stops
  simpa using stops

theorem decimal_isSome_iff (body : List Char) :
    (decimal body).isSome = true ↔ NumberBody Digits body := by
  constructor
  · intro read
    have parts := (List.takeWhile_append_dropWhile (p := Char.isDigit) (l := body)).symm
    have before := digits_takeWhile body
    by_cases point : '.' ∈ (body.dropWhile Char.isDigit).head?
    · obtain ⟨rest, behind⟩ := List.head?_eq_some_iff.mp (Option.mem_def.mp point)
      have fractionParts := (List.takeWhile_append_dropWhile (p := Char.isDigit) (l := rest)).symm
      have fraction := digits_takeWhile rest
      rw [behind, fractionParts] at parts
      rw [parts, decimal_withPoint (all_digits before) (head_dropWhile rest)
        (all_digits fraction), exponent_isSome_iff] at read
      rw [parts]
      exact ⟨_, _, by simp, .point _ _ before fraction read.1, read.2⟩
    · rw [parts, decimal_noPoint (all_digits before) (head_dropWhile body) point,
        exponent_isSome_iff] at read
      rw [parts]
      exact ⟨_, _, rfl, .whole _ (before.resolve_left read.1), read.2⟩
  · rintro ⟨mantissa, power, rfl, mantissaShape, powerShape⟩
    have stops := fun character head => (exponent_head powerShape character head).1
    have noPoint : '.' ∉ power.head? := fun head => (exponent_head powerShape '.' head).2 rfl
    rw [← exponent_isSome_iff] at powerShape
    cases mantissaShape with
    | whole text isDigits =>
        exact (decimal_noPoint isDigits.2 stops noPoint).mpr ⟨isDigits.1, powerShape⟩
    | point whole fraction wholeDigits fractionDigits digit =>
        rw [List.append_assoc, List.cons_append]
        exact (decimal_withPoint (all_digits wholeDigits) stops (all_digits fractionDigits)).mpr
          ⟨digit, powerShape⟩

theorem eq_nil_of_dropUnderscores {text : List Char} {previous : Char}
    (notDigit : previous.isDigit = false) (dropped : dropUnderscores previous text = some []) :
    text = [] := by
  rcases digitPart_cases text [] previous dropped (by simp) with ⟨empty, _⟩ | part | behind
  · exact empty
  · rw [dropUnderscores_digitPart part] at dropped
    exact absurd (Option.some.inj dropped) (digits_filter part).1
  · rw [notDigit] at behind
    cases behind.1

theorem sign_notDigit {mark : Char} (isSign : IsSign [mark]) :
    mark.isDigit = false ∧ mark ≠ '_' := by
  rcases isSign with none | minus | plus
  · cases none
  · cases minus
    decide
  · cases plus
    decide

theorem optional_of_dropUnderscores {text digits : List Char} {previous : Char}
    (notDigit : previous.isDigit = false) (dropped : dropUnderscores previous text = some digits)
    (shape : digits = [] ∨ Digits digits) :
    (text = [] ∧ digits = []) ∨ (DigitPart text ∧ digits ≠ []) := by
  rcases shape with rfl | isDigits
  · exact Or.inl ⟨eq_nil_of_dropUnderscores notDigit dropped, rfl⟩
  · exact Or.inr ⟨digitPart_of_dropUnderscores dropped notDigit isDigits, isDigits.1⟩

theorem signed_of_dropUnderscores {text mark body : List Char} {previous : Char}
    (notDigit : previous.isDigit = false) (isSign : IsSign mark)
    (dropped : dropUnderscores previous text = some (mark ++ body)) :
    ∃ rest last, text = mark ++ rest ∧ last.isDigit = false ∧
      dropUnderscores last rest = some body := by
  cases mark with
  | nil => exact ⟨text, previous, rfl, notDigit, dropped⟩
  | cons character others =>
      have single : others = [] := by
        rcases isSign with none | minus | plus
        · cases none
        · exact (List.cons.inj minus).2
        · exact (List.cons.inj plus).2
      subst single
      have markClean := sign_notDigit isSign
      obtain ⟨before, behind, rfl, nothing, rest⟩ :=
        split_of_dropUnderscores markClean.1 body text [] previous dropped
      rw [eq_nil_of_dropUnderscores notDigit nothing]
      exact ⟨behind, character, rfl, markClean.1, rest⟩

theorem dropUnderscores_signed {mark rest body : List Char} {previous : Char}
    (clean : previous ≠ '_') (isSign : IsSign mark)
    (dropped : ∀ last, last ≠ '_' → dropUnderscores last rest = some body) :
    dropUnderscores previous (mark ++ rest) = some (mark ++ body) := by
  have keeps : ∀ character : Char, character.isDigit = false → character ≠ '_' →
      dropUnderscores previous ([character] ++ rest) = some ([character] ++ body) := by
    intro character notDigit markClean
    have joined := dropUnderscores_append notDigit markClean rest [] previous
    rw [dropped character markClean, dropUnderscores, if_neg clean] at joined
    exact joined
  rcases isSign with rfl | rfl | rfl
  · exact dropped previous clean
  · exact keeps '-' (by decide) (by decide)
  · exact keeps '+' (by decide) (by decide)

theorem mantissa_of_dropUnderscores {text literal : List Char} {previous : Char}
    (notDigit : previous.isDigit = false) (dropped : dropUnderscores previous text = some literal)
    (shape : Mantissa Digits literal) : Mantissa DigitPart text := by
  cases shape with
  | whole _ isDigits => exact .whole _ (digitPart_of_dropUnderscores dropped notDigit isDigits)
  | point whole fraction wholeDigits fractionDigits digit =>
      obtain ⟨before, behind, rfl, frontDropped, backDropped⟩ :=
        split_of_dropUnderscores (by decide) fraction text whole previous dropped
      have front := optional_of_dropUnderscores notDigit frontDropped wholeDigits
      have back := optional_of_dropUnderscores (by decide) backDropped fractionDigits
      refine .point _ _ (front.imp And.left And.left) (back.imp And.left And.left) ?_
      rcases digit with someWhole | someFraction
      · rcases front with ⟨_, empty⟩ | ⟨part, _⟩
        · exact absurd empty someWhole
        · refine Or.inl fun empty => ?_
          rw [empty] at part
          cases part
      · rcases back with ⟨_, empty⟩ | ⟨part, _⟩
        · exact absurd empty someFraction
        · refine Or.inr fun empty => ?_
          rw [empty] at part
          cases part

theorem dropUnderscores_optional {text : List Char} (shape : text = [] ∨ DigitPart text) :
    ∃ digits, (∀ previous, previous ≠ '_' → dropUnderscores previous text = some digits) ∧
      (digits = [] ∨ Digits digits) ∧ (text ≠ [] → digits ≠ []) := by
  rcases shape with rfl | part
  · refine ⟨[], ?_, Or.inl rfl, fun some => absurd rfl some⟩
    intro previous clean
    rw [dropUnderscores, if_neg clean]
  · exact ⟨_, fun previous _ => dropUnderscores_digitPart part previous,
      Or.inr (digits_filter part), fun _ => (digits_filter part).1⟩

theorem dropUnderscores_mantissa {text : List Char} (shape : Mantissa DigitPart text) :
    ∃ literal, (∀ previous, previous ≠ '_' → dropUnderscores previous text = some literal) ∧
      Mantissa Digits literal := by
  cases shape with
  | whole _ part =>
      exact ⟨_, fun previous _ => dropUnderscores_digitPart part previous,
        .whole _ (digits_filter part)⟩
  | point whole fraction wholePart fractionPart digit =>
      obtain ⟨front, frontDropped, frontDigits, someFront⟩ := dropUnderscores_optional wholePart
      obtain ⟨back, backDropped, backDigits, someBack⟩ := dropUnderscores_optional fractionPart
      refine ⟨front ++ '.' :: back, ?_, .point front back frontDigits backDigits
        (digit.imp someFront someBack)⟩
      intro previous clean
      rw [dropUnderscores_append (by decide) (by decide), frontDropped previous clean,
        backDropped '.' (by decide)]
      rfl

theorem marker_notDigit {marker : Char} (isMarker : marker = 'e' ∨ marker = 'E') :
    marker.isDigit = false ∧ marker ≠ '_' := by
  rcases isMarker with rfl | rfl <;> decide

theorem numberBody_of_dropUnderscores {text literal : List Char} {previous : Char}
    (notDigit : previous.isDigit = false) (dropped : dropUnderscores previous text = some literal)
    (shape : NumberBody Digits literal) : NumberBody DigitPart text := by
  obtain ⟨mantissa, power, rfl, mantissaShape, powerShape⟩ := shape
  cases powerShape with
  | absent =>
      rw [List.append_nil] at dropped
      exact ⟨text, [], (List.append_nil text).symm,
        mantissa_of_dropUnderscores notDigit dropped mantissaShape, .absent⟩
  | power marker mark digits isMarker isSign isDigits =>
      have markerClean := marker_notDigit isMarker
      obtain ⟨before, behind, rfl, frontDropped, backDropped⟩ :=
        split_of_dropUnderscores markerClean.1 _ text mantissa previous dropped
      obtain ⟨rest, last, rfl, lastNotDigit, digitsDropped⟩ :=
        signed_of_dropUnderscores markerClean.1 isSign backDropped
      exact ⟨before, _, rfl, mantissa_of_dropUnderscores notDigit frontDropped mantissaShape,
        .power marker mark rest isMarker isSign
          (digitPart_of_dropUnderscores digitsDropped lastNotDigit isDigits)⟩

theorem dropUnderscores_numberBody {text : List Char} (shape : NumberBody DigitPart text) :
    ∃ literal, (∀ previous, previous ≠ '_' → dropUnderscores previous text = some literal) ∧
      NumberBody Digits literal := by
  obtain ⟨mantissa, power, rfl, mantissaShape, powerShape⟩ := shape
  obtain ⟨front, frontDropped, frontShape⟩ := dropUnderscores_mantissa mantissaShape
  cases powerShape with
  | absent =>
      rw [List.append_nil]
      exact ⟨front, frontDropped, front, [], (List.append_nil front).symm, frontShape, .absent⟩
  | power marker mark digits isMarker isSign part =>
      have markerClean := marker_notDigit isMarker
      have backDropped : dropUnderscores marker (mark ++ digits) =
          some (mark ++ digits.filter Char.isDigit) :=
        dropUnderscores_signed markerClean.2 isSign fun last _ =>
          dropUnderscores_digitPart part last
      refine ⟨front ++ marker :: (mark ++ digits.filter Char.isDigit), ?_, front, _, rfl,
        frontShape, .power marker mark _ isMarker isSign (digits_filter part)⟩
      intro previous clean
      rw [dropUnderscores_append markerClean.1 markerClean.2, frontDropped previous clean,
        backDropped]
      rfl

/-! ## What `float` and `int` accept -/

/-- `inf`, `infinity` and `nan` in any case. -/
def SpecialName (text : List Char) : Prop :=
  text.map Char.toLower ∈
    [['i', 'n', 'f'], ['i', 'n', 'f', 'i', 'n', 'i', 't', 'y'], ['n', 'a', 'n']]

instance (text : List Char) : Decidable (SpecialName text) :=
  inferInstanceAs (Decidable (_ ∈ _))

def FloatLiteral (word : List Char) : Prop :=
  ∃ mark body, word = mark ++ body ∧ IsSign mark ∧ (NumberBody DigitPart body ∨ SpecialName body)

def IntLiteral (word : List Char) : Prop :=
  ∃ mark digits, word = mark ++ digits ∧ IsSign mark ∧ DigitPart digits ∧
    (digits.filter Char.isDigit).length ≤ maxStrDigits

theorem sign_unsigned {mark text : List Char} (isSign : IsSign mark)
    (unsigned : ∀ character ∈ text.head?, character ≠ '-' ∧ character ≠ '+') :
    sign (mark ++ text) = (decide (mark = ['-']), text) := by
  rcases isSign with rfl | rfl | rfl
  · cases text with
    | nil => rfl
    | cons first rest =>
        have plain := unsigned first rfl
        rw [List.nil_append]
        unfold sign
        split
        · rename_i same
          exact absurd (List.cons.inj same).1 plain.1
        · rename_i same
          exact absurd (List.cons.inj same).1 plain.2
        · rfl
  · rfl
  · rfl

theorem unsigned_of_isDigit {character : Char} (isDigit : character.isDigit = true) :
    character ≠ '-' ∧ character ≠ '+' := by
  constructor
  · rintro rfl
    cases isDigit
  · rintro rfl
    cases isDigit

theorem unsigned_numberBody {text : List Char} (shape : NumberBody Digits text) :
    ∀ character ∈ text.head?, character ≠ '-' ∧ character ≠ '+' := by
  obtain ⟨mantissa, power, rfl, mantissaShape, _⟩ := shape
  have headOfDigits : ∀ digits rest : List Char, Digits digits →
      ∀ character ∈ (digits ++ rest).head?, character ≠ '-' ∧ character ≠ '+' := by
    intro digits rest isDigits character head
    cases digits with
    | nil => exact absurd rfl isDigits.1
    | cons first more =>
        cases head
        exact unsigned_of_isDigit (isDigits.2 character List.mem_cons_self)
  cases mantissaShape with
  | whole _ isDigits => exact headOfDigits mantissa power isDigits
  | point whole fraction wholeDigits _ _ =>
      rcases wholeDigits with rfl | isDigits
      · intro character head
        cases head
        decide
      · rw [List.append_assoc]
        exact headOfDigits whole _ isDigits

theorem unsigned_special {text : List Char} (special : SpecialName text) :
    ∀ character ∈ text.head?, character ≠ '-' ∧ character ≠ '+' := by
  intro character head
  obtain ⟨rest, rfl⟩ := List.head?_eq_some_iff.mp head
  have lowered : character.toLower = 'i' ∨ character.toLower = 'n' := by
    simp only [SpecialName, List.map_cons, List.mem_cons, List.cons.injEq, List.not_mem_nil,
      or_false] at special
    rcases special with ⟨first, _⟩ | ⟨first, _⟩ | ⟨first, _⟩
    · exact Or.inl first
    · exact Or.inl first
    · exact Or.inr first
  constructor
  · rintro rfl
    revert lowered
    decide
  · rintro rfl
    revert lowered
    decide

theorem specialValue_isSome_iff (negative : Bool) (body : List Char) :
    (specialValue negative body).isSome = true ↔ SpecialName body := by
  unfold specialValue SpecialName
  simp only [List.mem_cons, List.not_mem_nil, or_false]
  split
  · rename_i infinite
    simp only [Option.isSome_some, true_iff]
    exact infinite.imp id Or.inl
  · rename_i notInfinite
    rw [not_or] at notInfinite
    split
    · rename_i isNan
      simp [isNan]
    · rename_i notNan
      simp [notInfinite, notNan]

theorem special_ne_finite {negative : Bool} {body : List Char} {value : FloatValue}
    (read : specialValue negative body = some value) (exact : ℚ) : value ≠ .finite exact := by
  rintro rfl
  unfold specialValue at read
  dsimp only at read
  split at read
  · cases negative <;> cases read
  · split at read <;> cases read

theorem float_isSome_iff {word : List Char}
    (noSpace : ∀ character ∈ word, isSpace character = false) :
    (float word).isSome = true ↔ FloatLiteral word := by
  constructor
  · intro read
    unfold float at read
    rw [strip_word noSpace] at read
    split at read
    · cases read
    · rename_i literal dropped
      obtain ⟨mark, isSign, same⟩ := isSign_of_sign literal
      dsimp only at read
      split at read
      · rename_i magnitude number
        have shape := (decimal_isSome_iff (sign literal).2).mp (by rw [number]; rfl)
        rw [same] at dropped
        obtain ⟨rest, last, rfl, notDigit, restDropped⟩ :=
          signed_of_dropUnderscores (by decide) isSign dropped
        exact ⟨mark, rest, rfl, isSign,
          Or.inl (numberBody_of_dropUnderscores notDigit restDropped shape)⟩
      · obtain ⟨value, special⟩ := Option.isSome_iff_exists.mp read
        have noDigit := forall_mem_of_sign (fun character => character.isDigit = false)
          (fun character member => (plain_of_special special character member).1)
          (by decide) (by decide)
        rw [← eq_of_dropUnderscores word literal 'x' (by decide) dropped noDigit]
        exact ⟨mark, _, same, isSign, Or.inr ((specialValue_isSome_iff _ _).mp read)⟩
  · rintro ⟨mark, body, rfl, isSign, number | special⟩
    · obtain ⟨literal, dropped, shape⟩ := dropUnderscores_numberBody number
      have whole : dropUnderscores 'x' (mark ++ body) = some (mark ++ literal) :=
        dropUnderscores_signed (by decide) isSign dropped
      obtain ⟨magnitude, read⟩ :=
        Option.isSome_iff_exists.mp ((decimal_isSome_iff literal).mpr shape)
      unfold float
      rw [strip_word noSpace, whole]
      dsimp only
      rw [sign_unsigned isSign (unsigned_numberBody shape)]
      simp [read]
    · have split := sign_unsigned isSign (unsigned_special special)
      obtain ⟨value, read⟩ := Option.isSome_iff_exists.mp
        ((specialValue_isSome_iff (decide (mark = ['-'])) body).mpr special)
      rw [(float_eq_special_iff noSpace (special_ne_finite read)).mpr]
      · rfl
      · rw [split]
        exact read

theorem int_isSome_iff {word : List Char}
    (noSpace : ∀ character ∈ word, isSpace character = false) :
    (int word).isSome = true ↔ IntLiteral word := by
  unfold int
  rw [strip_word noSpace]
  constructor
  · intro read
    obtain ⟨mark, isSign, same⟩ := isSign_of_sign word
    dsimp only at read
    split at read
    · cases read
    · rename_i digits dropped
      split at read
      · cases read
      · rename_i accepted
        simp only [not_or, Bool.not_eq_false, List.all_eq_true, not_lt] at accepted
        obtain ⟨nonempty, allDigits, short⟩ := accepted
        have part := digitPart_of_dropUnderscores dropped (by decide) ⟨nonempty, allDigits⟩
        rw [dropUnderscores_digitPart part] at dropped
        refine ⟨mark, _, same, isSign, part, ?_⟩
        rw [Option.some.inj dropped]
        exact short
  · rintro ⟨mark, digits, rfl, isSign, part, short⟩
    have unsigned : ∀ character ∈ digits.head?, character ≠ '-' ∧ character ≠ '+' := by
      intro character head
      cases part with
      | last digit isDigit => cases head; exact unsigned_of_isDigit isDigit
      | next digit rest isDigit more => cases head; exact unsigned_of_isDigit isDigit
      | grouped digit rest isDigit more => cases head; exact unsigned_of_isDigit isDigit
    have accepted := digits_filter part
    rw [sign_unsigned isSign unsigned]
    simp only [dropUnderscores_digitPart part]
    rw [if_neg]
    · rfl
    · rintro (empty | notAll | long)
      · exact accepted.1 empty
      · rw [List.all_eq_true.mpr accepted.2] at notAll
        cases notAll
      · omega

theorem digitPart_of_digits : ∀ text : List Char, Digits text → DigitPart text := by
  intro text
  induction text with
  | nil => exact fun digits => absurd rfl digits.1
  | cons first rest ih =>
      intro digits
      have isDigit := digits.2 first List.mem_cons_self
      cases rest with
      | nil => exact .last first isDigit
      | cons second more =>
          exact .next first _ isDigit
            (ih ⟨by simp, fun other member => digits.2 other (List.mem_cons_of_mem _ member)⟩)

theorem intLiteral_digits {text : List Char} (digits : Digits text) :
    IntLiteral text ↔ text.length ≤ maxStrDigits := by
  have kept : text.filter Char.isDigit = text := List.filter_eq_self.mpr digits.2
  constructor
  · rintro ⟨mark, body, rfl, isSign, part, short⟩
    have unsigned : mark = [] := by
      rcases isSign with none | rfl | rfl
      · exact none
      · cases digits.2 '-' (by simp)
      · cases digits.2 '+' (by simp)
    subst unsigned
    rw [List.nil_append] at kept ⊢
    rwa [kept] at short
  · intro short
    refine ⟨[], text, rfl, Or.inl rfl, digitPart_of_digits text digits, ?_⟩
    rwa [kept]

theorem noSpace_digitPart {text : List Char} (part : DigitPart text) :
    ∀ character ∈ text, isSpace character = false := by
  induction part with
  | last digit isDigit => simpa using isSpace_of_isDigit isDigit
  | next digit rest isDigit more ih =>
      simpa using ⟨isSpace_of_isDigit isDigit, ih⟩
  | grouped digit rest isDigit more ih =>
      simpa using ⟨isSpace_of_isDigit isDigit, by decide, ih⟩

theorem noSpace_of_int {text : List Char} {value : Int} (read : int text = some value) :
    ∀ character ∈ strip text, isSpace character = false := by
  unfold int at read
  dsimp only at read
  split at read
  · cases read
  · rename_i digits dropped
    split at read
    · cases read
    · rename_i accepted
      simp only [not_or, Bool.not_eq_false, List.all_eq_true] at accepted
      have part := digitPart_of_dropUnderscores dropped (by decide)
        ⟨accepted.1, accepted.2.1⟩
      exact forall_mem_of_sign (fun character => isSpace character = false)
        (noSpace_digitPart part) (by decide) (by decide)

theorem strip_strip (text : List Char) : strip (strip text) = strip text := by
  have first : ∀ character ∈ (strip text).head?, isSpace character = false := by
    intro character head
    obtain ⟨rest, same⟩ := List.head?_eq_some_iff.mp (Option.mem_def.mp head)
    obtain ⟨trail, whole⟩ : strip text <+: text.dropWhile isSpace := List.rdropWhile_prefix ..
    have stops := List.head?_dropWhile_not isSpace text
    rw [← whole, same] at stops
    simpa using stops
  have last : ∀ character ∈ (strip text).getLast?, isSpace character = false := by
    intro character ends
    have nonempty : strip text ≠ [] := by
      intro empty
      rw [empty] at ends
      cases ends
    rw [List.getLast?_eq_getLast_of_ne_nil nonempty] at ends
    cases ends
    exact Bool.eq_false_of_not_eq_true
      (List.rdropWhile_last_not isSpace (text.dropWhile isSpace) nonempty)
  have kept := @strip_surrounded [] (strip text) [] (by simp) first last (by simp)
  rwa [List.nil_append, List.append_nil] at kept

theorem int_strip (text : List Char) : int (strip text) = int text := by
  rw [int, strip_strip, int]

end Msp.Library.PythonGrammar
