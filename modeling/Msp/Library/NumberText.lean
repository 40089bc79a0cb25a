import Msp.Library.PythonText

/-!
# Texts that are numbers, and texts that begin like one

For any notion of a blank that is neither a sign nor a digit.  A reader of a
prefix accepts the second kind, a reader of the whole text the first.
-/

set_option autoImplicit false

namespace Msp.Library.NumberText

open PythonText

def IsSign (mark : List Char) : Prop := mark = [] ∨ mark = ['-'] ∨ mark = ['+']

section Blanks
variable (blank : Char → Bool)

/-- Blanks, an optional sign and a digit, whatever follows. -/
def BeginsWithNumber (text : List Char) : Prop :=
  ∃ lead mark digit rest, text = lead ++ mark ++ digit :: rest ∧
    (∀ character ∈ lead, blank character = true) ∧ IsSign mark ∧ digit.isDigit = true

/-- An optionally signed decimal integer with blanks around it. -/
def IsNumber (text : List Char) : Prop :=
  ∃ lead mark digits trail, text = lead ++ mark ++ digits ++ trail ∧
    (∀ character ∈ lead, blank character = true) ∧ IsSign mark ∧ digits ≠ [] ∧
    (∀ character ∈ digits, character.isDigit = true) ∧
    ∀ character ∈ trail, blank character = true

end Blanks

/-- Signs and digits are no blanks. -/
def Apart (blank : Char → Bool) : Prop :=
  blank '-' = false ∧ blank '+' = false ∧ ∀ digit : Char, digit.isDigit = true → blank digit = false

section Reading
variable {blank : Char → Bool}

theorem dropWhile_lead (apart : Apart blank) {lead mark rest : List Char} {digit : Char}
    (blanks : ∀ character ∈ lead, blank character = true) (isSign : IsSign mark)
    (isDigit : digit.isDigit = true) :
    (lead ++ mark ++ digit :: rest).dropWhile blank = mark ++ digit :: rest := by
  rw [List.append_assoc, List.dropWhile_append_of_pos blanks]
  rcases isSign with rfl | rfl | rfl
  · exact List.dropWhile_cons_of_neg (by simp [apart.2.2 digit isDigit])
  · exact List.dropWhile_cons_of_neg (by simp [apart.1])
  · exact List.dropWhile_cons_of_neg (by simp [apart.2.1])

theorem sign_mark {mark rest : List Char} {digit : Char} (isSign : IsSign mark)
    (isDigit : digit.isDigit = true) :
    sign (mark ++ digit :: rest) = (decide (mark = ['-']), digit :: rest) := by
  rcases isSign with rfl | rfl | rfl
  · have plain : sign ([digit] ++ rest) = (false, [digit] ++ rest) :=
      sign_digits (by simp) (by simpa using isDigit) rest
    simpa using plain
  · rfl
  · rfl

/-- What a reader finds behind the blanks and the sign. -/
theorem beginsWithNumber_iff (apart : Apart blank) (text : List Char) :
    BeginsWithNumber blank text ↔
      (sign (text.dropWhile blank)).2.takeWhile Char.isDigit ≠ [] := by
  constructor
  · rintro ⟨lead, mark, digit, rest, rfl, blanks, isSign, isDigit⟩
    rw [dropWhile_lead apart blanks isSign isDigit, sign_mark isSign isDigit]
    simp [isDigit]
  · intro found
    have whole := (List.takeWhile_append_dropWhile (p := blank) (l := text)).symm
    cases body : (sign (text.dropWhile blank)).2 with
    | nil =>
        rw [body] at found
        exact absurd rfl found
    | cons digit rest =>
        have isDigit : digit.isDigit = true := by
          by_contra notDigit
          rw [body, List.takeWhile_cons_of_neg notDigit] at found
          exact found rfl
        have blanks : ∀ character ∈ text.takeWhile blank, blank character = true :=
          fun character member => List.mem_takeWhile_imp member
        rcases sign_eq (text.dropWhile blank) with same | ⟨mark, isMark, same⟩
        · refine ⟨text.takeWhile blank, [], digit, rest, ?_, blanks, Or.inl rfl, isDigit⟩
          rw [List.append_nil, ← body, ← same]
          exact whole
        · refine ⟨text.takeWhile blank, [mark], digit, rest, ?_, blanks, ?_, isDigit⟩
          · rw [List.append_assoc, List.singleton_append, ← body, ← same]
            exact whole
          · rcases isMark with rfl | rfl
            · exact Or.inr (Or.inl rfl)
            · exact Or.inr (Or.inr rfl)

theorem IsNumber.forall_mem {text : List Char} (number : IsNumber blank text) :
    ∀ character ∈ text, blank character = true ∨ character = '-' ∨ character = '+' ∨
      character.isDigit = true := by
  obtain ⟨lead, mark, digits, trail, rfl, blanksBefore, isSign, _, allDigits, blanksBehind⟩ := number
  intro character member
  simp only [List.mem_append] at member
  rcases member with ((before | inSign) | inDigits) | behind
  · exact Or.inl (blanksBefore character before)
  · rcases isSign with rfl | rfl | rfl
    · cases inSign
    · exact Or.inr (Or.inl (List.mem_singleton.mp inSign))
    · exact Or.inr (Or.inr (Or.inl (List.mem_singleton.mp inSign)))
  · exact Or.inr (Or.inr (Or.inr (allDigits character inDigits)))
  · exact Or.inl (blanksBehind character behind)

theorem BeginsWithNumber.mono {wider : Char → Bool} {text : List Char}
    (covers : ∀ character, blank character = true → wider character = true)
    (begins : BeginsWithNumber blank text) : BeginsWithNumber wider text := by
  obtain ⟨lead, mark, digit, rest, rfl, blanks, isSign, isDigit⟩ := begins
  exact ⟨lead, mark, digit, rest, rfl, fun character member => covers _ (blanks _ member), isSign,
    isDigit⟩

theorem BeginsWithNumber.surrounded {lead text : List Char}
    (blanks : ∀ character ∈ lead, blank character = true) (trail : List Char)
    (begins : BeginsWithNumber blank text) : BeginsWithNumber blank (lead ++ text ++ trail) := by
  obtain ⟨more, mark, digit, rest, rfl, moreBlanks, isSign, isDigit⟩ := begins
  refine ⟨lead ++ more, mark, digit, rest ++ trail, by simp, ?_, isSign, isDigit⟩
  intro character member
  rcases List.mem_append.mp member with inLead | inMore
  · exact blanks character inLead
  · exact moreBlanks character inMore

theorem BeginsWithNumber.tail {first : Char} {rest : List Char} (isBlank : blank first = true)
    (apart : Apart blank) (begins : BeginsWithNumber blank (first :: rest)) :
    BeginsWithNumber blank rest := by
  rw [beginsWithNumber_iff apart] at begins ⊢
  rwa [List.dropWhile_cons_of_pos isBlank] at begins

end Reading

theorem apart_isSpace : Apart isSpace :=
  ⟨by decide, by decide, fun _ isDigit => isSpace_of_isDigit isDigit⟩

def signed (mark digits : List Char) : Int :=
  if mark = ['-'] then -(Nat.ofDigitChars 10 digits 0 : Int) else Nat.ofDigitChars 10 digits 0

theorem begins_of_strip {text : List Char} (begins : BeginsWithNumber isSpace (strip text)) :
    BeginsWithNumber isSpace text := by
  obtain ⟨lead, trail, whole, blanks⟩ := exists_strip text
  rw [whole]
  exact begins.surrounded blanks trail

/-- Line ends are blanks before and after they are translated. -/
theorem begins_of_universalNewlines : ∀ text : List Char,
    BeginsWithNumber isSpace (universalNewlines text) → BeginsWithNumber isSpace text := by
  intro text
  induction text with
  | nil => exact id
  | cons first rest ih =>
      intro begins
      by_cases isBlank : isSpace first = true
      · have blanks : ∀ character ∈ [first], isSpace character = true := by simpa using isBlank
        have later : BeginsWithNumber isSpace (universalNewlines rest) := by
          rw [universalNewlines] at begins
          split at begins
          · split at begins
            · exact begins
            · exact begins.tail (by decide) apart_isSpace
          · exact begins.tail isBlank apart_isSpace
        have whole := (ih later).surrounded blanks []
        rwa [List.append_nil] at whole
      · have notReturn : first ≠ '\r' := by
          rintro rfl
          exact isBlank (by decide)
        rw [universalNewlines, if_neg notReturn] at begins
        obtain ⟨lead, mark, digit, more, same, blanks, isSign, isDigit⟩ := begins
        cases lead with
        | cons other others =>
            have isFirst : first = other := (List.cons.inj same).1
            exact absurd (isFirst ▸ blanks other List.mem_cons_self) isBlank
        | nil =>
            rcases isSign with rfl | isMark
            · have isFirst : first = digit := (List.cons.inj same).1
              exact ⟨[], [], first, rest, rfl, by simp, Or.inl rfl, isFirst ▸ isDigit⟩
            · have split : mark = [first] ∧ universalNewlines rest = digit :: more := by
                rcases isMark with rfl | rfl
                · exact ⟨by rw [(List.cons.inj same).1], (List.cons.inj same).2⟩
                · exact ⟨by rw [(List.cons.inj same).1], (List.cons.inj same).2⟩
              have head : (universalNewlines rest).head? = some digit := by rw [split.2]; rfl
              obtain ⟨tail, rfl⟩ := List.head?_eq_some_iff.mp
                (head_of_universalNewlines (isSpace_of_isDigit isDigit) head)
              exact ⟨[], mark, digit, tail, by rw [split.1]; rfl, by simp, Or.inr isMark, isDigit⟩

theorem begins_of_int {text : List Char} {value : Int} (read : int text = some value) :
    BeginsWithNumber isSpace text := by
  apply begins_of_strip
  unfold int at read
  dsimp only at read
  cases dropped : dropUnderscores 'x' (sign (strip text)).2 with
  | none =>
      rw [dropped] at read
      cases read
  | some digits =>
      rw [dropped] at read
      dsimp only at read
      split at read
      · cases read
      · rename_i accepted
        simp only [not_or, Bool.not_eq_false] at accepted
        obtain ⟨nonempty, allDigits, _⟩ := accepted
        have sameHead := head_of_dropUnderscores (by decide) dropped
        cases digits with
        | nil => exact absurd rfl nonempty
        | cons digit more =>
            have isDigit := List.all_eq_true.mp allDigits digit List.mem_cons_self
            obtain ⟨rest, body⟩ := List.head?_eq_some_iff.mp sameHead
            rcases sign_eq (strip text) with same | ⟨mark, isMark, same⟩
            · exact ⟨[], [], digit, rest, same.trans body, by simp, Or.inl rfl, isDigit⟩
            · refine ⟨[], [mark], digit, rest, by rw [same, body]; rfl, by simp, ?_, isDigit⟩
              rcases isMark with rfl | rfl
              · exact Or.inr (Or.inl rfl)
              · exact Or.inr (Or.inr rfl)

theorem int_of_number {lead mark digits trail : List Char}
    (before : ∀ character ∈ lead, isSpace character = true) (isSign : IsSign mark)
    (nonempty : digits ≠ []) (allDigits : ∀ character ∈ digits, character.isDigit = true)
    (short : digits.length ≤ maxStrDigits)
    (behind : ∀ character ∈ trail, isSpace character = true) :
    int (strip (lead ++ mark ++ digits ++ trail)) = some (signed mark digits) := by
  have first : ∀ character ∈ (mark ++ digits).head?, isSpace character = false := by
    intro character head
    have member := List.mem_of_mem_head? head
    rcases List.mem_append.mp member with inMark | inDigits
    · rcases isSign with rfl | rfl | rfl
      · cases inMark
      · exact List.mem_singleton.mp inMark ▸ apart_isSpace.1
      · exact List.mem_singleton.mp inMark ▸ apart_isSpace.2.1
    · exact isSpace_of_isDigit (allDigits character inDigits)
  have last : ∀ character ∈ (mark ++ digits).getLast?, isSpace character = false := by
    intro character ends
    rw [List.getLast?_append_of_ne_nil _ nonempty] at ends
    exact isSpace_of_isDigit (allDigits character (List.mem_of_getLast? ends))
  have stripped : strip (lead ++ mark ++ digits ++ trail) = mark ++ digits := by
    rw [List.append_assoc lead]
    exact strip_surrounded before first last behind
  have again : strip (mark ++ digits) = mark ++ digits := by
    have whole := @strip_surrounded [] _ [] (by simp) first last (by simp)
    rwa [List.nil_append, List.append_nil] at whole
  have signs : sign (mark ++ digits) = (decide (mark = ['-']), digits) := by
    cases digits with
    | nil => exact absurd rfl nonempty
    | cons digit more => exact sign_mark isSign (allDigits digit List.mem_cons_self)
  rw [stripped, int, again, signs]
  dsimp only
  rw [dropUnderscores_of_not_mem digits 'x' (by decide) (underscore_not_mem allDigits)]
  dsimp only
  rw [if_neg]
  · simp only [signed, decide_eq_true_eq]
  · rintro (empty | notAll | long)
    · exact nonempty empty
    · rw [List.all_eq_true.mpr allDigits] at notAll
      cases notAll
    · omega

end Msp.Library.NumberText
