import Msp.Library.NumberText

/-!
# C's text functions in the "C" locale

`isspace`, `tolower` on characters, `fgets` and the `%ld` of `fscanf`.  A C
string is the list of its characters, each standing for the byte of its code.
-/

set_option autoImplicit false

namespace Msp.Library.CText

def isspace (character : Char) : Bool :=
  let code := character.toNat
  decide (9 ≤ code ∧ code ≤ 13) || decide (code = 32)

def tolower (character : Char) : Char := character.toLower

def throughNewline : List Char → List Char
  | [] => []
  | character :: rest =>
      if character = '\n' then [character] else character :: throughNewline rest

/-- `fgets` into a buffer of `size` bytes; `none` at the end of the file. -/
def fgets (size : Nat) (text : List Char) : Option (List Char) :=
  if text = [] then none else some (throughNewline (text.take (size - 1)))

def nul : Char := Char.ofNat 0

def cString (buffer : List Char) : List Char :=
  buffer.takeWhile fun character => decide (character ≠ nul)

def longMin : Int := -9223372036854775808

def longMax : Int := 9223372036854775807

/-- `fscanf(f, "%ld", &value)` when it returns 1: a number out of range is
stored as the nearest `long`. -/
def scanLong (text : List Char) : Option Int :=
  let (negative, body) := PythonText.sign (text.dropWhile isspace)
  let digits := body.takeWhile Char.isDigit
  if digits = [] then none
  else
    let magnitude : Int := Nat.ofDigitChars 10 digits 0
    some (max longMin (min longMax (if negative then -magnitude else magnitude)))

theorem throughNewline_eq_self : ∀ text : List Char, '\n' ∉ text → throughNewline text = text := by
  intro text
  induction text with
  | nil => intro _; rfl
  | cons character rest ih =>
      intro absent
      have differs : character ≠ '\n' := fun same => absent (same ▸ List.mem_cons_self)
      rw [throughNewline, if_neg differs, ih fun member => absent (List.mem_cons_of_mem _ member)]

theorem throughNewline_append : ∀ line rest : List Char, '\n' ∉ line →
    throughNewline (line ++ '\n' :: rest) = line ++ ['\n'] := by
  intro line rest
  induction line with
  | nil => intro _; simp [throughNewline]
  | cons character more ih =>
      intro absent
      have differs : character ≠ '\n' := fun same => absent (same ▸ List.mem_cons_self)
      rw [List.cons_append, throughNewline, if_neg differs,
        ih fun member => absent (List.mem_cons_of_mem _ member)]
      rfl

theorem apart_isspace : NumberText.Apart isspace := by
  refine ⟨by decide, by decide, ?_⟩
  intro digit isDigit
  have notSpace := PythonText.isSpace_of_isDigit isDigit
  simp only [PythonText.isSpace, isspace, Bool.or_eq_false_iff, decide_eq_false_iff_not]
    at notSpace ⊢
  omega

theorem isSpace_of_isspace {character : Char} (blank : isspace character = true) :
    PythonText.isSpace character = true := by
  simp only [isspace, PythonText.isSpace, Bool.or_eq_true, decide_eq_true_eq] at blank ⊢
  omega

theorem fgets_line {size : Nat} {line newline : List Char} (nonempty : line ≠ [])
    (short : line.length < size) (isNewline : newline = [] ∨ newline = ['\n'])
    (inLine : '\n' ∉ line) :
    fgets size (line ++ newline) = some line ∨
      fgets size (line ++ newline) = some (line ++ ['\n']) := by
  have notEmpty : line ++ newline ≠ [] := by simp [nonempty]
  have cut : (line ++ newline).take (size - 1) = line ∨
      (line ++ newline).take (size - 1) = line ++ ['\n'] := by
    rw [List.take_append, List.take_of_length_le (by omega)]
    rcases isNewline with rfl | rfl
    · exact Or.inl (by simp)
    · cases room : size - 1 - line.length with
      | zero => exact Or.inl (by simp)
      | succ more => exact Or.inr (by simp)
  rw [fgets, if_neg notEmpty]
  rcases cut with bare | ended
  · rw [bare, throughNewline_eq_self line inLine]
    exact Or.inl rfl
  · rw [ended, throughNewline_append line [] inLine]
    exact Or.inr rfl

theorem scanLong_of_number {lead mark digits trail : List Char}
    (blanks : ∀ character ∈ lead, isspace character = true) (isSign : NumberText.IsSign mark)
    (nonempty : digits ≠ []) (allDigits : ∀ character ∈ digits, character.isDigit = true)
    (stops : ∀ character ∈ trail.head?, character.isDigit = false)
    (lower : longMin ≤ NumberText.signed mark digits)
    (upper : NumberText.signed mark digits ≤ longMax) :
    scanLong (lead ++ mark ++ digits ++ trail) = some (NumberText.signed mark digits) := by
  have taken := (PythonText.takeWhile_digits trail allDigits stops).1
  have read : PythonText.sign ((lead ++ mark ++ digits ++ trail).dropWhile isspace) =
      (decide (mark = ['-']), digits ++ trail) := by
    cases digits with
    | nil => exact absurd rfl nonempty
    | cons digit more =>
        have isDigit := allDigits digit List.mem_cons_self
        rw [List.append_assoc, List.cons_append,
          NumberText.dropWhile_lead apart_isspace blanks isSign isDigit,
          NumberText.sign_mark isSign isDigit]
  unfold scanLong
  rw [read]
  dsimp only
  rw [taken, if_neg nonempty]
  simp only [decide_eq_true_eq]
  rw [← NumberText.signed, min_eq_right upper, max_eq_right lower]

/-- `%ld` asks for the beginning of a number, and reads on no further. -/
theorem scanLong_eq_none_iff (text : List Char) :
    scanLong text = none ↔ ¬ NumberText.BeginsWithNumber isspace text := by
  rw [NumberText.beginsWithNumber_iff apart_isspace, not_not]
  unfold scanLong
  dsimp only
  split
  · rename_i empty
    exact iff_of_true rfl empty
  · rename_i nonempty
    exact iff_of_false (by simp) nonempty

end Msp.Library.CText
