import Msp.Library.JsonRoundTrip

/-!
# A text that is read is read the same when more follows it

For a number only where something behind it ends it; in an array or an object
that is so.  Hence no front of the text of an object reads as anything else.
-/

set_option autoImplicit false

namespace Msp.Library.Json

variable {text rest : List Char} (more : List Char)

theorem scanUnit_append {unit : ℕ} (read : scanUnit text = some (unit, rest)) :
    scanUnit (text ++ more) = some (unit, rest ++ more) := by
  unfold scanUnit at read
  split at read
  · simp only [Option.bind_eq_bind, Option.bind_eq_some_iff, Option.some.injEq,
      Prod.mk.injEq] at read
    obtain ⟨a, isA, b, isB, c, isC, d, isD, value, rfl⟩ := read
    simp [scanUnit, isA, isB, isC, isD, value]
  · cases read

theorem scanLow_append {low : ℕ} (read : scanLow text = some (low, rest)) :
    scanLow (text ++ more) = some (low, rest ++ more) := by
  unfold scanLow at read
  split at read
  · obtain ⟨unit, found, inside⟩ := Option.bind_eq_some_iff.mp read
    split at inside
    · rename_i bounds
      cases inside
      rw [List.cons_append, List.cons_append, scanLow, scanUnit_append more found,
        Option.bind_some, if_pos bounds]
    · cases inside
  · cases read

theorem scanEscaped_append {character : Char} (read : scanEscaped text = some (character, rest)) :
    scanEscaped (text ++ more) = some (character, rest ++ more) := by
  obtain ⟨unit, found, inside⟩ := Option.bind_eq_some_iff.mp read
  rw [scanEscaped, scanUnit_append more found, Option.bind_some]
  split at inside
  · rename_i high
    obtain ⟨low, second, same⟩ := Option.map_eq_some_iff.mp inside
    obtain ⟨isCharacter, isRest⟩ := Prod.mk.inj same
    rw [if_pos high, scanLow_append more second, Option.map_some, isCharacter, isRest]
  · rename_i notHigh
    split at inside
    · cases inside
    · rename_i notLow
      obtain ⟨isCharacter, isRest⟩ := Prod.mk.inj (Option.some.inj inside)
      rw [if_neg notHigh, if_neg notLow, isCharacter, isRest]

theorem scanEscape_append {character : Char} (read : scanEscape text = some (character, rest)) :
    scanEscape (text ++ more) = some (character, rest ++ more) := by
  unfold scanEscape at read
  split at read
  case h_9 body => exact scanEscaped_append more read
  case h_10 => cases read
  all_goals
    cases read
    rfl

theorem scanString_append : ∀ {fuel wider : ℕ} {text string rest : List Char}, fuel ≤ wider →
    scanString fuel text = some (string, rest) →
      scanString wider (text ++ more) = some (string, rest ++ more) := by
  intro fuel
  induction fuel with
  | zero => nofun
  | succ fuel ih =>
      intro wider text string rest enough read
      obtain ⟨wider, rfl⟩ := Nat.exists_eq_add_one_of_ne_zero (show wider ≠ 0 by omega)
      have smaller : fuel ≤ wider := Nat.le_of_succ_le_succ enough
      cases text with
      | nil => cases read
      | cons character body =>
          rw [List.cons_append]
          by_cases quote : character = '"'
          · subst quote
            cases read
            rfl
          by_cases backslash : character = '\\'
          · subst backslash
            rw [scanString] at read ⊢
            obtain ⟨found, first, last⟩ := Option.bind_eq_some_iff.mp read
            obtain ⟨others, later, same⟩ := Option.map_eq_some_iff.mp last
            cases same
            rw [scanEscape_append more first, Option.bind_some, ih smaller later]
            rfl
          · rw [scanString.eq_5 _ _ _ quote backslash] at read ⊢
            split at read
            · cases read
            · rename_i printable
              obtain ⟨others, later, same⟩ := Option.map_eq_some_iff.mp read
              cases same
              rw [if_neg printable, ih smaller later]
              rfl

theorem mem_digits (text : List Char) :
    ∀ character ∈ (digits text).1, character.isDigit = true :=
  fun _ member => List.mem_takeWhile_imp member

theorem digits_append (text : List Char) : (digits text).1 ++ (digits text).2 = text :=
  List.takeWhile_append_dropWhile

theorem isNatural_of_scan {natural : List Char} (read : scanNatural text = some (natural, rest)) :
    IsNatural natural ∧ text = natural ++ rest := by
  unfold scanNatural at read
  split at read
  · cases read
  · rename_i first body
    split at read
    · rename_i zero
      cases read
      exact ⟨.zero, by rw [zero]; rfl⟩
    · rename_i nonzero
      split at read
      · rename_i digit
        cases read
        refine ⟨.number nonzero fun character member => ?_, ?_⟩
        · rcases List.mem_cons.mp member with rfl | later
          · exact digit
          · exact mem_digits body character later
        · rw [List.cons_append, digits_append]
      · cases read

theorem isInteger_of_scan {integer : List Char} (read : scanInteger text = some (integer, rest)) :
    IsInteger integer ∧ text = integer ++ rest := by
  unfold scanInteger at read
  split at read
  · obtain ⟨found, first, same⟩ := Option.map_eq_some_iff.mp read
    cases same
    obtain ⟨isNatural, rfl⟩ := isNatural_of_scan first
    exact ⟨.negative isNatural, rfl⟩
  · obtain ⟨isNatural, same⟩ := isNatural_of_scan read
    exact ⟨.nonnegative isNatural, same⟩

theorem isFraction_of_scan (text : List Char) :
    IsFraction (scanFraction text).1 ∧ text = (scanFraction text).1 ++ (scanFraction text).2 := by
  unfold scanFraction
  split
  · rename_i body
    split
    · exact ⟨.absent, rfl⟩
    · rename_i nonempty
      exact ⟨.present nonempty (mem_digits body), by rw [List.cons_append, digits_append]⟩
  · exact ⟨.absent, rfl⟩

theorem isSign_of_scan (text : List Char) :
    ((scanSign text).1 = [] ∨ (scanSign text).1 = ['-'] ∨ (scanSign text).1 = ['+']) ∧
      text = (scanSign text).1 ++ (scanSign text).2 := by
  unfold scanSign
  split
  · exact ⟨Or.inr (Or.inl rfl), rfl⟩
  · exact ⟨Or.inr (Or.inr rfl), rfl⟩
  · exact ⟨Or.inl rfl, rfl⟩

theorem isExponent_of_scan (text : List Char) :
    IsExponent (scanExponent text).1 ∧
      text = (scanExponent text).1 ++ (scanExponent text).2 := by
  cases text with
  | nil => exact ⟨.absent, rfl⟩
  | cons first body =>
      obtain ⟨isSign, whole⟩ := isSign_of_scan body
      simp only [scanExponent]
      split_ifs with mark none
      · exact ⟨.absent, rfl⟩
      · refine ⟨.present mark isSign none (mem_digits _), ?_⟩
        rw [List.cons_append, List.append_assoc, digits_append, ← whole]
      · exact ⟨.absent, rfl⟩

theorem isNumber_of_scan {integer tail : List Char}
    (read : scanNumber text = some (integer, tail, rest)) :
    ∃ fraction exponent, IsInteger integer ∧ IsFraction fraction ∧ IsExponent exponent ∧
      tail = fraction ++ exponent ∧ text = integer ++ (fraction ++ (exponent ++ rest)) := by
  obtain ⟨found, first, same⟩ := Option.map_eq_some_iff.mp read
  obtain ⟨isInteger, whole⟩ := isInteger_of_scan first
  obtain ⟨isFraction, afterInteger⟩ := isFraction_of_scan found.2
  obtain ⟨isExponent, afterFraction⟩ := isExponent_of_scan (scanFraction found.2).2
  cases same
  refine ⟨_, _, isInteger, isFraction, isExponent, rfl, ?_⟩
  rw [← afterFraction, ← afterInteger]
  exact whole

/-- What stands behind a number ends it. -/
def Closed (rest : List Char) : Prop := rest ≠ [] ∧ Stops rest

theorem Closed.stops_append (closed : Closed rest) : Stops (rest ++ more) := by
  obtain ⟨nonempty, stops⟩ := closed
  obtain ⟨first, body, rfl⟩ := List.exists_cons_of_ne_nil nonempty
  exact stops

theorem scanNumber_append {integer tail : List Char} (closed : Closed rest)
    (read : scanNumber text = some (integer, tail, rest)) :
    scanNumber (text ++ more) = some (integer, tail, rest ++ more) := by
  obtain ⟨fraction, exponent, isInteger, isFraction, isExponent, rfl, rfl⟩ :=
    isNumber_of_scan read
  have scanned := scanNumber_number isInteger isFraction isExponent (closed.stops_append more)
  simpa only [List.append_assoc] using scanned

section Values
variable {F : Type} {floatOf : List Char → F}

theorem word_of_scan {value : Value F} (read : scanWord floatOf text = some (value, rest)) :
    ∃ word ∈ words, text = word ++ rest ∧ value = .float (floatOf word) := by
  obtain ⟨word, found, same⟩ := Option.map_eq_some_iff.mp read
  cases same
  have isPrefix := List.find?_some found
  obtain ⟨behind, rfl⟩ := List.isPrefixOf_iff_prefix.mp isPrefix
  exact ⟨word, List.mem_of_find?_eq_some found, by rw [List.drop_left], rfl⟩

theorem scanNumberOrWord_append {value : Value F} (closed : Closed rest)
    (read : scanNumberOrWord floatOf text = some (value, rest)) :
    scanNumberOrWord floatOf (text ++ more) = some (value, rest ++ more) := by
  unfold scanNumberOrWord at read ⊢
  cases scanned : scanNumber text with
  | some found =>
      obtain ⟨integer, tail, behind⟩ := found
      rw [scanned] at read
      have sameRest : behind = rest := by
        cases tail with
        | nil => exact (Prod.mk.inj (Option.some.inj read)).2
        | cons first body => exact (Prod.mk.inj (Option.some.inj read)).2
      subst sameRest
      rw [scanNumber_append more closed scanned]
      cases tail with
      | nil => rw [← (Prod.mk.inj (Option.some.inj read)).1]
      | cons first body => rw [← (Prod.mk.inj (Option.some.inj read)).1]
  | none =>
      rw [scanned] at read
      obtain ⟨word, known, rfl, rfl⟩ := word_of_scan read
      rw [List.append_assoc, scanNumber_word known]
      simp only [scanWord, find_word known, Option.map_some, List.drop_left]

/-! ## Values -/

theorem skip_append (read : skip text ≠ []) : skip (text ++ more) = skip text ++ more := by
  unfold skip at read ⊢
  rw [List.dropWhile_append, if_neg]
  simpa using read

theorem closed_of_skip {first : Char} (ends : first = ',' ∨ first = ']' ∨ first = '}')
    (read : skip text = first :: rest) : Closed text := by
  cases text with
  | nil => cases read
  | cons head body =>
      refine ⟨List.cons_ne_nil _ _, ?_⟩
      by_cases space : isSpace head = true
      · have among := of_decide_eq_true space
        simp only [List.mem_cons, List.not_mem_nil, or_false] at among
        rintro _ ⟨⟩
        rcases among with rfl | rfl | rfl | rfl <;> decide
      · rw [skip_cons (by simpa using space)] at read
        cases read
        exact stops_cons ends rest

def Value.IsNumber : Value F → Prop
  | .int _ => True
  | .float _ => True
  | _ => False

theorem opens_of_scan {value : Value F} (read : scanNumberOrWord floatOf text = some (value, rest)) :
    ∃ first body, text = first :: body ∧ OpensNumber first := by
  unfold scanNumberOrWord at read
  cases scanned : scanNumber text with
  | some found =>
      obtain ⟨integer, tail, behind⟩ := found
      obtain ⟨fraction, exponent, isInteger, _, _, _, rfl⟩ := isNumber_of_scan scanned
      obtain ⟨first, body, same, opens⟩ := isInteger.opens
      exact ⟨first, _, by rw [same, List.cons_append], opens⟩
  | none =>
      rw [scanned] at read
      obtain ⟨word, known, rfl, rfl⟩ := word_of_scan read
      obtain ⟨first, body, same, opens⟩ := (IsFloat.word known).opens
      exact ⟨first, _, by rw [same, List.cons_append], opens⟩

theorem numeric_of_scan {value : Value F}
    (read : scanNumberOrWord floatOf text = some (value, rest)) : value.IsNumber := by
  unfold scanNumberOrWord at read
  split at read
  · cases read
    trivial
  · cases read
    trivial
  · obtain ⟨word, -, -, rfl⟩ := word_of_scan read
    trivial

theorem scanOnce_nil (fuel : ℕ) : scanOnce floatOf fuel [] = none := by
  cases fuel with
  | zero => rw [scanOnce]
  | succ fuel => rw [scanOnce]

theorem scanElements_nil (fuel : ℕ) : scanElements floatOf fuel [] = none := by
  cases fuel with
  | zero => rw [scanElements]
  | succ fuel => rw [scanElements, scanOnce_nil, Option.bind_none]

theorem ne_nil_of_scanOnce {fuel : ℕ} {found : Value F × List Char}
    (read : scanOnce floatOf fuel text = some found) : text ≠ [] := by
  rintro rfl
  rw [scanOnce_nil] at read
  cases read

theorem ne_nil_of_scanElements {fuel : ℕ} {found : List (Value F) × List Char}
    (read : scanElements floatOf fuel text = some found) : text ≠ [] := by
  rintro rfl
  rw [scanElements_nil] at read
  cases read

mutual

theorem scanOnce_append : ∀ {fuel wider : ℕ} {text rest : List Char} {value : Value F},
    fuel ≤ wider → (value.IsNumber → Closed rest) →
      scanOnce floatOf fuel text = some (value, rest) →
        scanOnce floatOf wider (text ++ more) = some (value, rest ++ more)
  | 0, _, _, _, _, _, _, read => nomatch read
  | fuel + 1, 0, _, _, _, enough, _, _ => absurd enough (by omega)
  | fuel + 1, wider + 1, text, rest, value, enough, closed, read => by
      have smaller : fuel ≤ wider := Nat.le_of_succ_le_succ enough
      rw [scanOnce.eq_def] at read
      split at read
      · cases read
      · cases read
      · rename_i body same
        cases same
        obtain ⟨found, first, last⟩ := Option.map_eq_some_iff.mp read
        cases last
        rw [List.cons_append, scanOnce, scanString_append more smaller first]
        rfl
      · rename_i body same
        cases same
        rw [List.cons_append, scanOnce]
        split at read
        · rename_i behind skipped
          cases read
          rw [skip_append more (by simp [skipped]), skipped]
          rfl
        · rename_i behind skipped
          obtain ⟨found, first, last⟩ := Option.map_eq_some_iff.mp read
          cases last
          have later := scanMembers_append smaller first
          rw [skip_append more (by simp [skipped]), skipped]
          simp only [List.cons_append, later, Option.map_some]
        · cases read
      · rename_i body same
        cases same
        rw [List.cons_append, scanOnce]
        split at read
        · rename_i behind skipped
          cases read
          rw [skip_append more (by simp [skipped]), skipped]
          rfl
        · rename_i notEnd
          obtain ⟨found, first, last⟩ := Option.map_eq_some_iff.mp read
          cases last
          have later := scanElements_append smaller first
          have nonempty := ne_nil_of_scanElements first
          rw [skip_append more nonempty]
          obtain ⟨head, behind, shape⟩ := List.exists_cons_of_ne_nil nonempty
          rw [shape, List.cons_append] at later ⊢
          split
          · rename_i isEnd
            exact absurd (shape.trans (congrArg (· :: behind) (List.cons.inj isEnd).1)) (notEnd _)
          · rw [later]
            rfl
      · rename_i same
        cases same
        cases read
        rfl
      · rename_i same
        cases same
        cases read
        rfl
      · rename_i same
        cases same
        cases read
        rfl
      · obtain ⟨first, body, rfl, opens⟩ := opens_of_scan read
        have numeric := numeric_of_scan read
        rw [List.cons_append, scanOnce_number floatOf opens, ← List.cons_append]
        exact scanNumberOrWord_append more (closed numeric) read

theorem scanMembers_append : ∀ {fuel wider : ℕ} {text rest : List Char}
    {members : List (List Char × Value F)}, fuel ≤ wider →
      scanMembers floatOf fuel text = some (members, rest) →
        scanMembers floatOf wider (text ++ more) = some (members, rest ++ more)
  | 0, _, _, _, _, _, read => nomatch read
  | fuel + 1, 0, _, _, _, enough, _ => absurd enough (by omega)
  | fuel + 1, wider + 1, text, rest, members, enough, read => by
      have smaller : fuel ≤ wider := Nat.le_of_succ_le_succ enough
      rw [scanMembers] at read ⊢
      obtain ⟨key, scanned, afterKey⟩ := Option.bind_eq_some_iff.mp read
      rw [scanString_append more smaller scanned, Option.bind_some]
      split at afterKey
      · rename_i body colon
        obtain ⟨value, first, afterValue⟩ := Option.bind_eq_some_iff.mp afterKey
        have nonempty := ne_nil_of_scanOnce first
        have closed : Closed value.2 := by
          split at afterValue
          · rename_i ended
            exact closed_of_skip (Or.inr (Or.inr rfl)) ended
          · rename_i comma
            exact closed_of_skip (Or.inl rfl) comma
          · cases afterValue
        have later := scanOnce_append smaller (fun _ => closed) first
        rw [skip_append more (by simp [colon]), colon]
        simp only [List.cons_append, skip_append more nonempty, later, Option.bind_some]
        split at afterValue
        · rename_i behind ended
          cases afterValue
          rw [skip_append more (by simp [ended]), ended]
          rfl
        · rename_i behind comma
          rw [skip_append more (by simp [comma]), comma]
          simp only [List.cons_append]
          split at afterValue
          · rename_i _ quote
            obtain ⟨others, last, same⟩ := Option.map_eq_some_iff.mp afterValue
            cases same
            have ending := scanMembers_append smaller last
            rw [skip_append more (by simp [quote]), quote]
            simp only [List.cons_append, ending, Option.map_some]
          · cases afterValue
        · cases afterValue
      · cases afterKey

theorem scanElements_append : ∀ {fuel wider : ℕ} {text rest : List Char}
    {elements : List (Value F)}, fuel ≤ wider →
      scanElements floatOf fuel text = some (elements, rest) →
        scanElements floatOf wider (text ++ more) = some (elements, rest ++ more)
  | 0, _, _, _, _, _, read => nomatch read
  | fuel + 1, 0, _, _, _, enough, _ => absurd enough (by omega)
  | fuel + 1, wider + 1, text, rest, elements, enough, read => by
      have smaller : fuel ≤ wider := Nat.le_of_succ_le_succ enough
      rw [scanElements] at read ⊢
      obtain ⟨value, first, afterValue⟩ := Option.bind_eq_some_iff.mp read
      have closed : Closed value.2 := by
        split at afterValue
        · rename_i ended
          exact closed_of_skip (Or.inr (Or.inl rfl)) ended
        · rename_i comma
          exact closed_of_skip (Or.inl rfl) comma
        · cases afterValue
      rw [scanOnce_append smaller (fun _ => closed) first, Option.bind_some]
      split at afterValue
      · rename_i behind ended
        cases afterValue
        rw [skip_append more (by simp [ended]), ended]
        rfl
      · rename_i behind comma
        obtain ⟨others, last, same⟩ := Option.map_eq_some_iff.mp afterValue
        cases same
        have nonempty := ne_nil_of_scanElements last
        have later := scanElements_append smaller last
        rw [skip_append more (by simp [comma]), comma]
        simp only [List.cons_append, skip_append more nonempty, later, Option.map_some]
      · cases afterValue

end

theorem object_of_loads {value : Value F} (read : loads floatOf ('{' :: text) = some value) :
    ∃ members, value = .object members := by
  obtain ⟨found, scanned, ended⟩ := Option.bind_eq_some_iff.mp read
  split at ended
  · rw [← Option.some.inj ended]
    rw [skip_cons (show isSpace '{' = false by rfl), scanOnce] at scanned
    split at scanned
    · cases scanned
      exact ⟨_, rfl⟩
    · obtain ⟨members, -, same⟩ := Option.map_eq_some_iff.mp scanned
      cases same
      exact ⟨_, rfl⟩
    · cases scanned
  · cases ended

/-- The front of a text that reads as an object reads as that object or not at all. -/
theorem loads_front {front : List Char} {members : List (List Char × Value F)} {value : Value F}
    (read : loads floatOf front = some (.object members))
    (whole : loads floatOf (front ++ more) = some value) : value = .object members := by
  obtain ⟨found, scanned, ended⟩ := Option.bind_eq_some_iff.mp read
  have nonempty := ne_nil_of_scanOnce scanned
  split at ended
  · have same := Option.some.inj ended
    have enough : front.length + 1 ≤ (front ++ more).length + 1 := by
      rw [List.length_append]
      omega
    have longer := scanOnce_append more enough
      (fun number => by simp [same, Value.IsNumber] at number) scanned
    rw [loads, skip_append more nonempty, longer, Option.bind_some] at whole
    split at whole
    · rw [← same]
      exact (Option.some.inj whole).symm
    · cases whole
  · cases ended

end Values

end Msp.Library.Json
