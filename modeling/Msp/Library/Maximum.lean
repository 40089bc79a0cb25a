import Mathlib.Algebra.Order.Ring.Rat
import Msp.Library.FloatValue

/-!
# The maximum kept while going through a list

The loop is seeded with minus infinity and replaces what it keeps by a value
that compares greater.  What it keeps at the end depends on the values only,
not on their order.
-/

set_option autoImplicit false

namespace Msp.Library.Maximum

/-- `if (value > best) best = value;` -/
def higher (best : FloatValue) (value : ℚ) : FloatValue :=
  if (FloatValue.finite value).exceeds best then .finite value else best

def maximum (values : List ℚ) : FloatValue := values.foldl higher .negInf

@[simp] theorem higher_negInf (value : ℚ) : higher .negInf value = .finite value := rfl

theorem higher_finite (best value : ℚ) : higher (.finite best) value = .finite (max best value) := by
  unfold higher
  rw [FloatValue.exceeds_finite]
  by_cases greater : best < value
  · rw [if_pos (by simpa using greater), max_eq_right greater.le]
  · rw [if_neg (by simpa using greater), max_eq_left (not_lt.mp greater)]

theorem foldl_higher : ∀ (values : List ℚ) (best : ℚ), ∃ most,
    values.foldl higher (.finite best) = .finite most ∧ (most = best ∨ most ∈ values) ∧
      best ≤ most ∧ ∀ value ∈ values, value ≤ most := by
  intro values
  induction values with
  | nil => intro best; exact ⟨best, rfl, Or.inl rfl, le_refl best, by simp⟩
  | cons first rest ih =>
      intro best
      obtain ⟨most, folded, origin, above, bounds⟩ := ih (max best first)
      refine ⟨most, ?_, ?_, (le_max_left best first).trans above, ?_⟩
      · rw [List.foldl_cons, higher_finite]
        exact folded
      · rcases origin with same | later
        · rcases max_choice best first with isBest | isFirst
          · exact Or.inl (same.trans isBest)
          · exact Or.inr (same.trans isFirst ▸ List.mem_cons_self)
        · exact Or.inr (List.mem_cons_of_mem _ later)
      · intro value member
        rcases List.mem_cons.mp member with isFirst | later
        · rw [isFirst]
          exact (le_max_right best first).trans above
        · exact bounds value later

theorem maximum_eq_finite_iff {values : List ℚ} {most : ℚ} :
    maximum values = .finite most ↔ most ∈ values ∧ ∀ value ∈ values, value ≤ most := by
  cases values with
  | nil => simp [maximum]
  | cons first rest =>
      obtain ⟨kept, folded, origin, above, bounds⟩ := foldl_higher rest first
      have isKept : maximum (first :: rest) = .finite kept := by
        rw [maximum, List.foldl_cons, higher_negInf, folded]
      have keptMember : kept ∈ first :: rest := by
        rcases origin with same | later
        · exact same ▸ List.mem_cons_self
        · exact List.mem_cons_of_mem _ later
      have keptBounds : ∀ value ∈ first :: rest, value ≤ kept := by
        intro value member
        rcases List.mem_cons.mp member with isFirst | later
        · exact isFirst ▸ above
        · exact bounds value later
      rw [isKept, FloatValue.finite.injEq]
      constructor
      · rintro rfl
        exact ⟨keptMember, keptBounds⟩
      · rintro ⟨member, isBound⟩
        exact le_antisymm (isBound kept keptMember) (keptBounds most member)

theorem maximum_cons (first : ℚ) (rest : List ℚ) :
    maximum (first :: rest) = .finite (rest.foldl max first) := by
  rw [maximum, List.foldl_cons, higher_negInf]
  induction rest generalizing first with
  | nil => rfl
  | cons second rest ih => rw [List.foldl_cons, List.foldl_cons, higher_finite, ih]

theorem exists_maximum {values : List ℚ} (nonempty : values ≠ []) :
    ∃ most, maximum values = .finite most := by
  cases values with
  | nil => exact absurd rfl nonempty
  | cons first rest =>
      obtain ⟨most, folded, _⟩ := foldl_higher rest first
      exact ⟨most, folded⟩

theorem maximum_perm {values others : List ℚ} (samely : values.Perm others) :
    maximum values = maximum others := by
  by_cases nonempty : values = []
  · subst nonempty
    rw [List.nil_perm.mp samely]
  · obtain ⟨most, isMost⟩ := exists_maximum nonempty
    obtain ⟨member, bounds⟩ := maximum_eq_finite_iff.mp isMost
    rw [isMost, eq_comm, maximum_eq_finite_iff]
    exact ⟨samely.mem_iff.mp member, fun value isOther => bounds value (samely.mem_iff.mpr isOther)⟩

/-- The maximum passes a bound exactly when some value does. -/
theorem maximum_exceeds_iff (values : List ℚ) (bound : ℚ) :
    (maximum values).exceeds (.finite bound) = true ↔ ∃ value ∈ values, bound < value := by
  by_cases nonempty : values = []
  · subst nonempty
    simp [maximum, FloatValue.exceeds]
  · obtain ⟨most, isMost⟩ := exists_maximum nonempty
    obtain ⟨member, bounds⟩ := maximum_eq_finite_iff.mp isMost
    rw [isMost, FloatValue.exceeds_finite, decide_eq_true_eq]
    constructor
    · exact fun above => ⟨most, member, above⟩
    · rintro ⟨value, isValue, above⟩
      exact above.trans_le (bounds value isValue)

end Msp.Library.Maximum
