import Mathlib.Algebra.BigOperators.Group.List.Basic
import Mathlib.Algebra.GroupWithZero.Nat
import Mathlib.Order.Interval.Finset.Nat
import Mathlib.Tactic.Common

/-!
# Ranges of a bounded address space

Live allocations occupy pairwise disjoint ranges of one address space, so their
lengths add up to no more than the space has.  This is what keeps a machine
word that sums them from wrapping.
-/

set_option autoImplicit false

namespace Msp.Library.AddressRange

structure Range where
  start : Nat
  length : Nat
  deriving DecidableEq, Repr

def Range.Apart (left right : Range) : Prop :=
  left.start + left.length ≤ right.start ∨ right.start + right.length ≤ left.start

instance (left right : Range) : Decidable (left.Apart right) :=
  inferInstanceAs (Decidable (_ ∨ _))

def Range.Inside (low high : Nat) (range : Range) : Prop :=
  low ≤ range.start ∧ range.start + range.length ≤ high

instance (low high : Nat) (range : Range) : Decidable (range.Inside low high) :=
  inferInstanceAs (Decidable (_ ∧ _))

def Range.addresses (range : Range) : Finset Nat :=
  Finset.Ico range.start (range.start + range.length)

def cover : List Range → Finset Nat
  | [] => ∅
  | range :: rest => range.addresses ∪ cover rest

theorem Range.addresses_disjoint {left right : Range} (apart : left.Apart right) :
    Disjoint left.addresses right.addresses := by
  rw [Finset.disjoint_left]
  intro address inLeft inRight
  simp only [Range.addresses, Finset.mem_Ico] at inLeft inRight
  rcases apart with before | after <;> omega

theorem disjoint_cover (range : Range) : ∀ rest : List Range,
    (∀ other ∈ rest, range.Apart other) → Disjoint range.addresses (cover rest) := by
  intro rest
  induction rest with
  | nil => intro _; exact Finset.disjoint_empty_right _
  | cons head tail ih =>
      intro apart
      rw [cover, Finset.disjoint_union_right]
      exact ⟨Range.addresses_disjoint (apart head List.mem_cons_self),
        ih fun other member => apart other (List.mem_cons_of_mem head member)⟩

theorem card_cover : ∀ ranges : List Range, ranges.Pairwise Range.Apart →
    (cover ranges).card = (ranges.map Range.length).sum := by
  intro ranges
  induction ranges with
  | nil => intro _; rfl
  | cons range rest ih =>
      intro apart
      rw [List.pairwise_cons] at apart
      rw [cover, Finset.card_union_of_disjoint (disjoint_cover range rest apart.1),
        ih apart.2]
      simp [Range.addresses]

theorem cover_subset (low high : Nat) : ∀ ranges : List Range,
    (∀ range ∈ ranges, range.Inside low high) → cover ranges ⊆ Finset.Ico low high := by
  intro ranges
  induction ranges with
  | nil => intro _; exact Finset.empty_subset _
  | cons range rest ih =>
      intro inside
      have headInside := inside range List.mem_cons_self
      rw [cover, Finset.union_subset_iff]
      refine ⟨?_, ih fun other member => inside other (List.mem_cons_of_mem range member)⟩
      exact Finset.Ico_subset_Ico headInside.1 headInside.2

/-- Disjoint ranges of `[low, high)` have at most `high - low` bytes together. -/
theorem sum_length_le (low high : Nat) (ranges : List Range)
    (apart : ranges.Pairwise Range.Apart)
    (inside : ∀ range ∈ ranges, range.Inside low high) :
    (ranges.map Range.length).sum ≤ high - low := by
  rw [← card_cover ranges apart, ← Nat.card_Ico low high]
  exact Finset.card_le_card (cover_subset low high ranges inside)

end Msp.Library.AddressRange
