import Mathlib.Data.List.Induction
import Mathlib.Tactic.Common

/-!
# What holds after a run, read off its history

A call leaves a record behind, say what it was and how it ended.  Where a call
makes something hold, keeps it, or ends it, as its record tells, that holds
after a run exactly when the history has a record that made it hold and none
behind that which ended it.
-/

set_option autoImplicit false

namespace Msp.Library.History

section History
variable {State Call Record : Type*} (next : State → Call → State) (record : State → Call → Record)

def history : State → List Call → List Record
  | _, [] => []
  | state, call :: rest => record state call :: history (next state call) rest

theorem history_concat (call : Call) : ∀ (calls : List Call) (start : State),
    history next record start (calls ++ [call]) =
      history next record start calls ++ [record (calls.foldl next start) call] := by
  intro calls
  induction calls with
  | nil => intro start; rfl
  | cons first rest ih =>
      intro start
      rw [List.cons_append, history, ih (next start first)]
      rfl

/-- A record of the first kind, and none of the second kind behind it. -/
def Since (did undone : Record → Prop) (records : List Record) : Prop :=
  ∃ before event after, records = before ++ event :: after ∧ did event ∧
    ∀ later ∈ after, ¬ undone later

variable {did undone : Record → Prop}

theorem not_since_nil : ¬ Since did undone [] := by
  rintro ⟨before, event, after, split, -⟩
  exact absurd split (by simp)

theorem since_concat (records : List Record) (last : Record) :
    Since did undone (records ++ [last]) ↔
      did last ∨ (Since did undone records ∧ ¬ undone last) := by
  constructor
  · rintro ⟨before, event, after, split, made, kept⟩
    rcases List.eq_nil_or_concat after with rfl | ⟨front, final, rfl⟩
    · have isLast := (List.append_inj' split rfl).2
      cases isLast
      exact Or.inl made
    · rw [List.concat_eq_append] at split kept
      rw [← List.cons_append, ← List.append_assoc] at split
      obtain ⟨isFront, isLast⟩ := List.append_inj' split rfl
      cases isLast
      refine Or.inr ⟨⟨before, event, front, isFront, made, fun later member => ?_⟩, ?_⟩
      · exact kept later (List.mem_append_left _ member)
      · exact kept last (List.mem_append_right _ List.mem_cons_self)
  · rintro (made | ⟨⟨before, event, after, rfl, made, kept⟩, keeps⟩)
    · exact ⟨records, last, [], rfl, made, by simp⟩
    · refine ⟨before, event, after ++ [last], by simp, made, fun later member => ?_⟩
      rcases List.mem_append.mp member with earlier | isLast
      · exact kept later earlier
      · rw [List.mem_singleton.mp isLast]
        exact keeps

/-- The rule: one step says how a call changes whether it holds. -/
theorem holds_iff_since {invariant : State → Prop} (holds : State → Prop) {start : State}
    (sound : invariant start) (kept : ∀ state call, invariant state → invariant (next state call))
    (notYet : ¬ holds start)
    (step : ∀ state call, invariant state →
      (holds (next state call) ↔
        did (record state call) ∨ (holds state ∧ ¬ undone (record state call))))
    (calls : List Call) :
    holds (calls.foldl next start) ↔ Since did undone (history next record start calls) := by
  have everywhere : ∀ calls : List Call, invariant (calls.foldl next start) := by
    intro calls
    refine List.foldlRecOn calls next sound fun state holdsHere call _ => kept state call holdsHere
  induction calls using List.reverseRecOn with
  | nil => exact iff_of_false notYet not_since_nil
  | append_singleton calls call ih =>
      rw [List.foldl_append, history_concat, since_concat]
      exact (step _ call (everywhere calls)).trans (or_congr_right (and_congr_left' ih))

end History

end Msp.Library.History
