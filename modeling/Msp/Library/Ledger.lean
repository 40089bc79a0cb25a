import Mathlib.Data.List.Basic
import Mathlib.Tactic.Common

/-!
# Ledgers of handles handed out and given back

A log of acquisitions and releases, oldest first.  A handle may be handed out
again after its release, so what the log says of it is a question about the
last event that concerns it: `holder` is the owner still holding a handle.  A
release names the owner it was made for, if it was made for one.
-/

set_option autoImplicit false

namespace Msp.Library.Ledger

inductive Event (Owner Handle : Type) where
  | acquired (owner : Owner) (handle : Handle)
  | released (owner? : Option Owner) (handle : Handle)
  deriving DecidableEq, Repr

variable {Owner Handle : Type}

def Event.handle : Event Owner Handle → Handle
  | .acquired _ handle => handle
  | .released _ handle => handle

section Holder
variable [DecidableEq Handle]

def Event.update (handle : Handle) (held : Option Owner) : Event Owner Handle → Option Owner
  | .acquired owner other => if other = handle then some owner else held
  | .released _ other => if other = handle then none else held

def holder (log : List (Event Owner Handle)) (handle : Handle) : Option Owner :=
  log.foldl (Event.update handle) none

@[simp] theorem holder_nil (handle : Handle) :
    holder ([] : List (Event Owner Handle)) handle = none := rfl

theorem holder_append (log more : List (Event Owner Handle)) (handle : Handle) :
    holder (log ++ more) handle = more.foldl (Event.update handle) (holder log handle) :=
  List.foldl_append

theorem holder_append_acquired (log : List (Event Owner Handle)) (owner : Owner)
    (other handle : Handle) :
    holder (log ++ [.acquired owner other]) handle =
      if other = handle then some owner else holder log handle := by
  rw [holder_append]
  rfl

theorem holder_append_released (owner? : Option Owner) (handles : List Handle)
    (handle : Handle) : ∀ log : List (Event Owner Handle),
      holder (log ++ handles.map (.released owner?)) handle =
        if handle ∈ handles then none else holder log handle := by
  induction handles with
  | nil => intro log; simp
  | cons other rest ih =>
      intro log
      have one : holder (log ++ [.released owner? other]) handle =
          if other = handle then none else holder log handle := by
        rw [holder_append]
        rfl
      have split : log ++ (other :: rest).map (.released owner?) =
          (log ++ [.released owner? other]) ++ rest.map (.released owner?) := by simp
      rw [split, ih, one]
      by_cases same : other = handle
      · subst same
        simp
      · simp [same, Ne.symm same]

theorem foldl_untouched {log : List (Event Owner Handle)} {handle : Handle}
    (untouched : ∀ event ∈ log, event.handle ≠ handle) (held : Option Owner) :
    log.foldl (Event.update handle) held = held := by
  induction log with
  | nil => rfl
  | cons event rest ih =>
      have differs := untouched event (List.mem_cons_self ..)
      have unchanged : Event.update handle held event = held := by
        cases event with
        | acquired owner other => exact if_neg differs
        | released owner? other => exact if_neg differs
      rw [List.foldl_cons, unchanged]
      exact ih fun other member => untouched other (List.mem_cons_of_mem _ member)

/-- Nothing is handed out while somebody holds it. -/
def HandsOutFree (log : List (Event Owner Handle)) : Prop :=
  ∀ before owner handle after, log = before ++ .acquired owner handle :: after →
    holder before handle = none

/-- Whatever is released was held until then, by the owner it is released for. -/
def ReleasesHeld (log : List (Event Owner Handle)) : Prop :=
  ∀ before owner? handle after, log = before ++ .released owner? handle :: after →
    ∃ owner, holder before handle = some owner ∧ (owner? = none ∨ owner? = some owner)

/-- Whatever is handed out is released, before anything else happens to it. -/
def ReleasesAll (log : List (Event Owner Handle)) : Prop :=
  ∀ before owner handle after, log = before ++ .acquired owner handle :: after →
    ∃ middle owner? rest, after = middle ++ .released owner? handle :: rest ∧
      ∀ event ∈ middle, event.handle ≠ handle

omit [DecidableEq Handle] in
theorem snoc_eq_append_cons {log before after : List (Event Owner Handle)}
    {event other : Event Owner Handle} (split : log ++ [event] = before ++ other :: after) :
    (log = before ∧ event = other ∧ after = []) ∨
      ∃ init, log = before ++ other :: init ∧ after = init ++ [event] := by
  rcases List.eq_nil_or_concat after with empty | ⟨init, last, isLast⟩
  · subst empty
    obtain ⟨same, lastSame⟩ := List.append_inj' split rfl
    cases lastSame
    exact Or.inl ⟨same, rfl, rfl⟩
  · subst isLast
    have regrouped : log ++ [event] = (before ++ other :: init) ++ [last] := by
      simpa using split
    obtain ⟨same, lastSame⟩ := List.append_inj' regrouped rfl
    cases lastSame
    exact Or.inr ⟨init, same, by simp⟩

theorem handsOutFree_nil : HandsOutFree ([] : List (Event Owner Handle)) := by
  intro before owner handle after split
  simp at split

theorem releasesHeld_nil : ReleasesHeld ([] : List (Event Owner Handle)) := by
  intro before owner? handle after split
  simp at split

theorem HandsOutFree.acquire {log : List (Event Owner Handle)} (lawful : HandsOutFree log)
    (owner : Owner) {handle : Handle} (free : holder log handle = none) :
    HandsOutFree (log ++ [.acquired owner handle]) := by
  intro before other given after split
  rcases snoc_eq_append_cons split with ⟨same, event, _⟩ | ⟨init, earlier, _⟩
  · cases event
    exact same ▸ free
  · exact lawful before other given init earlier

theorem HandsOutFree.release {log : List (Event Owner Handle)} (lawful : HandsOutFree log)
    (owner? : Option Owner) (handle : Handle) :
    HandsOutFree (log ++ [.released owner? handle]) := by
  intro before other given after split
  rcases snoc_eq_append_cons split with ⟨_, event, _⟩ | ⟨init, earlier, _⟩
  · cases event
  · exact lawful before other given init earlier

theorem ReleasesHeld.acquire {log : List (Event Owner Handle)} (lawful : ReleasesHeld log)
    (owner : Owner) (handle : Handle) : ReleasesHeld (log ++ [.acquired owner handle]) := by
  intro before other given after split
  rcases snoc_eq_append_cons split with ⟨_, event, _⟩ | ⟨init, earlier, _⟩
  · cases event
  · exact lawful before other given init earlier

theorem ReleasesHeld.release {log : List (Event Owner Handle)} (lawful : ReleasesHeld log)
    {owner? : Option Owner} {owner : Owner} {handle : Handle}
    (held : holder log handle = some owner) (forOwner : owner? = none ∨ owner? = some owner) :
    ReleasesHeld (log ++ [.released owner? handle]) := by
  intro before other given after split
  rcases snoc_eq_append_cons split with ⟨same, event, _⟩ | ⟨init, earlier, _⟩
  · cases event
    exact ⟨owner, same ▸ held, forOwner⟩
  · exact lawful before other given init earlier

theorem HandsOutFree.releaseEach (owner? : Option Owner) (handles : List Handle) :
    ∀ log : List (Event Owner Handle), HandsOutFree log →
      HandsOutFree (log ++ handles.map (.released owner?)) := by
  induction handles with
  | nil => intro log lawful; simpa using lawful
  | cons handle rest ih =>
      intro log lawful
      have next := ih _ (lawful.release owner? handle)
      simpa using next

theorem ReleasesHeld.releaseEach (owner? : Option Owner) (handles : List Handle) :
    ∀ log : List (Event Owner Handle), ReleasesHeld log → handles.Nodup →
      (∀ handle ∈ handles, ∃ owner, holder log handle = some owner ∧
        (owner? = none ∨ owner? = some owner)) →
      ReleasesHeld (log ++ handles.map (.released owner?)) := by
  induction handles with
  | nil => intro log lawful _ _; simpa using lawful
  | cons handle rest ih =>
      intro log lawful distinct held
      obtain ⟨fresh, restDistinct⟩ := List.nodup_cons.mp distinct
      obtain ⟨owner, isHeld, forOwner⟩ := held handle (List.mem_cons_self ..)
      have stillHeld : ∀ other ∈ rest, ∃ owner,
          holder (log ++ [.released owner? handle]) other = some owner ∧
            (owner? = none ∨ owner? = some owner) := by
        intro other member
        have released := holder_append_released owner? [handle] other log
        have differs : other ∉ [handle] := by
          intro same
          rw [List.mem_singleton] at same
          exact fresh (same ▸ member)
        rw [if_neg differs] at released
        rw [List.map_singleton] at released
        rw [released]
        exact held other (List.mem_cons_of_mem _ member)
      have next := ih _ (lawful.release isHeld forOwner) restDistinct stillHeld
      simpa using next

/-- A lawful log that leaves nothing held has released all it handed out. -/
theorem HandsOutFree.releasesAll {log : List (Event Owner Handle)} (lawful : HandsOutFree log)
    (settled : ∀ handle, holder log handle = none) : ReleasesAll log := by
  intro before owner handle after split
  have heldThen : holder (before ++ [.acquired owner handle]) handle = some owner := by
    rw [holder_append_acquired, if_pos rfl]
  cases found : after.find? fun event => decide (event.handle = handle) with
  | none =>
      have untouched : ∀ event ∈ after, event.handle ≠ handle := by
        simpa using List.find?_eq_none.mp found
      have heldStill : holder log handle = some owner := by
        rw [split, List.append_cons, holder_append, heldThen, foldl_untouched untouched]
      rw [settled handle] at heldStill
      cases heldStill
  | some event =>
      obtain ⟨concerns, middle, rest, isSplit, others⟩ :=
        List.find?_eq_some_iff_append.mp found
      have untouched : ∀ other ∈ middle, other.handle ≠ handle := by
        simpa using others
      cases event with
      | released owner? other =>
          have sameHandle : other = handle := of_decide_eq_true concerns
          subst sameHandle
          exact ⟨middle, owner?, rest, isSplit, untouched⟩
      | acquired next other =>
          have sameHandle : other = handle := of_decide_eq_true concerns
          subst sameHandle
          -- the next owner would have been handed a handle still held
          have free := lawful (before ++ [.acquired owner other] ++ middle) next other rest
            (by rw [split, isSplit]; simp)
          rw [holder_append, heldThen, foldl_untouched untouched] at free
          cases free

end Holder

end Msp.Library.Ledger
