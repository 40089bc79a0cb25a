import Mathlib.Algebra.BigOperators.Group.List.Basic
import Mathlib.Algebra.GroupWithZero.Nat
import Mathlib.Data.List.Nodup
import Mathlib.Tactic.Common

/-!
# Insertion-ordered dictionaries

A dictionary is its list of entries in insertion order, with the proof that no
key occurs twice.  Assigning to a present key keeps its place, assigning to a
new one appends, and deleting keeps the order of the others, so equality of
dictionaries is equality of everything a program can observe by iterating.
-/

set_option autoImplicit false

namespace Msp.Library.InsertionDict

variable {Key Value : Type*} [DecidableEq Key]

def lookup : List (Key × Value) → Key → Option Value
  | [], _ => none
  | entry :: rest, key => if entry.1 = key then some entry.2 else lookup rest key

def store (key : Key) (value : Value) : List (Key × Value) → List (Key × Value)
  | [] => [(key, value)]
  | entry :: rest =>
      if entry.1 = key then (key, value) :: rest else entry :: store key value rest

def remove (key : Key) : List (Key × Value) → List (Key × Value)
  | [] => []
  | entry :: rest => if entry.1 = key then rest else entry :: remove key rest

theorem store_keys (key : Key) (value : Value) : ∀ entries : List (Key × Value),
    (store key value entries).map Prod.fst =
      if key ∈ entries.map Prod.fst then entries.map Prod.fst
      else entries.map Prod.fst ++ [key] := by
  intro entries
  induction entries with
  | nil => simp [store]
  | cons entry rest ih =>
      by_cases same : entry.1 = key
      · simp [store, same]
      · have other : ¬ key = entry.1 := fun equal => same equal.symm
        simp only [store, if_neg same, List.map_cons, ih, List.mem_cons, other, false_or]
        split <;> rfl

theorem remove_keys (key : Key) : ∀ entries : List (Key × Value),
    (remove key entries).map Prod.fst = (entries.map Prod.fst).erase key := by
  intro entries
  induction entries with
  | nil => rfl
  | cons entry rest ih =>
      by_cases same : entry.1 = key
      · simp [remove, same]
      · simp [remove, same, ih]

theorem lookup_eq_none (key : Key) : ∀ entries : List (Key × Value),
    lookup entries key = none ↔ key ∉ entries.map Prod.fst := by
  intro entries
  induction entries with
  | nil => simp [lookup]
  | cons entry rest ih =>
      by_cases same : entry.1 = key
      · simp [lookup, same]
      · have other : ¬ key = entry.1 := fun equal => same equal.symm
        simp [lookup, same, other, ih]

theorem lookup_store (key : Key) (value : Value) (other : Key) :
    ∀ entries : List (Key × Value),
      lookup (store key value entries) other =
        if key = other then some value else lookup entries other := by
  intro entries
  induction entries with
  | nil => simp [store, lookup]
  | cons entry rest ih =>
      by_cases same : entry.1 = key
      · by_cases found : key = other
        · simp [store, lookup, same, found]
        · simp [store, lookup, same, found]
      · by_cases found : key = other
        · subst found
          simp [store, lookup, same, ih]
        · simp [store, lookup, same, found, ih]

theorem lookup_remove_of_ne (key other : Key) (differ : key ≠ other) :
    ∀ entries : List (Key × Value),
      lookup (remove key entries) other = lookup entries other := by
  intro entries
  induction entries with
  | nil => rfl
  | cons entry rest ih =>
      by_cases same : entry.1 = key
      · simp [remove, lookup, same, differ]
      · simp [remove, lookup, same, ih]

theorem lookup_mem (key : Key) (value : Value) : ∀ entries : List (Key × Value),
    lookup entries key = some value → (key, value) ∈ entries := by
  intro entries
  induction entries with
  | nil => simp [lookup]
  | cons entry rest ih =>
      intro found
      by_cases same : entry.1 = key
      · simp only [lookup, if_pos same, Option.some.injEq] at found
        rw [← same, ← found]
        exact List.mem_cons_self
      · simp only [lookup, if_neg same] at found
        exact List.mem_cons_of_mem entry (ih found)

theorem lookup_of_mem (key : Key) (value : Value) : ∀ entries : List (Key × Value),
    (entries.map Prod.fst).Nodup → (key, value) ∈ entries →
      lookup entries key = some value := by
  intro entries
  induction entries with
  | nil => simp
  | cons entry rest ih =>
      intro distinct member
      rw [List.map_cons, List.nodup_cons] at distinct
      rcases List.mem_cons.mp member with head | tail
      · simp [lookup, ← head]
      · have differ : ¬ entry.1 = key := by
          intro equal
          exact distinct.1 (equal ▸ List.mem_map_of_mem (f := Prod.fst) tail)
        simpa [lookup, differ] using ih distinct.2 tail

theorem lookup_map {Image : Type*} (image : Value → Image) (key : Key) :
    ∀ entries : List (Key × Value),
      lookup (entries.map fun entry => (entry.1, image entry.2)) key =
        (lookup entries key).map image := by
  intro entries
  induction entries with
  | nil => rfl
  | cons entry rest ih =>
      rw [List.map_cons, lookup, lookup]
      split
      · rfl
      · exact ih

theorem sum_remove (weight : Value → Nat) (key : Key) (value : Value) :
    ∀ entries : List (Key × Value), lookup entries key = some value →
      (entries.map fun entry => weight entry.2).sum =
        weight value + ((remove key entries).map fun entry => weight entry.2).sum := by
  intro entries
  induction entries with
  | nil => simp [lookup]
  | cons entry rest ih =>
      intro found
      by_cases same : entry.1 = key
      · simp only [lookup, if_pos same, Option.some.injEq] at found
        simp [remove, same, found]
      · simp only [lookup, if_neg same] at found
        simp only [remove, if_neg same, List.map_cons, List.sum_cons, ih found]
        omega

theorem sum_store (weight : Value → Nat) (key : Key) (value : Value) :
    ∀ entries : List (Key × Value),
      ((store key value entries).map fun entry => weight entry.2).sum +
          ((lookup entries key).map weight).getD 0 =
        (entries.map fun entry => weight entry.2).sum + weight value := by
  intro entries
  induction entries with
  | nil => simp [store, lookup]
  | cons entry rest ih =>
      by_cases same : entry.1 = key
      · simp only [store, lookup, if_pos same, List.map_cons, List.sum_cons,
          Option.map_some, Option.getD_some]
        omega
      · simp only [store, lookup, if_neg same, List.map_cons, List.sum_cons]
        omega

theorem remove_sublist (key : Key) : ∀ entries : List (Key × Value),
    (remove key entries).Sublist entries := by
  intro entries
  induction entries with
  | nil => exact List.Sublist.refl _
  | cons entry rest ih =>
      rw [remove]
      split
      · exact List.sublist_cons_self entry rest
      · exact ih.cons_cons entry

theorem remove_store_of_notMem (key : Key) (value : Value) :
    ∀ entries : List (Key × Value), key ∉ entries.map Prod.fst →
      remove key (store key value entries) = entries := by
  intro entries
  induction entries with
  | nil => simp [store, remove]
  | cons entry rest ih =>
      intro absent
      rw [List.map_cons, List.mem_cons, not_or] at absent
      have differ : ¬ entry.1 = key := fun equal => absent.1 equal.symm
      simp [store, remove, differ, ih absent.2]

theorem store_of_notMem (key : Key) (value : Value) :
    ∀ entries : List (Key × Value), key ∉ entries.map Prod.fst →
      store key value entries = entries ++ [(key, value)] := by
  intro entries
  induction entries with
  | nil => simp [store]
  | cons entry rest ih =>
      intro absent
      rw [List.map_cons, List.mem_cons, not_or] at absent
      have differ : ¬ entry.1 = key := fun equal => absent.1 equal.symm
      simp [store, differ, ih absent.2]

end Msp.Library.InsertionDict

namespace Msp.Library

open InsertionDict

@[ext] structure Dict (Key Value : Type*) where
  entries : List (Key × Value)
  distinct : (entries.map Prod.fst).Nodup

namespace Dict
variable {Key Value : Type*}

def empty : Dict Key Value := ⟨[], List.nodup_nil⟩

def keys (dict : Dict Key Value) : List Key := dict.entries.map Prod.fst

def values (dict : Dict Key Value) : List Value := dict.entries.map Prod.snd

theorem nodup_keys (dict : Dict Key Value) : dict.keys.Nodup := dict.distinct

@[simp] theorem keys_empty : (empty : Dict Key Value).keys = [] := rfl

@[simp] theorem values_empty : (empty : Dict Key Value).values = [] := rfl

def total (weight : Value → Nat) (dict : Dict Key Value) : Nat :=
  (dict.values.map weight).sum

@[simp] theorem total_empty (weight : Value → Nat) :
    (empty : Dict Key Value).total weight = 0 := rfl

theorem total_eq (weight : Value → Nat) (dict : Dict Key Value) :
    dict.total weight = (dict.entries.map fun entry => weight entry.2).sum := by
  simp [total, values, Function.comp_def]

variable [DecidableEq Key]

def get? (dict : Dict Key Value) (key : Key) : Option Value := lookup dict.entries key

def set (dict : Dict Key Value) (key : Key) (value : Value) : Dict Key Value where
  entries := store key value dict.entries
  distinct := by
    rw [store_keys]
    split
    · exact dict.distinct
    · rename_i absent
      exact List.nodup_append.mpr ⟨dict.distinct, List.nodup_singleton key, by
        intro one member two same equal
        exact absent ((List.mem_singleton.mp same) ▸ equal ▸ member)⟩

def erase (dict : Dict Key Value) (key : Key) : Dict Key Value where
  entries := remove key dict.entries
  distinct := by
    rw [remove_keys]
    exact dict.distinct.erase key

@[simp] theorem get?_empty (key : Key) : (empty : Dict Key Value).get? key = none := rfl

theorem get?_eq_none {dict : Dict Key Value} {key : Key} :
    dict.get? key = none ↔ key ∉ dict.keys := lookup_eq_none key dict.entries

theorem mem_keys {dict : Dict Key Value} {key : Key} :
    key ∈ dict.keys ↔ ∃ value, dict.get? key = some value := by
  rw [← not_iff_not, ← get?_eq_none, ← Option.not_isSome_iff_eq_none, not_iff_not,
    Option.isSome_iff_exists]

theorem get?_eq_some {dict : Dict Key Value} {key : Key} {value : Value} :
    dict.get? key = some value ↔ (key, value) ∈ dict.entries :=
  ⟨lookup_mem key value dict.entries, lookup_of_mem key value dict.entries dict.distinct⟩

theorem mem_values {dict : Dict Key Value} {value : Value} :
    value ∈ dict.values ↔ ∃ key, dict.get? key = some value := by
  simp [values, get?_eq_some]

theorem get?_set (dict : Dict Key Value) (key : Key) (value : Value) (other : Key) :
    (dict.set key value).get? other =
      if key = other then some value else dict.get? other :=
  lookup_store key value other dict.entries

@[simp] theorem get?_set_self (dict : Dict Key Value) (key : Key) (value : Value) :
    (dict.set key value).get? key = some value := by
  rw [get?_set, if_pos rfl]

theorem get?_set_of_ne (dict : Dict Key Value) {key other : Key} (value : Value)
    (differ : key ≠ other) : (dict.set key value).get? other = dict.get? other := by
  rw [get?_set, if_neg differ]

@[simp] theorem get?_erase_self (dict : Dict Key Value) (key : Key) :
    (dict.erase key).get? key = none := by
  rw [get?_eq_none, keys, erase, remove_keys]
  exact dict.distinct.not_mem_erase

theorem get?_erase_of_ne (dict : Dict Key Value) {key other : Key}
    (differ : key ≠ other) : (dict.erase key).get? other = dict.get? other :=
  lookup_remove_of_ne key other differ dict.entries

theorem mem_keys_set (dict : Dict Key Value) (key other : Key) (value : Value) :
    other ∈ (dict.set key value).keys ↔ other = key ∨ other ∈ dict.keys := by
  rw [mem_keys, mem_keys]
  by_cases same : key = other
  · subst same
    simp
  · simp [get?_set_of_ne _ _ same, Ne.symm same]

theorem keys_set_of_notMem {dict : Dict Key Value} {key : Key} (value : Value)
    (absent : key ∉ dict.keys) : (dict.set key value).keys = dict.keys ++ [key] := by
  rw [keys, set, store_keys]
  exact if_neg absent

theorem keys_erase (dict : Dict Key Value) (key : Key) :
    (dict.erase key).keys = dict.keys.erase key := remove_keys key dict.entries

theorem mem_keys_erase (dict : Dict Key Value) (key other : Key) :
    other ∈ (dict.erase key).keys ↔ other ≠ key ∧ other ∈ dict.keys := by
  rw [keys_erase, dict.nodup_keys.mem_erase_iff]

theorem values_set_of_notMem {dict : Dict Key Value} {key : Key} (value : Value)
    (absent : key ∉ dict.keys) : (dict.set key value).values = dict.values ++ [value] := by
  simp [values, set, store_of_notMem key value dict.entries absent]

theorem erase_set_of_notMem {dict : Dict Key Value} {key : Key} (value : Value)
    (absent : key ∉ dict.keys) : (dict.set key value).erase key = dict :=
  Dict.ext (remove_store_of_notMem key value dict.entries absent)

theorem values_erase_sublist (dict : Dict Key Value) (key : Key) :
    (dict.erase key).values.Sublist dict.values :=
  (remove_sublist key dict.entries).map Prod.snd

theorem key_unique {dict : Dict Key Value} {first second : Key} {value : Value}
    (injective : dict.values.Nodup) (atFirst : dict.get? first = some value)
    (atSecond : dict.get? second = some value) : first = second := by
  have pairs := List.inj_on_of_nodup_map injective
    (get?_eq_some.mp atFirst) (get?_eq_some.mp atSecond) rfl
  exact congrArg Prod.fst pairs

theorem total_set_of_notMem (weight : Value → Nat) {dict : Dict Key Value} {key : Key}
    (value : Value) (absent : key ∉ dict.keys) :
    (dict.set key value).total weight = dict.total weight + weight value := by
  simp [total, values_set_of_notMem value absent]

theorem total_set (weight : Value → Nat) (dict : Dict Key Value) (key : Key) (value : Value) :
    (dict.set key value).total weight + ((dict.get? key).map weight).getD 0 =
      dict.total weight + weight value := by
  rw [total_eq, total_eq]
  exact sum_store weight key value dict.entries

theorem total_erase (weight : Value → Nat) {dict : Dict Key Value} {key : Key}
    {value : Value} (found : dict.get? key = some value) :
    dict.total weight = weight value + (dict.erase key).total weight := by
  rw [total_eq, total_eq]
  exact sum_remove weight key value dict.entries found

theorem le_total (weight : Value → Nat) {dict : Dict Key Value} {key : Key}
    {value : Value} (found : dict.get? key = some value) :
    weight value ≤ dict.total weight := by
  rw [total_erase weight found]
  exact Nat.le_add_right _ _

/-! ## Filling and mapping -/

/-- `for key, value in items: dict[key] = value`. -/
def update (dict : Dict Key Value) (items : List (Key × Value)) : Dict Key Value :=
  items.foldl (fun built item => built.set item.1 item.2) dict

theorem get?_update_of_notMem : ∀ (items : List (Key × Value)) (dict : Dict Key Value) (key : Key),
    key ∉ items.map Prod.fst → (dict.update items).get? key = dict.get? key := by
  intro items
  induction items with
  | nil => intro dict key _; rfl
  | cons item rest ih =>
      intro dict key absent
      rw [List.map_cons, List.mem_cons, not_or] at absent
      have later : ((dict.set item.1 item.2).update rest).get? key =
          (dict.set item.1 item.2).get? key := ih _ key absent.2
      exact later.trans (get?_set_of_ne dict item.2 fun same => absent.1 same.symm)

theorem get?_update_of_mem : ∀ (items : List (Key × Value)) (dict : Dict Key Value) (key : Key)
    (value : Value), (key, value) ∈ items → (∀ other, (key, other) ∈ items → other = value) →
      (dict.update items).get? key = some value := by
  intro items
  induction items with
  | nil => intro dict key value member _; cases member
  | cons item rest ih =>
      intro dict key value member agree
      by_cases later : key ∈ rest.map Prod.fst
      · obtain ⟨⟨_, other⟩, there, rfl⟩ := List.mem_map.mp later
        have same := agree other (List.mem_cons_of_mem item there)
        exact ih _ _ value (same ▸ there)
          fun another found => agree another (List.mem_cons_of_mem item found)
      · have first : (key, value) = item := by
          rcases List.mem_cons.mp member with here | there
          · exact here
          · exact absurd (List.mem_map_of_mem there) later
        rw [← first]
        exact (get?_update_of_notMem rest _ key later).trans (get?_set_self dict key value)

theorem mem_of_get?_update : ∀ (items : List (Key × Value)) (dict : Dict Key Value) (key : Key)
    (value : Value), (dict.update items).get? key = some value →
      (key, value) ∈ items ∨ dict.get? key = some value := by
  intro items
  induction items with
  | nil => intro dict key value found; exact Or.inr found
  | cons item rest ih =>
      intro dict key value found
      rcases ih (dict.set item.1 item.2) key value found with later | before
      · exact Or.inl (List.mem_cons_of_mem item later)
      · rw [get?_set] at before
        split at before
        · rename_i same
          cases before
          rw [← same]
          exact Or.inl List.mem_cons_self
        · exact Or.inr before

theorem mem_keys_update : ∀ (items : List (Key × Value)) (dict : Dict Key Value) (key : Key),
    key ∈ (dict.update items).keys ↔ key ∈ items.map Prod.fst ∨ key ∈ dict.keys := by
  intro items
  induction items with
  | nil => intro dict key; simp [update]
  | cons item rest ih =>
      intro dict key
      have step := ih (dict.set item.1 item.2) key
      rw [mem_keys_set] at step
      rw [List.map_cons, List.mem_cons, or_assoc, or_left_comm]
      exact step

theorem entries_update : ∀ (items : List (Key × Value)) (dict : Dict Key Value),
    (dict.keys ++ items.map Prod.fst).Nodup → (dict.update items).entries = dict.entries ++ items := by
  intro items
  induction items with
  | nil => intro dict _; exact (List.append_nil _).symm
  | cons item rest ih =>
      intro dict distinct
      have absent : item.1 ∉ dict.keys := by
        have apart := (List.nodup_append.mp distinct).2.2
        exact fun member => apart _ member _ List.mem_cons_self rfl
      have later := ih (dict.set item.1 item.2) (by
        rw [keys_set_of_notMem item.2 absent, List.append_assoc]
        exact distinct)
      have stored : (dict.set item.1 item.2).entries = dict.entries ++ [item] :=
        store_of_notMem item.1 item.2 dict.entries absent
      rw [stored, List.append_assoc] at later
      exact later

theorem update_entries (dict : Dict Key Value) : empty.update dict.entries = dict :=
  Dict.ext (entries_update dict.entries empty dict.distinct)

def mapValues {Image : Type*} (image : Value → Image) (dict : Dict Key Value) :
    Dict Key Image where
  entries := dict.entries.map fun entry => (entry.1, image entry.2)
  distinct := by
    rw [List.map_map]
    exact dict.distinct

omit [DecidableEq Key] in
theorem keys_mapValues {Image : Type*} (image : Value → Image) (dict : Dict Key Value) :
    (dict.mapValues image).keys = dict.keys := List.map_map

theorem get?_mapValues {Image : Type*} (image : Value → Image) (dict : Dict Key Value)
    (key : Key) : (dict.mapValues image).get? key = (dict.get? key).map image :=
  lookup_map image key dict.entries

end Dict

end Msp.Library
