import Msp.ThermalAgreement
import Mathlib.Data.BitVec

/-!
# The search of the type filter

`contains_ci` of `src/daemon/thermal_reader.c` as it runs: two loops over
indices of type `size_t`, whose sums may wrap, on the bytes of two strings.
`ThermalReader.containsCi` is what they find.

`width` is the width of `size_t`.  The daemon never leaves the "C" locale.
-/

set_option autoImplicit false

namespace Msp.Daemon.ContainsCi

open Msp.ThermalTree Msp.Library

structure CString (width : Nat) where
  bytes : List UInt8
  noNul : 0 ∉ bytes
  fits : bytes.length + 1 < 2 ^ width

def tolower (c : UInt8) : UInt8 := if 65 ≤ c ∧ c ≤ 90 then c + 32 else c

/-- The result, and the `i` at which the loop has tested `i + nn <= hn`. -/
structure Search (width : Nat) where
  found : Bool
  tested : List (BitVec width)

section Code
variable {width : Nat}

def strlen (text : CString width) : BitVec width := BitVec.ofNat width text.bytes.length

def CString.character (text : CString width) (index : BitVec width) : Option UInt8 :=
  text.bytes[index.toNat]?

/-- The loop over `j`; the `j` at its end, or `none` after a read outside the strings. -/
def innerLoop (haystack needle : CString width) (i : BitVec width) :
    Nat → BitVec width → Option (BitVec width)
  | 0, _ => none
  | fuel + 1, j =>
      if j < strlen needle then
        match haystack.character (i + j), needle.character j with
        | some one, some other =>
            if tolower one ≠ tolower other then some j
            else innerLoop haystack needle i fuel (j + 1)
        | _, _ => none
      else some j

def outerLoop (haystack needle : CString width) : Nat → BitVec width → Option (Search width)
  | 0, _ => none
  | fuel + 1, i =>
      if i + strlen needle ≤ strlen haystack then
        match innerLoop haystack needle i fuel 0 with
        | none => none
        | some j =>
            if j = strlen needle then some ⟨true, [i]⟩
            else
              (outerLoop haystack needle fuel (i + 1)).map fun later =>
                ⟨later.found, i :: later.tested⟩
      else some ⟨false, [i]⟩

def containsCi (fuel : Nat) (haystack needle : CString width) : Option (Search width) :=
  if (needle.bytes ++ [0]).head? = some 0 then some ⟨true, []⟩
  else if strlen haystack < strlen needle then some ⟨false, []⟩
  else outerLoop haystack needle fuel 0

theorem toNat_strlen (text : CString width) : (strlen text).toNat = text.bytes.length := by
  have fits := text.fits
  rw [strlen, BitVec.toNat_ofNat]
  exact Nat.mod_eq_of_lt (by omega)

theorem toNat_succ (index : BitVec width) (below : index.toNat + 1 < 2 ^ width) :
    (index + 1).toNat = index.toNat + 1 := by
  have one : (1 : BitVec width).toNat = 1 :=
    (BitVec.toNat_ofNat 1 width).trans (Nat.mod_eq_of_lt (by omega))
  rw [BitVec.toNat_add_of_lt (by omega), one]

/-- As the NUL counts as well, one test beyond the last alignment does not wrap. -/
theorem toNat_add_strlen (haystack needle : CString width) (i : BitVec width)
    (below : i.toNat + needle.bytes.length ≤ haystack.bytes.length + 1) :
    (i + strlen needle).toNat = i.toNat + needle.bytes.length := by
  have fits := haystack.fits
  have length := toNat_strlen needle
  rw [BitVec.toNat_add_of_lt (by omega), length]

theorem bound_iff (haystack needle : CString width) (i : BitVec width)
    (below : i.toNat + needle.bytes.length ≤ haystack.bytes.length + 1) :
    i + strlen needle ≤ strlen haystack ↔
      i.toNat + needle.bytes.length ≤ haystack.bytes.length := by
  rw [BitVec.le_def, toNat_add_strlen haystack needle i below, toNat_strlen]

def Agrees (haystack needle : List UInt8) (a k : Nat) : Prop :=
  haystack[a + k]?.map tolower = needle[k]?.map tolower

theorem innerLoop_spec (haystack needle : CString width) (i : BitVec width)
    (within : i.toNat + needle.bytes.length ≤ haystack.bytes.length) :
    ∀ (fuel : Nat) (j : BitVec width), j.toNat ≤ needle.bytes.length →
      needle.bytes.length < fuel + j.toNat →
        ∃ last, innerLoop haystack needle i fuel j = some last ∧
          (last = strlen needle ↔ ∀ k, j.toNat ≤ k → k < needle.bytes.length →
            Agrees haystack.bytes needle.bytes i.toNat k) := by
  have fits := haystack.fits
  intro fuel
  induction fuel with
  | zero =>
      intro j reached enough
      omega
  | succ fuel ih =>
      intro j reached enough
      rw [innerLoop]
      by_cases more : j < strlen needle
      · have below : j.toNat < needle.bytes.length := by
          rwa [BitVec.lt_def, toNat_strlen] at more
        have sum : (i + j).toNat = i.toNat + j.toNat := BitVec.toNat_add_of_lt (by omega)
        have inHaystack : (i + j).toNat < haystack.bytes.length := by omega
        rw [if_pos more, CString.character, CString.character, List.getElem?_eq_getElem inHaystack,
          List.getElem?_eq_getElem below]
        dsimp only
        have agrees : Agrees haystack.bytes needle.bytes i.toNat j.toNat ↔
            tolower haystack.bytes[(i + j).toNat] = tolower needle.bytes[j.toNat] := by
          rw [Agrees, ← sum, List.getElem?_eq_getElem inHaystack, List.getElem?_eq_getElem below,
            Option.map_some, Option.map_some, Option.some.injEq]
        split
        · rename_i differs
          refine ⟨j, rfl, iff_of_false ?_ fun all => ?_⟩
          · intro isEnd
            rw [isEnd, toNat_strlen] at below
            exact lt_irrefl _ below
          · exact differs (agrees.mp (all j.toNat le_rfl below))
        · rename_i same
          have next := toNat_succ j (by omega)
          obtain ⟨last, run, exact⟩ := ih (j + 1) (by omega) (by omega)
          refine ⟨last, run, exact.trans ⟨fun rest k from_j under => ?_, fun rest k from_j => ?_⟩⟩
          · rcases Nat.eq_or_lt_of_le from_j with here | later
            · rw [← here]
              exact agrees.mpr (not_not.mp same)
            · exact rest k (by omega) under
          · exact rest k (by omega)
      · have ended : j.toNat = needle.bytes.length := by
          rw [BitVec.lt_def, toNat_strlen] at more
          omega
        rw [if_neg more]
        refine ⟨j, rfl, iff_of_true ?_ fun k _ _ => by omega⟩
        exact BitVec.eq_of_toNat_eq (ended.trans (toNat_strlen needle).symm)

def Aligned (haystack needle : List UInt8) (a : Nat) : Prop :=
  a + needle.length ≤ haystack.length ∧ ∀ k < needle.length, Agrees haystack needle a k

/-- What the search finds from `i` on. -/
structure Searched (haystack needle : CString width) (i : Nat) (search : Search width) : Prop where
  found : search.found = true ↔ ∃ a, i ≤ a ∧ Aligned haystack.bytes needle.bytes a
  tested : search.tested.map BitVec.toNat = List.range' i search.tested.length
  bounded : ∀ index ∈ search.tested,
    index.toNat + needle.bytes.length ≤ haystack.bytes.length + 1

theorem outerLoop_spec (haystack needle : CString width) :
    ∀ (fuel : Nat) (i : BitVec width),
      i.toNat + needle.bytes.length ≤ haystack.bytes.length + 1 → 0 < needle.bytes.length →
        haystack.bytes.length + 1 < fuel + i.toNat →
          ∃ search, outerLoop haystack needle fuel i = some search ∧
            Searched haystack needle i.toNat search := by
  have fits := haystack.fits
  intro fuel
  induction fuel with
  | zero =>
      intro i below nonempty enough
      omega
  | succ fuel ih =>
      intro i below nonempty enough
      have one : ∀ index ∈ [i], index.toNat + needle.bytes.length ≤ haystack.bytes.length + 1 := by
        intro index member
        rwa [List.mem_singleton.mp member]
      have bound := bound_iff haystack needle i below
      rw [outerLoop]
      split
      · rename_i entered
        have within := bound.mp entered
        obtain ⟨last, run, exact⟩ := innerLoop_spec haystack needle i within fuel 0
          (by simp) (by simp; omega)
        have aligned : last = strlen needle ↔ Aligned haystack.bytes needle.bytes i.toNat := by
          rw [exact, Aligned, and_iff_right within]
          exact forall_congr' fun k => by simp
        rw [run]
        dsimp only
        split
        · rename_i matched
          exact ⟨⟨true, [i]⟩, rfl,
            ⟨iff_of_true rfl ⟨i.toNat, le_rfl, aligned.mp matched⟩, rfl, one⟩⟩
        · rename_i mismatched
          have next := toNat_succ i (by omega)
          obtain ⟨later, rest, searched⟩ := ih (i + 1) (by omega) nonempty (by omega)
          rw [rest]
          refine ⟨_, rfl, ?_, ?_, ?_⟩
          · refine searched.found.trans ⟨?_, ?_⟩
            · rintro ⟨a, beyond, found⟩
              exact ⟨a, by omega, found⟩
            · rintro ⟨a, beyond, found⟩
              have other : a ≠ i.toNat := by
                intro here
                exact mismatched (aligned.mpr (here ▸ found))
              exact ⟨a, by omega, found⟩
          · rw [List.map_cons, searched.tested, next, List.length_cons, List.range'_succ]
          · exact List.forall_mem_cons.mpr ⟨below, searched.bounded⟩
      · rename_i ended
        refine ⟨⟨false, [i]⟩, rfl, ⟨iff_of_false nofun ?_, rfl, one⟩⟩
        rintro ⟨a, beyond, within, _⟩
        exact ended (bound.mpr (by omega))

end Code

/-! ## Occurrences -/

/-- `needle` stands somewhere in `haystack`, in other cases perhaps. -/
def Occurs (haystack needle : List UInt8) : Prop :=
  ∃ u m v, haystack = u ++ m ++ v ∧ m.length = needle.length ∧
    m.map tolower = needle.map tolower

theorem occurs_iff_aligned (haystack needle : List UInt8) :
    Occurs haystack needle ↔ ∃ a, Aligned haystack needle a := by
  constructor
  · rintro ⟨u, m, v, rfl, length, same⟩
    refine ⟨u.length, ?_, fun k below => ?_⟩
    · rw [List.length_append, List.length_append]
      omega
    · rw [Agrees, List.append_assoc, List.getElem?_append_right (by omega), Nat.add_sub_cancel_left,
        List.getElem?_append_left (by omega), ← List.getElem?_map, same, List.getElem?_map]
  · rintro ⟨a, within, agrees⟩
    have length : ((haystack.drop a).take needle.length).length = needle.length := by
      rw [List.length_take, List.length_drop]
      omega
    refine ⟨haystack.take a, (haystack.drop a).take needle.length,
      (haystack.drop a).drop needle.length, ?_, length, ?_⟩
    · rw [List.append_assoc, List.take_append_drop, List.take_append_drop]
    · refine List.ext_getElem? fun k => ?_
      rw [List.getElem?_map, List.getElem?_map]
      by_cases below : k < needle.length
      · rw [List.getElem?_take_of_lt below, List.getElem?_drop]
        exact agrees k below
      · rw [List.getElem?_eq_none (by omega), List.getElem?_eq_none (by omega)]

theorem occurs_iff_infix (haystack needle : List UInt8) :
    Occurs haystack needle ↔ needle.map tolower <:+: haystack.map tolower := by
  rw [List.infix_map_iff]
  constructor
  · rintro ⟨u, m, v, rfl, _, same⟩
    exact ⟨m, ⟨u, v, rfl⟩, same.symm⟩
  · rintro ⟨m, ⟨u, v, split⟩, same⟩
    refine ⟨u, m, v, split.symm, ?_, same.symm⟩
    rw [← List.length_map tolower, ← same, List.length_map]

theorem charOf_injective : Function.Injective fun byte : UInt8 => Char.ofNat byte.toNat := by
  intro one other same
  have equal := congrArg Char.toNat same
  dsimp only at equal
  rw [PythonText.toNat_ofNat_byte, PythonText.toNat_ofNat_byte] at equal
  exact UInt8.toNat_inj.mp equal

theorem lower_charsOf (bytes : List UInt8) :
    Python.ThermalZones.lower (charsOf bytes) = charsOf (bytes.map tolower) := by
  have each : ∀ code : Fin 256,
      (Char.ofNat code).toLower = Char.ofNat (tolower (UInt8.ofNat code)).toNat := by
    decide +kernel
  simp only [Python.ThermalZones.lower, charsOf, List.map_map]
  refine List.map_congr_left fun byte _ => ?_
  have lowered := each ⟨byte.toNat, byte.toNat_lt⟩
  rwa [UInt8.ofNat_toNat] at lowered

theorem thermalReader_iff_occurs (haystack needle : List UInt8) :
    ThermalReader.containsCi (charsOf haystack) (charsOf needle) = true ↔
      Occurs haystack needle := by
  rw [ThermalAgreement.containsCi_iff, lower_charsOf, lower_charsOf, occurs_iff_infix, charsOf,
    charsOf, List.infix_map_iff]
  constructor
  · rintro ⟨part, isInfix, same⟩
    rwa [List.map_injective_iff.mpr charOf_injective same]
  · exact fun isInfix => ⟨_, isInfix, rfl⟩

section Whole
variable {width : Nat}

theorem needle_empty_iff (needle : CString width) :
    (needle.bytes ++ [0]).head? = some 0 ↔ needle.bytes = [] := by
  have noNul := needle.noNul
  cases bytes : needle.bytes with
  | nil => exact iff_of_true rfl rfl
  | cons first rest =>
      rw [bytes] at noNul
      refine iff_of_false (fun isNul => noNul ?_) (List.cons_ne_nil _ _)
      rw [← Option.some.inj isNul]
      exact List.mem_cons_self

theorem Searched.found_iff_occurs {haystack needle : CString width} {search : Search width}
    (searched : Searched haystack needle 0 search) :
    search.found = true ↔ Occurs haystack.bytes needle.bytes := by
  rw [searched.found, occurs_iff_aligned]
  exact exists_congr fun a => and_iff_right (Nat.zero_le a)

theorem containsCi_spec (fuel : Nat) (haystack needle : CString width)
    (enough : haystack.bytes.length + 1 < fuel) :
    ∃ search, containsCi fuel haystack needle = some search ∧
      Searched haystack needle 0 search := by
  have zero : (0 : BitVec width).toNat = 0 := BitVec.toNat_zero
  unfold containsCi
  split
  · rename_i isNul
    have empty := (needle_empty_iff needle).mp isNul
    refine ⟨⟨true, []⟩, rfl, iff_of_true rfl ⟨0, le_rfl, ?_⟩, rfl, by simp⟩
    rw [empty]
    exact ⟨Nat.zero_le _, nofun⟩
  · rename_i notNul
    have nonempty := List.length_pos_of_ne_nil (mt (needle_empty_iff needle).mpr notNul)
    split
    · rename_i longer
      rw [BitVec.lt_def, toNat_strlen, toNat_strlen] at longer
      refine ⟨⟨false, []⟩, rfl, iff_of_false nofun ?_, rfl, by simp⟩
      rintro ⟨a, _, within, _⟩
      omega
    · rename_i fits
      rw [BitVec.lt_def, toNat_strlen, toNat_strlen] at fits
      have run := outerLoop_spec haystack needle fuel 0 (by omega) nonempty (by omega)
      rwa [zero] at run

theorem containsCi_refines (fuel : Nat) (haystack needle : CString width)
    (enough : haystack.bytes.length + 1 < fuel) :
    (containsCi fuel haystack needle).map Search.found =
      some (ThermalReader.containsCi (charsOf haystack.bytes) (charsOf needle.bytes)) := by
  obtain ⟨search, run, searched⟩ := containsCi_spec fuel haystack needle enough
  rw [run, Option.map_some, Option.some.injEq, Bool.eq_iff_iff, thermalReader_iff_occurs,
    searched.found_iff_occurs]

/-- The search returns, reads no byte outside the strings, finds exactly the occurrences of
the needle in whatever case, and none of its tests wraps. -/
theorem contains_ci_exact (haystack needle : CString width) (fuel : Nat)
    (enough : haystack.bytes.length + 1 < fuel) :
    ∃ search, containsCi fuel haystack needle = some search ∧
      (search.found = true ↔ Occurs haystack.bytes needle.bytes) ∧
      search.tested.map BitVec.toNat = List.range search.tested.length ∧
      ∀ i ∈ search.tested, (i + strlen needle).toNat = i.toNat + needle.bytes.length := by
  obtain ⟨search, run, searched⟩ := containsCi_spec fuel haystack needle enough
  refine ⟨search, run, ?_, ?_, fun i member => ?_⟩
  · exact searched.found_iff_occurs
  · rw [searched.tested, List.range_eq_range']
  · exact toNat_add_strlen haystack needle i (searched.bounded i member)

end Whole

def upperHaystack : CString 64 := ⟨[65, 120, 66], by decide, by decide⟩

def lowerNeedle : CString 64 := ⟨[120, 98], by decide, by decide⟩

theorem contains_ci_exact_short :
    upperHaystack.bytes.length + 1 < 5 ∧
      ∃ search, containsCi 5 upperHaystack lowerNeedle = some search ∧
        (search.found = true ↔ Occurs upperHaystack.bytes lowerNeedle.bytes) ∧
        search.tested.map BitVec.toNat = List.range search.tested.length ∧
        ∀ i ∈ search.tested, (i + strlen lowerNeedle).toNat = i.toNat + lowerNeedle.bytes.length :=
  ⟨by decide, contains_ci_exact upperHaystack lowerNeedle 5 (by decide)⟩

end Msp.Daemon.ContainsCi
