import Msp.Library.PythonUnicode
import Msp.Python.ThermalZones

/-!
# Zone discovery over arbitrary files

`list_thermal_zones` and the constructor of `LinuxThermalZoneReader`
(`src/python/msp/thermal.py`) where names and files hold any bytes, read as
UTF-8.  On a tree of ASCII text it is the model of `ThermalZones`
(`listThermalZones_ascii`).  A zone counts as soon as its `temp` file is there;
of the errors of reading a `type` file only `OSError` is caught.
-/

set_option autoImplicit false

namespace Msp.Python.ThermalDiscovery

open Msp.Library Msp.Library.PythonUnicode Msp.ThermalTree
open Msp.Python.ThermalZones (PyError ReadTextError ThermalZoneInfo LinuxThermalZoneReader tempPath
  removeThermalZone sortedZones noZonesMessage aggregateText sortedZones_perm)

def readText : File → Except ReadTextError (List Char)
  | .contents bytes =>
      match decodeUtf8 bytes with
      | .ok text => .ok (PythonText.universalNewlines text)
      | .error position => .error (.unicodeDecodeError position)
  | _ => .error .osError

def zoneTypeOf : File → Except PyError (List Char)
  | .missing => .ok unknown
  | file =>
      match readText file with
      | .ok text => .ok (strip text)
      | .error .osError => .ok unknown
      | .error (.unicodeDecodeError position) => .error (.unicodeDecodeError position)

section Tables
variable (tables : UnicodeTables)

/-- `int` of the name behind `thermal_zone`; a name that is no UTF-8 holds
surrogates there, which are no digits. -/
def zoneIndex (name : List Char) : Option Int :=
  match decodeUtf8 ((removeThermalZone name).map fun character => UInt8.ofNat character.toNat) with
  | .ok suffix => int tables suffix
  | .error _ => none

def collectZones (basePath : List Char) : List Entry → Except PyError (List ThermalZoneInfo)
  | [] => .ok []
  | entry :: rest =>
      if entry.tempFile = .missing then collectZones basePath rest
      else
        match zoneIndex tables entry.name with
        | none => collectZones basePath rest
        | some index => do
            let zoneType ← zoneTypeOf entry.typeFile
            let zones ← collectZones basePath rest
            .ok (⟨index, zoneType, tempPath basePath entry.name⟩ :: zones)

def listThermalZones (basePath : List Char) (directory : Option (List Entry)) :
    Except PyError (List ThermalZoneInfo) :=
  match directory with
  | none => .ok []
  | some entries => collectZones tables basePath (sortedZones entries)

def isWanted (zoneTypeSubstring : Option (List Char)) (zoneType : List Char) : Bool :=
  match zoneTypeSubstring with
  | none => true
  | some substring => decide (tables.lower substring <:+: tables.lower zoneType)

def construct (zoneTypeSubstring : Option (List Char)) (aggregate : String)
    (basePath : List Char) (directory : Option (List Entry)) :
    Except PyError LinuxThermalZoneReader :=
  if aggregate ≠ "max" ∧ aggregate ≠ "mean" then
    .error (.valueError "aggregate must be 'max' or 'mean'")
  else do
    let discovered ← listThermalZones tables basePath directory
    let zones := discovered.filter fun zone => isWanted tables zoneTypeSubstring zone.zoneType
    if zones = [] then .error (.runtimeError (noZonesMessage basePath zoneTypeSubstring))
    else .ok ⟨zones.map ThermalZoneInfo.tempPath, aggregate⟩

/-- `int(path.read_text().strip())`, with `OSError` and `ValueError` caught. -/
def readMillidegrees (file : File) : Option Int :=
  match readText file with
  | .ok text => int tables (strip text)
  | .error _ => none

/-- The type of a zone, when its `type` file cannot be read as well. -/
def bestEffortType (file : File) : List Char :=
  match readText file with
  | .ok text => strip text
  | .error _ => unknown

def readableZone (basePath : List Char) (entry : Entry) : Option ThermalZoneInfo :=
  match zoneIndex tables entry.name, readMillidegrees tables entry.tempFile with
  | some index, some _ =>
      some ⟨index, bestEffortType entry.typeFile, tempPath basePath entry.name⟩
  | _, _ => none

def readableZones (basePath : List Char) (directory : Option (List Entry)) :
    List ThermalZoneInfo :=
  (sortedZones (directory.getD [])).filterMap (readableZone tables basePath)

/-- `list_thermal_zones` does not raise and lists the readable zones. -/
def ListsReadable (basePath : List Char) (directory : Option (List Entry)) : Prop :=
  listThermalZones tables basePath directory = .ok (readableZones tables basePath directory)

def Matches (zoneTypeSubstring : Option (List Char)) (zones : List ThermalZoneInfo) : Prop :=
  ∃ zone ∈ zones, isWanted tables zoneTypeSubstring zone.zoneType = true

/-- The constructor succeeds when a readable zone matches, and raises
`RuntimeError` otherwise. -/
structure ConstructsOnReadable (zoneTypeSubstring : Option (List Char)) (aggregate : String)
    (basePath : List Char) (directory : Option (List Entry)) : Prop where
  succeeds_iff : (∃ reader, construct tables zoneTypeSubstring aggregate basePath directory =
    .ok reader) ↔ Matches tables zoneTypeSubstring (readableZones tables basePath directory)
  otherwise : ¬ Matches tables zoneTypeSubstring (readableZones tables basePath directory) →
    ∃ message, construct tables zoneTypeSubstring aggregate basePath directory =
      .error (.runtimeError message)

structure Candidate (entry : Entry) : Prop where
  named : thermalZone.isPrefixOf entry.name = true
  numbered : (zoneIndex tables entry.name).isSome = true
  present : entry.tempFile ≠ .missing

def Decodes : File → Prop
  | .contents bytes => IsUtf8 bytes
  | _ => True

def candidateZone (basePath : List Char) (entry : Entry) : Option ThermalZoneInfo :=
  if entry.tempFile = .missing then none
  else (zoneIndex tables entry.name).map fun index =>
    ⟨index, bestEffortType entry.typeFile, tempPath basePath entry.name⟩

theorem zoneTypeOf_decodes {file : File} (decodes : Decodes file) :
    zoneTypeOf file = .ok (bestEffortType file) := by
  cases file with
  | missing => rfl
  | unreadable => rfl
  | contents bytes =>
      obtain ⟨text, decoded⟩ := isUtf8_iff.mp decodes
      unfold zoneTypeOf bestEffortType readText
      simp only [decoded]

theorem zoneTypeOf_undecodable {file : File} (undecodable : ¬ Decodes file) :
    ∃ position, zoneTypeOf file = .error (.unicodeDecodeError position) := by
  cases file with
  | missing => exact absurd trivial undecodable
  | unreadable => exact absurd trivial undecodable
  | contents bytes =>
      cases decoded : decodeUtf8 bytes with
      | ok text => exact absurd (isUtf8_iff.mpr ⟨text, decoded⟩) undecodable
      | error position =>
          refine ⟨position, ?_⟩
          unfold zoneTypeOf readText
          simp only [decoded]

section Collecting
variable {tables} {basePath : List Char}

theorem collectZones_decodes : ∀ {entries : List Entry},
    (∀ entry ∈ entries, (candidateZone tables basePath entry).isSome = true →
      Decodes entry.typeFile) →
      collectZones tables basePath entries =
        .ok (entries.filterMap (candidateZone tables basePath)) := by
  intro entries decode
  induction entries with
  | nil => rfl
  | cons entry rest ih =>
      have later := ih fun other member => decode other (List.mem_cons_of_mem _ member)
      have here := decode entry List.mem_cons_self
      rw [collectZones]
      by_cases missing : entry.tempFile = .missing
      · rw [if_pos missing, later, List.filterMap_cons_none]
        rw [candidateZone, if_pos missing]
      · rw [if_neg missing]
        rw [candidateZone, if_neg missing] at here
        cases index : zoneIndex tables entry.name with
        | none =>
            rw [List.filterMap_cons_none]
            · exact later
            · rw [candidateZone, if_neg missing, index]
              rfl
        | some value =>
            rw [index] at here
            rw [zoneTypeOf_decodes (here rfl), later,
              List.filterMap_cons_some (b := ⟨value, bestEffortType entry.typeFile,
                tempPath basePath entry.name⟩)]
            · rfl
            · rw [candidateZone, if_neg missing, index]
              rfl

theorem collectZones_undecodable : ∀ {entries : List Entry} {entry : Entry}, entry ∈ entries →
    (candidateZone tables basePath entry).isSome = true → ¬ Decodes entry.typeFile →
      ∃ position, collectZones tables basePath entries = .error (.unicodeDecodeError position) := by
  intro entries entry member candidate undecodable
  induction entries with
  | nil => cases member
  | cons first rest ih =>
      rw [collectZones]
      by_cases missing : first.tempFile = .missing
      · rw [if_pos missing]
        rcases List.mem_cons.mp member with rfl | later
        · rw [candidateZone, if_pos missing] at candidate
          cases candidate
        · exact ih later
      · rw [if_neg missing]
        cases index : zoneIndex tables first.name with
        | none =>
            rcases List.mem_cons.mp member with rfl | later
            · rw [candidateZone, if_neg missing, index] at candidate
              cases candidate
            · exact ih later
        | some value =>
            by_cases decodes : Decodes first.typeFile
            · rcases List.mem_cons.mp member with rfl | later
              · exact absurd decodes undecodable
              · obtain ⟨position, raised⟩ := ih later
                rw [zoneTypeOf_decodes decodes, raised]
                exact ⟨position, rfl⟩
            · obtain ⟨position, raised⟩ := zoneTypeOf_undecodable decodes
              rw [raised]
              exact ⟨position, rfl⟩

theorem readableZone_eq (entry : Entry) :
    readableZone tables basePath entry =
      if (readMillidegrees tables entry.tempFile).isSome = true then
        candidateZone tables basePath entry
      else none := by
  unfold readableZone candidateZone
  cases read : readMillidegrees tables entry.tempFile with
  | none => cases zoneIndex tables entry.name <;> rfl
  | some value =>
      have present : entry.tempFile ≠ .missing := by
        intro missing
        rw [missing] at read
        cases read
      rw [if_neg present]
      cases zoneIndex tables entry.name <;> rfl

theorem candidateZone_isSome_iff (entry : Entry) :
    (candidateZone tables basePath entry).isSome = true ↔
      (zoneIndex tables entry.name).isSome = true ∧ entry.tempFile ≠ .missing := by
  unfold candidateZone
  split
  · rename_i missing
    simp [missing]
  · rename_i present
    simp [present]

end Collecting

theorem listThermalZones_eq (basePath : List Char) (directory : Option (List Entry)) :
    listThermalZones tables basePath directory =
      collectZones tables basePath (sortedZones (directory.getD [])) := by
  cases directory with
  | none =>
      have nothing : sortedZones [] = [] := (sortedZones_perm []).eq_nil
      rw [Option.getD_none, nothing]
      rfl
  | some entries => rfl

theorem mem_sortedZones_iff {entries : List Entry} {entry : Entry} :
    entry ∈ sortedZones entries ↔
      entry ∈ entries ∧ thermalZone.isPrefixOf entry.name = true := by
  rw [(sortedZones_perm entries).mem_iff, List.mem_filter]

theorem candidate_iff (basePath : List Char) {entries : List Entry} {entry : Entry} :
    entry ∈ sortedZones entries ∧ (candidateZone tables basePath entry).isSome = true ↔
      entry ∈ entries ∧ Candidate tables entry := by
  rw [mem_sortedZones_iff, candidateZone_isSome_iff]
  constructor
  · rintro ⟨⟨member, named⟩, numbered, present⟩
    exact ⟨member, named, numbered, present⟩
  · rintro ⟨member, named, numbered, present⟩
    exact ⟨⟨member, named⟩, numbered, present⟩

/-! ## Where discovery keeps its promise -/

theorem filterMap_eq_iff {Item Value : Type*} {whole part : Item → Option Value}
    (restricts : ∀ item, part item = none ∨ part item = whole item) : ∀ items : List Item,
    items.filterMap whole = items.filterMap part ↔ ∀ item ∈ items, part item = whole item := by
  have shorter : ∀ items : List Item,
      (items.filterMap part).length ≤ (items.filterMap whole).length := by
    intro items
    induction items with
    | nil => simp
    | cons item rest ih =>
        rcases restricts item with leftOut | same
        · cases value : whole item <;> simp [leftOut, value] <;> omega
        · cases value : whole item <;> simp [same, value] <;> omega
  intro items
  induction items with
  | nil => simp
  | cons item rest ih =>
      have length := shorter rest
      rcases restricts item with leftOut | same
      · cases value : whole item with
        | none => simp [leftOut, value, ih]
        | some found =>
            refine iff_of_false ?_ ?_
            · intro equal
              have lengths := congrArg List.length equal
              simp [leftOut, value] at lengths
              omega
            · intro every
              have here := every item List.mem_cons_self
              rw [leftOut, value] at here
              cases here
      · cases value : whole item <;> simp [same, value, ih]

def EveryZoneReads (directory : Option (List Entry)) : Prop :=
  ∀ entry ∈ directory.getD [], Candidate tables entry →
    Decodes entry.typeFile ∧ (readMillidegrees tables entry.tempFile).isSome = true

/-- Every type decodes, and a match that cannot be read comes with one that can. -/
structure SomeMatchReads (zoneTypeSubstring : Option (List Char))
    (directory : Option (List Entry)) : Prop where
  decode : ∀ entry ∈ directory.getD [], Candidate tables entry → Decodes entry.typeFile
  readable : (∃ entry ∈ directory.getD [], Candidate tables entry ∧
      isWanted tables zoneTypeSubstring (bestEffortType entry.typeFile) = true) →
    ∃ entry ∈ directory.getD [], Candidate tables entry ∧
      (readMillidegrees tables entry.tempFile).isSome = true ∧
      isWanted tables zoneTypeSubstring (bestEffortType entry.typeFile) = true

section Promise
variable {tables} {basePath : List Char} {directory : Option (List Entry)}
  {zoneTypeSubstring : Option (List Char)}

theorem listThermalZones_decodes
    (decode : ∀ entry ∈ directory.getD [], Candidate tables entry → Decodes entry.typeFile) :
    listThermalZones tables basePath directory =
      .ok ((sortedZones (directory.getD [])).filterMap (candidateZone tables basePath)) := by
  rw [listThermalZones_eq]
  apply collectZones_decodes
  intro entry member candidate
  obtain ⟨inDirectory, isCandidate⟩ := (candidate_iff tables basePath).mp ⟨member, candidate⟩
  exact decode entry inDirectory isCandidate

theorem listThermalZones_undecodable (basePath : List Char) {entry : Entry}
    (member : entry ∈ directory.getD []) (candidate : Candidate tables entry)
    (undecodable : ¬ Decodes entry.typeFile) :
    ∃ position, listThermalZones tables basePath directory =
      .error (.unicodeDecodeError position) := by
  obtain ⟨listed, found⟩ := (candidate_iff tables basePath).mpr ⟨member, candidate⟩
  rw [listThermalZones_eq]
  exact collectZones_undecodable listed found undecodable

theorem construct_of_error {error : PyError} (aggregate : Aggregate)
    (raised : listThermalZones tables basePath directory = .error error) :
    construct tables zoneTypeSubstring (aggregateText aggregate) basePath directory =
      .error error := by
  rw [construct, if_neg (by cases aggregate <;> simp [aggregateText]), raised]
  rfl

theorem construct_of_ok {zones : List ThermalZoneInfo} (aggregate : Aggregate)
    (listed : listThermalZones tables basePath directory = .ok zones) :
    construct tables zoneTypeSubstring (aggregateText aggregate) basePath directory =
      if zones.filter (fun zone => isWanted tables zoneTypeSubstring zone.zoneType) = [] then
        .error (.runtimeError (noZonesMessage basePath zoneTypeSubstring))
      else
        .ok ⟨(zones.filter fun zone =>
          isWanted tables zoneTypeSubstring zone.zoneType).map ThermalZoneInfo.tempPath,
            aggregateText aggregate⟩ := by
  rw [construct, if_neg (by cases aggregate <;> simp [aggregateText]), listed]
  rfl

theorem matches_iff (zones : List ThermalZoneInfo) :
    Matches tables zoneTypeSubstring zones ↔
      zones.filter (fun zone => isWanted tables zoneTypeSubstring zone.zoneType) ≠ [] := by
  simp [Matches, List.filter_eq_nil_iff]

theorem constructsOnReadable_iff {zones : List ThermalZoneInfo} (aggregate : Aggregate)
    (listed : listThermalZones tables basePath directory = .ok zones) :
    ConstructsOnReadable tables zoneTypeSubstring (aggregateText aggregate) basePath directory ↔
      (Matches tables zoneTypeSubstring zones ↔
        Matches tables zoneTypeSubstring (readableZones tables basePath directory)) := by
  have outcome := @construct_of_ok _ _ _ zoneTypeSubstring _ aggregate listed
  have found := @matches_iff tables zoneTypeSubstring zones
  by_cases empty :
      zones.filter (fun zone => isWanted tables zoneTypeSubstring zone.zoneType) = []
  · rw [if_pos empty] at outcome
    have noMatch : ¬ Matches tables zoneTypeSubstring zones := fun some => found.mp some empty
    constructor
    · intro constructs
      have same := constructs.succeeds_iff
      rw [outcome] at same
      exact iff_of_false noMatch fun some => by
        obtain ⟨reader, isOk⟩ := same.mpr some
        cases isOk
    · intro same
      constructor
      · rw [outcome, ← same]
        exact iff_of_false (fun ⟨_, isOk⟩ => nomatch isOk) noMatch
      · exact fun _ => ⟨_, outcome⟩
  · rw [if_neg empty] at outcome
    have isMatch := found.mpr empty
    constructor
    · intro constructs
      exact iff_of_true isMatch (constructs.succeeds_iff.mp ⟨_, outcome⟩)
    · intro same
      constructor
      · exact iff_of_true ⟨_, outcome⟩ (same.mp isMatch)
      · exact fun noMatch => absurd (same.mp isMatch) noMatch

theorem candidateZone_zoneType {entry : Entry} {zone : ThermalZoneInfo}
    (found : candidateZone tables basePath entry = some zone) :
    zone.zoneType = bestEffortType entry.typeFile := by
  unfold candidateZone at found
  split at found
  · cases found
  · obtain ⟨index, _, rfl⟩ := Option.map_eq_some_iff.mp found
    rfl

theorem matches_candidates_iff (basePath : List Char) :
    Matches tables zoneTypeSubstring
        ((sortedZones (directory.getD [])).filterMap (candidateZone tables basePath)) ↔
      ∃ entry ∈ directory.getD [], Candidate tables entry ∧
        isWanted tables zoneTypeSubstring (bestEffortType entry.typeFile) = true := by
  constructor
  · rintro ⟨zone, member, wanted⟩
    obtain ⟨entry, listed, found⟩ := List.mem_filterMap.mp member
    obtain ⟨inDirectory, candidate⟩ :=
      (candidate_iff tables basePath).mp ⟨listed, by rw [found]; rfl⟩
    rw [candidateZone_zoneType found] at wanted
    exact ⟨entry, inDirectory, candidate, wanted⟩
  · rintro ⟨entry, inDirectory, candidate, wanted⟩
    obtain ⟨listed, isSome⟩ := (candidate_iff tables basePath).mpr ⟨inDirectory, candidate⟩
    obtain ⟨zone, found⟩ := Option.isSome_iff_exists.mp isSome
    rw [← candidateZone_zoneType found] at wanted
    exact ⟨zone, List.mem_filterMap.mpr ⟨entry, listed, found⟩, wanted⟩

theorem matches_readable_iff (basePath : List Char) :
    Matches tables zoneTypeSubstring (readableZones tables basePath directory) ↔
      ∃ entry ∈ directory.getD [], Candidate tables entry ∧
        (readMillidegrees tables entry.tempFile).isSome = true ∧
        isWanted tables zoneTypeSubstring (bestEffortType entry.typeFile) = true := by
  constructor
  · rintro ⟨zone, member, wanted⟩
    obtain ⟨entry, listed, found⟩ := List.mem_filterMap.mp member
    rw [readableZone_eq] at found
    split at found
    · rename_i reads
      obtain ⟨inDirectory, candidate⟩ :=
        (candidate_iff tables basePath).mp ⟨listed, by rw [found]; rfl⟩
      rw [candidateZone_zoneType found] at wanted
      exact ⟨entry, inDirectory, candidate, reads, wanted⟩
    · cases found
  · rintro ⟨entry, inDirectory, candidate, reads, wanted⟩
    obtain ⟨listed, isSome⟩ := (candidate_iff tables basePath).mpr ⟨inDirectory, candidate⟩
    obtain ⟨zone, found⟩ := Option.isSome_iff_exists.mp isSome
    rw [← candidateZone_zoneType found] at wanted
    refine ⟨zone, List.mem_filterMap.mpr ⟨entry, listed, ?_⟩, wanted⟩
    rw [readableZone_eq, if_pos reads, found]

theorem listsReadable_iff
    (decode : ∀ entry ∈ directory.getD [], Candidate tables entry → Decodes entry.typeFile) :
    ListsReadable tables basePath directory ↔
      ∀ entry ∈ directory.getD [], Candidate tables entry →
        (readMillidegrees tables entry.tempFile).isSome = true := by
  rw [ListsReadable, listThermalZones_decodes decode, Except.ok.injEq, readableZones,
    filterMap_eq_iff]
  · constructor
    · intro same entry inDirectory candidate
      obtain ⟨listed, isSome⟩ := (candidate_iff tables basePath).mpr ⟨inDirectory, candidate⟩
      have here := same entry listed
      rw [readableZone_eq] at here
      split at here
      · assumption
      · rw [← here] at isSome
        cases isSome
    · intro reads entry listed
      rw [readableZone_eq]
      split
      · rfl
      · rename_i unread
        by_contra differs
        have isSome : (candidateZone tables basePath entry).isSome = true :=
          Option.isSome_iff_ne_none.mpr fun nothing => differs nothing.symm
        obtain ⟨inDirectory, candidate⟩ := (candidate_iff tables basePath).mp ⟨listed, isSome⟩
        exact unread (reads entry inDirectory candidate)
  · intro entry
    rw [readableZone_eq]
    split
    · exact Or.inr rfl
    · exact Or.inl rfl

/-- Where every type decodes, unreadable matches need a readable one beside them. -/
theorem constructs_iff_of_decodes (aggregate : Aggregate)
    (decode : ∀ entry ∈ directory.getD [], Candidate tables entry → Decodes entry.typeFile) :
    ConstructsOnReadable tables zoneTypeSubstring (aggregateText aggregate) basePath directory ↔
      SomeMatchReads tables zoneTypeSubstring directory := by
  rw [constructsOnReadable_iff aggregate (listThermalZones_decodes decode),
    matches_candidates_iff, matches_readable_iff]
  constructor
  · exact fun same => ⟨decode, same.mp⟩
  · intro some
    refine ⟨some.readable, ?_⟩
    rintro ⟨entry, member, candidate, _, wanted⟩
    exact ⟨entry, member, candidate, wanted⟩

/-- A type that does not decode leaves the constructor as `UnicodeDecodeError`. -/
theorem not_constructs_of_undecodable (aggregate : Aggregate) {entry : Entry}
    (member : entry ∈ directory.getD []) (candidate : Candidate tables entry)
    (undecodable : ¬ Decodes entry.typeFile) :
    ¬ ConstructsOnReadable tables zoneTypeSubstring (aggregateText aggregate) basePath
      directory := by
  intro constructs
  obtain ⟨position, raised⟩ := listThermalZones_undecodable basePath member candidate undecodable
  have outcome := @construct_of_error _ _ _ zoneTypeSubstring _ aggregate raised
  have same := constructs.succeeds_iff
  have otherwise := constructs.otherwise
  rw [outcome] at same otherwise
  by_cases isMatch : Matches tables zoneTypeSubstring (readableZones tables basePath directory)
  · obtain ⟨reader, isOk⟩ := same.mpr isMatch
    cases isOk
  · obtain ⟨message, isRuntime⟩ := otherwise isMatch
    cases isRuntime

end Promise

/-- Both promises together hold on the trees where every zone that counts reads;
the constructor's alone also where a readable match makes up for an unreadable one. -/
theorem discovery_iff (zoneTypeSubstring : Option (List Char)) (aggregate : Aggregate)
    (basePath : List Char) (directory : Option (List Entry)) :
    (ListsReadable tables basePath directory ∧
        ConstructsOnReadable tables zoneTypeSubstring (aggregateText aggregate) basePath directory ↔
      EveryZoneReads tables directory) ∧
    (ConstructsOnReadable tables zoneTypeSubstring (aggregateText aggregate) basePath directory ↔
      SomeMatchReads tables zoneTypeSubstring directory) := by
  by_cases decode :
      ∀ entry ∈ directory.getD [], Candidate tables entry → Decodes entry.typeFile
  · have constructs :=
      @constructs_iff_of_decodes tables basePath _ zoneTypeSubstring aggregate decode
    refine ⟨?_, constructs⟩
    rw [listsReadable_iff decode, constructs]
    constructor
    · exact fun both entry member candidate =>
        ⟨decode entry member candidate, both.1 entry member candidate⟩
    · intro every
      refine ⟨fun entry member candidate => (every entry member candidate).2, decode, ?_⟩
      rintro ⟨entry, member, candidate, wanted⟩
      exact ⟨entry, member, candidate, (every entry member candidate).2, wanted⟩
  · push Not at decode
    obtain ⟨entry, member, candidate, undecodable⟩ := decode
    have fails := @not_constructs_of_undecodable tables basePath _ zoneTypeSubstring aggregate _
      member candidate undecodable
    constructor
    · exact iff_of_false (fun both => fails both.2) fun every =>
        undecodable (every entry member candidate).1
    · exact iff_of_false fails fun some => undecodable (some.decode entry member candidate)

/-! ## Trees of ASCII text -/

structure AsciiEntry (entry : Entry) : Prop where
  name : ∀ character ∈ entry.name, 32 ≤ character.toNat ∧ character.toNat < 128
  typeFile : ∀ bytes, entry.typeFile = .contents bytes → ∀ byte ∈ bytes, byte.toNat < 128

theorem ascii_charsOf {bytes : List UInt8} (ascii : ∀ byte ∈ bytes, byte.toNat < 128) :
    Ascii (charsOf bytes) := by
  intro character member
  obtain ⟨byte, inBytes, rfl⟩ := List.mem_map.mp member
  rw [PythonText.toNat_ofNat_byte]
  exact ascii byte inBytes

theorem decodeUtf8_charsOf {bytes : List UInt8} (ascii : ∀ byte ∈ bytes, byte.toNat < 128) :
    decodeUtf8 bytes = .ok (charsOf bytes) := by
  have encoded : (charsOf bytes).map (fun character => UInt8.ofNat character.toNat) = bytes := by
    rw [charsOf, List.map_map]
    refine (List.map_congr_left fun byte _ => ?_).trans (List.map_id bytes)
    rw [Function.comp_apply, PythonText.toNat_ofNat_byte, UInt8.ofNat_toNat]
    rfl
  have decoded := decodeUtf8_ascii (ascii_charsOf ascii)
  rwa [encoded] at decoded

theorem ascii_universalNewlines : ∀ {text : List Char}, Ascii text →
    Ascii (PythonText.universalNewlines text) := by
  intro text ascii
  induction text with
  | nil => exact ascii
  | cons character rest ih =>
      have later := ih fun other member => ascii other (List.mem_cons_of_mem _ member)
      have front : ∀ first : Char, first.toNat < 128 →
          Ascii (first :: PythonText.universalNewlines rest) := by
        intro first small other member
        rcases List.mem_cons.mp member with rfl | inRest
        · exact small
        · exact later other inRest
      rw [PythonText.universalNewlines]
      split
      · split
        · exact later
        · exact front '\n' (by decide)
      · exact front character (ascii character List.mem_cons_self)

theorem zoneTypeOf_ascii {entry : Entry} (ascii : AsciiEntry entry) :
    zoneTypeOf entry.typeFile = ThermalZones.zoneTypeOf entry.typeFile := by
  cases file : entry.typeFile with
  | missing => rfl
  | unreadable => rfl
  | contents bytes =>
      have small := ascii.typeFile bytes file
      have asciiText : PythonText.decodeAscii bytes = .ok (charsOf bytes) :=
        PythonText.decodeAscii_ascii small
      unfold zoneTypeOf ThermalZones.zoneTypeOf readText ThermalZones.readText
      simp only [decodeUtf8_charsOf small, asciiText,
        strip_ascii (ascii_universalNewlines (ascii_charsOf small))]

theorem zoneIndex_ascii {entry : Entry} (ascii : AsciiEntry entry) :
    zoneIndex tables entry.name = PythonText.int (removeThermalZone entry.name) := by
  have inName : ∀ character ∈ removeThermalZone entry.name, character ∈ entry.name := by
    intro character member
    unfold removeThermalZone at member
    split at member
    · exact List.mem_of_mem_drop member
    · exact member
  have small : Ascii (removeThermalZone entry.name) :=
    fun character member => (ascii.name character (inName character member)).2
  rw [zoneIndex, decodeUtf8_ascii small]
  refine int_ascii tables small ?_
  intro character member
  have printable := ascii.name character (inName character member)
  omega

/-- The two models list the same zones. -/
theorem listThermalZones_ascii (basePath : List Char) {entries : List Entry}
    (ascii : ∀ entry ∈ entries, AsciiEntry entry) :
    listThermalZones tables basePath (some entries) =
      ThermalZones.listThermalZones basePath (some entries) := by
  have collected : ∀ entries : List Entry, (∀ entry ∈ entries, AsciiEntry entry) →
      collectZones tables basePath entries = ThermalZones.collectZones basePath entries := by
    intro entries ascii
    induction entries with
    | nil => rfl
    | cons entry rest ih =>
        have here := ascii entry List.mem_cons_self
        rw [collectZones, zoneIndex_ascii tables here, zoneTypeOf_ascii here,
          ih fun other member => ascii other (List.mem_cons_of_mem _ member)]
        rfl
  apply collected
  intro entry member
  exact ascii entry (mem_sortedZones_iff.mp member).1

end Tables

def asciiTables : UnicodeTables := ⟨fun _ => none, fun text => text.map Char.toLower⟩

def zone0 : List Char := thermalZone ++ ['0']

def undecodableZone : Entry := ⟨zone0, .contents [255], .contents [52, 48, 48, 48, 48, 10]⟩

def garbledZone : Entry := ⟨zone0, .missing, .contents [110, 47, 97, 10]⟩

theorem bad_zones_break_discovery :
    ¬ ListsReadable asciiTables [] (some [undecodableZone]) ∧
      ¬ ListsReadable asciiTables [] (some [garbledZone]) ∧
      ¬ ConstructsOnReadable asciiTables none "max" [] (some [garbledZone]) := by
  refine ⟨by unfold ListsReadable; decide +kernel, by unfold ListsReadable; decide +kernel, ?_⟩
  intro constructs
  obtain ⟨zone, member, _⟩ := constructs.succeeds_iff.mp ⟨⟨[tempPath [] zone0], "max"⟩, by
    decide +kernel⟩
  have nothing : readableZones asciiTables [] (some [garbledZone]) = [] := by decide +kernel
  rw [nothing] at member
  cases member

end Msp.Python.ThermalDiscovery
