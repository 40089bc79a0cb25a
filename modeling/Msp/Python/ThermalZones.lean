import Mathlib.Algebra.Order.Ring.Rat
import Mathlib.Algebra.BigOperators.Group.List.Basic
import Mathlib.Data.Char
import Mathlib.Data.List.Infix
import Mathlib.Data.List.Lex
import Msp.Library.PythonText
import Msp.ThermalTree

/-!
# `LinuxThermalZoneReader`

Model of `list_thermal_zones` and `LinuxThermalZoneReader` of
`src/python/msp/thermal.py`.  Texts are ASCII, whatever the locale's encoding;
temperatures are exact.  A path is the list of its parts.
-/

set_option autoImplicit false

namespace Msp.Python.ThermalZones

open Msp.Library Msp.Library.PythonText Msp.ThermalTree

inductive PyError where
  | valueError (message : String)
  | runtimeError (message : String)
  | unicodeDecodeError (position : Nat)
  deriving DecidableEq, Repr

inductive ReadTextError where
  | osError
  | unicodeDecodeError (position : Nat)
  deriving DecidableEq, Repr

def readText : File → Except ReadTextError (List Char)
  | .contents bytes =>
      match decodeAscii bytes with
      | .ok text => .ok (universalNewlines text)
      | .error position => .error (.unicodeDecodeError position)
  | _ => .error .osError

abbrev Path := List (List Char)

structure ThermalZoneInfo where
  index : Int
  zoneType : List Char
  tempPath : Path
  deriving DecidableEq, Repr

def tempPath (basePath name : List Char) : Path := [basePath, name, ['t', 'e', 'm', 'p']]

def removeThermalZone (name : List Char) : List Char :=
  if thermalZone.isPrefixOf name then name.drop thermalZone.length else name

/-- The type of a zone; of the errors of `read_text` only `OSError` is caught. -/
def zoneTypeOf : File → Except PyError (List Char)
  | .missing => .ok unknown
  | file =>
      match readText file with
      | .ok text => .ok (strip text)
      | .error .osError => .ok unknown
      | .error (.unicodeDecodeError position) => .error (.unicodeDecodeError position)

def collectZones (basePath : List Char) : List Entry → Except PyError (List ThermalZoneInfo)
  | [] => .ok []
  | entry :: rest =>
      if entry.tempFile = .missing then collectZones basePath rest
      else
        match int (removeThermalZone entry.name) with
        | none => collectZones basePath rest
        | some index => do
            let zoneType ← zoneTypeOf entry.typeFile
            let zones ← collectZones basePath rest
            .ok (⟨index, zoneType, tempPath basePath entry.name⟩ :: zones)

/-- `sorted(base.glob("thermal_zone*"))`. -/
def sortedZones (entries : List Entry) : List Entry :=
  (entries.filter fun entry => thermalZone.isPrefixOf entry.name).mergeSort fun first second =>
    decide (first.name ≤ second.name)

/-- `directory` is `none` when the base path is no directory; otherwise it is
listed in any order. -/
def listThermalZones (basePath : List Char) (directory : Option (List Entry)) :
    Except PyError (List ThermalZoneInfo) :=
  match directory with
  | none => .ok []
  | some entries => collectZones basePath (sortedZones entries)

def lower (text : List Char) : List Char := text.map Char.toLower

structure LinuxThermalZoneReader where
  tempPaths : List Path
  aggregate : String
  deriving DecidableEq, Repr

def noZonesMessage (basePath : List Char) (zoneTypeSubstring : Option (List Char)) : String :=
  "no readable thermal zones found under '" ++ String.ofList basePath ++ "'" ++
    (match zoneTypeSubstring with
      | some (first :: rest) =>
          " matching type substring '" ++ String.ofList (first :: rest) ++ "'"
      | _ => "") ++
    " -- LinuxThermalZoneReader requires real hardware sysfs " ++
    "entries; use a ScriptedThermalReader for tests/simulation."

def isWanted (zoneTypeSubstring : Option (List Char)) (zoneType : List Char) : Bool :=
  match zoneTypeSubstring with
  | none => true
  | some substring => decide (lower substring <:+: lower zoneType)

def LinuxThermalZoneReader.construct (zoneTypeSubstring : Option (List Char))
    (aggregate : String) (basePath : List Char) (directory : Option (List Entry)) :
    Except PyError LinuxThermalZoneReader :=
  if aggregate ≠ "max" ∧ aggregate ≠ "mean" then
    .error (.valueError "aggregate must be 'max' or 'mean'")
  else do
    let discovered ← listThermalZones basePath directory
    let zones := discovered.filter fun zone => isWanted zoneTypeSubstring zone.zoneType
    if zones = [] then .error (.runtimeError (noZonesMessage basePath zoneTypeSubstring))
    else .ok ⟨zones.map ThermalZoneInfo.tempPath, aggregate⟩

/-- One path of the reading loop: `OSError` and `ValueError`, of which
`UnicodeDecodeError` is one, skip it. -/
def readMillidegrees (file : File) : Option Int :=
  match readText file with
  | .ok text => int (strip text)
  | .error _ => none

/-- `LinuxThermalZoneReader.__call__`, with what stands under each path then. -/
def LinuxThermalZoneReader.call (reader : LinuxThermalZoneReader) (files : Path → File) :
    Except PyError ℚ :=
  let millidegrees := reader.tempPaths.filterMap fun path => readMillidegrees (files path)
  match millidegrees.map fun value : Int => (value : ℚ) / 1000 with
  | [] =>
      .error (.runtimeError
        ("all previously-discovered thermal zones failed to read " ++
          "on this call -- hardware may have changed since construction"))
  | first :: rest =>
      .ok (if reader.aggregate = "max" then rest.foldl max first
        else (first :: rest).sum / (first :: rest).length)

def filesOf (basePath : List Char) (directory : Option (List Entry)) (path : Path) : File :=
  match (directory.getD []).find? fun entry => decide (tempPath basePath entry.name = path) with
  | some entry => entry.tempFile
  | none => .missing

def constructAndCall (zoneTypeSubstring : Option (List Char)) (aggregate : String)
    (basePath : List Char) (directory : Option (List Entry)) : Except PyError ℚ := do
  let reader ← LinuxThermalZoneReader.construct zoneTypeSubstring aggregate basePath directory
  reader.call (filesOf basePath directory)

def aggregateText : Aggregate → String
  | .max => "max"
  | .mean => "mean"

theorem sortedZones_perm (entries : List Entry) :
    (sortedZones entries).Perm (entries.filter fun entry => thermalZone.isPrefixOf entry.name) :=
  List.mergeSort_perm _ _

/-- With a number behind every name and every type read, each zone that has a
`temp` file is found. -/
theorem collectZones_eq (basePath : List Char) (zoneType : Entry → List Char) :
    ∀ entries : List Entry,
      (∀ entry ∈ entries, (int (removeThermalZone entry.name)).isSome = true) →
      (∀ entry ∈ entries, zoneTypeOf entry.typeFile = .ok (zoneType entry)) →
      ∃ index : Entry → Int, collectZones basePath entries =
        .ok ((entries.filter fun entry => decide (entry.tempFile ≠ .missing)).map fun entry =>
          ⟨index entry, zoneType entry, tempPath basePath entry.name⟩) := by
  intro entries numbered typed
  refine ⟨fun entry => (int (removeThermalZone entry.name)).getD 0, ?_⟩
  induction entries with
  | nil => rfl
  | cons entry rest ih =>
      have found := ih (fun other member => numbered other (List.mem_cons_of_mem _ member))
        fun other member => typed other (List.mem_cons_of_mem _ member)
      rw [collectZones]
      by_cases missing : entry.tempFile = .missing
      · rw [if_pos missing, found, List.filter_cons_of_neg (by simp [missing])]
      · obtain ⟨index, isIndex⟩ := Option.isSome_iff_exists.mp (numbered entry List.mem_cons_self)
        rw [if_neg missing, isIndex, typed entry List.mem_cons_self, found,
          List.filter_cons_of_pos (by simp [missing]), List.map_cons]
        dsimp only
        rw [isIndex]
        rfl

theorem filesOf_tempPath {basePath : List Char} {entries : List Entry} {entry : Entry}
    (distinct : (entries.map Entry.name).Nodup) (member : entry ∈ entries) :
    filesOf basePath (some entries) (tempPath basePath entry.name) = entry.tempFile := by
  have found : entries.find? (fun other =>
      decide (tempPath basePath other.name = tempPath basePath entry.name)) = some entry := by
    induction entries with
    | nil => cases member
    | cons first rest ih =>
        rw [List.map_cons, List.nodup_cons] at distinct
        rcases List.mem_cons.mp member with rfl | later
        · exact List.find?_cons_of_pos (by simp)
        · have differs : tempPath basePath first.name ≠ tempPath basePath entry.name := by
            intro same
            have sameName : first.name = entry.name := by simpa [tempPath] using same
            exact distinct.1 (sameName ▸ List.mem_map_of_mem later)
          rw [List.find?_cons_of_neg (by simpa using differs)]
          exact ih distinct.2 later
  rw [filesOf, Option.getD_some, found]

def celsiusUnder (files : Path → File) (paths : List Path) : List ℚ :=
  (paths.filterMap fun path => readMillidegrees (files path)).map fun value : Int =>
    (value : ℚ) / 1000

theorem call_of_nothing {reader : LinuxThermalZoneReader} {files : Path → File}
    (nothing : celsiusUnder files reader.tempPaths = []) :
    ∃ message, reader.call files = .error (.runtimeError message) := by
  unfold LinuxThermalZoneReader.call
  unfold celsiusUnder at nothing
  dsimp only
  rw [nothing]
  exact ⟨_, rfl⟩

theorem call_of_readings {reader : LinuxThermalZoneReader} {files : Path → File} {first : ℚ}
    {rest : List ℚ} (read : celsiusUnder files reader.tempPaths = first :: rest) :
    reader.call files = .ok (if reader.aggregate = "max" then rest.foldl max first
      else (first :: rest).sum / (first :: rest).length) := by
  unfold LinuxThermalZoneReader.call
  unfold celsiusUnder at read
  dsimp only
  rw [read]

end Msp.Python.ThermalZones
