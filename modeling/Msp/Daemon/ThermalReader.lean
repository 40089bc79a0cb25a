import Mathlib.Algebra.BigOperators.Group.List.Basic
import Msp.Daemon.SandboxWatchdog
import Msp.Library.CText
import Msp.Library.Maximum
import Msp.ThermalTree

/-!
# The thermal zone reader of the daemon

Model of `src/daemon/thermal_reader.c`.  A read sees one listing of the base
directory, in the order `readdir` gives it, with what each file holds at that
moment; temperatures are exact.
-/

set_option autoImplicit false

namespace Msp.Daemon.ThermalReader

open Msp.Library Msp.ThermalTree Msp.Daemon.SandboxWatchdog

structure Config where
  basePath : List Char
  zoneTypeFilter : List Char
  aggregate : Aggregate
  deriving DecidableEq, Repr

def typeFilterMax : Nat := 64

def zoneDirSize : Nat := 300

def pathSize : Nat := 320

/-- `snprintf` into a buffer of `size` bytes, with the check of its result. -/
def snprintf (size : Nat) (text : List Char) : Option (List Char) :=
  if text.length < size then some text else none

def fopen : File → Option (List Char)
  | .contents bytes => some (charsOf bytes)
  | _ => none

def isLineEnd (character : Char) : Bool := decide (character = '\n' ∨ character = '\r')

def readZoneType (zoneDir : List Char) (typeFile : File) (outLen : Nat) : Option (List Char) :=
  match snprintf pathSize (zoneDir ++ ['/', 't', 'y', 'p', 'e']) with
  | none => none
  | some _ =>
      match fopen typeFile with
      | none => none
      | some text =>
          (CText.fgets outLen text).map fun line => (CText.cString line).rdropWhile isLineEnd

def readZoneMillidegrees (zoneDir : List Char) (tempFile : File) : Option Int :=
  match snprintf pathSize (zoneDir ++ ['/', 't', 'e', 'm', 'p']) with
  | none => none
  | some _ =>
      match fopen tempFile with
      | none => none
      | some text => CText.scanLong text

/-- The inner loop of `contains_ci`. -/
def startsWithCi : List Char → List Char → Bool
  | _, [] => true
  | [], _ :: _ => false
  | character :: haystack, other :: needle =>
      decide (CText.tolower character = CText.tolower other) && startsWithCi haystack needle

def containsCi (haystack needle : List Char) : Bool :=
  if needle = [] then true
  else if haystack.length < needle.length then false
  else
    (List.range (haystack.length - needle.length + 1)).any fun index =>
      startsWithCi (haystack.drop index) needle

structure Accumulator where
  sumC : ℚ
  maxC : FloatValue
  count : Nat
  deriving DecidableEq, Repr

def Accumulator.start : Accumulator := ⟨0, .negInf, 0⟩

def Accumulator.add (accumulator : Accumulator) (celsius : ℚ) : Accumulator where
  sumC := accumulator.sumC + celsius
  maxC := Maximum.higher accumulator.maxC celsius
  count := accumulator.count + 1

/-- The body of the `readdir` loop. -/
def visit (config : Config) (accumulator : Accumulator) (entry : Entry) : Accumulator :=
  if thermalZone.isPrefixOf entry.name then
    match snprintf zoneDirSize (config.basePath ++ '/' :: entry.name) with
    | none => accumulator
    | some zoneDir =>
        let zoneType := (readZoneType zoneDir entry.typeFile typeFilterMax).getD unknown
        if containsCi zoneType config.zoneTypeFilter then
          match readZoneMillidegrees zoneDir entry.tempFile with
          | none => accumulator
          | some millideg => accumulator.add ((millideg : ℚ) / 1000)
        else accumulator
  else accumulator

/-- `msp_thermal_reader_read`: `none` is the result -1, and `directory` is `none`
when `opendir` fails. -/
def thermalReaderRead (config : Config) (directory : Option (List Entry)) : Option FloatValue :=
  match directory with
  | none => none
  | some entries =>
      let accumulator := entries.foldl (visit config) Accumulator.start
      if accumulator.count = 0 then none
      else
        some (match config.aggregate with
          | .mean => .finite (accumulator.sumC / accumulator.count)
          | .max => accumulator.maxC)

def thermalReaderTelemetry (config : Config) (directory : Option (List Entry)) : Telemetry where
  temperatureC := (thermalReaderRead config directory).getD .posInf
  sramUsageBytes := 0
  securityViolation := false

theorem fits_path {zoneDir fileName : List Char} (short : zoneDir.length < zoneDirSize)
    (shortName : fileName.length ≤ 5) :
    snprintf pathSize (zoneDir ++ fileName) = some (zoneDir ++ fileName) := by
  have sizes : zoneDirSize = 300 ∧ pathSize = 320 := ⟨rfl, rfl⟩
  have fits : (zoneDir ++ fileName).length < pathSize := by
    rw [List.length_append]
    omega
  exact if_pos fits

theorem readZoneType_eq {zoneDir : List Char} (short : zoneDir.length < zoneDirSize)
    (typeFile : File) (outLen : Nat) :
    readZoneType zoneDir typeFile outLen = (fopen typeFile).bind fun text =>
      (CText.fgets outLen text).map fun line => (CText.cString line).rdropWhile isLineEnd := by
  rw [readZoneType, fits_path short (by decide)]
  cases fopen typeFile <;> rfl

theorem readZoneMillidegrees_eq {zoneDir : List Char} (short : zoneDir.length < zoneDirSize)
    (tempFile : File) :
    readZoneMillidegrees zoneDir tempFile = (fopen tempFile).bind CText.scanLong := by
  rw [readZoneMillidegrees, fits_path short (by decide)]
  cases fopen tempFile <;> rfl

def matchingZone (config : Config) (entry : Entry) : Option (List Char) :=
  if thermalZone.isPrefixOf entry.name then
    (snprintf zoneDirSize (config.basePath ++ '/' :: entry.name)).filter fun zoneDir =>
      containsCi ((readZoneType zoneDir entry.typeFile typeFilterMax).getD unknown)
        config.zoneTypeFilter
  else none

/-- What a matching zone yields, in millidegrees. -/
def zoneValue (config : Config) (entry : Entry) : Option Int :=
  (matchingZone config entry).bind fun zoneDir => readZoneMillidegrees zoneDir entry.tempFile

theorem visit_eq (config : Config) (accumulator : Accumulator) (entry : Entry) :
    visit config accumulator entry =
      match zoneValue config entry with
      | none => accumulator
      | some millideg => accumulator.add ((millideg : ℚ) / 1000) := by
  unfold visit zoneValue matchingZone
  split
  · cases snprintf zoneDirSize (config.basePath ++ '/' :: entry.name) with
    | none => rfl
    | some zoneDir =>
        dsimp only
        rw [Option.filter_some]
        split
        · rename_i isMatch
          rfl
        · rfl
  · rfl

/-- The temperatures a read aggregates, in the order of the listing. -/
def temperatures (config : Config) (directory : Option (List Entry)) : List ℚ :=
  ((directory.getD []).filterMap (zoneValue config)).map fun millideg : Int =>
    (millideg : ℚ) / 1000

def aggregated (aggregate : Aggregate) (celsius : List ℚ) : Option FloatValue :=
  if celsius = [] then none
  else
    some (match aggregate with
      | .mean => .finite (celsius.sum / celsius.length)
      | .max => Maximum.maximum celsius)

theorem foldl_visit (config : Config) : ∀ (entries : List Entry) (accumulator : Accumulator),
    entries.foldl (visit config) accumulator =
      (temperatures config (some entries)).foldl Accumulator.add accumulator := by
  intro entries
  induction entries with
  | nil => intro accumulator; rfl
  | cons entry rest ih =>
      intro accumulator
      rw [List.foldl_cons, ih, visit_eq]
      simp only [temperatures, Option.getD_some, List.filterMap_cons]
      cases zoneValue config entry <;> rfl

theorem foldl_add (celsius : List ℚ) : ∀ accumulator : Accumulator,
    celsius.foldl Accumulator.add accumulator =
      ⟨accumulator.sumC + celsius.sum, celsius.foldl Maximum.higher accumulator.maxC,
        accumulator.count + celsius.length⟩ := by
  induction celsius with
  | nil => intro accumulator; simp
  | cons first rest ih =>
      intro accumulator
      rw [List.foldl_cons, ih, List.foldl_cons, List.sum_cons, List.length_cons,
        Accumulator.add, add_assoc]
      congr 1
      dsimp only
      omega

/-- The loop aggregates the values of the matching zones and nothing else. -/
theorem thermalReaderRead_eq (config : Config) (directory : Option (List Entry)) :
    thermalReaderRead config directory =
      aggregated config.aggregate (temperatures config directory) := by
  cases directory with
  | none => rfl
  | some entries =>
      simp only [thermalReaderRead, foldl_visit, foldl_add, aggregated, Accumulator.start,
        zero_add, List.length_eq_zero_iff]
      rfl

end Msp.Daemon.ThermalReader
