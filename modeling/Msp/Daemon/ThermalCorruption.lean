import Msp.Daemon.ThermalReader
import Mathlib.Tactic.NormNum

/-!
# Corrupt sensor files

A `temp` file is good when the whole of it is one number.  The reader asks only
for a number at its beginning, so that a file cut short or garbled behind some
digits counts as a temperature.
-/

set_option autoImplicit false

namespace Msp.Daemon.ThermalCorruption

open Msp.Library Msp.Library.NumberText Msp.ThermalTree
open Msp.Daemon.SandboxWatchdog Msp.Daemon.ThermalReader

/-- Anything but one optionally signed decimal integer with white space around it. -/
def Corrupt : File → Prop
  | .contents bytes => ¬ IsNumber CText.isspace (charsOf bytes)
  | _ => True

/-- White space, an optional sign and a digit stand in front. -/
def LooksNumeric : File → Prop
  | .contents bytes => BeginsWithNumber CText.isspace (charsOf bytes)
  | _ => False

def IsMatching (config : Config) (entry : Entry) : Prop := matchingZone config entry ≠ none

instance (config : Config) (entry : Entry) : Decidable (IsMatching config entry) :=
  inferInstanceAs (Decidable (_ ≠ none))

def Ignored (config : Config) (entry : Entry) : Prop :=
  ∀ accumulator, visit config accumulator entry = accumulator

/-- Corrupt zones do not count, and nothing but corrupt zones reads as hot. -/
structure SkipsCorrupt (config : Config) (directory : Option (List Entry)) : Prop where
  ignored : ∀ entry ∈ directory.getD [], IsMatching config entry → Corrupt entry.tempFile →
    Ignored config entry
  failsHot : (∀ entry ∈ directory.getD [], IsMatching config entry → Corrupt entry.tempFile) →
    (thermalReaderTelemetry config directory).temperatureC = .posInf ∧
      violated (thermalReaderTelemetry config directory) = true

theorem ignored_iff (config : Config) (entry : Entry) :
    Ignored config entry ↔ zoneValue config entry = none := by
  constructor
  · intro ignored
    cases value : zoneValue config entry with
    | none => rfl
    | some millideg =>
        have counted := congrArg Accumulator.count (ignored Accumulator.start)
        rw [visit_eq, value] at counted
        cases counted
  · intro noValue accumulator
    rw [visit_eq, noValue]

theorem length_matchingZone {config : Config} {entry : Entry} {zoneDir : List Char}
    (isMatch : matchingZone config entry = some zoneDir) : zoneDir.length < zoneDirSize := by
  unfold matchingZone snprintf at isMatch
  split at isMatch
  · split at isMatch
    · rename_i fits
      rw [Option.filter_some] at isMatch
      split at isMatch
      · cases isMatch
        exact fits
      · cases isMatch
    · cases isMatch
  · cases isMatch

theorem zoneValue_eq {config : Config} {entry : Entry} (isMatching : IsMatching config entry) :
    zoneValue config entry = (fopen entry.tempFile).bind CText.scanLong := by
  obtain ⟨zoneDir, isMatch⟩ := Option.ne_none_iff_exists'.mp isMatching
  rw [zoneValue, isMatch, Option.bind_some]
  exact readZoneMillidegrees_eq (length_matchingZone isMatch) entry.tempFile

theorem zoneValue_eq_none_iff {config : Config} {entry : Entry}
    (isMatching : IsMatching config entry) :
    zoneValue config entry = none ↔ ¬ LooksNumeric entry.tempFile := by
  rw [zoneValue_eq isMatching]
  cases entry.tempFile with
  | missing => exact iff_of_true rfl not_false
  | unreadable => exact iff_of_true rfl not_false
  | contents bytes => exact CText.scanLong_eq_none_iff (charsOf bytes)

/-- Every listing and every content of the files: the reader skips what is
corrupt, and reports hot when everything is, exactly when no corrupt file of a
matching zone begins like a number. -/
theorem skips_corrupt_iff (config : Config) (directory : Option (List Entry)) :
    SkipsCorrupt config directory ↔
      ∀ entry ∈ directory.getD [], IsMatching config entry → Corrupt entry.tempFile →
        ¬ LooksNumeric entry.tempFile := by
  constructor
  · intro skips entry member isMatching corrupt
    have ignored := skips.ignored entry member isMatching corrupt
    rw [ignored_iff, zoneValue_eq_none_iff isMatching] at ignored
    exact ignored
  · intro plain
    constructor
    case ignored =>
      intro entry member isMatching corrupt
      rw [ignored_iff, zoneValue_eq_none_iff isMatching]
      exact plain entry member isMatching corrupt
    case failsHot =>
      intro allCorrupt
      have noValues : temperatures config directory = [] := by
        unfold temperatures
        rw [List.map_eq_nil_iff, List.filterMap_eq_nil_iff]
        intro entry member
        by_cases isMatching : IsMatching config entry
        · rw [zoneValue_eq_none_iff isMatching]
          exact plain entry member isMatching (allCorrupt entry member isMatching)
        · have noMatch : matchingZone config entry = none := by
            by_contra isMatch
            exact isMatching isMatch
          rw [zoneValue, noMatch]
          rfl
      have hot : (thermalReaderTelemetry config directory).temperatureC = .posInf := by
        rw [thermalReaderTelemetry, thermalReaderRead_eq, noValues]
        rfl
      refine ⟨hot, ?_⟩
      rw [violated, hot]
      rfl

def garbledZone : Entry where
  name := thermalZone ++ ['0']
  typeFile := .contents [99, 112, 117, 10]
  tempFile := .contents [52, 53, 97, 98, 99, 10]

def sysConfig : Config where
  basePath :=
    ['/', 's', 'y', 's', '/', 'c', 'l', 'a', 's', 's', '/', 't', 'h', 'e', 'r', 'm', 'a', 'l']
  zoneTypeFilter := []
  aggregate := .max

/-- The one zone is corrupt, and the daemon reads 0.045 degrees from it. -/
theorem garbled_zone_reads_cold :
    IsMatching sysConfig garbledZone ∧ Corrupt garbledZone.tempFile ∧
      thermalReaderTelemetry sysConfig (some [garbledZone]) = ⟨.finite (45 / 1000), 0, false⟩ ∧
      violated (thermalReaderTelemetry sysConfig (some [garbledZone])) = false ∧
      ¬ SkipsCorrupt sysConfig (some [garbledZone]) := by
  have isMatching : IsMatching sysConfig garbledZone := by decide +kernel
  have corrupt : Corrupt garbledZone.tempFile := by
    intro number
    have shape := number.forall_mem 'a' (by decide)
    revert shape
    decide
  have cold : thermalReaderTelemetry sysConfig (some [garbledZone]) =
      ⟨.finite (45 / 1000), 0, false⟩ := by decide +kernel
  have calm : violated (thermalReaderTelemetry sysConfig (some [garbledZone])) = false := by
    rw [cold]
    decide +kernel
  refine ⟨isMatching, corrupt, cold, calm, ?_⟩
  intro skips
  have hot := (skips.failsHot fun entry member _ => List.mem_singleton.mp member ▸ corrupt).2
  rw [calm] at hot
  cases hot

end Msp.Daemon.ThermalCorruption
