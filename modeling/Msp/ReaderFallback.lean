import Mathlib.Data.List.Nodup
import Msp.SensorFallback
import Msp.ThermalAgreement

/-!
# The executor over its own reader

A guarded run with `telemetry_probe_from_reader` and a `LinuxThermalZoneReader`,
without the daemon.  The reader keeps the paths it found when it was constructed;
what stands under them changes from poll to poll.  On trees in the kernel's
format the run falls back where the run over the daemon's socket does.
-/

set_option autoImplicit false

namespace Msp.ReaderFallback

open Msp.Library Msp.ThermalTree Msp.Daemon.ThermalReader Msp.Daemon.ThermalWatchdog
open Msp.Python.ThermalZones Msp.Python.WatchdogPolicy Msp.Python.GuardedExecutor
open Msp.TelemetryAgreement Msp.ThermalAgreement Msp.GuardedTelemetry Msp.SensorFallback

def ProbedReader (reader : LinuxThermalZoneReader) (files : Path → File) (now : FloatValue) :
    ProbeOutcome → Prop
  | .reading reading =>
      probeFromReader ((reader.call files).map .finite) now = .ok reading
  | .exception _ _ => ∃ error, probeFromReader ((reader.call files).map .finite) now = .error error
  | .baseException _ => False

structure ReaderPoll (reader : LinuxThermalZoneReader) (Payload : Type*) where
  iteration : Iteration Payload
  files : Path → File
  now : FloatValue
  probed : ProbedReader reader files now iteration.probe

/-- A path yields more than the threshold, or none yields anything and errors count. -/
def Alarming (reader : LinuxThermalZoneReader) (thresholdC : FloatValue) (failSafe : Bool)
    (files : Path → File) : Prop :=
  (failSafe = true ∧ ∀ path ∈ reader.tempPaths, readMillidegrees (files path) = none) ∨
    ∃ path ∈ reader.tempPaths, ∃ millideg, readMillidegrees (files path) = some millideg ∧
      (FloatValue.finite ((millideg : ℚ) / 1000)).exceeds thresholdC = true

section Poll
variable {reader : LinuxThermalZoneReader} {files : Path → File}

theorem mem_celsiusUnder {paths : List Path} {celsius : ℚ} :
    celsius ∈ celsiusUnder files paths ↔ ∃ path ∈ paths, ∃ millideg : Int,
      readMillidegrees (files path) = some millideg ∧ celsius = (millideg : ℚ) / 1000 := by
  simp only [celsiusUnder, List.mem_map, List.mem_filterMap]
  constructor
  · rintro ⟨millideg, ⟨path, inside, read⟩, rfl⟩
    exact ⟨path, inside, millideg, read, rfl⟩
  · rintro ⟨path, inside, millideg, read, rfl⟩
    exact ⟨millideg, ⟨path, inside, read⟩, rfl⟩

theorem celsiusUnder_eq_nil {paths : List Path} :
    celsiusUnder files paths = [] ↔ ∀ path ∈ paths, readMillidegrees (files path) = none := by
  rw [celsiusUnder, List.map_eq_nil_iff, List.filterMap_eq_nil_iff]

theorem exceeds_foldl_max (thresholdC : FloatValue) (rest : List ℚ) :
    ∀ first : ℚ, (FloatValue.finite (rest.foldl max first)).exceeds thresholdC = true ↔
      ∃ celsius ∈ first :: rest, (FloatValue.finite celsius).exceeds thresholdC = true := by
  induction rest with
  | nil => intro first; simp
  | cons second rest ih =>
      intro first
      have either : (FloatValue.finite (max first second)).exceeds thresholdC = true ↔
          (FloatValue.finite first).exceeds thresholdC = true ∨
            (FloatValue.finite second).exceeds thresholdC = true := by
        cases thresholdC with
        | finite bound => simp
        | posInf => simp [FloatValue.exceeds]
        | negInf => simp [FloatValue.exceeds]
        | nan => simp [FloatValue.exceeds]
      rw [List.foldl_cons, ih]
      simp only [List.exists_mem_cons_iff, either, or_assoc]

theorem alarming_iff {policy : ViolationPolicy} (keepsMax : reader.aggregate = "max")
    {now : FloatValue} {probe : ProbeOutcome} (probed : ProbedReader reader files now probe) :
    Alarming reader policy.temperatureThresholdC policy.failSafeOnTelemetryError files ↔
      (violation policy probe).isSome = true := by
  unfold Alarming
  rw [← celsiusUnder_eq_nil]
  cases read : celsiusUnder files reader.tempPaths with
  | nil =>
      obtain ⟨message, raised⟩ := call_of_nothing read
      have nothing : ¬ ∃ path ∈ reader.tempPaths, ∃ millideg,
          readMillidegrees (files path) = some millideg ∧
            (FloatValue.finite ((millideg : ℚ) / 1000)).exceeds policy.temperatureThresholdC =
              true := by
        rintro ⟨path, inside, millideg, yields, -⟩
        rw [celsiusUnder_eq_nil.mp read path inside] at yields
        cases yields
      cases probe with
      | reading reading =>
          rw [ProbedReader, raised] at probed
          cases probed
      | exception message now =>
          simp only [nothing, or_false, and_true, violation]
          cases policy.failSafeOnTelemetryError <;> simp
      | baseException name => exact probed.elim
  | cons first rest =>
      have called := call_of_readings read
      rw [if_pos keepsMax] at called
      have hot : (∃ path ∈ reader.tempPaths, ∃ millideg,
          readMillidegrees (files path) = some millideg ∧
            (FloatValue.finite ((millideg : ℚ) / 1000)).exceeds policy.temperatureThresholdC =
              true) ↔
          (FloatValue.finite (rest.foldl max first)).exceeds policy.temperatureThresholdC = true := by
        rw [exceeds_foldl_max, ← read]
        simp only [mem_celsiusUnder]
        constructor
        · rintro ⟨path, inside, millideg, yields, exceeds⟩
          exact ⟨_, ⟨path, inside, millideg, yields, rfl⟩, exceeds⟩
        · rintro ⟨_, ⟨path, inside, millideg, yields, rfl⟩, exceeds⟩
          exact ⟨path, inside, millideg, yields, exceeds⟩
      cases probe with
      | reading reading =>
          rw [ProbedReader, called] at probed
          cases probed
          have enough : ViolationPolicy.exceedsSram policy
              ⟨.finite (rest.foldl max first), 0, false, now⟩ = false := by
            unfold ViolationPolicy.exceedsSram
            cases bound : policy.sramUsageThresholdBytes with
            | none => rfl
            | some threshold =>
                have nonneg := policy.sramThresholdNonneg threshold bound
                simpa using nonneg
          rw [hot, violation, Option.isSome_map, ViolationPolicy.evaluate_isSome_iff]
          simp [enough]
      | exception message now =>
          rw [ProbedReader, called] at probed
          obtain ⟨error, raised⟩ := probed
          cases raised
      | baseException name => exact probed.elim

theorem ReaderPoll.stays {Payload : Type*} (poll : ReaderPoll reader Payload) (name : String) :
    poll.iteration.probe ≠ .baseException name := by
  intro outcome
  have probed := poll.probed
  rw [outcome] at probed
  exact probed

end Poll

def cpuReader : LinuxThermalZoneReader := ⟨[tempPath sysPath cpuZone.name], "max"⟩

def sampleTail : Tail Unit := ⟨none, true, true, true, .finite 1, none⟩

def unreadablePoll : ReaderPoll cpuReader Unit where
  iteration := ⟨none, true, none, .exception "no zone" (.finite 12)⟩
  files _ := .missing
  now := .finite 12
  probed := ⟨_, rfl⟩

/-- A zone that stood in the tree when the reader was constructed, with the same type and,
if it has one now, with a `temp` file. -/
def WasThere (atStart : List Entry) (entry : Entry) : Prop :=
  ∃ before ∈ atStart, before.name = entry.name ∧ before.typeFile = entry.typeFile ∧
    (before.tempFile = .missing → entry.tempFile = .missing)

section Trees
variable {basePath : List Char} {filter : Option TypeFilter}
  {atStart globbed entries listed : List Entry}

theorem shownType_congr {before entry : Entry} (sameName : before.name = entry.name)
    (sameType : before.typeFile = entry.typeFile) :
    shownType basePath before = shownType basePath entry := by
  rw [shownType, shownType, sameName, sameType]

theorem isPrefixOf_of_zoneValue {config : Config} {entry : Entry} {millideg : Int}
    (yields : zoneValue config entry = some millideg) :
    thermalZone.isPrefixOf entry.name = true := by
  obtain ⟨zoneDir, matching, -⟩ := Option.bind_eq_some_iff.mp yields
  unfold matchingZone at matching
  split at matching
  · assumption
  · cases matching

theorem exists_of_filesOf {name : List Char} {millideg : Int}
    (yields : readMillidegrees (filesOf basePath (some entries) (tempPath basePath name)) =
      some millideg) :
    ∃ entry ∈ entries, entry.name = name ∧ readMillidegrees entry.tempFile = some millideg := by
  rw [filesOf, Option.getD_some] at yields
  cases found : entries.find? fun entry =>
      decide (tempPath basePath entry.name = tempPath basePath name) with
  | none =>
      rw [found] at yields
      cases yields
  | some entry =>
      rw [found] at yields
      have sameName : entry.name = name := by
        simpa [tempPath] using List.find?_some found
      exact ⟨entry, List.mem_of_find?_eq_some found, sameName, yields⟩

/-- The daemon's reader, which lists the directory anew, gets the values under the paths that
the other one has kept. -/
theorem yields_iff (kernelStart : KernelFormat PythonText.isSpace basePath atStart)
    (globbedOrder : globbed.Perm atStart) (kernel : KernelFormat PythonText.isSpace basePath entries)
    (noneNew : ∀ entry ∈ entries, thermalZone.isPrefixOf entry.name = true →
      WasThere atStart entry)
    (listedOrder : listed.Perm entries) (millideg : Int) :
    millideg ∈ listed.filterMap (zoneValue (configOf basePath filter .max)) ↔
      ∃ path ∈ consideredPaths filter basePath globbed,
        readMillidegrees (filesOf basePath (some entries) path) = some millideg := by
  rw [List.mem_filterMap]
  constructor
  · rintro ⟨entry, inside, yields⟩
    have member := listedOrder.mem_iff.mp inside
    have named := isPrefixOf_of_zoneValue yields
    have value := zoneValue_of_kernel filter .max named (kernel.zones entry member named)
    rw [yields] at value
    split at value
    · rename_i considered
      obtain ⟨wanted, present⟩ := considered
      obtain ⟨before, atFirst, sameName, sameType, noNewFile⟩ := noneNew entry member named
      refine ⟨tempPath basePath entry.name, ?_, ?_⟩
      · refine List.mem_map.mpr ⟨before, List.mem_filter.mpr ⟨?_, ?_⟩, by rw [sameName]⟩
        · rw [(sortedZones_perm globbed).mem_iff, List.mem_filter, sameName]
          exact ⟨globbedOrder.mem_iff.mpr atFirst, named⟩
        · rw [isConsidered, shownType_congr sameName sameType, wanted, Bool.true_and,
            decide_eq_true_eq]
          exact fun missing => present (noNewFile missing)
      · rw [filesOf_tempPath kernel.distinct member]
        exact value.symm
    · cases value
  · rintro ⟨path, kept, yields⟩
    obtain ⟨before, considered, rfl⟩ := List.mem_map.mp kept
    obtain ⟨sorted, isWantedThen⟩ := List.mem_filter.mp considered
    obtain ⟨inGlobbed, namedBefore⟩ := mem_sortedZones sorted
    obtain ⟨entry, member, sameName, read⟩ := exists_of_filesOf yields
    have named : thermalZone.isPrefixOf entry.name = true := by rwa [sameName]
    refine ⟨entry, listedOrder.mem_iff.mpr member, ?_⟩
    obtain ⟨first, atFirst, firstName, sameType, -⟩ := noneNew entry member named
    have isBefore : first = before :=
      List.inj_on_of_nodup_map kernelStart.distinct atFirst (globbedOrder.mem_iff.mp inGlobbed)
        (firstName.trans sameName)
    subst isBefore
    have present : entry.tempFile ≠ .missing := by
      intro missing
      rw [missing] at read
      cases read
    rw [isConsidered, Bool.and_eq_true] at isWantedThen
    rw [zoneValue_of_kernel filter .max named (kernel.zones entry member named), if_pos, read]
    rw [← shownType_congr firstName sameType]
    exact ⟨isWantedThen.1, present⟩

theorem alarming_iff_bad (kernelStart : KernelFormat PythonText.isSpace basePath atStart)
    (globbedOrder : globbed.Perm atStart) (kernel : KernelFormat PythonText.isSpace basePath entries)
    (noneNew : ∀ entry ∈ entries, thermalZone.isPrefixOf entry.name = true →
      WasThere atStart entry)
    (listedOrder : listed.Perm entries) {reader : LinuxThermalZoneReader}
    (paths : reader.tempPaths = consideredPaths filter basePath globbed) :
    Alarming reader nativePolicy.temperatureThresholdC nativePolicy.failSafeOnTelemetryError
        (filesOf basePath (some entries)) ↔
      Bad (configOf basePath filter .max) (some listed) := by
  have same : ∀ millideg, millideg ∈ listed.filterMap (zoneValue (configOf basePath filter .max)) ↔
      ∃ path ∈ consideredPaths filter basePath globbed,
        readMillidegrees (filesOf basePath (some entries) path) = some millideg :=
    yields_iff kernelStart globbedOrder kernel noneNew listedOrder
  have threshold : nativePolicy.temperatureThresholdC = .finite 85 := rfl
  have failSafe : nativePolicy.failSafeOnTelemetryError = true := rfl
  have hot : ∀ millideg : Int,
      (FloatValue.finite ((millideg : ℚ) / 1000)).exceeds (.finite 85) = true ↔
        85000 < millideg := by
    intro millideg
    rw [FloatValue.exceeds_finite, decide_eq_true_eq, lt_div_iff₀ (by norm_num)]
    norm_num
    exact_mod_cast Iff.rfl
  simp only [Alarming, Bad, paths, threshold, failSafe, true_and, hot, Option.getD_some, same,
    List.eq_nil_iff_forall_not_mem]
  apply or_congr
  · constructor
    · rintro nothing millideg ⟨path, kept, yields⟩
      rw [nothing path kept] at yields
      cases yields
    · intro nothing path kept
      cases read : readMillidegrees (filesOf basePath (some entries) path) with
      | none => rfl
      | some millideg => exact absurd ⟨path, kept, read⟩ (nothing millideg)
  · constructor
    · rintro ⟨path, kept, millideg, yields, above⟩
      exact ⟨millideg, ⟨path, kept, yields⟩, above⟩
    · rintro ⟨millideg, ⟨path, kept, yields⟩, above⟩
      exact ⟨path, kept, millideg, yields, above⟩

end Trees

/-- One iteration of two executors over one tree: one asks the daemon, whose line arrives,
the other its own reader. -/
structure PairedPoll (basePath : List Char) (filter : Option TypeFilter) (atStart : List Entry)
    (reader : LinuxThermalZoneReader) (socketPath : String) (Payload : Type*) where
  entries : List Entry
  kernel : KernelFormat PythonText.isSpace basePath entries
  noneNew : ∀ entry ∈ entries, thermalZone.isPrefixOf entry.name = true → WasThere atStart entry
  overSocket : SensorPoll (configOf basePath filter .max) socketPath Payload
  listed : List Entry
  listedOrder : listed.Perm entries
  readByDaemon : overSocket.directory = some listed
  arrived : Arrived (thermalReaderTelemetry (configOf basePath filter .max) overSocket.directory)
    overSocket.connection
  overFiles : ReaderPoll reader Payload
  readByReader : overFiles.files = filesOf basePath (some entries)
  sameChild : Unfinished overFiles.iteration ↔ Unfinished overSocket.iteration

def coolLine : List UInt8 := [52, 53, 46, 48, 48, 48, 32, 48, 32, 48, 10]

def coolIteration : Iteration Unit :=
  ⟨none, true, none, .reading ⟨.finite 45, 0, false, .finite 12⟩⟩

theorem kernelFormat_cpu : KernelFormat PythonText.isSpace sysPath [cpuZone] where
  distinct := List.nodup_singleton _
  zones entry member named := by
    cases List.mem_singleton.mp member
    exact kernelFormat_sample.zones cpuZone List.mem_cons_self named

def coolPair : PairedPoll sysPath (some cpuFilter) [cpuZone] cpuReader "" Unit where
  entries := [cpuZone]
  kernel := kernelFormat_cpu
  noneNew entry member _ := ⟨entry, member, rfl, rfl, id⟩
  overSocket :=
    { iteration := coolIteration
      directory := some [cpuZone]
      connection := ⟨.ok (), [.ok coolLine, .ok []]⟩
      exchange := .received [coolLine] (by decide)
        ⟨true, cutKernel [], cutKernel [(5, coolLine)], 3, 5, [.wrote 11], by decide +kernel,
          by decide +kernel⟩
      now := .finite 12
      probed := by
        change probeFromWatchdogSocket _ _ _ = _
        decide +kernel }
  listed := [cpuZone]
  listedOrder := List.Perm.refl _
  readByDaemon := rfl
  arrived := ⟨coolLine, rfl, by decide +kernel, by decide +kernel⟩
  overFiles :=
    { iteration := coolIteration
      files := filesOf sysPath (some [cpuZone])
      now := .finite 12
      probed := by
        change probeFromReader _ _ = _
        decide +kernel }
  readByReader := rfl
  sameChild := Iff.rfl

end Msp.ReaderFallback
