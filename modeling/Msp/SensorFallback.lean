import Msp.GuardedTelemetry
import Msp.Daemon.ThermalWatchdog

/-!
# From the sensors to the fallback

The guarded run, with the daemon's server reading the thermal zones and keeping
their maximum: what a file of the base directory holds decides whether the
child goes on.  A maximum has no more than three decimals, so that the line
says what was read.
-/

set_option autoImplicit false

namespace Msp.SensorFallback

open Msp.Library Msp.Daemon.SandboxWatchdog Msp.Daemon.ThermalReader Msp.Daemon.ThermalWatchdog
open Msp.Python.TelemetryReader Msp.Python.WatchdogPolicy Msp.Python.GuardedExecutor
open Msp.TelemetryAgreement Msp.GuardedTelemetry

/-- One iteration of the executor's loop, with the connection that a probe makes in it and the
listing that the server reads for that. -/
structure SensorPoll (config : Config) (socketPath : String) (Payload : Type*) where
  iteration : Iteration Payload
  directory : Directory
  connection : Connection
  exchange : Exchange (thermalReaderTelemetry config directory) connection
  now : FloatValue
  probed : Probed socketPath connection now iteration.probe

theorem scanLong_range {text : List Char} {value : Int} (scanned : CText.scanLong text = some value) :
    CText.longMin ≤ value ∧ value ≤ CText.longMax := by
  unfold CText.scanLong at scanned
  dsimp only at scanned
  split at scanned
  · cases scanned
  · have same := Option.some.inj scanned
    rw [← same]
    exact ⟨le_max_left _ _, max_le (by decide) (min_le_left _ _)⟩

theorem zoneValue_range {config : Config} {entry : Msp.ThermalTree.Entry} {millideg : Int}
    (yields : zoneValue config entry = some millideg) :
    CText.longMin ≤ millideg ∧ millideg ≤ CText.longMax := by
  obtain ⟨zoneDir, -, read⟩ := Option.bind_eq_some_iff.mp yields
  unfold readZoneMillidegrees at read
  split at read
  · cases read
  · split at read
    · cases read
    · exact scanLong_range read

/-- The hottest zone, in whole millidegrees, or plus infinity. -/
theorem temperature_cases (basePath zoneTypeFilter : List Char) (directory : Directory) :
    (thermalReaderTelemetry (maxConfig basePath zoneTypeFilter) directory).temperatureC = .posInf ∨
      ∃ millideg : Int, CText.longMin ≤ millideg ∧ millideg ≤ CText.longMax ∧
        (thermalReaderTelemetry (maxConfig basePath zoneTypeFilter) directory).temperatureC =
          .finite ((millideg : ℚ) / 1000) := by
  rw [thermalReaderTelemetry, thermalReaderRead_eq]
  unfold aggregated
  by_cases none : temperatures (maxConfig basePath zoneTypeFilter) directory = []
  · rw [if_pos none]
    exact Or.inl rfl
  · rw [if_neg none]
    obtain ⟨first, rest, shape⟩ := List.exists_cons_of_ne_nil none
    obtain ⟨most, folded, origin, -, -⟩ := Maximum.foldl_higher rest first
    have isMaximum : Maximum.maximum (temperatures (maxConfig basePath zoneTypeFilter) directory) =
        .finite most := by
      rw [shape]
      exact folded
    have member : most ∈ temperatures (maxConfig basePath zoneTypeFilter) directory := by
      rw [shape]
      exact List.mem_cons.mpr origin
    obtain ⟨millideg, value, rfl⟩ := List.mem_map.mp member
    obtain ⟨entry, -, yields⟩ := List.mem_filterMap.mp value
    obtain ⟨lower, upper⟩ := zoneValue_range yields
    exact Or.inr ⟨millideg, lower, upper, isMaximum⟩

section Sample
variable (basePath zoneTypeFilter : List Char) (directory : Directory)

theorem withinFloat :
    WithinFloat (thermalReaderTelemetry (maxConfig basePath zoneTypeFilter) directory).temperatureC := by
  rcases temperature_cases basePath zoneTypeFilter directory with
    infinite | ⟨millideg, lower, upper, finite⟩
  · rw [infinite]
    trivial
  · rw [finite]
    have low : (CText.longMin : ℚ) ≤ millideg := by exact_mod_cast lower
    have high : (millideg : ℚ) ≤ CText.longMax := by exact_mod_cast upper
    norm_num [CText.longMin, CText.longMax] at low high
    rw [WithinFloat, abs_lt]
    constructor <;> linarith

theorem finite_or_posInf :
    (thermalReaderTelemetry (maxConfig basePath zoneTypeFilter) directory).temperatureC = .posInf ∨
      ∃ value, (thermalReaderTelemetry (maxConfig basePath zoneTypeFilter)
        directory).temperatureC = .finite value := by
  rcases temperature_cases basePath zoneTypeFilter directory with
    infinite | ⟨millideg, -, -, finite⟩
  · exact Or.inl infinite
  · exact Or.inr ⟨_, finite⟩

theorem not_justAboveThreshold :
    ¬ JustAboveThreshold (thermalReaderTelemetry (maxConfig basePath zoneTypeFilter) directory) := by
  intro above
  unfold JustAboveThreshold at above
  rcases temperature_cases basePath zoneTypeFilter directory with
    infinite | ⟨millideg, -, -, finite⟩
  · rw [infinite] at above
    exact above
  · rw [finite] at above
    obtain ⟨hot, close, -, -⟩ := above
    rw [criticalTempC] at hot close
    have more : (85000 : ℚ) < millideg := by linarith
    have less : (millideg : ℚ) < 85001 := by linarith
    have moreInt : (85000 : ℤ) < millideg := by exact_mod_cast more
    have lessInt : millideg < (85001 : ℤ) := by exact_mod_cast less
    omega

end Sample

section Run
variable {basePath zoneTypeFilter : List Char} {socketPath : String} {Value Payload : Type*}

def SensorPoll.poll (sensor : SensorPoll (maxConfig basePath zoneTypeFilter) socketPath Payload) :
    Poll socketPath Payload where
  iteration := sensor.iteration
  telemetry := thermalReaderTelemetry (maxConfig basePath zoneTypeFilter) sensor.directory
  within := withinFloat basePath zoneTypeFilter sensor.directory
  domain := finite_or_posInf basePath zoneTypeFilter sensor.directory
  connection := sensor.connection
  exchange := sensor.exchange
  now := sensor.now
  probed := sensor.probed

theorem SensorPoll.alarming_iff
    (sensor : SensorPoll (maxConfig basePath zoneTypeFilter) socketPath Payload) :
    sensor.poll.Alarming ↔ ¬ Arrived sensor.poll.telemetry sensor.connection ∨
      Bad (maxConfig basePath zoneTypeFilter) sensor.directory := by
  have clear := not_justAboveThreshold basePath zoneTypeFilter sensor.directory
  have bad := violated_iff_bad basePath zoneTypeFilter sensor.directory
  unfold Poll.Alarming
  rw [← bad]
  apply or_congr_right
  exact and_iff_left clear

/-- With the daemon's thresholds, its server on the thermal zones and the maximum kept: `run`
falls back exactly when it polls the child, before that has finished, while no zone that
matches yields a value, or one yields more than 85 degrees, or when the line is lost. -/
theorem sensors_stop_run_iff (loads : Payload → Except Raised Value)
    (sensors : List (SensorPoll (maxConfig basePath zoneTypeFilter) socketPath Payload))
    (tail : Tail Payload) :
    FallsBack (run nativePolicy loads (sensors.map SensorPoll.iteration) tail).1 ↔
      ∃ earlier sensor later, sensors = earlier ++ sensor :: later ∧
        (∀ other ∈ earlier, Unfinished other.iteration) ∧ Unfinished sensor.iteration ∧
          (¬ Arrived (thermalReaderTelemetry (maxConfig basePath zoneTypeFilter) sensor.directory)
            sensor.connection ∨ Bad (maxConfig basePath zoneTypeFilter) sensor.directory) := by
  exact fallsBack_map_iff nativePolicy loads SensorPoll.iteration _ (fun sensor => sensor.poll.stays)
    (fun sensor => sensor.alarming_iff.symm.trans sensor.poll.alarming_iff) sensors tail

end Run

example : SensorPoll (maxConfig [] []) "" Unit where
  iteration := ⟨none, true, none, .reading ⟨.posInf, 0, false, .finite 12⟩⟩
  directory := none
  connection := ⟨.ok (), [.ok [105, 110, 102, 32, 48], .ok [32, 48, 10], .ok []]⟩
  exchange := .received [[105, 110, 102, 32, 48], [32, 48, 10]] (by decide)
    ⟨true, cutKernel [], cutKernel [(5, [105, 110, 102, 32, 48, 32, 48, 10])], 3, 5,
      [.wrote 8], by decide +kernel, by decide +kernel⟩
  now := .finite 12
  probed := by
    change probeFromWatchdogSocket _ _ _ = _
    decide +kernel

end Msp.SensorFallback
