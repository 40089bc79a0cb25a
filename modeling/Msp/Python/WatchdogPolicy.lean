import Msp.Python.TelemetryReader

/-!
# `ViolationPolicy`

Readings, the probes, and the policy that turns a
reading into a fallback reason (`src/python/msp/watchdog_control.py`).  A policy carries what
`__post_init__` checks, so only policies the constructor accepts exist.
-/

set_option autoImplicit false

namespace Msp.Python.WatchdogPolicy

open Msp.Library Msp.Python.TelemetryReader

inductive FallbackReason where
  | temperature
  | sram
  | security
  | telemetryError
  deriving DecidableEq, Repr

structure TelemetryReading where
  temperatureC : FloatValue
  sramUsageBytes : Int
  securityViolation : Bool
  timestamp : FloatValue
  deriving DecidableEq, Repr

/-- `telemetry_probe_from_watchdog_socket`, called when the monotonic clock says `now`. -/
def probeFromWatchdogSocket (socketPath : String) (connection : Connection) (now : FloatValue) :
    Except ReadError TelemetryReading :=
  (readFull socketPath connection).map fun tuple =>
    ⟨tuple.temperatureC, tuple.sramUsageBytes, tuple.securityViolation, now⟩

/-- `telemetry_probe_from_reader`, with what the reader answers. -/
def probeFromReader {Error : Type*} (answer : Except Error FloatValue) (now : FloatValue) :
    Except Error TelemetryReading :=
  answer.map fun temperatureC => ⟨temperatureC, 0, false, now⟩

def defaultCriticalTempC : FloatValue := .finite 85

def notPositive (pollIntervalS : FloatValue) : Bool :=
  (FloatValue.finite 0).exceeds pollIntervalS || decide (pollIntervalS = .finite 0)

structure ViolationPolicy where
  temperatureThresholdC : FloatValue
  sramUsageThresholdBytes : Option Int
  triggerOnSecurityViolation : Bool
  pollIntervalS : FloatValue
  failSafeOnTelemetryError : Bool
  pollIntervalPositive : notPositive pollIntervalS = false
  sramThresholdNonneg : ∀ threshold ∈ sramUsageThresholdBytes, 0 ≤ threshold

namespace ViolationPolicy

def construct (temperatureThresholdC : FloatValue) (sramUsageThresholdBytes : Option Int)
    (triggerOnSecurityViolation : Bool) (pollIntervalS : FloatValue)
    (failSafeOnTelemetryError : Bool) : Except String ViolationPolicy :=
  if positive : notPositive pollIntervalS = false then
    if nonneg : ∀ threshold ∈ sramUsageThresholdBytes, 0 ≤ threshold then
      .ok ⟨temperatureThresholdC, sramUsageThresholdBytes, triggerOnSecurityViolation,
        pollIntervalS, failSafeOnTelemetryError, positive, nonneg⟩
    else .error "sram_usage_threshold_bytes must be non-negative"
  else .error "poll_interval_s must be positive"

def defaults : ViolationPolicy where
  temperatureThresholdC := defaultCriticalTempC
  sramUsageThresholdBytes := none
  triggerOnSecurityViolation := true
  pollIntervalS := .finite (1 / 2)
  failSafeOnTelemetryError := true
  pollIntervalPositive := by decide +kernel
  sramThresholdNonneg := fun _ absent => nomatch absent

def exceedsSram (policy : ViolationPolicy) (reading : TelemetryReading) : Bool :=
  match policy.sramUsageThresholdBytes with
  | none => false
  | some threshold => decide (threshold < reading.sramUsageBytes)

def evaluate (policy : ViolationPolicy) (reading : TelemetryReading) : Option FallbackReason :=
  if policy.triggerOnSecurityViolation && reading.securityViolation then some .security
  else if reading.temperatureC.exceeds policy.temperatureThresholdC then some .temperature
  else if exceedsSram policy reading then some .sram
  else none

theorem fields_of_construct {temperatureThresholdC : FloatValue}
    {sramUsageThresholdBytes : Option Int} {triggerOnSecurityViolation : Bool}
    {pollIntervalS : FloatValue} {failSafeOnTelemetryError : Bool} {policy : ViolationPolicy}
    (accepted : construct temperatureThresholdC sramUsageThresholdBytes triggerOnSecurityViolation
      pollIntervalS failSafeOnTelemetryError = .ok policy) :
    policy.temperatureThresholdC = temperatureThresholdC ∧
      policy.failSafeOnTelemetryError = failSafeOnTelemetryError := by
  unfold construct at accepted
  split at accepted
  · split at accepted
    · cases accepted
      exact ⟨rfl, rfl⟩
    · cases accepted
  · cases accepted

theorem evaluate_isSome_iff (policy : ViolationPolicy) (reading : TelemetryReading) :
    (evaluate policy reading).isSome = true ↔
      (policy.triggerOnSecurityViolation = true ∧ reading.securityViolation = true) ∨
        reading.temperatureC.exceeds policy.temperatureThresholdC = true ∨
          exceedsSram policy reading = true := by
  unfold evaluate
  split_ifs with security temperature sram
  · simpa using Or.inl (by simpa using security)
  · simp [temperature]
  · simp [sram]
  · have secure : ¬ (policy.triggerOnSecurityViolation = true ∧
        reading.securityViolation = true) := by simpa using security
    simp [secure, temperature, sram]

end ViolationPolicy

end Msp.Python.WatchdogPolicy
