import Msp.TelemetryWire

/-!
# Do the daemon and the executor decide alike?

The watchdog thread decides on the raw sample, the Python policy with the same
thresholds on the sample after its trip through the telemetry line.  Rounding
moves the temperatures just above the threshold onto it, and only those.
-/

set_option autoImplicit false

namespace Msp.TelemetryAgreement

open Msp.Library Msp.Daemon.SandboxWatchdog Msp.Daemon.TelemetryLine
open Msp.Python.TelemetryReader Msp.Python.WatchdogPolicy Msp.TelemetryWire

/-- `ViolationPolicy(temperature_threshold_c=85.0,
sram_usage_threshold_bytes=512*1024*1024, trigger_on_security_violation=True)`. -/
def nativePolicy : ViolationPolicy where
  temperatureThresholdC := .finite 85
  sramUsageThresholdBytes := some (512 * 1024 * 1024)
  triggerOnSecurityViolation := true
  pollIntervalS := ViolationPolicy.defaults.pollIntervalS
  failSafeOnTelemetryError := ViolationPolicy.defaults.failSafeOnTelemetryError
  pollIntervalPositive := ViolationPolicy.defaults.pollIntervalPositive
  sramThresholdNonneg := by
    intro threshold given
    cases given
    decide

inductive Delivers (bytes : List UInt8) : Connection → Prop where
  | intro (chunks : List (List UInt8)) (nonempty : ∀ chunk ∈ chunks, chunk ≠ [])
      (whole : chunks.flatten = bytes) :
      Delivers bytes ⟨.ok (), chunks.map .ok ++ [.ok []]⟩

/-- Whatever reading the executor obtains from the sample's line, it falls back
on it exactly when the daemon does on the sample. -/
def SameDecision (telemetry : Telemetry) : Prop :=
  ∀ socketPath connection now reading, Delivers (telemetryLine telemetry) connection →
    probeFromWatchdogSocket socketPath connection now = .ok reading →
      ((nativePolicy.evaluate reading).isSome = true ↔ violated telemetry = true)

/-- Within half a thousandth above the threshold, and nothing else wrong. -/
def JustAboveThreshold (telemetry : Telemetry) : Prop :=
  match telemetry.temperatureC with
  | .finite value =>
      criticalTempC < value ∧ value ≤ criticalTempC + 1 / 2000 ∧
        telemetry.sramUsageBytes ≤ maxSramAlloc ∧ telemetry.securityViolation = false
  | _ => False

def WithinFloat : FloatValue → Prop
  | .finite value => |value| < 2 ^ 128
  | _ => True

theorem lengthThroughFlag_lt {telemetry : Telemetry} (within : WithinFloat telemetry.temperatureC) :
    lengthThroughFlag telemetry < lineCapacity - 1 := by
  have sram := length_sramText telemetry
  have temperature : (temperatureText telemetry.temperatureC).length ≤ 44 := by
    cases shape : telemetry.temperatureC with
    | finite value =>
        rw [shape] at within
        have notAbove : ¬ (1000 * 2 ^ 128 : ℤ) < roundHalfEven (1000 * |value|) := by
          have bound : |value| < 2 ^ 128 := within
          rw [lt_roundHalfEven_iff]
          push_cast
          rintro (high | ⟨tie, _⟩) <;> linarith
        have units : thousandths value / 10 ^ 3 < 10 ^ 39 := by
          unfold thousandths
          omega
        have fixed := Decimal.length_fixedPoint_le (by decide) (by decide) units
        have minus : (if value < 0 then ['-'] else []).length ≤ 1 := by split <;> simp
        rw [temperatureText, List.length_append]
        omega
    | posInf => decide
    | negInf => decide
    | nan => decide
  unfold lengthThroughFlag lineCapacity
  omega

theorem probe_telemetryLine (socketPath : String) (telemetry : Telemetry) (connection : Connection)
    (now : FloatValue) (delivers : Delivers (telemetryLine telemetry) connection)
    (reading : TelemetryReading) :
    probeFromWatchdogSocket socketPath connection now = .ok reading ↔
      lengthThroughFlag telemetry ≤ lineCapacity - 1 ∧
        reading = ⟨rounded telemetry.temperatureC, telemetry.sramUsageBytes.toNat,
          telemetry.securityViolation, now⟩ := by
  obtain ⟨chunks, nonempty, whole⟩ := delivers
  unfold probeFromWatchdogSocket
  rw [readFull_telemetryLine socketPath telemetry chunks nonempty whole,
    parseLine_take_lineText]
  split_ifs with fits
  · simp only [Except.map, Except.ok.injEq, fits, true_and]
    exact eq_comm
  · simp [Except.map, fits]

/-- Rounding raises the threshold by half a thousandth: 85000 is even, so the
tie falls back onto it. -/
theorem rounded_exceeds_iff (value : ℚ) :
    (rounded (.finite value)).exceeds (.finite 85) = true ↔ 85 + 1 / 2000 < value := by
  have units : (85000 : ℤ) < roundHalfEven (1000 * |value|) ↔ 85 + 1 / 2000 < |value| := by
    rw [lt_roundHalfEven_iff]
    push_cast
    constructor
    · rintro (high | ⟨_, odd⟩)
      · linarith
      · exact absurd (by decide) odd
    · intro high
      left
      linarith
  have natural : (85 : ℚ) < (thousandths value : ℚ) / 1000 ↔ 85 + 1 / 2000 < |value| := by
    rw [← units, lt_div_iff₀ (by norm_num)]
    have nonneg := roundHalfEven_nonneg (show 0 ≤ 1000 * |value| by positivity)
    rw [show (85 : ℚ) * 1000 = ((85000 : ℕ) : ℚ) by norm_num, Nat.cast_lt]
    unfold thousandths
    omega
  by_cases negative : value < 0
  · have low : ¬ (85 : ℚ) + 1 / 2000 < value := by linarith
    have belowZero : -((thousandths value : ℚ) / 1000) ≤ 0 := by
      have : (0 : ℚ) ≤ (thousandths value : ℚ) / 1000 := by positivity
      linarith
    simp only [rounded, negative, if_true, FloatValue.exceeds_finite, decide_eq_true_eq, low,
      iff_false, not_lt]
    linarith
  · rw [abs_of_nonneg (not_lt.mp negative)] at natural
    simp only [rounded, negative, if_false, FloatValue.exceeds_finite, decide_eq_true_eq]
    exact natural

theorem evaluate_nativePolicy_iff (reading : TelemetryReading) :
    (nativePolicy.evaluate reading).isSome = true ↔
      reading.securityViolation = true ∨ reading.temperatureC.exceeds (.finite 85) = true ∨
        512 * 1024 * 1024 < reading.sramUsageBytes := by
  rw [ViolationPolicy.evaluate_isSome_iff]
  simp [nativePolicy, ViolationPolicy.exceedsSram]

theorem violated_iff (telemetry : Telemetry) :
    violated telemetry = true ↔
      telemetry.securityViolation = true ∨
        telemetry.temperatureC.exceeds (.finite 85) = true ∨
          (512 * 1024 * 1024 : Int) < telemetry.sramUsageBytes.toNat := by
  have sram : maxSramAlloc < telemetry.sramUsageBytes ↔
      (512 * 1024 * 1024 : Int) < telemetry.sramUsageBytes.toNat := by
    have bound : maxSramAlloc.toNat = 512 * 1024 * 1024 := by decide
    rw [UInt64.lt_iff_toNat_lt, bound]
    omega
  unfold violated criticalTempC
  rw [Bool.or_eq_true, Bool.or_eq_true, decide_eq_true_eq, sram]
  tauto

theorem le_maxSramAlloc_iff (telemetry : Telemetry) :
    telemetry.sramUsageBytes ≤ maxSramAlloc ↔
      ¬ (512 * 1024 * 1024 : Int) < telemetry.sramUsageBytes.toNat := by
  have bound : maxSramAlloc.toNat = 512 * 1024 * 1024 := by decide
  rw [UInt64.le_iff_toNat_le, bound]
  omega

theorem decisions_agree_iff (telemetry : Telemetry) (now : FloatValue)
    (domain : telemetry.temperatureC = .posInf ∨ ∃ value, telemetry.temperatureC = .finite value) :
    ((nativePolicy.evaluate ⟨rounded telemetry.temperatureC, telemetry.sramUsageBytes.toNat,
        telemetry.securityViolation, now⟩).isSome = true ↔ violated telemetry = true) ↔
      ¬ JustAboveThreshold telemetry := by
  rw [evaluate_nativePolicy_iff, violated_iff]
  rcases domain with infinite | ⟨value, finite⟩
  · simp [JustAboveThreshold, infinite, rounded]
  · simp only [JustAboveThreshold, finite, rounded_exceeds_iff, FloatValue.exceeds_finite,
      decide_eq_true_eq, criticalTempC, le_maxSramAlloc_iff]
    have above : (85 : ℚ) + 1 / 2000 < value → 85 < value := fun high => by linarith
    have split : value ≤ 85 + 1 / 2000 ↔ ¬ (85 : ℚ) + 1 / 2000 < value := not_lt.symm
    rw [split]
    cases telemetry.securityViolation <;> simp only [Bool.true_eq_false, Bool.false_eq_true]
    · tauto
    · tauto

theorem exists_delivers (bytes : List UInt8) : ∃ connection, Delivers bytes connection := by
  by_cases empty : bytes = []
  · exact ⟨_, .intro [] (by simp) (by simp [empty])⟩
  · exact ⟨_, .intro [bytes] (by simpa using empty) (by simp)⟩

/-- For every sample with a rational or infinite temperature the two sides
decide alike unless the temperature is just above the threshold and nothing
else is wrong; and a sample a C `float` can hold always gives a reading. -/
theorem same_decision_iff (telemetry : Telemetry)
    (domain : telemetry.temperatureC = .posInf ∨ ∃ value, telemetry.temperatureC = .finite value) :
    (SameDecision telemetry ↔ ¬ JustAboveThreshold telemetry) ∧
      (WithinFloat telemetry.temperatureC →
        ∀ socketPath connection now, Delivers (telemetryLine telemetry) connection →
          ∃ reading, probeFromWatchdogSocket socketPath connection now = .ok reading) := by
  constructor
  · constructor
    · intro same above
      have within : WithinFloat telemetry.temperatureC := by
        rcases domain with infinite | ⟨value, finite⟩
        · simp [JustAboveThreshold, infinite] at above
        · simp only [JustAboveThreshold, finite, criticalTempC] at above
          simp only [WithinFloat, finite, abs_lt]
          constructor <;> linarith [above.1, above.2.1]
      obtain ⟨connection, delivers⟩ := exists_delivers (telemetryLine telemetry)
      have read := (probe_telemetryLine "" telemetry connection .nan delivers _).mpr
        ⟨(lengthThroughFlag_lt within).le, rfl⟩
      exact (decisions_agree_iff telemetry .nan domain).mp
        (same "" connection .nan _ delivers read) above
    · intro notAbove socketPath connection now reading delivers read
      obtain ⟨_, arrived⟩ := (probe_telemetryLine _ _ _ _ delivers _).mp read
      rw [arrived]
      exact (decisions_agree_iff telemetry now domain).mpr notAbove
  · intro within socketPath connection now delivers
    exact ⟨_, (probe_telemetryLine _ _ _ _ delivers _).mpr ⟨(lengthThroughFlag_lt within).le, rfl⟩⟩

def meanOfThreeZones : Telemetry := ⟨.finite (85 + 1 / 3000), 0, false⟩

theorem same_decision_iff_sample :
    ¬ SameDecision meanOfThreeZones ∧ SameDecision ⟨.posInf, 0, false⟩ := by
  constructor
  · rw [(same_decision_iff meanOfThreeZones (Or.inr ⟨_, rfl⟩)).1, not_not]
    unfold JustAboveThreshold meanOfThreeZones criticalTempC
    norm_num
  · exact (same_decision_iff _ (Or.inl rfl)).1.mpr id

/-- The daemon falls back on this sample; the executor reads 85.000 and goes on. -/
theorem decisions_differ :
    ¬ ∀ telemetry : Telemetry,
      telemetry.temperatureC = .posInf ∨ (∃ value, telemetry.temperatureC = .finite value) →
        SameDecision telemetry := by
  intro every
  have same := every meanOfThreeZones (Or.inr ⟨_, rfl⟩)
  have read : probeFromWatchdogSocket "" ⟨.ok (), [.ok (telemetryLine meanOfThreeZones), .ok []]⟩
      .posInf = .ok ⟨.finite 85, 0, false, .posInf⟩ := by decide +kernel
  have agree := same "" _ .posInf _
    (.intro [telemetryLine meanOfThreeZones] (by decide +kernel) (by decide +kernel)) read
  revert agree
  decide +kernel

end Msp.TelemetryAgreement
