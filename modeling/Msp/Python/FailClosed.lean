import Msp.Python.WatchdogPolicy

/-!
# Readings that pass the policy without being numbers

`evaluate` asks whether a temperature exceeds the threshold, and a NaN exceeds
nothing.  The words that `float` turns into a value the comparison lets pass
are named by their spelling, and the line that keeps the child running for
want of a number by its words.
-/

set_option autoImplicit false

namespace Msp.Python.FailClosed

open Msp.Library Msp.Library.PythonText
open Msp.Python.TelemetryReader Msp.Python.WatchdogPolicy

/-- What it should mean that `evaluate` returned `None`; `number` says which
temperatures count as one. -/
structure Vouched (number : FloatValue → Prop) (policy : ViolationPolicy)
    (reading : TelemetryReading) : Prop where
  isNumber : number reading.temperatureC
  temperature : reading.temperatureC.exceeds policy.temperatureThresholdC = false
  security : policy.triggerOnSecurityViolation = false ∨ reading.securityViolation = false
  sram : ∀ threshold ∈ policy.sramUsageThresholdBytes, reading.sramUsageBytes ≤ threshold

def FailsClosed (number : FloatValue → Prop) (policy : ViolationPolicy)
    (reading : TelemetryReading) : Prop :=
  policy.evaluate reading = none → Vouched number policy reading

def lettersOf (word : List Char) : List Char := (sign word).2.map Char.toLower

def IsNan (word : List Char) : Prop := lettersOf word = ['n', 'a', 'n']

def IsMinusInfinity (word : List Char) : Prop :=
  (sign word).1 = true ∧
    (lettersOf word = ['i', 'n', 'f'] ∨
      lettersOf word = ['i', 'n', 'f', 'i', 'n', 'i', 't', 'y'])

section Words
variable {word : List Char} (noSpace : ∀ character ∈ word, isSpace character = false)
include noSpace

theorem float_eq_nan_iff : float word = some .nan ↔ IsNan word := by
  rw [float_eq_special_iff noSpace (by simp)]
  unfold specialValue IsNan lettersOf
  dsimp only
  split
  · rename_i infinite
    refine iff_of_false ?_ ?_
    · split <;> simp
    · intro notANumber
      rw [notANumber] at infinite
      rcases infinite with short | long
      · cases short
      · cases long
  · split
    · rename_i notANumber
      exact iff_of_true rfl notANumber
    · rename_i other
      exact iff_of_false (by simp) other

theorem float_eq_negInf_iff : float word = some .negInf ↔ IsMinusInfinity word := by
  rw [float_eq_special_iff noSpace (by simp)]
  unfold specialValue IsMinusInfinity lettersOf
  dsimp only
  split
  · rename_i infinite
    cases (sign word).1 with
    | true => exact iff_of_true rfl ⟨rfl, infinite⟩
    | false => exact iff_of_false (by simp) (by simp)
  · rename_i finite
    refine iff_of_false ?_ fun minus => finite minus.2
    split <;> simp

end Words

/-- Three words, the first of them spelling such a value, and neither of the
other two setting off the policy. -/
def SlipsThrough (special : List Char → Prop) (policy : ViolationPolicy) (bytes : List UInt8) :
    Prop :=
  ∃ text temperature sram security, decodeAscii bytes = .ok text ∧
    split text = [temperature, sram, security] ∧ special temperature ∧
    (policy.triggerOnSecurityViolation = true → security = ['0']) ∧
    ∀ threshold ∈ policy.sramUsageThresholdBytes, ∀ usage, int sram = some usage →
      usage ≤ threshold

theorem evaluate_eq_none_iff (policy : ViolationPolicy) (reading : TelemetryReading) :
    policy.evaluate reading = none ↔
      (policy.triggerOnSecurityViolation = false ∨ reading.securityViolation = false) ∧
        reading.temperatureC.exceeds policy.temperatureThresholdC = false ∧
          ∀ threshold ∈ policy.sramUsageThresholdBytes, reading.sramUsageBytes ≤ threshold := by
  have sram : policy.exceedsSram reading = false ↔
      ∀ threshold ∈ policy.sramUsageThresholdBytes, reading.sramUsageBytes ≤ threshold := by
    unfold ViolationPolicy.exceedsSram
    cases policy.sramUsageThresholdBytes <;> simp
  rw [← sram, ← Option.not_isSome_iff_eq_none, ViolationPolicy.evaluate_isSome_iff]
  simp only [not_or, not_and, Bool.not_eq_true]
  cases policy.triggerOnSecurityViolation <;> simp

theorem failsClosed_iff (number : FloatValue → Prop) (policy : ViolationPolicy)
    (reading : TelemetryReading) :
    FailsClosed number policy reading ↔
      ¬ (policy.evaluate reading = none ∧ ¬ number reading.temperatureC) := by
  constructor
  · rintro closed ⟨passes, notNumber⟩
    exact notNumber (closed passes).isNumber
  · intro never passes
    have checks := (evaluate_eq_none_iff policy reading).mp passes
    exact
      { isNumber := Classical.not_not.mp fun notNumber => never ⟨passes, notNumber⟩
        temperature := checks.2.1
        security := checks.1
        sram := checks.2.2 }

/-- Words against values: once `special` spells exactly the values the
comparison lets pass without their being numbers, the lines that slip through
are those of such a word. -/
theorem failsClosed_iff_not_slipsThrough {number : FloatValue → Prop}
    {special : List Char → Prop} {policy : ViolationPolicy}
    (spells : ∀ word value, (∀ character ∈ word, isSpace character = false) →
      float word = some value →
        (special word ↔ value.exceeds policy.temperatureThresholdC = false ∧ ¬ number value))
    {bytes : List UInt8} {text : List Char} (isAscii : decodeAscii bytes = .ok text)
    {tuple : TelemetryTuple} (parsed : parseLine text = .ok tuple) (now : FloatValue) :
    FailsClosed number policy
        ⟨tuple.temperatureC, tuple.sramUsageBytes, tuple.securityViolation, now⟩ ↔
      ¬ SlipsThrough special policy bytes := by
  obtain ⟨temperature, sram, security, words, temperatureRead, sramRead, securityRead⟩ :=
    parseLine_eq_ok parsed
  have noSpace := noSpace_of_mem_split text temperature (by simp [words])
  have meaning := spells temperature _ noSpace temperatureRead
  rw [failsClosed_iff, evaluate_eq_none_iff, not_iff_not]
  constructor
  · rintro ⟨⟨secure, notHot, within⟩, notNumber⟩
    refine ⟨text, temperature, sram, security, isAscii, words,
      meaning.mpr ⟨notHot, notNumber⟩, ?_, ?_⟩
    · intro triggers
      rcases secure with disabled | clear
      · exact absurd triggers (by simp [disabled])
      · simpa [securityRead] using clear
    · intro threshold member usage isUsage
      cases sramRead.symm.trans isUsage
      exact within threshold member
  · rintro ⟨otherText, _, _, _, otherAscii, otherWords, isSpecial, secure, within⟩
    cases isAscii.symm.trans otherAscii
    cases words.symm.trans otherWords
    obtain ⟨notHot, notNumber⟩ := meaning.mp isSpecial
    refine ⟨⟨?_, notHot, ?_⟩, notNumber⟩
    · cases triggers : policy.triggerOnSecurityViolation with
      | false => exact Or.inl rfl
      | true => exact Or.inr (by simp [securityRead, secure triggers])
    · intro threshold member
      exact within threshold member _ sramRead

/-- Every policy with a finite threshold and every reading the daemon's client
accepts, however its bytes arrived: a passing verdict vouches for the reading
unless the first word of the line says `nan` and nothing else objects.  If an
infinity is no number either, `-inf` is the other such word. -/
theorem fail_closed_iff (policy : ViolationPolicy) (threshold : ℚ)
    (isFinite : policy.temperatureThresholdC = .finite threshold) (socketPath : String)
    (chunks : List (List UInt8)) (nonempty : ∀ chunk ∈ chunks, chunk ≠ []) (now : FloatValue)
    (reading : TelemetryReading)
    (accepted : probeFromWatchdogSocket socketPath ⟨.ok (), chunks.map .ok ++ [.ok []]⟩ now =
      .ok reading) :
    (FailsClosed (fun temperature => temperature ≠ .nan) policy reading ↔
      ¬ SlipsThrough IsNan policy chunks.flatten) ∧
    (FailsClosed (fun temperature => ∃ exact, temperature = .finite exact) policy reading ↔
      ¬ SlipsThrough (fun word => IsNan word ∨ IsMinusInfinity word) policy chunks.flatten) := by
  unfold probeFromWatchdogSocket at accepted
  rw [readFull_chunks socketPath chunks nonempty] at accepted
  cases isAscii : decodeAscii chunks.flatten with
  | error position =>
      rw [isAscii] at accepted
      cases accepted
  | ok text =>
      rw [isAscii] at accepted
      dsimp only at accepted
      cases parsed : parseLine text with
      | error error =>
          rw [parsed] at accepted
          cases accepted
      | ok tuple =>
          rw [parsed] at accepted
          cases accepted
          constructor
          · refine failsClosed_iff_not_slipsThrough ?_ isAscii parsed now
            intro word value noSpace read
            rw [← float_eq_nan_iff noSpace, read, isFinite, Option.some.injEq, Classical.not_not]
            constructor
            · rintro rfl
              exact ⟨rfl, rfl⟩
            · exact fun both => both.2
          · refine failsClosed_iff_not_slipsThrough ?_ isAscii parsed now
            intro word value noSpace read
            rw [← float_eq_nan_iff noSpace, ← float_eq_negInf_iff noSpace, read, isFinite]
            cases value <;> simp [FloatValue.exceeds]

def brokenSensorLine : List UInt8 := [110, 97, 110, 32, 48, 32, 48, 10]

theorem broken_sensor_passes :
    probeFromWatchdogSocket "/tmp/msp_watchdogd.sock" ⟨.ok (), [.ok brokenSensorLine, .ok []]⟩
        (.finite 1) = .ok ⟨.nan, 0, false, .finite 1⟩ ∧
      ¬ FailsClosed (fun temperature => temperature ≠ .nan) ViolationPolicy.defaults
        ⟨.nan, 0, false, .finite 1⟩ := by
  refine ⟨by decide +kernel, ?_⟩
  intro closed
  exact (closed rfl).isNumber rfl

theorem fail_closed_iff_cool :
    FailsClosed (fun temperature => temperature ≠ .nan) ViolationPolicy.defaults
        ⟨.finite (83 / 2), 7, false, .finite 1⟩ ↔
      ¬ SlipsThrough IsNan ViolationPolicy.defaults
        ([[52, 49, 46, 53, 32], [55, 32, 48, 10]] : List (List UInt8)).flatten :=
  (fail_closed_iff ViolationPolicy.defaults 85 rfl "/tmp/msp_watchdogd.sock"
    [[52, 49, 46, 53, 32], [55, 32, 48, 10]] (by decide) (.finite 1) _ (by decide +kernel)).1

end Msp.Python.FailClosed
