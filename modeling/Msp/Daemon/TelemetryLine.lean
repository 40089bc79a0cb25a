import Msp.Daemon.SandboxWatchdog
import Msp.Library.Decimal
import Msp.Library.Rounding

/-!
# The telemetry line

What `msp_telemetry_server_run` (`src/daemon/telemetry_server.c`) formats with
`snprintf(line, sizeof(line), "%.3f %zu %d\n", …)` and hands to `write_all`.
-/

set_option autoImplicit false

namespace Msp.Daemon.TelemetryLine

open Msp.Library Msp.Daemon.SandboxWatchdog

/-- The temperature in thousandths of a degree, as `%.3f` rounds it. -/
def thousandths (value : ℚ) : Nat := (roundHalfEven (1000 * |value|)).toNat

def temperatureText : FloatValue → List Char
  | .finite value =>
      (if value < 0 then ['-'] else []) ++ Decimal.fixedPoint 3 (thousandths value)
  | .posInf => ['i', 'n', 'f']
  | .negInf => ['-', 'i', 'n', 'f']
  | .nan => ['n', 'a', 'n']

def flagText (securityViolation : Bool) : List Char := if securityViolation then ['1'] else ['0']

def sramText (telemetry : Telemetry) : List Char :=
  Decimal.natural telemetry.sramUsageBytes.toNat

def lineText (telemetry : Telemetry) : List Char :=
  temperatureText telemetry.temperatureC ++
    ' ' :: (sramText telemetry ++ ' ' :: (flagText telemetry.securityViolation ++ ['\n']))

def lineCapacity : Nat := 128

/-- The bytes handed to `write_all`: all of the text, or what fits the buffer
in front of the terminating NUL. -/
def telemetryLine (telemetry : Telemetry) : List UInt8 :=
  ((lineText telemetry).take (lineCapacity - 1)).map fun character =>
    UInt8.ofNat character.toNat

end Msp.Daemon.TelemetryLine
