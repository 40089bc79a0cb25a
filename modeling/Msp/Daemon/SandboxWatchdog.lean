import Msp.Library.FloatValue

/-!
# The watchdog thread

`msp_telemetry_t` and `msp_telemetry_watchdog_daemon`
(`src/daemon/sandbox_watchdog.{h,c}`).  A thread running the daemon function is
its program counter; `usleep` and the read behind it are one step, whose
telemetry is whatever the reader then delivers.
-/

set_option autoImplicit false

namespace Msp.Daemon.SandboxWatchdog

open Msp.Library

def criticalTempC : ℚ := 85

def maxSramAlloc : UInt64 := 512 * 1024 * 1024

structure Telemetry where
  temperatureC : FloatValue
  sramUsageBytes : UInt64
  securityViolation : Bool
  deriving DecidableEq, Repr

def violated (telemetry : Telemetry) : Bool :=
  telemetry.temperatureC.exceeds (.finite criticalTempC) ||
    decide (maxSramAlloc < telemetry.sramUsageBytes) ||
    telemetry.securityViolation

inductive WatchdogPc where
  | check
  | poll
  /-- `*cfg->violation_flag = true`. -/
  | raiseFlag
  /-- `pthread_kill(cfg->monitored_thread, MSP_FALLBACK_SIGNAL)`. -/
  | kill
  | finished
  deriving DecidableEq, Repr

def daemonStep (keepRunning : Bool) (telemetry : Telemetry) : WatchdogPc → WatchdogPc
  | .check => if keepRunning then .poll else .finished
  | .poll => if violated telemetry then .raiseFlag else .check
  | .raiseFlag => .kill
  | .kill => .finished
  | .finished => .finished

end Msp.Daemon.SandboxWatchdog
