import TwoTierWatchdog.Duration
import TwoTierWatchdog.Instance
import TwoTierWatchdog.Liveness.Cell

/-!
# Settings of the supervision

What it takes to bring up both tiers: the hardware watchdog, which resets a device that
hangs, and the liveness monitor above it, which notices a main loop that stalls. The
hardware tier has to be the slower one, and the main loop has to feed well inside the
window of the monitor.
-/

namespace TwoTierWatchdog.Supervisor

/-- The settings of both tiers and of the main loop. -/
structure Settings where
  instanceId : UInt8 := 0
  hwTimeoutMs : UInt32 := 10000
  /-- Its expiry resets the device; otherwise it raises the interrupt. -/
  hardReset : Bool := true
  appTimeoutMs : UInt32 := 5000
  /-- The stack of the monitor's thread. -/
  appStackSize : UInt64 := 4096
  /-- Whether giving the monitor up counts as a stall. -/
  disposePolicy : Liveness.DisposePolicy := .silent
  /-- How often the main loop feeds both tiers. -/
  feedIntervalMs : UInt32 := 1000
  deriving DecidableEq, Repr

namespace Settings

def instanceOf (c : Settings) : Except Error Instance :=
  Instance.ofNumber c.instanceId

def hwTimeout (c : Settings) : Duration :=
  .ofMillis c.hwTimeoutMs.toNat

def appTimeout (c : Settings) : Duration :=
  .ofMillis c.appTimeoutMs.toNat

def feedInterval (c : Settings) : Duration :=
  .ofMillis c.feedIntervalMs.toNat

/-- Twice a word, at most the largest one. -/
def doubled (w : UInt32) : UInt32 :=
  if 0x7FFFFFFF < w then 0xFFFFFFFF else w * 2

/-- Checks the settings against one another. An instance that there cannot be is found
first. -/
def validate (c : Settings) : Except Error Unit := do
  let _ ← c.instanceOf
  if c.hwTimeoutMs = 0 ∨ c.appTimeoutMs = 0 ∨ c.feedIntervalMs = 0 then
    throw .invalidArgument
  if c.hwTimeoutMs ≤ c.appTimeoutMs then
    throw .invalidArgument
  if c.appTimeoutMs < doubled c.feedIntervalMs then
    throw .invalidArgument

end Settings

end TwoTierWatchdog.Supervisor
