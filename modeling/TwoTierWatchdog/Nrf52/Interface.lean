import TwoTierWatchdog.Driver

/-!
# The interface of the nRF52840 watchdog

The register interface that the driver programs. Every call is one short access.
-/

namespace TwoTierWatchdog.Nrf52

inductive Command where
  | setReloadValue (crv : UInt32)
  /-- Keep counting while the processor sleeps, and while a debugger halts it. -/
  | setBehaviour (runInSleep runInHalt : Bool)
  | enableReloadChannel (channel : UInt8)
  | enableTimeoutInterrupt (line : Interrupt.Line)
  /-- Start the counter, for good. -/
  | start
  | feed (channel : UInt8)
  deriving DecidableEq, Repr

def Command.text : Command → String
  | setReloadValue crv => s!"set_reload_value({crv})"
  | setBehaviour sleep halt => s!"set_behaviour({sleep},{halt})"
  | enableReloadChannel channel => s!"enable_reload_channel({channel})"
  | enableTimeoutInterrupt line => s!"enable_timeout_interrupt({line.entry})"
  | start => "start"
  | feed channel => s!"feed({channel})"

class Interface (π : Type) where
  write : Command → π → π
  /-- The line that a call fires before it returns. -/
  raised : Command → π → Option Interrupt.Line
  reloadValue : π → UInt32
  /-- Whether the application may claim the vector. -/
  vectorAvailable : π → Bool
  isRunning : π → Bool

end TwoTierWatchdog.Nrf52
