import TwoTierWatchdog.Nrf52.Interface

/-!
# An nRF52840 watchdog that fires while it is fed

A peripheral without a clock, for what no counter shows: its interrupt comes in the
middle of the driver's own call.
-/

namespace TwoTierWatchdog.Nrf52

structure Eager where
  crv : UInt32 := 0
  running : Bool := false
  /-- The line on the timeout vector. -/
  line : Option Interrupt.Line := none
  deriving DecidableEq, Repr

namespace Eager

/-- What a writing call does. The reload value can always be written. -/
def write (c : Command) (p : Eager) : Eager :=
  match c with
  | .setReloadValue crv => { p with crv }
  | .enableTimeoutInterrupt line => { p with line := some line }
  | .start => { p with running := true }
  | .setBehaviour .. | .enableReloadChannel _ | .feed _ => p

/-- Feeding fires the line. -/
def raised (c : Command) (p : Eager) : Option Interrupt.Line :=
  match c with
  | .feed _ => p.line
  | _ => none

instance : Interface Eager where
  write := write
  raised := raised
  reloadValue := crv
  vectorAvailable _ := true
  isRunning := running

end Eager

end TwoTierWatchdog.Nrf52
