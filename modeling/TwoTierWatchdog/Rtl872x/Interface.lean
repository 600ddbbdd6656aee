import TwoTierWatchdog.Driver
import TwoTierWatchdog.Rtl872x.Divider

/-!
# The interface of the RTL872x watchdog

The register interface that the driver programs. Every call is one short access.
-/

namespace TwoTierWatchdog.Rtl872x

inductive Command where
  /-- Write the divider and the early-interrupt mode. -/
  | configure (divider : Divider) (earlyInterrupt : Bool)
  | attachInterrupt (line : Interrupt.Line)
  | setEnabled (enabled : Bool)
  | refresh
  deriving DecidableEq, Repr

def Command.text : Command → String
  | configure d early => s!"configure({d.divFac},{d.cntLimit},{early})"
  | attachInterrupt line => s!"attach_interrupt({line.entry})"
  | setEnabled enabled => s!"set_enabled({enabled})"
  | refresh => "refresh"

class Interface (π : Type) where
  write : Command → π → π
  divider : π → Divider
  isEnabled : π → Bool

end TwoTierWatchdog.Rtl872x
