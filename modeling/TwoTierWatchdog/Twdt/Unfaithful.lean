import TwoTierWatchdog.Twdt.Interface

/-!
# A task watchdog that does not do what it says

Every call succeeds, but subscribing and unsubscribing leave the subscription as it
is. It shows what a driver makes of a readback that disagrees.
-/

namespace TwoTierWatchdog.Twdt

/-- What the watchdog was told, and what it reports. -/
structure Unfaithful where
  timeoutMs : Option UInt32 := none
  triggerPanic : Bool := false
  /-- What it reports, whatever it was told. -/
  subscribed : Bool := false
  /-- The calls taken, attaching the interrupt apart. -/
  calls : Nat := 0
  deriving DecidableEq, Repr

namespace Unfaithful

def write (c : Command) (p : Unfaithful) : Except VendorError Unit × Unfaithful :=
  match c with
  | .reconfigure timeoutMs triggerPanic =>
    (.ok (), { p with timeoutMs := some timeoutMs, triggerPanic, calls := p.calls + 1 })
  | .subscribe | .unsubscribe | .reset => (.ok (), { p with calls := p.calls + 1 })
  | .attachInterrupt _ => (.ok (), p)

instance : Interface Unfaithful where
  write := write
  isSubscribed := subscribed
  timeoutMs? := timeoutMs

end Unfaithful

end TwoTierWatchdog.Twdt
