import TwoTierWatchdog.Driver

/-!
# The interface of the task watchdog

The vendor's interface to the ESP32 task watchdog: it counts while a task is
subscribed to it. Its calls report a vendor error code when they fail.
-/

namespace TwoTierWatchdog.Twdt

inductive Command where
  /-- Set the period, and whether expiry panics; otherwise only the interrupt hook
  runs. -/
  | reconfigure (timeoutMs : UInt32) (triggerPanic : Bool)
  | subscribe
  | unsubscribe
  | reset
  | attachInterrupt (line : Interrupt.Line)
  deriving DecidableEq, Repr

def Command.text : Command → String
  | reconfigure ms panic => s!"reconfigure({ms},{panic})"
  | subscribe => "subscribe"
  | unsubscribe => "unsubscribe"
  | reset => "reset"
  | attachInterrupt line => s!"attach_interrupt({line.entry})"

/-- A code with which the vendor's interface reports a failure. -/
structure VendorError where
  code : Int
  deriving DecidableEq, Repr

def VendorError.message (e : VendorError) : String :=
  s!"vendor error {e.code}"

class Interface (π : Type) where
  /-- What a call does, and whether it fails. -/
  write : Command → π → Except VendorError Unit × π
  isSubscribed : π → Bool
  timeoutMs? : π → Option UInt32

end TwoTierWatchdog.Twdt
