import TwoTierWatchdog.Duration
import TwoTierWatchdog.Liveness.Cell
import TwoTierWatchdog.Record.Info
import TwoTierWatchdog.Supervisor.Failure
import TwoTierWatchdog.Twdt.Interface

/-!
# Answers

What a step of a scenario answers.
-/

namespace TwoTierWatchdog

structure MonitorReport where
  state : Liveness.State
  timeout : Duration
  complete : Bool
  hits : Nat
  deriving DecidableEq, Repr

structure SupervisionReport where
  id : Instance
  started : Bool
  state : Liveness.State
  timeout : Duration
  complete : Bool
  deriving DecidableEq, Repr

/-- What there is none of. -/
inductive Absence where
  | supervision
  | monitor
  | dropped
  /-- The device does not know the stimulus. -/
  | unsupported
  /-- Nothing of the kind can be asked. -/
  | call
  deriving DecidableEq, Repr

inductive Answer where
  | done
  | failed (e : Error)
  | supervisionFailed (f : Supervisor.Failure)
  | vendorFailed (e : Twdt.VendorError)
  | absent (what : Absence)
  | flag (b : Bool)
  | number (n : Nat)
  | numbers (ns : List Nat)
  | info (i : Record.Info)
  /-- The bytes written into a buffer, or why none were, and the buffer. -/
  | written (result : Except Error Nat) (buffer : List UInt8)
  | monitor (r : MonitorReport)
  | supervision (r : SupervisionReport)
  /-- The end of a supervision's monitor, and the stalls reported so far. -/
  | stalled (state : Liveness.State) (complete : Bool) (stalls : Nat)
  | list (answers : List Answer)

namespace Answer

/-- The answer of a step that has nothing to say but whether it succeeded. -/
def ofResult : Except Error Unit → Answer
  | .ok () => done
  | .error e => failed e

end Answer

end TwoTierWatchdog
