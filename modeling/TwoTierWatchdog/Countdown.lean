import TwoTierWatchdog.Duration

/-!
# Countdowns

What a simulated counter has left of its period.
-/

namespace TwoTierWatchdog

/-- The period of a counter and the time it has left. -/
structure Countdown where
  period : Duration := .zero
  remaining : Duration := .zero
  deriving DecidableEq, Repr

namespace Countdown

def reload (c : Countdown) : Countdown :=
  { c with remaining := c.period }

def ofPeriod (period : Duration) : Countdown :=
  { period, remaining := period }

/-- Lets time pass; nothing is left if it covers what remains. -/
def elapse (c : Countdown) (time : Duration) : Countdown :=
  { c with remaining := ⟨c.remaining.nanos - time.nanos⟩ }

end Countdown

end TwoTierWatchdog
