/-!
# Clock ticks

Watchdog counters count ticks of a clock. A request in milliseconds is rounded up to
whole ticks, an effective period down to whole milliseconds: both directions keep the
effective period at least the request. The arithmetic is that of 64-bit words.
-/

namespace TwoTierWatchdog

namespace Ticks

/-- The quotient of two words, rounded up. -/
def divCeil (a b : UInt64) : UInt64 :=
  if a % b = 0 then a / b else a / b + 1

/-- The fewest ticks of an `hz` clock that last at least `ms` milliseconds. -/
def ofMillisCeil (ms : UInt32) (hz : UInt64) : UInt64 :=
  divCeil (ms.toUInt64 * hz) 1000

/-- The whole milliseconds that `ticks` of an `hz` clock fully cover. -/
def toMillisFloor (ticks hz : UInt64) : UInt64 :=
  ticks * 1000 / hz

/-- The fewest whole milliseconds that are not shorter than `ticks`. -/
def toMillisCeil (ticks hz : UInt64) : UInt64 :=
  divCeil (ticks * 1000) hz

/-- The length of `ticks`, in whole nanoseconds rounded down. -/
def toNanos (ticks hz : UInt64) : Nat :=
  ticks.toNat * 1000000000 / hz.toNat

end Ticks

end TwoTierWatchdog
