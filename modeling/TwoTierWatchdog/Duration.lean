/-!
# Lengths of time

A length of time is a whole number of nanoseconds, without an upper bound. Where the
library counts in milliseconds a length is rounded up, so that nothing that waits for
the result ever waits for less than was asked.
-/

namespace TwoTierWatchdog

structure Duration where
  nanos : Nat
  deriving DecidableEq, Repr

namespace Duration

def zero : Duration := ⟨0⟩

/-- `n` nanoseconds past `s` whole seconds. -/
def ofSeconds (s : Nat) (n : Nat := 0) : Duration := ⟨s * 1000000000 + n⟩

def ofMillis (ms : Nat) : Duration := ⟨ms * 1000000⟩

def ofMicros (us : Nat) : Duration := ⟨us * 1000⟩

def seconds (d : Duration) : Nat := d.nanos / 1000000000

/-- What a length has beyond its whole seconds, in nanoseconds. -/
def subsecNanos (d : Duration) : Nat := d.nanos % 1000000000

/-- The fewest whole milliseconds that cover a length, at most the largest 32-bit
number. -/
def millisCeil (d : Duration) : UInt32 :=
  UInt32.ofNat (min ((d.nanos + 999999) / 1000000) 0xFFFFFFFF)

end Duration

end TwoTierWatchdog
