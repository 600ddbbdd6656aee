import TwoTierWatchdog.Ticks

/-!
# The reload value of the nRF52840 watchdog

The counter runs down from the CRV register on a 32.768 kHz clock and lasts
`(CRV + 1) / 32768` seconds.
-/

namespace TwoTierWatchdog.Nrf52

def clockHz : UInt64 := 32768

def crvMin : UInt32 := 0xF

def crvMax : UInt32 := 0xFFFFFFFF

def ticks (crv : UInt32) : UInt64 :=
  crv.toUInt64 + 1

def minTimeoutMs : UInt32 :=
  (Ticks.toMillisCeil (ticks crvMin) clockHz).toUInt32

def maxTimeoutMs : UInt32 :=
  (Ticks.toMillisFloor (ticks crvMax) clockHz).toUInt32

/-- The smallest reload value whose period is at least `ms` milliseconds; none if
there is none. -/
def crvForMillis? (ms : UInt32) : Option UInt32 :=
  let wanted := Ticks.ofMillisCeil ms clockHz
  if wanted = 0 || ticks crvMax < wanted then
    none
  else
    some (max (wanted - 1).toUInt32 crvMin)

/-- The period of a reload value, rounded down to milliseconds. -/
def millisForCrv (crv : UInt32) : UInt32 :=
  (Ticks.toMillisFloor (ticks crv) clockHz).toUInt32

end TwoTierWatchdog.Nrf52
