import TwoTierWatchdog.Ticks

/-!
# The divider of the RTL872x watchdog

The counter takes a 32.768 kHz clock through a prescaler and counts a span that is one
less than a power of two. A pair of prescaler and span is chosen for a period by
searching the spans for the fewest ticks that cover it.
-/

namespace TwoTierWatchdog.Rtl872x

def clockHz : UInt64 := 32768

def divFacMin : UInt16 := 1

def divFacMax : UInt16 := 0xFFFF

def cntLimitMax : UInt8 := 11

/-- Prescaler and span as they are programmed. -/
structure Divider where
  divFac : UInt16 := 0
  cntLimit : UInt8 := 0
  deriving DecidableEq, Repr

namespace Divider

/-- The span that a selector stands for: `2^(limit + 1) - 1`. A selector beyond the
width of its field counts as the largest. -/
def span (limit : UInt8) : UInt64 :=
  1 <<< ((min limit cntLimitMax).toUInt64 + 1) - 1

def count (d : Divider) : UInt64 :=
  span d.cntLimit

def ticks (d : Divider) : UInt64 :=
  (d.divFac.toUInt64 + 1) * d.count

/-- The period, rounded down to milliseconds. -/
def timeoutMs (d : Divider) : UInt32 :=
  (Ticks.toMillisFloor d.ticks clockHz).toUInt32

/-- The divider with a given span that covers `wanted` ticks with the smallest
prescaler; none if the prescaler is out of range. -/
def covering? (wanted : UInt64) (limit : UInt8) : Option Divider :=
  let quotient := Ticks.divCeil wanted (span limit)
  let divFac := max (quotient - min quotient 1) divFacMin.toUInt64
  if divFac ≤ divFacMax.toUInt64 then
    some { divFac := divFac.toUInt16, cntLimit := limit }
  else
    none

/-- The divider with the fewest ticks, the first one among equals. -/
def fewestTicks : List Divider → Option Divider
  | [] => none
  | d :: rest =>
    match fewestTicks rest with
    | none => some d
    | some best => some (if best.ticks < d.ticks then best else d)

/-- The divider with the fewest ticks that last at least `ms` milliseconds; none if
`ms` is zero or longer than the hardware can count. -/
def forMillis? (ms : UInt32) : Option Divider :=
  if ms = 0 then
    none
  else
    let wanted := Ticks.ofMillisCeil ms clockHz
    fewestTicks ((List.range (cntLimitMax.toNat + 1)).filterMap fun limit =>
      covering? wanted limit.toUInt8)

end Divider

def minTimeoutMs : UInt32 :=
  (Ticks.toMillisCeil (Divider.ticks ⟨divFacMin, 0⟩) clockHz).toUInt32

def maxTimeoutMs : UInt32 :=
  (Ticks.toMillisFloor (Divider.ticks ⟨divFacMax, cntLimitMax⟩) clockHz).toUInt32

end TwoTierWatchdog.Rtl872x
