import TwoTierWatchdog.Countdown
import TwoTierWatchdog.Nrf52.Interface
import TwoTierWatchdog.Nrf52.Reload

/-!
# A simulated nRF52840 watchdog

The peripheral survives chip resets; only a loss of power stops it. Its reload value
cannot be written while it runs. On expiry the timeout interrupt comes first, and the
reset that follows cannot be prevented.
-/

namespace TwoTierWatchdog.Nrf52

/-- The registers and the counter. -/
structure Peripheral where
  crv : UInt32 := 0
  runInSleep : Bool := false
  runInHalt : Bool := false
  /-- The enabled reload request registers, one bit each. -/
  channels : UInt8 := 0
  /-- The line on the timeout vector. -/
  line : Option Interrupt.Line := none
  running : Bool := false
  countdown : Countdown := {}
  feeds : Nat := 0
  resets : Nat := 0
  /-- A fault: starting has no effect. -/
  startIgnored : Bool := false
  /-- Something else on the board owns the vector. -/
  vectorClaimed : Bool := false
  deriving DecidableEq, Repr

namespace Peripheral

/-- The bit of a reload request register; there are eight. -/
def channelBit (channel : UInt8) : UInt8 :=
  1 <<< (channel &&& 7)

/-- The period that a reload value stands for. -/
def periodOf (crv : UInt32) : Duration :=
  ⟨Ticks.toNanos (ticks crv) clockHz⟩

def write (c : Command) (p : Peripheral) : Peripheral :=
  match c with
  | .setReloadValue crv => if p.running then p else { p with crv }
  | .setBehaviour runInSleep runInHalt => { p with runInSleep, runInHalt }
  | .enableReloadChannel channel =>
    { p with channels := p.channels ||| channelBit channel }
  | .enableTimeoutInterrupt line => { p with line := some line }
  | .start =>
    if p.startIgnored || p.running then
      p
    else
      { p with running := true, countdown := .ofPeriod (periodOf p.crv) }
  | .feed channel =>
    if p.running && p.channels &&& channelBit channel != 0 then
      { p with countdown := p.countdown.reload, feeds := p.feeds + 1 }
    else
      p

instance : Interface Peripheral where
  write := write
  raised _ _ := none
  reloadValue := crv
  vectorAvailable p := !p.vectorClaimed
  isRunning := running

def remaining? (p : Peripheral) : Option Duration :=
  if p.running then some p.countdown.remaining else none

def elapse (time : Duration) (p : Peripheral) : Peripheral :=
  { p with countdown := p.countdown.elapse time }

/-- The reset that follows an expiry: the configuration stays and the counter goes
on. -/
def reset (p : Peripheral) : Peripheral × List Log.Entry :=
  let p := { p with resets := p.resets + 1, countdown := p.countdown.reload }
  (p, [⟨.debug, s!"sim(nrf52): reset #{p.resets}"⟩])

/-- The power is lost: every register is back at its reset value. -/
def powerCycle (p : Peripheral) : Peripheral :=
  { vectorClaimed := p.vectorClaimed }

end Peripheral

end TwoTierWatchdog.Nrf52
