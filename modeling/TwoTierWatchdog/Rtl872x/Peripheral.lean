import TwoTierWatchdog.Countdown
import TwoTierWatchdog.Rtl872x.Interface

/-!
# A simulated RTL872x watchdog

In early-interrupt mode the first expiry raises the interrupt and restarts the count,
and a second one before the next reload resets the chip. A chip reset clears the
enable bit.
-/

namespace TwoTierWatchdog.Rtl872x

/-- The registers and the counter. -/
structure Peripheral where
  divider : Divider := {}
  earlyInterrupt : Bool := false
  /-- The early interrupt was raised since the last reload. -/
  earlyFired : Bool := false
  /-- The line on the vector. -/
  line : Option Interrupt.Line := none
  enabled : Bool := false
  countdown : Countdown := {}
  refreshes : Nat := 0
  resets : Nat := 0
  /-- A fault: writing the enable bit has no effect. -/
  enableStuck : Bool := false
  /-- A fault: writing the divider has no effect. -/
  dividerLocked : Bool := false
  deriving DecidableEq, Repr

namespace Peripheral

/-- The period that a divider stands for. -/
def periodOf (d : Divider) : Duration :=
  ⟨Ticks.toNanos d.ticks clockHz⟩

def write (c : Command) (p : Peripheral) : Peripheral :=
  match c with
  | .configure divider earlyInterrupt =>
    if p.dividerLocked then
      p
    else
      { p with
        divider, earlyInterrupt, earlyFired := false
        countdown := .ofPeriod (periodOf divider) }
  | .attachInterrupt line => { p with line := some line }
  | .setEnabled enabled =>
    if p.enableStuck then
      p
    else if enabled && !p.enabled then
      { p with enabled, countdown := p.countdown.reload, earlyFired := false }
    else
      { p with enabled }
  | .refresh =>
    { p with
      countdown := p.countdown.reload, earlyFired := false
      refreshes := p.refreshes + 1 }

instance : Interface Peripheral where
  write := write
  divider := divider
  isEnabled := enabled

def remaining? (p : Peripheral) : Option Duration :=
  if p.enabled then some p.countdown.remaining else none

def elapse (time : Duration) (p : Peripheral) : Peripheral :=
  { p with countdown := p.countdown.elapse time }

/-- What an expiry does to a running counter, the line it fires, and the log. -/
def expire (p : Peripheral) : Peripheral × Option Interrupt.Line × List Log.Entry :=
  if p.earlyInterrupt && !p.earlyFired then
    ({ p with earlyFired := true, countdown := p.countdown.reload }, p.line, [])
  else
    let p := { p with resets := p.resets + 1, enabled := false, earlyFired := false }
    (p, none, [⟨.debug, s!"sim(rtl872x): reset #{p.resets}"⟩])

end Peripheral

end TwoTierWatchdog.Rtl872x
