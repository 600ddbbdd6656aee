import TwoTierWatchdog.Countdown
import TwoTierWatchdog.Twdt.Interface

/-!
# A simulated task watchdog

One task may be subscribed. On expiry the chip panics, and the watchdog comes back
unsubscribed; or, without panic, the interrupt hook runs and the count restarts.
-/

namespace TwoTierWatchdog.Twdt

/-- The vendor code for a call in the wrong state. -/
def VendorError.invalidState : VendorError := ⟨0x103⟩

/-- The vendor code for a task that is not subscribed. -/
def VendorError.notFound : VendorError := ⟨0x105⟩

structure Peripheral where
  timeoutMs : Option UInt32 := none
  triggerPanic : Bool := false
  subscribed : Bool := false
  /-- The line on the interrupt hook. -/
  line : Option Interrupt.Line := none
  countdown : Countdown := {}
  feeds : Nat := 0
  resets : Nat := 0
  /-- A fault: the error of one call to come. -/
  failure : Option VendorError := none
  /-- The calls that still succeed before it. -/
  failureSkip : Nat := 0
  deriving DecidableEq, Repr

namespace Peripheral

/-- The failure that is due for a call, if one is, and what remains of it. -/
def takeFailure (p : Peripheral) : Option VendorError × Peripheral :=
  match p.failure, p.failureSkip with
  | some _, skip + 1 => (none, { p with failureSkip := skip })
  | due, 0 => (due, { p with failure := none })
  | none, _ => (none, p)

/-- What a call does when no failure is injected. -/
def act (c : Command) (p : Peripheral) : Except VendorError Unit × Peripheral :=
  match c with
  | .reconfigure timeoutMs triggerPanic =>
    (.ok (), { p with
      timeoutMs := some timeoutMs, triggerPanic
      countdown := .ofPeriod (.ofMillis timeoutMs.toNat) })
  | .subscribe =>
    if p.timeoutMs.isNone then
      (.error .invalidState, p)
    else if p.subscribed then
      (.ok (), p)
    else
      (.ok (), { p with subscribed := true, countdown := p.countdown.reload })
  | .unsubscribe =>
    if p.subscribed then
      (.ok (), { p with subscribed := false })
    else
      (.error .notFound, p)
  | .reset =>
    if p.subscribed then
      (.ok (), { p with countdown := p.countdown.reload, feeds := p.feeds + 1 })
    else
      (.error .notFound, p)
  | .attachInterrupt line => (.ok (), { p with line := some line })

/-- What a call does. Attaching the interrupt never fails. -/
def write (c : Command) (p : Peripheral) : Except VendorError Unit × Peripheral :=
  match c with
  | .attachInterrupt _ => act c p
  | _ =>
    match p.takeFailure with
    | (some e, p) => (.error e, p)
    | (none, p) => act c p

instance : Interface Peripheral where
  write := write
  isSubscribed := subscribed
  timeoutMs? := timeoutMs

def remaining? (p : Peripheral) : Option Duration :=
  if p.subscribed then some p.countdown.remaining else none

def elapse (time : Duration) (p : Peripheral) : Peripheral :=
  { p with countdown := p.countdown.elapse time }

/-- What an expiry does to a running counter, the line it fires, and the log. -/
def expire (p : Peripheral) : Peripheral × Option Interrupt.Line × List Log.Entry :=
  if p.triggerPanic then
    let p := { p with resets := p.resets + 1, subscribed := false }
    (p, none, [⟨.debug, s!"sim(twdt): panic reset #{p.resets}"⟩])
  else
    ({ p with countdown := p.countdown.reload }, p.line, [])

end Peripheral

end TwoTierWatchdog.Twdt
