import TwoTierWatchdog.System

/-!
# Time for the devices

Devices do not share the clock of the monitors: their time passes only when they are
told to let it. A device that is told to go through a length of time expires as often
as that length covers what its counter has left.

An expiry that finds nothing left takes no time. That happens only to a counter that
was given no period past its driver, and to one whose expiry is just being delivered.
However many there are in a row, a callback may put an end to them; a bound that no
machine lives to reach is what makes `advance` total when none does.
-/

namespace TwoTierWatchdog.System

variable {κ : Type}

def remaining? (s : System κ) (k : Nat) : Option Duration :=
  (s.device? k).bind (·.remaining?)

/-- The half of an expiry that comes before its interrupt is delivered, and the line
that it fires. -/
def strike (k : Nat) (s : System κ) : Option Interrupt.Line × System κ :=
  match s.device? k with
  | none => (none, s)
  | some device =>
    let (device, line, log) := device.strike
    (line, (s.putDevice k device []).append log)

/-- The half of an expiry that comes after its interrupt was delivered. -/
def recover (k : Nat) (s : System κ) : System κ :=
  match s.device? k with
  | none => s
  | some device =>
    let (device, log) := device.recover
    (s.putDevice k device []).append log

/-- A counter that runs reaches zero. Its interrupt is delivered with the expiry half
done, so that the callback sees the device as the interrupt left it. -/
def expire (h : Handler κ) (k : Nat) (s : System κ) : System κ :=
  match s.remaining? k with
  | none => s
  | some _ =>
    match s.strike k with
    | (some line, s) => (s.fire h line).recover k
    | (none, s) => s.recover k

/-- The expiries that `advance` delivers at most without time passing between them. -/
def idleExpiries : Nat := 0x4000000000000000

/-- Lets time pass, in steps of at most one expiry. The last number bounds the expiries
to come before time moves. -/
def run (h : Handler κ) (k : Nat) (left idle : Nat) (s : System κ) : System κ :=
  match s.remaining? k with
  | none => s
  | some step =>
    if left < step.nanos then
      s.modifyDevice k (·.elapse ⟨left⟩)
    else
      let s := (s.modifyDevice k (·.elapse step)).expire h k
      if _moves : 0 < step.nanos then
        run h k (left - step.nanos) idleExpiries s
      else
        match idle with
        | 0 => s
        | idle + 1 => run h k left idle s
termination_by (left, idle)

def advance (h : Handler κ) (k : Nat) (time : Duration) (s : System κ) : System κ :=
  s.run h k time.nanos idleExpiries

def answerOf : Device.Reply → Answer
  | .done => .done
  | .flag b => .flag b
  | .failed e => .vendorFailed e

/-- Does something to a device from outside. -/
def stimulate (h : Handler κ) (k : Nat) (what : Device.Stimulus) (s : System κ) :
    Answer × System κ :=
  match s.device? k with
  | none => (.absent .unsupported, s)
  | some device =>
    match what, device with
    | .advance time, _ =>
      if device.hasClock then (.done, s.advance h k time) else (.absent .unsupported, s)
    | .expire, _ =>
      if device.hasClock then (.done, s.expire h k) else (.absent .unsupported, s)
    | .fire, .eager p =>
      match p.line with
      | some line => (.done, s.fire h line)
      | none => (.done, s)
    | _, _ =>
      match device.poke what with
      | some (reply, device) => (answerOf reply, s.putDevice k device [])
      | none => (.absent .unsupported, s)

end TwoTierWatchdog.System
