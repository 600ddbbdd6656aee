import TwoTierWatchdog.Twdt.Interface

/-!
# The task watchdog driver

Starting subscribes the calling task, feeding resets its entry, stopping unsubscribes
it. The subscription is read back. With a hard reset, expiry panics and the panic
handler resets the chip; without it only the interrupt hook runs.
-/

namespace TwoTierWatchdog.Twdt

variable {π : Type} [Interface π]

def minTimeoutMs : UInt32 := 1

/-- The longest period: in microseconds it has to fit in 32 bits. -/
def maxTimeoutMs : UInt32 := 0xFFFFFFFF / 1000

/-- Every named capability. -/
def profile : Profile where
  name := "twdt"
  capabilities :=
    ((Capabilities.softReset.union .interrupt).union .reconfigurable).union .stoppable
  minTimeoutMs := minTimeoutMs
  maxTimeoutMs := maxTimeoutMs

/-- The books of a new driver, and what it logs. -/
def adopt (hardware : π) : Driver × List Log.Entry :=
  if Interface.isSubscribed hardware then
    let ms := (Interface.timeoutMs? hardware).getD 0
    ({ state := .running, timeoutMs := ms },
      [⟨.warn, s!"wdt(twdt): task already subscribed ({ms} ms), adopting"⟩])
  else
    ({}, [])

/-- Makes a call and, unless it fails, goes on with `next`. A vendor error is logged
under the name of the call. -/
def write (name : String) (c : Command) (r : Rig π Command)
    (next : Rig π Command → Served π Command) : Served π Command :=
  let (result, hardware) := Interface.write c r.hardware
  let r := { r with hardware, calls := r.calls ++ [c] }
  match result with
  | .ok () => next r
  | .error e =>
    (r.note .error s!"wdt(twdt): {name} failed: {e.message}").fail .internal

/-- Goes on with `next` if the subscription reads `want`. -/
def confirm (want : Bool) (r : Rig π Command) (next : Rig π Command → Served π Command) :
    Served π Command :=
  if Interface.isSubscribed r.hardware = want then
    next r
  else
    (r.note .error s!"wdt(twdt): subscription readback != {want}").fail .internal

/-- The period is programmed: enters it into the books. A running counter is reset, so
that the new period takes effect from a fresh countdown. -/
def commit (c : Record.Config) (r : Rig π Command) : Served π Command :=
  let finish := fun (r : Rig π Command) =>
    let mode := if c.hardReset then "panic on expiry" else "interrupt only"
    (r.note .info s!"wdt(twdt): {c.timeoutMs} ms, {mode}").done
  let r := r.enter fun d => { d with config := some c, timeoutMs := c.timeoutMs }
  if r.driver.state = .running then
    write "reset" .reset r fun r => confirm true r finish
  else
    finish (r.enter fun d => { d with state := .configured })

/-- Attaches the line, if there is one. -/
def attach (line : Option Interrupt.Line) (r : Rig π Command)
    (next : Rig π Command → Served π Command) : Served π Command :=
  match line with
  | some line => write "attach" (.attachInterrupt line) r next
  | none => next r

/-- Programs the watchdog for a configuration. -/
def init (c : Record.Config) (r : Rig π Command) : Served π Command :=
  match profile.refusal? r.driver.state c with
  | some why => r.refuse profile c why
  | none =>
    match r.driver.lineFor? c with
    | none => r.fail .invalidState
    | some line =>
      attach line r fun r =>
        write "reconfigure" (.reconfigure c.timeoutMs c.hardReset) r (commit c)

/-- Enters the start into the books once the subscription reads back. -/
def launched (r : Rig π Command) : Served π Command :=
  confirm true r fun r =>
    let r := r.enter fun d => { d with state := .running }
    (r.note .info "wdt(twdt): started").done

/-- Subscribes the task, unless it is subscribed. -/
def launch (r : Rig π Command) : Served π Command :=
  if Interface.isSubscribed r.hardware then
    launched r
  else
    write "subscribe" .subscribe r launched

def start (r : Rig π Command) : Served π Command :=
  match r.driver.state with
  | .uninitialized => r.fail .invalidState
  | .running => if Interface.isSubscribed r.hardware then r.done else launch r
  | .configured | .stopped => launch r

def settle (r : Rig π Command) : Served π Command :=
  if r.driver.state = .running then
    (r.enter fun d => { d with state := .stopped }).done
  else
    r.done

/-- Stops the counter, if it runs, and reads the subscription back. -/
def stop (r : Rig π Command) : Served π Command :=
  if Interface.isSubscribed r.hardware then
    write "unsubscribe" .unsubscribe r fun r =>
      confirm false r fun r => settle (r.note .info "wdt(twdt): stopped")
  else
    settle r

def refresh (r : Rig π Command) : Served π Command :=
  if r.driver.state = .running then
    write "reset" .reset r Rig.done
  else
    r.fail .invalidState

def serve (r : Rig π Command) : Request → Served π Command
  | .init c => init c r
  | .setTimeout timeout => init (r.driver.withTimeout timeout) r
  | .start => start r
  | .stop => stop r
  | .refresh => refresh r

end TwoTierWatchdog.Twdt
