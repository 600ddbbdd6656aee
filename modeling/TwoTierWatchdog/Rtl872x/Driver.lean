import TwoTierWatchdog.Rtl872x.Interface

/-!
# The RTL872x driver

This watchdog can be disabled and configured again at any time. To configure a live
counter the driver disables it, writes the divider, and enables and reloads it; the
countdown restarts with the new period. Divider and enable bit are read back.
-/

namespace TwoTierWatchdog.Rtl872x

variable {π : Type} [Interface π]

/-- Interrupt, second configuration and stop, but no soft reset. -/
def profile : Profile where
  name := "rtl872x"
  capabilities :=
    (Capabilities.interrupt.union .reconfigurable).union .stoppable
  minTimeoutMs := minTimeoutMs
  maxTimeoutMs := maxTimeoutMs

/-- The books of a new driver, and what it logs. -/
def adopt (hardware : π) : Driver × List Log.Entry :=
  if Interface.isEnabled hardware then
    let ms := (Interface.divider hardware).timeoutMs
    ({ state := .running, timeoutMs := ms },
      [⟨.warn, s!"wdt(rtl872x): enabled before init ({ms} ms), adopting"⟩])
  else
    ({}, [])

def write (c : Command) (r : Rig π Command) : Rig π Command :=
  { r with hardware := Interface.write c r.hardware, calls := r.calls ++ [c] }

/-- Goes on with `next` if the enable bit reads `want`. -/
def confirm (want : Bool) (r : Rig π Command) (next : Rig π Command → Served π Command) :
    Served π Command :=
  if Interface.isEnabled r.hardware = want then
    next r
  else
    (r.note .error s!"wdt(rtl872x): enable readback != {want}").fail .internal

/-- Enables and reloads a counter that was live before it was programmed. -/
def resume (r : Rig π Command) (next : Rig π Command → Served π Command) :
    Served π Command :=
  confirm true (write .refresh (write (.setEnabled true) r)) next

/-- Writes the registers for a divider and, if there is one, attaches the line. A live
counter is disabled first. -/
def program (divider : Divider) (line : Option Interrupt.Line) (live : Bool)
    (r : Rig π Command) : Rig π Command :=
  let r := if live then write (.setEnabled false) r else r
  let r := write (.configure divider line.isSome) r
  match line with
  | some line => write (.attachInterrupt line) r
  | none => r

/-- The divider did not take: writes the previous one and its mode back. -/
def restore (divider : Divider) (early live : Bool) (r : Rig π Command) :
    Served π Command :=
  let r := r.note .error
    "wdt(rtl872x): divider readback mismatch, restoring previous period"
  let r := write (.configure divider early) r
  if live then
    resume r fun r => r.fail .internal
  else
    r.fail .internal

/-- The divider took: whatever happens next, the hardware counts the new period. -/
def commit (c : Record.Config) (divider : Divider) (live : Bool) (r : Rig π Command) :
    Served π Command :=
  let ms := divider.timeoutMs
  let finish := fun (r : Rig π Command) =>
    (r.note .info
      (s!"wdt(rtl872x): div_fac={divider.divFac} cnt_limit={divider.cntLimit} " ++
        s!"({ms} ms, early_int={!c.hardReset})")).done
  let r := r.enter fun d => { d with config := some c, timeoutMs := ms }
  if live then
    resume r finish
  else
    finish (r.enter fun d => { d with state := .configured })

def init (c : Record.Config) (r : Rig π Command) : Served π Command :=
  match profile.refusal? r.driver.state c with
  | some why => r.refuse profile c why
  | none =>
    match Divider.forMillis? c.timeoutMs, r.driver.lineFor? c with
    | none, _ => r.fail .invalidArgument
    | _, none => r.fail .invalidState
    | some divider, some line =>
      let live := r.driver.state = .running
      let before := Interface.divider r.hardware
      let beforeEarly := r.driver.config.any fun c => !c.hardReset
      let r := program divider line live r
      if Interface.divider r.hardware = divider then
        commit c divider live r
      else
        restore before beforeEarly live r

/-- Enables the counter and reads the bit back. -/
def launch (r : Rig π Command) : Served π Command :=
  confirm true (write (.setEnabled true) r) fun r =>
    let r := r.enter fun d => { d with state := .running }
    (r.note .info "wdt(rtl872x): started").done

def start (r : Rig π Command) : Served π Command :=
  match r.driver.state with
  | .uninitialized => r.fail .invalidState
  | .running => if Interface.isEnabled r.hardware then r.done else launch r
  | .configured | .stopped => launch r

def settle (r : Rig π Command) : Served π Command :=
  if r.driver.state = .running then
    (r.enter fun d => { d with state := .stopped }).done
  else
    r.done

/-- Stops the counter, if it runs, and reads the bit back. -/
def stop (r : Rig π Command) : Served π Command :=
  if Interface.isEnabled r.hardware then
    confirm false (write (.setEnabled false) r) fun r =>
      settle (r.note .info "wdt(rtl872x): stopped")
  else
    settle r

def refresh (r : Rig π Command) : Served π Command :=
  if r.driver.state = .running then
    (write .refresh r).done
  else
    r.fail .invalidState

def serve (r : Rig π Command) : Request → Served π Command
  | .init c => init c r
  | .setTimeout timeout => init (r.driver.withTimeout timeout) r
  | .start => start r
  | .stop => stop r
  | .refresh => refresh r

end TwoTierWatchdog.Rtl872x
