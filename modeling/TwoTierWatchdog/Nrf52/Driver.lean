import TwoTierWatchdog.Nrf52.Interface
import TwoTierWatchdog.Nrf52.Reload

/-!
# The nRF52840 driver

Once started, this watchdog can be neither stopped nor configured again before the
next full reset, and it keeps running across resets that do not cut the power. A
driver that finds it running therefore takes it over as it is.
-/

namespace TwoTierWatchdog.Nrf52

variable {π : Type} [Interface π]

/-- The reload request register used for feeding. -/
def reloadChannel : UInt8 := 0

/-- The only capability is the interrupt, on boards that leave the vector free. -/
def profile (hardware : π) : Profile where
  name := "nrf52"
  capabilities := if Interface.vectorAvailable hardware then .interrupt else .empty
  minTimeoutMs := minTimeoutMs
  maxTimeoutMs := maxTimeoutMs

/-- The books of a new driver, and what it logs. -/
def adopt (hardware : π) : Driver × List Log.Entry :=
  if Interface.isRunning hardware then
    let ms := millisForCrv (Interface.reloadValue hardware)
    ({ state := .running, timeoutMs := ms },
      [⟨.warn, s!"wdt(nrf52): still running from before reset ({ms} ms), adopting"⟩])
  else
    ({}, [])

def write (c : Command) (r : Rig π Command) : Rig π Command :=
  { r with
    hardware := Interface.write c r.hardware
    calls := r.calls ++ [c]
    raised := r.raised ++ (Interface.raised c r.hardware).toList }

/-- A register as the log shows it. -/
def hex (n : UInt32) : String :=
  "0x" ++ String.ofList (Nat.toDigits 16 n.toNat)

/-- Writes the registers for a reload value and, if there is one, attaches the line.
The counter keeps counting through sleep and pauses while a debugger halts the
processor. -/
def program (crv : UInt32) (line : Option Interrupt.Line) (r : Rig π Command) :
    Rig π Command :=
  let r := write (.setReloadValue crv) r
  let r := write (.setBehaviour true false) r
  let r := write (.enableReloadChannel reloadChannel) r
  match line with
  | some line => write (.enableTimeoutInterrupt line) r
  | none => r

def init (c : Record.Config) (r : Rig π Command) : Served π Command :=
  match (profile r.hardware).refusal? r.driver.state c with
  | some why => r.refuse (profile r.hardware) c why
  | none =>
    match crvForMillis? c.timeoutMs, r.driver.lineFor? c with
    | none, _ => r.fail .invalidArgument
    | _, none => r.fail .invalidState
    | some crv, some line =>
      let ms := millisForCrv crv
      let r := program crv line r
      let r := r.enter fun d =>
        { d with state := .configured, config := some c, timeoutMs := ms }
      (r.note .info
        s!"wdt(nrf52): configured CRV={hex crv} ({ms} ms, interrupt={line.isSome})").done

/-- Triggers the start and reads back whether the counter runs. -/
def launch (r : Rig π Command) : Served π Command :=
  let r := write .start r
  if Interface.isRunning r.hardware then
    let r := r.enter fun d => { d with state := .running }
    (r.note .info "wdt(nrf52): started").done
  else
    (r.note .error "wdt(nrf52): RUNSTATUS still clear after TASKS_START").fail .internal

def start (r : Rig π Command) : Served π Command :=
  match r.driver.state with
  | .uninitialized => r.fail .invalidState
  | .running => if Interface.isRunning r.hardware then r.done else launch r
  | .configured | .stopped => launch r

/-- Fails without the capability, which this family never has: starting is one-way. -/
def stop (r : Rig π Command) : Served π Command :=
  ((profile r.hardware).capabilities.require .stoppable, r)

def refresh (r : Rig π Command) : Served π Command :=
  if r.driver.state = .running then
    (write (.feed reloadChannel) r).done
  else
    r.fail .invalidState

def serve (r : Rig π Command) : Request → Served π Command
  | .init c => init c r
  | .setTimeout timeout => init (r.driver.withTimeout timeout) r
  | .start => start r
  | .stop => stop r
  | .refresh => refresh r

end TwoTierWatchdog.Nrf52
