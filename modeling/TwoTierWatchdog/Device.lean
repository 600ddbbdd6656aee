import TwoTierWatchdog.Nrf52.Driver
import TwoTierWatchdog.Nrf52.Eager
import TwoTierWatchdog.Nrf52.Peripheral
import TwoTierWatchdog.Rtl872x.Driver
import TwoTierWatchdog.Rtl872x.Peripheral
import TwoTierWatchdog.Twdt.Driver
import TwoTierWatchdog.Twdt.Peripheral
import TwoTierWatchdog.Twdt.Unfaithful

/-!
# Devices

The set of hardware families is closed. A device is a peripheral of one of them, and
which driver serves it is decided by the peripheral alone: one book of a driver works
for all families, and there is no driver over the wrong peripheral.
-/

namespace TwoTierWatchdog

inductive Device where
  | nrf52 (p : Nrf52.Peripheral)
  | eager (p : Nrf52.Eager)
  | rtl872x (p : Rtl872x.Peripheral)
  | twdt (p : Twdt.Peripheral)
  | unfaithful (p : Twdt.Unfaithful)
  deriving DecidableEq, Repr

namespace Device

/-- A writing call on the interface of some family. -/
inductive Call where
  | nrf52 (c : Nrf52.Command)
  | rtl872x (c : Rtl872x.Command)
  | twdt (c : Twdt.Command)
  deriving DecidableEq, Repr

def Call.text : Call → String
  | nrf52 c => c.text
  | rtl872x c => c.text
  | twdt c => c.text

/-! ## What the driver does -/

/-- What the checks of the device's family go by. -/
def profile : Device → Profile
  | nrf52 p => Nrf52.profile p
  | eager p => Nrf52.profile p
  | rtl872x _ => Rtl872x.profile
  | twdt _ => Twdt.profile
  | unfaithful _ => Twdt.profile

/-- Whether the counter runs, as the hardware has it. -/
def isRunning : Device → Bool
  | nrf52 p => Nrf52.Interface.isRunning p
  | eager p => Nrf52.Interface.isRunning p
  | rtl872x p => Rtl872x.Interface.isEnabled p
  | twdt p => Twdt.Interface.isSubscribed p
  | unfaithful p => Twdt.Interface.isSubscribed p

/-- The books of a new driver over the device, and what it logs. A device that runs is
taken over as it is. -/
def adopt : Device → Driver × List Log.Entry
  | nrf52 p => Nrf52.adopt p
  | eager p => Nrf52.adopt p
  | rtl872x p => Rtl872x.adopt p
  | twdt p => Twdt.adopt p
  | unfaithful p => Twdt.adopt p

/-- How a request ended, and what came of driver and device. -/
structure Served where
  result : Except Error Unit
  driver : Driver
  device : Device
  calls : List Call
  raised : List Interrupt.Line
  log : List Log.Entry

/-- What a family's driver leaves, among all families. -/
def served {π κ : Type} (device : π → Device) (call : κ → Call)
    (s : TwoTierWatchdog.Served π κ) : Served where
  result := s.1
  driver := s.2.driver
  device := device s.2.hardware
  calls := s.2.calls.map call
  raised := s.2.raised
  log := s.2.log

def serve (q : Request) (driver : Driver) : Device → Served
  | nrf52 hardware => served nrf52 .nrf52 (Nrf52.serve { driver, hardware } q)
  | eager hardware => served eager .nrf52 (Nrf52.serve { driver, hardware } q)
  | rtl872x hardware => served rtl872x .rtl872x (Rtl872x.serve { driver, hardware } q)
  | twdt hardware => served twdt .twdt (Twdt.serve { driver, hardware } q)
  | unfaithful hardware => served unfaithful .twdt (Twdt.serve { driver, hardware } q)

def info (d : Device) (driver : Driver) : Record.Info where
  capabilities := d.profile.capabilities
  timeoutMs := driver.timeoutMs
  minTimeoutMs := d.profile.minTimeoutMs
  maxTimeoutMs := d.profile.maxTimeoutMs
  running := d.isRunning

/-! ## What time does -/

/-- The time that a counter which runs has left. Devices without a clock have none. -/
def remaining? : Device → Option Duration
  | nrf52 p => p.remaining?
  | rtl872x p => p.remaining?
  | twdt p => p.remaining?
  | eager _ | unfaithful _ => none

/-- Lets time pass for the counter. -/
def elapse (time : Duration) : Device → Device
  | nrf52 p => nrf52 (p.elapse time)
  | rtl872x p => rtl872x (p.elapse time)
  | twdt p => twdt (p.elapse time)
  | d => d

/-- What an expiry does to a device before its interrupt is delivered, the line that it
fires, and the log. -/
def strike : Device → Device × Option Interrupt.Line × List Log.Entry
  | nrf52 p => (nrf52 p, p.line, [])
  | rtl872x p =>
    let (p, line, log) := p.expire
    (rtl872x p, line, log)
  | twdt p =>
    let (p, line, log) := p.expire
    (twdt p, line, log)
  | d => (d, none, [])

/-- What an expiry does to a device after its interrupt was delivered, and the log. -/
def recover : Device → Device × List Log.Entry
  | nrf52 p =>
    let (p, log) := p.reset
    (nrf52 p, log)
  | d => (d, [])

/-! ## What a test bench does -/

inductive Stimulus where
  | advance (time : Duration)
  | expire
  | powerCycle
  /-- Let starting have no effect. -/
  | ignoreStart (on : Bool)
  /-- Let writing the enable bit have no effect. -/
  | stickEnable (on : Bool)
  /-- Let writing the divider have no effect. -/
  | lockDivider (on : Bool)
  /-- Let some calls succeed and the next one fail. -/
  | failAfter (calls : Nat) (error : Twdt.VendorError)
  | setRunning (on : Bool)
  /-- Fire the line on the vector, if there is one. -/
  | fire
  | setSubscribed (on : Bool)
  /-- Make a call on the interface, past the driver. -/
  | call (c : Call)
  /-- Ask whether the vector may be claimed. -/
  | vectorAvailable
  /-- Anything else, which no device knows. -/
  | unknown
  deriving DecidableEq, Repr

inductive Reply where
  | done
  | flag (b : Bool)
  | failed (e : Twdt.VendorError)
  deriving DecidableEq, Repr

/-- What a stimulus does at once. No answer if the device does not know it, or if it
takes time or fires a line. -/
def poke (s : Stimulus) (d : Device) : Option (Reply × Device) :=
  match s, d with
  | .powerCycle, nrf52 p => some (.done, nrf52 p.powerCycle)
  | .ignoreStart on, nrf52 p => some (.done, nrf52 { p with startIgnored := on })
  | .vectorAvailable, nrf52 p => some (.flag (Nrf52.Interface.vectorAvailable p), nrf52 p)
  | .call (.nrf52 c), nrf52 p => some (.done, nrf52 (p.write c))
  | .setRunning on, eager p => some (.done, eager { p with running := on })
  | .stickEnable on, rtl872x p => some (.done, rtl872x { p with enableStuck := on })
  | .lockDivider on, rtl872x p => some (.done, rtl872x { p with dividerLocked := on })
  | .call (.rtl872x c), rtl872x p => some (.done, rtl872x (p.write c))
  | .failAfter calls error, twdt p =>
    some (.done, twdt { p with failure := some error, failureSkip := calls })
  | .call (.twdt c), twdt p =>
    match p.write c with
    | (.ok (), p) => some (.done, twdt p)
    | (.error e, p) => some (.failed e, twdt p)
  | .setSubscribed on, unfaithful p =>
    some (.done, unfaithful { p with subscribed := on })
  | _, _ => none

def hasClock : Device → Bool
  | nrf52 _ | rtl872x _ | twdt _ => true
  | eager _ | unfaithful _ => false

end Device

end TwoTierWatchdog
