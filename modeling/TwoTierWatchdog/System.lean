import TwoTierWatchdog.Answer
import TwoTierWatchdog.Liveness.Bank
import TwoTierWatchdog.Registry

/-!
# Systems

A system is everything that a step can change: the devices, the registries made over
them, the monitors, the supervision, and what has been logged and called back.

Callbacks are of any type `κ`. A system stores them, but what running one does is for a
`Handler` to say, which every operation that can fire a line takes along. Whatever is
proved of these operations for all handlers holds for every callback that ends.
-/

namespace TwoTierWatchdog

/-- A device, and the writing calls that drivers made on it since it was last looked
at. -/
structure Mounted where
  device : Device
  calls : Array Device.Call := #[]
  deriving DecidableEq, Repr

/-- A hardware watchdog: an instance in one of the registries. -/
structure Watchdog where
  registry : Nat
  id : Instance
  deriving DecidableEq, Repr

/-- Both tiers, armed. -/
structure Supervision where
  watchdog : Watchdog
  monitor : Nat
  deriving DecidableEq, Repr

/-- A callback that came to its end. -/
structure Called (κ : Type) where
  callback : κ
  /-- What its steps answered; none if it was not run for being nested too deep. -/
  answers : Option (List Answer)

/-- The state of everything. -/
structure System (κ : Type) where
  devices : List Mounted := []
  /-- The registries made so far. The last one is current; the first one is empty. -/
  registries : Array (Registry κ) := #[{}]
  bank : Liveness.Bank := {}
  /-- The monitors that have been given a number by their owner. -/
  named : List (Nat × Nat) := []
  supervision : Option Supervision := none
  /-- The log, oldest entry first. -/
  log : Array Log.Entry := #[]
  /-- The callbacks that came to their end, in that order. -/
  called : Array (Called κ) := #[]

/-- What running a callback does. -/
abbrev Handler (κ : Type) := κ → System κ → System κ

namespace System

variable {κ : Type}

/-! ## Reading and writing parts -/

def append (s : System κ) (entries : List Log.Entry) : System κ :=
  { s with log := s.log ++ entries }

def device? (s : System κ) (k : Nat) : Option Device :=
  s.devices[k]?.map (·.device)

def modifyDevice (k : Nat) (f : Device → Device) (s : System κ) : System κ :=
  { s with devices := s.devices.modify k fun m => { m with device := f m.device } }

/-- Puts a device in place of another, after writing calls were made on it. -/
def putDevice (k : Nat) (device : Device) (calls : List Device.Call) (s : System κ) :
    System κ :=
  { s with devices := s.devices.modify k fun m => ⟨device, m.calls ++ calls⟩ }

def current (s : System κ) : Nat :=
  s.registries.size - 1

def registry (s : System κ) (g : Nat) : Registry κ :=
  s.registries.getD g {}

def modifyRegistry (g : Nat) (f : Registry κ → Registry κ) (s : System κ) : System κ :=
  { s with registries := s.registries.modify g f }

def modifySlot (w : Watchdog) (f : Slot → Slot) (s : System κ) : System κ :=
  s.modifyRegistry w.registry (Registry.modifySlot w.id f)

def slot? (s : System κ) (w : Watchdog) : Option Slot :=
  (s.registry w.registry).slot? w.id

/-! ## Interrupts -/

def count (line : Interrupt.Line) (s : System κ) : System κ :=
  s.modifyRegistry line.table fun r => { r with expiry := r.expiry.count line.entry }

/-- Fires a line: counts the expiry, then runs the callback, if there is one. -/
def fire (h : Handler κ) (line : Interrupt.Line) (s : System κ) : System κ :=
  match ((s.registry line.table).expiry.get line.entry).callback with
  | some callback => h callback (s.count line)
  | none => s.count line

/-! ## Requests -/

/-- Refuses a request because the watchdog is busy. -/
def refuse (w : Watchdog) (s : System κ) : Except Error Unit × System κ :=
  (.error .invalidState,
    s.append [⟨.warn, s!"wdt: instance {w.id} busy in an outer call"⟩])

/-- Serves a request. Lines that the device fires in the middle of it are delivered
while the watchdog is still busy. -/
def serve (h : Handler κ) (w : Watchdog) (q : Request) (s : System κ) :
    Except Error Unit × System κ :=
  match s.slot? w with
  | none => (.error .notFound, s)
  | some slot =>
    if slot.busy then
      s.refuse w
    else
      match s.device? slot.device with
      | none => (.error .notFound, s)
      | some device =>
        let served := device.serve q slot.driver
        let s := s.putDevice slot.device served.device served.calls
        let s := s.modifySlot w fun slot =>
          { slot with driver := served.driver, busy := true }
        let s := s.append served.log
        let s := served.raised.foldl (fun s line => s.fire h line) s
        (served.result, s.modifySlot w fun slot => { slot with busy := false })

/-- What a watchdog tells about itself; `invalidState` while it is busy. -/
def info (s : System κ) (w : Watchdog) : Except Error Record.Info :=
  match s.slot? w with
  | none => .error .notFound
  | some slot =>
    if slot.busy then
      .error .invalidState
    else
      match s.device? slot.device with
      | none => .error .notFound
      | some device => .ok (device.info slot.driver)

/-- Whether a watchdog runs; no if it cannot tell. -/
def started (s : System κ) (w : Watchdog) : Bool :=
  match s.info w with
  | .ok i => i.running
  | .error _ => false

/-- Writes what a watchdog tells about itself into a caller's buffer. -/
def writeInfo (s : System κ) (w : Watchdog) (buffer : List UInt8) :
    Except Error (Nat × List UInt8) := do
  (← s.info w).encodeInto buffer

/-- Stores the callback of a watchdog: `invalidState` if the watchdog is busy or has
one, `notSupported` if its hardware cannot interrupt. -/
def onExpired (w : Watchdog) (callback : κ) (s : System κ) : Except Error Unit × System κ :=
  match s.slot? w with
  | none => (.error .notFound, s)
  | some slot =>
    if slot.busy then
      (.error .invalidState, s)
    else
      match s.device? slot.device with
      | none => (.error .notFound, s)
      | some device =>
        match device.profile.capabilities.require .interrupt with
        | .error e => (.error e, s)
        | .ok () =>
          match (s.registry w.registry).expiry.register w.id callback with
          | .error e => (.error e, s)
          | .ok expiry =>
            let s := s.modifyRegistry w.registry fun r => { r with expiry }
            (.ok (), s.append
              [⟨.debug, s!"wdt: expiry callback registered for instance {w.id}"⟩])

/-! ## Building a registry -/

/-- Gathers a driver over a device for each pair of an instance's number and a device's
number. A driver is made, and may log that it takes over a device that runs, before its
instance is found to be there already. -/
def gather : List (UInt8 × Nat) → List Slot → System κ →
    Except Error (List Slot) × System κ
  | [], slots, s => (.ok slots, s)
  | (id, k) :: rest, slots, s =>
    match Instance.ofNumber id, s.device? k with
    | .error e, _ => (.error e, s)
    | .ok _, none => (.error .notFound, s)
    | .ok id, some device =>
      let (driver, log) := device.adopt
      let s := s.append log
      match Registry.gather slots { id, device := k, driver } with
      | .error e => (.error e, s)
      | .ok slots => gather rest slots s

/-- The line that tells which family of hardware an instance has. -/
def bindingNote (s : System κ) (slot : Slot) : Log.Entry :=
  let name := ((s.device? slot.device).map (·.profile.name)).getD ""
  ⟨.debug, s!"wdt: instance {slot.id} -> {name}"⟩

/-- Makes a new registry and makes it current. On an error the current one stays. -/
def build (pairs : List (UInt8 × Nat)) (s : System κ) : Except Error Unit × System κ :=
  match s.gather pairs [] with
  | (.error e, s) => (.error e, s)
  | (.ok slots, s) =>
    let s := s.append (slots.map s.bindingNote)
    (.ok (), { s with
      registries := s.registries.push (Registry.assemble s.registries.size slots) })

def watchdog (s : System κ) (i : Instance) : Except Error Watchdog :=
  if (s.registry s.current).contains i then .ok ⟨s.current, i⟩ else .error .notFound

end System

end TwoTierWatchdog
