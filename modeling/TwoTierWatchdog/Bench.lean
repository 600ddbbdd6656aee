import TwoTierWatchdog.Simulation

/-!
# A driver on the bench

A single driver over a single device, without a registry. Interrupt lines come from
registries made for the purpose, one for each line, which only count.
-/

namespace TwoTierWatchdog

/-- The driver, the system that holds its device as the only one, and the line that was
bound last. -/
structure Bench where
  driver : Driver
  system : System Empty
  line : Option Interrupt.Line := none

namespace Bench

/-- Something done on the bench. -/
inductive Step where
  /-- Make the driver anew over the device as it is. -/
  | renew
  /-- Bind a new line for an instance. -/
  | bind (i : Instance)
  | request (q : Request)
  | device (what : Device.Stimulus)

/-- There are no callbacks on the bench. -/
def handler : Handler Empty := fun callback _ => nomatch callback

def device (b : Bench) : Device :=
  (b.system.device? 0).getD (.nrf52 {})

def renew (b : Bench) : Bench :=
  let (driver, log) := b.device.adopt
  { driver, system := b.system.append log, line := none }

def ofDevice (device : Device) : Bench :=
  renew { driver := {}, system := { devices := [{ device }] } }

def bind (i : Instance) (b : Bench) : Bench :=
  let line : Interrupt.Line := ⟨b.system.registries.size, i⟩
  { driver := { b.driver with line := some line }
    system := { b.system with registries := b.system.registries.push {} }
    line := some line }

def request (q : Request) (b : Bench) : Except Error Unit × Bench :=
  let served := b.device.serve q b.driver
  let system := (b.system.putDevice 0 served.device served.calls).append served.log
  let system := served.raised.foldl (fun s line => s.fire handler line) system
  (served.result, { b with driver := served.driver, system })

/-- Takes a step. The log is that of this step alone. -/
def perform (step : Step) (b : Bench) : Answer × Bench :=
  let b := { b with system := { b.system with log := #[] } }
  match step with
  | .renew => (.done, b.renew)
  | .bind i => (.number i.val, b.bind i)
  | .request q =>
    let (result, b) := b.request q
    (.ofResult result, b)
  | .device what =>
    let (answer, system) := b.system.stimulate handler 0 what
    (answer, { b with system })

/-- The expiries seen on the line that was bound last. -/
def expirations? (b : Bench) : Option UInt32 :=
  b.line.map fun line => (b.system.registry line.table).expirations line.entry

def info (b : Bench) : Record.Info :=
  b.device.info b.driver

/-- The calls made on the device since it was last shown. -/
def shown (b : Bench) : Array Device.Call × Bench :=
  ((b.system.devices.head?.map (·.calls)).getD #[],
    { b with system := { b.system with
        devices := b.system.devices.map fun m => { m with calls := #[] } } })

end Bench

end TwoTierWatchdog
