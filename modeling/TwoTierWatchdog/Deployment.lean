import TwoTierWatchdog.Simulation

/-!
# Systems in use

What an application and a test bench do with registries over simulated peripherals, in
any order. A move is one piece of it: a request, a registry built anew, a fault put
into a peripheral. Letting time pass is several moves, because a callback may come in
the middle of it; a callback is whatever moves come between the two halves of an expiry.
Every list of moves is a run.

Three rules are kept, and a move against them changes nothing: no two drivers of one
registry work on the same peripheral; registers are written by drivers only; after a
power cycle a registry is built before the next call to a watchdog.
-/

namespace TwoTierWatchdog

/-- The families with a simulated peripheral. -/
inductive Sim where
  /-- On a board that leaves the interrupt vector free, or on one that does not. -/
  | nrf52 (vectorClaimed : Bool)
  | rtl872x
  | twdt
  deriving DecidableEq, Repr

namespace Sim

def fresh : Sim → Device
  | nrf52 vectorClaimed => .nrf52 { vectorClaimed }
  | rtl872x => .rtl872x {}
  | twdt => .twdt {}

end Sim

/-- A system in use. -/
structure Deployment (κ : Type) where
  system : System κ
  /-- The current registry was built after the last power cycle. -/
  powered : Bool := true

namespace Deployment

variable {κ : Type}

inductive Move (κ : Type) where
  /-- Build a registry from pairs of an instance's and a device's number. -/
  | build (pairs : List (UInt8 × Nat))
  | request (i : Instance) (q : Request)
  /-- Store the callback of a watchdog of the current registry. -/
  | onExpired (i : Instance) (callback : κ)
  /-- Do something to a device that takes no time. -/
  | poke (k : Nat) (what : Device.Stimulus)
  | elapse (k : Nat) (time : Duration)
  /-- The first half of an expiry, up to the callback. -/
  | strike (k : Nat)
  /-- The second half. -/
  | recover (k : Nat)
  /-- Anything that leaves devices and registries alone. -/
  | elsewhere (s : System κ)

/-- New peripherals, and nothing built over them. -/
def fresh (sims : List Sim) : Deployment κ where
  system := { devices := sims.map fun sim => { device := sim.fresh } }

/-- A handler for where there is nothing to handle. -/
def quiet : Handler κ := fun _ s => s

/-- Does something to a device. Calls past the driver are against the rules. -/
def poke (k : Nat) (what : Device.Stimulus) (d : Deployment κ) : Deployment κ :=
  match what, d.system.device? k with
  | .call _, _ | _, none => d
  | _, some device =>
    match device.poke what with
    | some (_, device) =>
      { system := d.system.putDevice k device []
        powered := d.powered && what != .powerCycle }
    | none => d

/-- The first half of an expiry. The line that the device fires is counted; the callback
is left to the moves that follow. -/
def strike (k : Nat) (s : System κ) : System κ :=
  match s.remaining? k with
  | none => s
  | some _ =>
    match s.strike k with
    | (some line, s) => s.count line
    | (none, s) => s

def step (d : Deployment κ) : Move κ → Deployment κ
  | .build pairs =>
    if (pairs.map (·.2)).Nodup then
      match d.system.build pairs with
      | (.ok (), s) => { system := s, powered := true }
      | (.error _, s) => { d with system := s }
    else
      d
  | .request i q =>
    if d.powered then
      { d with system := (d.system.serve quiet ⟨d.system.current, i⟩ q).2 }
    else
      d
  | .onExpired i callback =>
    if d.powered then
      { d with system := (d.system.onExpired ⟨d.system.current, i⟩ callback).2 }
    else
      d
  | .poke k what => d.poke k what
  | .elapse k time => { d with system := d.system.modifyDevice k (·.elapse time) }
  | .strike k => { d with system := strike k d.system }
  | .recover k => { d with system := d.system.recover k }
  | .elsewhere s =>
    { d with
      system := { s with devices := d.system.devices, registries := d.system.registries } }

def run (d : Deployment κ) (moves : List (Move κ)) : Deployment κ :=
  moves.foldl step d

end Deployment

end TwoTierWatchdog
