import TwoTierWatchdog.Interrupt
import TwoTierWatchdog.Log
import TwoTierWatchdog.Record.Config
import TwoTierWatchdog.Record.Info

/-!
# Drivers

A driver keeps the books on one peripheral: where it stands in its life, the
configuration it last accepted, the effective period and its interrupt line.

    uninitialized --init--> configured --start--> running
                                 ^                 |   ^
                              init*              stop  start
                                 |                 v   |
                                 +-------------- stopped

A second `init` (marked `*`) needs hardware that can be configured again, and
`stopped` needs hardware that can be stopped.

What all families of hardware share is here: the books, the checks that come before
the first register write, and the rig on which a family's operations run.
-/

namespace TwoTierWatchdog

/-- Where a driver stands in its life. -/
inductive Lifecycle where
  | uninitialized
  | configured
  | running
  | stopped
  deriving DecidableEq, Repr

/-- The books of a driver. -/
structure Driver where
  state : Lifecycle := .uninitialized
  /-- The configuration last accepted. -/
  config : Option Record.Config := none
  /-- The effective period, zero before any configuration. -/
  timeoutMs : UInt32 := 0
  /-- The line that the interrupt handler is to fire. -/
  line : Option Interrupt.Line := none
  deriving DecidableEq, Repr

/-- What distinguishes one family of hardware from another in the checks. -/
structure Profile where
  /-- The short name that opens the family's log lines. -/
  name : String
  capabilities : Capabilities
  minTimeoutMs : UInt32
  maxTimeoutMs : UInt32
  deriving DecidableEq, Repr

inductive Request where
  | init (config : Record.Config)
  /-- Program the hardware with another period, all else as it was last configured. -/
  | setTimeout (timeout : Duration)
  /-- Let the counter run; a running one is left alone. -/
  | start
  | stop
  | refresh
  deriving DecidableEq, Repr

/-! ## Checks before the first write -/

/-- Why a configuration is turned away. -/
inductive Refusal where
  /-- The record is unsound in itself. -/
  | malformed
  /-- The hardware is configured already and takes no second configuration. -/
  | alreadyConfigured
  /-- The hardware cannot count the period. -/
  | outOfBounds
  /-- The interrupt is asked for and cannot be raised. -/
  | noInterrupt
  deriving DecidableEq, Repr

namespace Refusal

def cause : Refusal → Error
  | malformed => .invalidArgument
  | alreadyConfigured => .invalidState
  | outOfBounds => .invalidArgument
  | noInterrupt => .notSupported

def log (p : Profile) (c : Record.Config) : Refusal → List Log.Entry
  | malformed => []
  | alreadyConfigured =>
    [⟨.warn, s!"wdt({p.name}): already configured and not reconfigurable"⟩]
  | outOfBounds =>
    [⟨.warn, s!"wdt({p.name}): timeout {c.timeoutMs} ms outside " ++
      s!"[{p.minTimeoutMs}, {p.maxTimeoutMs}]"⟩]
  | noInterrupt => []

end Refusal

namespace Profile

/-- The first reason, in a fixed order, to turn a configuration away. -/
def refusal? (p : Profile) (state : Lifecycle) (c : Record.Config) : Option Refusal :=
  if c.Malformed then
    some .malformed
  else if state ≠ .uninitialized ∧ p.capabilities.contains .reconfigurable = false then
    some .alreadyConfigured
  else if c.timeoutMs < p.minTimeoutMs ∨ p.maxTimeoutMs < c.timeoutMs then
    some .outOfBounds
  else if c.hardReset = false ∧ p.capabilities.contains .interrupt = false then
    some .noInterrupt
  else
    none

end Profile

/-! ## The rig -/

/-- A driver at work on the interface of a peripheral. `π` is the peripheral behind the
interface and `κ` the writing calls that the interface takes. -/
structure Rig (π κ : Type) where
  driver : Driver
  hardware : π
  /-- The writing calls made, oldest first. -/
  calls : List κ := []
  /-- The lines that the peripheral fired in the middle of a call, oldest first. -/
  raised : List Interrupt.Line := []
  log : List Log.Entry := []

/-- How a request ended, and the rig as it was left. A request that fails keeps what
it did before it failed. -/
abbrev Served (π κ : Type) := Except Error Unit × Rig π κ

namespace Rig

variable {π κ : Type}

def done (r : Rig π κ) : Served π κ :=
  (.ok (), r)

def fail (r : Rig π κ) (e : Error) : Served π κ :=
  (.error e, r)

/-- Adds a line to the log. -/
def note (r : Rig π κ) (level : Log.Level) (text : String) : Rig π κ :=
  { r with log := r.log ++ [⟨level, text⟩] }

/-- Makes an entry in the books. -/
def enter (r : Rig π κ) (f : Driver → Driver) : Rig π κ :=
  { r with driver := f r.driver }

/-- Turns a configuration away. -/
def refuse (r : Rig π κ) (p : Profile) (c : Record.Config) (why : Refusal) : Served π κ :=
  (.error why.cause, { r with log := r.log ++ why.log p c })

end Rig

namespace Driver

/-- The line to attach for a configuration: none if expiry is to reset the device. No
answer if the interrupt is asked for before a line is bound. -/
def lineFor? (d : Driver) (c : Record.Config) : Option (Option Interrupt.Line) :=
  if c.hardReset then some none else d.line.map some

/-- The last configuration with another period, rounded up to milliseconds. Before the
first one the rest is at its defaults. -/
def withTimeout (d : Driver) (timeout : Duration) : Record.Config :=
  { d.config.getD {} with timeoutMs := timeout.millisCeil }

end Driver

end TwoTierWatchdog
