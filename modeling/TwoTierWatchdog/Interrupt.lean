import TwoTierWatchdog.Instance

/-!
# Interrupts

A registry of watchdogs has an expiry table: for each instance a count of the expiries
seen and at most one callback. An interrupt line leads from a peripheral to one entry
of one such table. Tables are numbered, because a peripheral may go on holding a line
into the table of an earlier registry.
-/

namespace TwoTierWatchdog.Interrupt

/-- A line into the table with a given number. -/
structure Line where
  table : Nat
  entry : Instance
  deriving DecidableEq, Repr

/-- What the table holds for one instance. Callbacks are of any type `κ`: this library
stores them and hands them to whoever knows how to run them. -/
structure Entry (κ : Type) where
  /-- The callback, stored at most once. -/
  callback : Option κ := none
  /-- The expiries seen, modulo 2^32, with or without a callback. -/
  expirations : UInt32 := 0

abbrev Table (κ : Type) := Vector (Entry κ) maxInstances

namespace Table

variable {κ : Type}

def empty : Table κ :=
  Vector.replicate maxInstances {}

/-- Stores a callback. The first one stays; a second is refused. -/
def register (t : Table κ) (i : Instance) (callback : κ) : Except Error (Table κ) :=
  match (t.get i).callback with
  | some _ => .error .invalidState
  | none => .ok (t.set i { t.get i with callback := some callback })

def count (t : Table κ) (i : Instance) : Table κ :=
  t.set i { t.get i with expirations := (t.get i).expirations + 1 }

end Table

end TwoTierWatchdog.Interrupt
