import TwoTierWatchdog.Device

/-!
# Registries

A registry holds the drivers of a device under their instances, in the order in which
they were added, and the expiry table that their interrupt lines lead into. It is put
together once and never taken apart.

A driver whose operation is under way is busy. A call that comes from inside that
operation, from a callback, finds it so and is refused.
-/

namespace TwoTierWatchdog

/-- A driver under its instance. -/
structure Slot where
  id : Instance
  /-- The number of the device that the driver works on. -/
  device : Nat
  driver : Driver
  /-- An operation of the driver is under way. -/
  busy : Bool := false
  deriving DecidableEq, Repr

/-- The drivers and their expiry table. -/
structure Registry (κ : Type) where
  slots : List Slot := []
  expiry : Interrupt.Table κ := .empty

namespace Registry

variable {κ : Type}

/-- Adds a slot to those gathered so far: `invalidArgument` if its instance is there
already, or if there is no room. -/
def gather (slots : List Slot) (slot : Slot) : Except Error (List Slot) :=
  if slots.any (·.id = slot.id) || maxInstances ≤ slots.length then
    .error .invalidArgument
  else
    .ok (slots ++ [slot])

/-- Binds a slot to its line into the table with a given number. -/
def bind (table : Nat) (slot : Slot) : Slot :=
  { slot with driver := { slot.driver with line := some ⟨table, slot.id⟩ } }

/-- The registry of the gathered slots, its expiry table having a given number. -/
def assemble (table : Nat) (slots : List Slot) : Registry κ :=
  { slots := slots.map (bind table) }

def instances (r : Registry κ) : List Instance :=
  r.slots.map (·.id)

def slot? (r : Registry κ) (i : Instance) : Option Slot :=
  r.slots.find? (·.id = i)

def contains (r : Registry κ) (i : Instance) : Bool :=
  (r.slot? i).isSome

def modifySlot (i : Instance) (f : Slot → Slot) (r : Registry κ) : Registry κ :=
  { r with slots := r.slots.map fun slot => if slot.id = i then f slot else slot }

def expirations (r : Registry κ) (i : Instance) : UInt32 :=
  (r.expiry.get i).expirations

end Registry

end TwoTierWatchdog
