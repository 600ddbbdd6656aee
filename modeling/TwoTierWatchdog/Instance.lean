import TwoTierWatchdog.Error

/-!
# Instances

A device has at most four hardware watchdogs, told apart by a small number.
-/

namespace TwoTierWatchdog

/-- The most hardware watchdogs a device can have. -/
def maxInstances : Nat := 4

/-- The identifier of one hardware watchdog. -/
abbrev Instance := Fin maxInstances

namespace Instance

/-- The instance with a given number; `notFound` unless there can be one. -/
def ofNumber (id : UInt8) : Except Error Instance :=
  if h : id.toNat < maxInstances then .ok ⟨id.toNat, h⟩ else .error .notFound

end Instance

end TwoTierWatchdog
