import TwoTierWatchdog.Error

/-!
# Capabilities

A capability set says which optional operations a piece of hardware supports. It is
a 32-bit word, one bit a capability; bits without a name are kept as they are, so a
set that names a capability of a later revision survives being read and written.
-/

namespace TwoTierWatchdog

/-- A set of optional behaviours, one bit each. -/
structure Capabilities where
  bits : UInt32
  deriving DecidableEq, Repr

namespace Capabilities

def empty : Capabilities := ⟨0⟩

/-- Expiry can be made not to reset the device. -/
def softReset : Capabilities := ⟨0x01⟩

/-- Expiry can raise an interrupt that reaches a callback. -/
def interrupt : Capabilities := ⟨0x02⟩

/-- The watchdog can be configured again once it is configured. -/
def reconfigurable : Capabilities := ⟨0x04⟩

/-- The watchdog can be stopped once it is started. -/
def stoppable : Capabilities := ⟨0x08⟩

/-- Every capability, those without a name included. -/
def all : Capabilities := ⟨0xFFFFFFFF⟩

def contains (a b : Capabilities) : Bool :=
  a.bits &&& b.bits == b.bits

def intersects (a b : Capabilities) : Bool :=
  a.bits &&& b.bits != 0

def union (a b : Capabilities) : Capabilities :=
  ⟨a.bits ||| b.bits⟩

def intersection (a b : Capabilities) : Capabilities :=
  ⟨a.bits &&& b.bits⟩

def difference (a b : Capabilities) : Capabilities :=
  ⟨a.bits &&& ~~~b.bits⟩

def symmetricDifference (a b : Capabilities) : Capabilities :=
  ⟨a.bits ^^^ b.bits⟩

def complement (a : Capabilities) : Capabilities :=
  ⟨~~~a.bits⟩

/-- The known bits of a word. Every bit is known, because `all` names each of them. -/
def ofWord (word : UInt32) : Capabilities :=
  ⟨word &&& all.bits⟩

def isEmpty (a : Capabilities) : Bool :=
  a.bits == 0

def isAll (a : Capabilities) : Bool :=
  a.contains all

/-- Fails with `notSupported` unless every bit of `needed` is present. -/
def require (a needed : Capabilities) : Except Error Unit :=
  if a.contains needed then .ok () else .error .notSupported

end Capabilities

end TwoTierWatchdog
