import TwoTierWatchdog.Duration
import TwoTierWatchdog.Record.Layout

/-!
# The configuration record

Twelve bytes: the header, the requested period in milliseconds, the flag for a hard
reset, and three reserved bytes.
-/

namespace TwoTierWatchdog.Record

/-- What one configuration call asks of a watchdog. -/
structure Config where
  /-- The size of the record as its producer declares it. -/
  size : UInt16 := 12
  /-- The version of the layout as its producer declares it. -/
  version : UInt16 := 1
  timeoutMs : UInt32 := 10000
  /-- Expiry resets the device; otherwise it raises the interrupt. -/
  hardReset : Bool := true
  deriving DecidableEq, Repr

namespace Config

/-- The version of the layout that is written here. -/
def layoutVersion : UInt16 := 1

/-- The length of the layout that is written here. -/
def layoutLength : Nat := 12

/-- The configuration for a period, rounded up to milliseconds, and a hard reset. -/
def ofTimeout (timeout : Duration) (hardReset : Bool := true) : Config :=
  { timeoutMs := timeout.millisCeil, hardReset }

def timeout (c : Config) : Duration :=
  .ofMillis c.timeoutMs.toNat

/-- The declared size is short of the header, or the version or the period is zero.
Whether the hardware can count the period is for the driver to say. -/
def Malformed (c : Config) : Prop :=
  c.size.toNat < headerLength ∨ c.version = 0 ∨ c.timeoutMs = 0

instance (c : Config) : Decidable c.Malformed :=
  inferInstanceAs (Decidable (_ ∨ _))

def validate (c : Config) : Except Error Unit :=
  if c.Malformed then .error .invalidArgument else .ok ()

def encode (c : Config) : List UInt8 :=
  bytes16 c.size ++ bytes16 c.version ++ bytes32 c.timeoutMs ++
    [byteOfFlag c.hardReset, 0, 0, 0]

/-- Reads a record of any version. Fields past the declared size keep their defaults,
bytes past the known layout are ignored. -/
def decode (buffer : List UInt8) : Except Error Config := do
  let raw ← overlay buffer (encode {})
  return {
    version := word16At raw 2
    timeoutMs := word32At raw 4
    hardReset := flagAt raw 8 }

end Config

end TwoTierWatchdog.Record
