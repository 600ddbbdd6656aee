import TwoTierWatchdog.Capability
import TwoTierWatchdog.Duration
import TwoTierWatchdog.Record.Layout

/-!
# The information record

Twenty-four bytes: the header, the capability bits, the effective period and its two
bounds in milliseconds, the flag of a running counter, and three reserved bytes.

It is written into a buffer of the caller's, whose header says how much of the record
the caller knows: only that much is written.
-/

namespace TwoTierWatchdog.Record

/-- What a watchdog tells about itself. -/
structure Info where
  size : UInt16 := 24
  version : UInt16 := 1
  capabilities : Capabilities := .empty
  /-- The effective period, zero before any configuration. -/
  timeoutMs : UInt32 := 0
  minTimeoutMs : UInt32 := 0
  maxTimeoutMs : UInt32 := 0
  /-- Whether the counter runs, as the hardware has it. -/
  running : Bool := false
  deriving DecidableEq, Repr

namespace Info

/-- The version of the layout that is written here. -/
def layoutVersion : UInt16 := 1

/-- The length of the layout that is written here. -/
def layoutLength : Nat := 24

def timeout (i : Info) : Duration :=
  .ofMillis i.timeoutMs.toNat

def minTimeout (i : Info) : Duration :=
  .ofMillis i.minTimeoutMs.toNat

def maxTimeout (i : Info) : Duration :=
  .ofMillis i.maxTimeoutMs.toNat

def encode (i : Info) : List UInt8 :=
  bytes16 i.size ++ bytes16 i.version ++ bytes32 i.capabilities.bits ++
    bytes32 i.timeoutMs ++ bytes32 i.minTimeoutMs ++ bytes32 i.maxTimeoutMs ++
    [byteOfFlag i.running, 0, 0, 0]

/-- Writes the record into a caller's buffer: the declared size stays as it is, and
nothing past that size is touched. Gives the number of bytes that the record then
takes, and the buffer. -/
def encodeInto (i : Info) (buffer : List UInt8) : Except Error (Nat × List UInt8) := do
  let n := min (← declaredSize buffer) layoutLength
  return (n, buffer.take 2 ++ (i.encode.take n).drop 2 ++ buffer.drop n)

/-- Reads a record of any version. Capability bits without a name are kept. -/
def decode (buffer : List UInt8) : Except Error Info := do
  let raw ← overlay buffer (encode {})
  return {
    version := word16At raw 2
    capabilities := ⟨word32At raw 4⟩
    timeoutMs := word32At raw 8
    minTimeoutMs := word32At raw 12
    maxTimeoutMs := word32At raw 16
    running := flagAt raw 20 }

end Info

end TwoTierWatchdog.Record
