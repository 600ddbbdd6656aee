import TwoTierWatchdog.Error

/-!
# Versioned records

A record is a run of bytes that opens with a header of two little-endian 16-bit words:
the size that its producer declares for it, and the version of its layout. Later
versions only append fields. A reader therefore takes the declared bytes as far as it
knows the layout, and leaves the rest of a record at its defaults.
-/

namespace TwoTierWatchdog.Record

/-- The length of the header that every record opens with. -/
def headerLength : Nat := 4

/-- The two bytes of a 16-bit word, the low one first. -/
def bytes16 (w : UInt16) : List UInt8 :=
  [w.toUInt8, (w >>> 8).toUInt8]

/-- The four bytes of a 32-bit word, the low one first. -/
def bytes32 (w : UInt32) : List UInt8 :=
  [w.toUInt8, (w >>> 8).toUInt8, (w >>> 16).toUInt8, (w >>> 24).toUInt8]

/-- A flag takes a byte. -/
def byteOfFlag (b : Bool) : UInt8 :=
  if b then 1 else 0

/-- The byte at `i`, zero past the end. -/
def byteAt (raw : List UInt8) (i : Nat) : UInt8 :=
  raw.getD i 0

def word16At (raw : List UInt8) (i : Nat) : UInt16 :=
  (byteAt raw i).toUInt16 ||| (byteAt raw (i + 1)).toUInt16 <<< 8

def word32At (raw : List UInt8) (i : Nat) : UInt32 :=
  (byteAt raw i).toUInt32 ||| (byteAt raw (i + 1)).toUInt32 <<< 8 |||
    (byteAt raw (i + 2)).toUInt32 <<< 16 ||| (byteAt raw (i + 3)).toUInt32 <<< 24

/-- Any byte but zero is a set flag. -/
def flagAt (raw : List UInt8) (i : Nat) : Bool :=
  byteAt raw i != 0

/-- The size that a record declares, which has to cover the header and to lie within
the buffer. -/
def declaredSize (buffer : List UInt8) : Except Error Nat :=
  let declared := (word16At buffer 0).toNat
  if buffer.length < 2 || declared < headerLength || buffer.length < declared then
    .error .invalidArgument
  else
    .ok declared

/-- The declared bytes of `buffer`, as far as `defaults` reaches, over `defaults`. -/
def overlay (buffer defaults : List UInt8) : Except Error (List UInt8) := do
  let n := min (← declaredSize buffer) defaults.length
  return buffer.take n ++ defaults.drop n

end TwoTierWatchdog.Record
