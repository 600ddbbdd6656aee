/-!
# UTF-8

Bytes are read one at a time. A character that is under way knows how many bytes it
still wants and between which bounds the next one has to lie; the bounds of the second
byte are what rules out overlong forms, surrogates and values past the last code point.
A byte that does not fit ends the character as ill-formed and is then read afresh, so
that each ill-formed run is as long as the start of some character can be.
-/

namespace TwoTierWatchdog.Text.Utf8

/-- A character that has begun. -/
structure Pending where
  /-- The bytes still wanted, at least one. -/
  wanted : Nat
  /-- The least byte that may come next. -/
  low : UInt8
  /-- The greatest byte that may come next. -/
  high : UInt8
  value : Nat

/-- What a byte makes of the reader: characters found, an ill-formed run being `none`,
and the character under way. -/
abbrev Reading := List (Option Char) × Option Pending

/-- Reads a byte between characters. -/
def begin (b : UInt8) : Reading :=
  let pending (wanted : Nat) (low high : UInt8) (mask : UInt8) : Reading :=
    ([], some { wanted, low, high, value := (b &&& mask).toNat })
  if b < 0x80 then ([some (Char.ofNat b.toNat)], none)
  else if b < 0xC2 then ([none], none)
  else if b < 0xE0 then pending 1 0x80 0xBF 0x1F
  else if b = 0xE0 then pending 2 0xA0 0xBF 0x0F
  else if b = 0xED then pending 2 0x80 0x9F 0x0F
  else if b < 0xF0 then pending 2 0x80 0xBF 0x0F
  else if b = 0xF0 then pending 3 0x90 0xBF 0x07
  else if b < 0xF4 then pending 3 0x80 0xBF 0x07
  else if b = 0xF4 then pending 3 0x80 0x8F 0x07
  else ([none], none)

/-- Reads a byte of a character that is under way. -/
def proceed (p : Pending) (b : UInt8) : Reading :=
  if p.low ≤ b ∧ b ≤ p.high then
    let value := p.value * 64 + (b &&& 0x3F).toNat
    if p.wanted ≤ 1 then
      ([some (Char.ofNat value)], none)
    else
      ([], some { wanted := p.wanted - 1, low := 0x80, high := 0xBF, value })
  else
    let (found, pending) := begin b
    (none :: found, pending)

/-- A reader in the middle of a text: the characters found so far and the one under
way. -/
structure Reader where
  found : Array (Option Char) := #[]
  pending : Option Pending := none

def Reader.next (r : Reader) (b : UInt8) : Reader :=
  let (found, pending) := match r.pending with
    | none => begin b
    | some p => proceed p b
  { found := r.found ++ found, pending }

/-- The characters found once the text has ended. A character that is still under way
is an ill-formed run. -/
def Reader.finish (r : Reader) : List (Option Char) :=
  match r.pending with
  | none => r.found.toList
  | some _ => (r.found.push none).toList

/-- The characters of a text; each ill-formed run of bytes counts as one `none`. -/
def read (bytes : List UInt8) : List (Option Char) :=
  (bytes.foldl Reader.next {}).finish

/-- The text with a replacement character for each ill-formed run. -/
def decodeLossy (bytes : List UInt8) : String :=
  String.ofList ((read bytes).map fun c => c.getD '\uFFFD')

def isValid (bytes : List UInt8) : Bool :=
  (read bytes).all Option.isSome

def encode (value : Nat) : List UInt8 :=
  if value < 0x80 then
    [value.toUInt8]
  else if value < 0x800 then
    [0xC0 ||| (value / 64).toUInt8, 0x80 ||| (value % 64).toUInt8]
  else if value < 0x10000 then
    [0xE0 ||| (value / 4096).toUInt8, 0x80 ||| (value / 64 % 64).toUInt8,
      0x80 ||| (value % 64).toUInt8]
  else
    [0xF0 ||| (value / 262144).toUInt8, 0x80 ||| (value / 4096 % 64).toUInt8,
      0x80 ||| (value / 64 % 64).toUInt8, 0x80 ||| (value % 64).toUInt8]

end TwoTierWatchdog.Text.Utf8
