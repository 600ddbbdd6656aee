/-!
# The bytes of JSON

A JSON text is read as bytes. Between its tokens there may be blanks: spaces, tabs,
line feeds and carriage returns, nothing else.
-/

namespace TwoTierWatchdog.Json

@[match_pattern] abbrev quote : UInt8 := 0x22
@[match_pattern] abbrev plus : UInt8 := 0x2B
@[match_pattern] abbrev comma : UInt8 := 0x2C
@[match_pattern] abbrev minus : UInt8 := 0x2D
@[match_pattern] abbrev point : UInt8 := 0x2E
@[match_pattern] abbrev zero : UInt8 := 0x30
@[match_pattern] abbrev colon : UInt8 := 0x3A
@[match_pattern] abbrev openBracket : UInt8 := 0x5B
@[match_pattern] abbrev backslash : UInt8 := 0x5C
@[match_pattern] abbrev closeBracket : UInt8 := 0x5D
@[match_pattern] abbrev letterU : UInt8 := 0x75
@[match_pattern] abbrev openBrace : UInt8 := 0x7B
@[match_pattern] abbrev closeBrace : UInt8 := 0x7D

def ascii (s : String) : List UInt8 :=
  s.toList.map Char.toUInt8

def isBlank (b : UInt8) : Bool :=
  b == 0x20 || b == 0x09 || b == 0x0A || b == 0x0D

/-- What follows the blanks at the front. -/
def skipBlank (s : List UInt8) : List UInt8 :=
  s.dropWhile isBlank

/-- What follows a given run of bytes at the front; none if it is not there. -/
def strip? : List UInt8 → List UInt8 → Option (List UInt8)
  | [], s => some s
  | _ :: _, [] => none
  | a :: token, b :: s => if a = b then strip? token s else none

/-- What follows a given byte at the front, blanks before it aside. -/
def expect? (b : UInt8) (s : List UInt8) : Option (List UInt8) :=
  strip? [b] (skipBlank s)

end TwoTierWatchdog.Json
