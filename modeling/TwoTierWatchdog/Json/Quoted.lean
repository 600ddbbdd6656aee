import TwoTierWatchdog.Json.Token
import TwoTierWatchdog.Text.Utf8

/-!
# Quoted strings

A string is read from behind its opening quote, in one of two ways. `skip?` only looks
for the end: escapes have to be well formed, but the bytes need be no text and an
escaped surrogate may stand alone. `text?` gives the text, and takes neither liberty.
-/

namespace TwoTierWatchdog.Json.Quoted

def hexDigit? (b : UInt8) : Option Nat :=
  if 0x30 ≤ b ∧ b ≤ 0x39 then some (b.toNat - 0x30)
  else if 0x41 ≤ b ∧ b ≤ 0x46 then some (b.toNat - 0x41 + 10)
  else if 0x61 ≤ b ∧ b ≤ 0x66 then some (b.toNat - 0x61 + 10)
  else none

def hex4? (a b c d : UInt8) : Option Nat := do
  return (((← hexDigit? a) * 16 + (← hexDigit? b)) * 16 + (← hexDigit? c)) * 16 +
    (← hexDigit? d)

/-- The byte that a backslash and a letter or sign stand for. -/
def escaped? (b : UInt8) : Option UInt8 :=
  if b = quote ∨ b = backslash ∨ b = 0x2F then some b
  else if b = 0x62 then some 0x08
  else if b = 0x66 then some 0x0C
  else if b = 0x6E then some 0x0A
  else if b = 0x72 then some 0x0D
  else if b = 0x74 then some 0x09
  else none

/-- A control character, which a string may only hold escaped. -/
def isControl (b : UInt8) : Bool :=
  b < 0x20

/-- What follows the closing quote. -/
def skip? : List UInt8 → Option (List UInt8)
  | [] => none
  | quote :: s => some s
  | backslash :: letterU :: a :: b :: c :: d :: s =>
    if (hex4? a b c d).isSome then skip? s else none
  | backslash :: b :: s =>
    if (escaped? b).isSome then skip? s else none
  | b :: s =>
    if isControl b then none else skip? s

/-- The first half of a surrogate pair. -/
def isLeading (n : Nat) : Bool :=
  0xD800 ≤ n && n < 0xDC00

/-- The second half of a surrogate pair. -/
def isTrailing (n : Nat) : Bool :=
  0xDC00 ≤ n && n < 0xE000

def pair (leading trailing : Nat) : Nat :=
  0x10000 + (leading - 0xD800) * 0x400 + (trailing - 0xDC00)

/-- Adds the bytes up to the closing quote, escapes resolved, to those read before, and
gives what follows it. -/
def resolve? (text : Array UInt8) : List UInt8 → Option (Array UInt8 × List UInt8)
  | [] => none
  | quote :: s => some (text, s)
  | backslash :: letterU :: a :: b :: c :: d :: s =>
    match hex4? a b c d with
    | none => none
    | some n =>
      if isLeading n then
        match s with
        | backslash :: letterU :: a :: b :: c :: d :: s =>
          match hex4? a b c d with
          | none => none
          | some m =>
            if isTrailing m then resolve? (text ++ Text.Utf8.encode (pair n m)) s else none
        | _ => none
      else if isTrailing n then
        none
      else
        resolve? (text ++ Text.Utf8.encode n) s
  | backslash :: b :: s =>
    match escaped? b with
    | none => none
    | some byte => resolve? (text.push byte) s
  | b :: s =>
    if isControl b then none else resolve? (text.push b) s

/-- The text up to the closing quote, in UTF-8, and what follows it. -/
def text? (s : List UInt8) : Option (List UInt8 × List UInt8) :=
  match resolve? #[] s with
  | none => none
  | some (text, s) =>
    let text := text.toList
    if Text.Utf8.isValid text then some (text, s) else none

end TwoTierWatchdog.Json.Quoted
