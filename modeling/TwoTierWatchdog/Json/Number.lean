import TwoTierWatchdog.Json.Token

/-!
# Numbers

A number is an optional sign, an integer without superfluous zeros, and optionally a
fraction and an exponent. A natural number has the integer alone.
-/

namespace TwoTierWatchdog.Json.Number

def isDigit (b : UInt8) : Bool :=
  0x30 ≤ b && b ≤ 0x39

/-- The value of decimal digits, or the bound if they reach it: however many digits
there are, no number on the way is much longer than the bound. -/
def valueWithin (bound : Nat) (digits : List UInt8) : Nat :=
  digits.foldl (fun n d => min bound (n * 10 + (d.toNat - 0x30))) 0

def skipInteger? : List UInt8 → Option (List UInt8)
  | [] => none
  | zero :: s => if s.head?.any isDigit then none else some s
  | b :: s => if isDigit b then some (s.dropWhile isDigit) else none

def skipDigits? : List UInt8 → Option (List UInt8)
  | [] => none
  | b :: s => if isDigit b then some (s.dropWhile isDigit) else none

/-- What follows a fraction, if there is one. -/
def skipFraction? : List UInt8 → Option (List UInt8)
  | point :: s => skipDigits? s
  | s => some s

/-- The letter that opens an exponent. -/
def isExponent (b : UInt8) : Bool :=
  b == 0x65 || b == 0x45

/-- What follows the sign of an exponent, if there is one. -/
def skipSign : List UInt8 → List UInt8
  | plus :: s => s
  | minus :: s => s
  | s => s

/-- What follows an exponent, if there is one. -/
def skipExponent? : List UInt8 → Option (List UInt8)
  | b :: s => if isExponent b then skipDigits? (skipSign s) else some (b :: s)
  | [] => some []

def skipUnsigned? (s : List UInt8) : Option (List UInt8) :=
  ((skipInteger? s).bind skipFraction?).bind skipExponent?

def skip? : List UInt8 → Option (List UInt8)
  | minus :: s => skipUnsigned? s
  | s => skipUnsigned? s

/-- A fraction or an exponent would begin here. -/
def isContinued (s : List UInt8) : Bool :=
  s.head?.any fun b => b == point || isExponent b

/-- A natural number below a bound, and what follows it. -/
def natural? (bound : Nat) (s : List UInt8) : Option (Nat × List UInt8) :=
  match skipInteger? s with
  | none => none
  | some rest =>
    let n := valueWithin bound (s.take (s.length - rest.length))
    if isContinued rest || bound ≤ n then none else some (n, rest)

/-- The digits of a natural number. -/
def digits (n : Nat) : List UInt8 :=
  (Nat.toDigits 10 n).map Char.toUInt8

end TwoTierWatchdog.Json.Number
