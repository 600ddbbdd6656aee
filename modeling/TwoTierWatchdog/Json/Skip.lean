import TwoTierWatchdog.Json.Number
import TwoTierWatchdog.Json.Quoted

/-!
# Values of no interest

A value that nobody asked for is read only to find its end. Whatever is well formed
passes, to any depth: the containers that are open are kept in a list, not on a stack
of calls.
-/

namespace TwoTierWatchdog.Json.Skip

/-- A container that is open. -/
inductive Frame where
  | array
  | object
  deriving DecidableEq, Repr

/-- What the reader stands before. -/
inductive Place where
  | value
  /-- What may come after a value. -/
  | after
  deriving DecidableEq, Repr

/-- What follows a member's name and the colon behind it. -/
def name? (s : List UInt8) : Option (List UInt8) :=
  ((expect? quote s).bind Quoted.skip?).bind (expect? colon)

/-- What follows a value that holds no other. -/
def scalar? (s : List UInt8) : Option (List UInt8) :=
  match s with
  | [] => none
  | b :: rest =>
    if b = quote then Quoted.skip? rest
    else if b = 0x6E then strip? (ascii "ull") rest
    else if b = 0x74 then strip? (ascii "rue") rest
    else if b = 0x66 then strip? (ascii "alse") rest
    else Number.skip? s

/-- Reads until the open containers are closed. The first argument bounds the number of
steps: each one but the last takes a byte at least. -/
def run : Nat → Place → List Frame → List UInt8 → Option (List UInt8)
  | 0, _, _, _ => none
  | steps + 1, .value, frames, s =>
    match skipBlank s with
    | openBracket :: s =>
      match skipBlank s with
      | closeBracket :: s => run steps .after frames s
      | s => run steps .value (.array :: frames) s
    | openBrace :: s =>
      match skipBlank s with
      | closeBrace :: s => run steps .after frames s
      | s =>
        match name? s with
        | none => none
        | some s => run steps .value (.object :: frames) s
    | s =>
      match scalar? s with
      | none => none
      | some s => run steps .after frames s
  | _ + 1, .after, [], s => some s
  | steps + 1, .after, .array :: frames, s =>
    match skipBlank s with
    | comma :: s => run steps .value (.array :: frames) s
    | closeBracket :: s => run steps .after frames s
    | _ => none
  | steps + 1, .after, .object :: frames, s =>
    match skipBlank s with
    | comma :: s =>
      match name? s with
      | none => none
      | some s => run steps .value (.object :: frames) s
    | closeBrace :: s => run steps .after frames s
    | _ => none

/-- What follows a value in a text of at most so many bytes. -/
def value? (size : Nat) (s : List UInt8) : Option (List UInt8) :=
  run (size + 2) .value [] s

end TwoTierWatchdog.Json.Skip
