import TwoTierWatchdog.Json.Skip
import TwoTierWatchdog.Supervisor.Settings

/-!
# Settings in JSON

Settings are written as an object with a member for each setting. Read back, members
may come in any order, a setting that is left out keeps its default, and members of
other names are passed over; a setting that comes twice is an error. An array of the
settings in their order is read as well, and may end early.

Nothing is taken for a number but plain digits, nothing for a flag but `true` and
`false`. A policy is a string, or an object whose one member has the policy for a name
and holds `null`.
-/

namespace TwoTierWatchdog.Supervisor

open Json

inductive Setting where
  | instanceId
  | hwTimeoutMs
  | hardReset
  | appTimeoutMs
  | appStackSize
  | disposePolicy
  | feedIntervalMs
  deriving DecidableEq, Repr

namespace Setting

def all : List Setting :=
  [instanceId, hwTimeoutMs, hardReset, appTimeoutMs, appStackSize, disposePolicy,
    feedIntervalMs]

def name : Setting → String
  | instanceId => "instance"
  | hwTimeoutMs => "hw_timeout_ms"
  | hardReset => "hard_reset"
  | appTimeoutMs => "app_timeout_ms"
  | appStackSize => "app_stack_size"
  | disposePolicy => "dispose_policy"
  | feedIntervalMs => "feed_interval_ms"

def ofName? (text : List UInt8) : Option Setting :=
  all.find? fun f => ascii f.name == text

end Setting

def policyName : Liveness.DisposePolicy → String
  | .silent => "silent"
  | .fire => "fire"

/-! ## Writing -/

def writeFlag (b : Bool) : List UInt8 :=
  ascii (if b then "true" else "false")

/-- A string without anything to escape. -/
def writeString (s : String) : List UInt8 :=
  quote :: ascii s ++ [quote]

def Setting.write (c : Settings) : Setting → List UInt8
  | instanceId => Number.digits c.instanceId.toNat
  | hwTimeoutMs => Number.digits c.hwTimeoutMs.toNat
  | hardReset => writeFlag c.hardReset
  | appTimeoutMs => Number.digits c.appTimeoutMs.toNat
  | appStackSize => Number.digits c.appStackSize.toNat
  | disposePolicy => writeString (policyName c.disposePolicy)
  | feedIntervalMs => Number.digits c.feedIntervalMs.toNat

def Setting.writeMember (c : Settings) (f : Setting) : List UInt8 :=
  writeString f.name ++ colon :: f.write c

/-- Settings without a blank, all members in their order. -/
def Settings.toJson (c : Settings) : List UInt8 :=
  openBrace :: (List.intercalate [comma] (Setting.all.map (Setting.writeMember c))) ++
    [closeBrace]

/-! ## Reading -/

def readFlag? (s : List UInt8) : Option (Bool × List UInt8) :=
  match strip? (ascii "true") s, strip? (ascii "false") s with
  | some s, _ => some (true, s)
  | none, some s => some (false, s)
  | none, none => none

def policy? (text : List UInt8) : Option Liveness.DisposePolicy :=
  if text = ascii (policyName .silent) then some .silent
  else if text = ascii (policyName .fire) then some .fire
  else none

/-- A policy from behind the opening quote, and what follows it. -/
def readPolicyWord? (s : List UInt8) : Option (Liveness.DisposePolicy × List UInt8) :=
  match Quoted.text? s with
  | none => none
  | some (text, s) => (policy? text).map fun p => (p, s)

def readPolicy? (s : List UInt8) : Option (Liveness.DisposePolicy × List UInt8) :=
  match s with
  | quote :: s => readPolicyWord? s
  | openBrace :: s => do
    let (p, s) ← (expect? quote s).bind readPolicyWord?
    let s ← expect? colon s
    let s ← strip? (ascii "null") (skipBlank s)
    let s ← expect? closeBrace s
    return (p, s)
  | _ => none

/-- Reads the value of a setting into settings, and gives what follows it. -/
def Setting.read? (f : Setting) (c : Settings) (s : List UInt8) :
    Option (Settings × List UInt8) :=
  let s := skipBlank s
  let word (store : UInt32 → Settings) : Option (Settings × List UInt8) :=
    (Number.natural? UInt32.size s).map fun (n, s) => (store (.ofNat n), s)
  match f with
  | instanceId =>
    (Number.natural? UInt8.size s).map fun (n, s) => ({ c with instanceId := .ofNat n }, s)
  | hwTimeoutMs => word fun n => { c with hwTimeoutMs := n }
  | hardReset => (readFlag? s).map fun (b, s) => ({ c with hardReset := b }, s)
  | appTimeoutMs => word fun n => { c with appTimeoutMs := n }
  | appStackSize =>
    (Number.natural? UInt64.size s).map fun (n, s) =>
      ({ c with appStackSize := .ofNat n }, s)
  | disposePolicy => (readPolicy? s).map fun (p, s) => ({ c with disposePolicy := p }, s)
  | feedIntervalMs => word fun n => { c with feedIntervalMs := n }

/-- Reads the value of a member with a given name in a text of a given size, the settings
in `seen` having been read before. -/
def readValue? (size : Nat) (seen : List Setting) (c : Settings) (name : List UInt8)
    (s : List UInt8) : Option (List Setting × Settings × List UInt8) :=
  match Setting.ofName? name with
  | none => (Skip.value? size s).map fun s => (seen, c, s)
  | some f =>
    if f ∈ seen then none else (f.read? c s).map fun (c, s) => (f :: seen, c, s)

def readMember? (size : Nat) (seen : List Setting) (c : Settings) (s : List UInt8) :
    Option (List Setting × Settings × List UInt8) := do
  let (name, s) ← (expect? quote s).bind Quoted.text?
  let s ← expect? colon s
  readValue? size seen c name s

/-- Reads members up to the closing brace in a text of a given size. The second argument
bounds their number. -/
def readMembers? (size : Nat) : Nat → List Setting → Settings → List UInt8 →
    Option (Settings × List UInt8)
  | 0, _, _, _ => none
  | count + 1, seen, c, s =>
    match readMember? size seen c s with
    | none => none
    | some (seen, c, s) =>
      match skipBlank s with
      | comma :: s => readMembers? size count seen c s
      | closeBrace :: s => some (c, s)
      | _ => none

/-- Reads the given settings in their order up to the closing bracket. -/
def readElements? : List Setting → Settings → List UInt8 →
    Option (Settings × List UInt8)
  | [], _, _ => none
  | f :: rest, c, s =>
    match f.read? c s with
    | none => none
    | some (c, s) =>
      match skipBlank s with
      | comma :: s => readElements? rest c s
      | closeBracket :: s => some (c, s)
      | _ => none

/-- Reads an object or an array of settings, and gives what follows it. -/
def readSettings? (s : List UInt8) : Option (Settings × List UInt8) :=
  match skipBlank s with
  | openBrace :: s =>
    match skipBlank s with
    | closeBrace :: s => some ({}, s)
    | s => readMembers? s.length s.length [] {} s
  | openBracket :: s =>
    match skipBlank s with
    | closeBracket :: s => some ({}, s)
    | s => readElements? Setting.all {} s
  | _ => none

/-- The settings that a text holds, whether or not they fit one another. -/
def Settings.ofJson? (s : List UInt8) : Option Settings :=
  match readSettings? s with
  | some (c, rest) => if (skipBlank rest).isEmpty then some c else none
  | none => none

def Settings.load (s : List UInt8) : Except Error Settings :=
  match Settings.ofJson? s with
  | none => .error .invalidArgument
  | some c =>
    match c.validate with
    | .error e => .error e
    | .ok () => .ok c

end TwoTierWatchdog.Supervisor
