/-!
# The cell that a monitor shares

A monitor, its watcher thread and every checkin handle share three words, each read and
written atomically: the time of the last checkin, the timeout in force, both in whole
microseconds, and the state.
-/

namespace TwoTierWatchdog.Liveness

/-- Where a monitor stands. It leaves `running` once, for one of the others. -/
inductive State where
  | running
  /-- A deadline was missed. -/
  | fired
  /-- The monitor was given up before a deadline was missed. -/
  | disposed
  deriving DecidableEq, Repr

def State.name : State → String
  | running => "Running"
  | fired => "Fired"
  | disposed => "Disposed"

/-- Whether giving a monitor up runs its callback. -/
inductive DisposePolicy where
  /-- The watcher ends quietly. -/
  | silent
  /-- Giving up counts as a missed deadline. -/
  | fire
  deriving DecidableEq, Repr

def DisposePolicy.name : DisposePolicy → String
  | silent => "Silent"
  | fire => "Fire"

/-- A clock shows the whole microseconds since it was made, at most the largest 64-bit
number. Instants are whole nanoseconds. -/
def uptime (made now : Nat) : UInt64 :=
  UInt64.ofNat (min ((now - made) / 1000) 0xFFFFFFFFFFFFFFFF)

theorem toNat_uptime (made now : Nat) :
    (uptime made now).toNat = min ((now - made) / 1000) 0xFFFFFFFFFFFFFFFF :=
  UInt64.toNat_ofNat_of_lt' (Nat.lt_succ_of_le (Nat.min_le_right ..))

/-- The shared words. -/
structure Cell where
  /-- What the clock showed at the last checkin. -/
  lastCheckin : UInt64 := 0
  /-- The timeout in force, zero once disposed. -/
  timeout : UInt64
  state : State := .running
  deriving DecidableEq, Repr

namespace Cell

def checkin (stamp : UInt64) (c : Cell) : Cell :=
  { c with lastCheckin := stamp }

/-- Moves from `running` to another state; says whether it was this move that won. -/
def leaveRunning (next : State) (c : Cell) : Bool × Cell :=
  if c.state = .running then (true, { c with state := next }) else (false, c)

end Cell

/-- The time since a stamp, zero if the stamp is the later one. -/
def elapsed (clock stamp : UInt64) : UInt64 :=
  if stamp ≤ clock then clock - stamp else 0

end TwoTierWatchdog.Liveness
