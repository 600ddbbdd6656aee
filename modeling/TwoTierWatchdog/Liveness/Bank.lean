import TwoTierWatchdog.Error
import TwoTierWatchdog.Liveness.Monitor

/-!
# The monitors of a process

All monitors of a process run on one clock. At most one of them is registered
process-wide, so that code without a handle can check in with it: the last one spawned
that way, until it is given up.

Between two steps of whoever uses the monitors no time passes; when it passes, every
watcher that is due by then takes its turn.
-/

namespace TwoTierWatchdog.Liveness

/-- The monitors of a process, numbered in the order of their creation. -/
structure Bank where
  /-- The present instant, in nanoseconds. -/
  now : Nat := 0
  monitors : List Monitor := []
  /-- The monitor registered process-wide. -/
  processWide : Option Nat := none
  /-- Why the platform cannot create a thread, if it cannot. -/
  threadFailure : Option String := none
  deriving DecidableEq, Repr

namespace Bank

def nextId (b : Bank) : Nat :=
  b.monitors.length

/-- Enters a new monitor. -/
def add (spec : Spec) (b : Bank) : Bank :=
  { b with
    monitors := b.monitors ++ [spec.monitor b.now]
    processWide := if spec.processWide then some b.nextId else b.processWide }

/-- The line about the timeout of a new monitor. -/
def monitoringNote (spec : Spec) : Log.Entry :=
  ⟨.info, s!"liveness: monitoring with {spec.timeoutMs} ms timeout " ++
    s!"(dispose={spec.policy.name})"⟩

/-- Spawns a monitor: `invalidArgument` for a timeout of zero, `internal` if there is
no thread to be had. Gives the new monitor's number. -/
def spawn (spec : Spec) (b : Bank) : Except Error Nat × Bank × List Log.Entry :=
  if spec.timeoutMs = 0 then
    (.error .invalidArgument, b, [])
  else
    let announced := [Thread.announcement spec.name spec.stackSize]
    match b.threadFailure with
    | some why =>
      (.error .internal, b,
        announced ++ [⟨.error, s!"liveness: monitor thread spawn failed: {why}"⟩])
    | none =>
      let replaced : List Log.Entry :=
        if spec.processWide && b.processWide.isSome then
          [⟨.warn, "liveness: replacing the process-wide monitor"⟩]
        else
          []
      (.ok b.nextId, b.add spec, announced ++ monitoringNote spec :: replaced)

/-- Lets time pass until an instant, unless it is over: all watchers take a turn. -/
def passUntil (instant : Nat) (b : Bank) : Bank :=
  let now := max b.now instant
  { b with now, monitors := b.monitors.map fun m => if m.dropped then m else m.turn now }

def sleep (time : Duration) (b : Bank) : Bank :=
  if time.nanos = 0 then b else b.passUntil (b.now + time.nanos)

/-- Lets time pass until a monitor's watcher has ended. -/
def await (id : Nat) (b : Bank) : Bank :=
  match b.monitors[id]? with
  | none => b
  | some m => if m.isComplete then b else b.passUntil m.deadline

/-- Checks in with a monitor, also with one that was dropped. -/
def checkin (id : Nat) (b : Bank) : Bank :=
  { b with monitors := b.monitors.modify id (Monitor.checkin b.now) }

/-- Checks in with the process-wide monitor; says whether there is one. -/
def checkinProcessWide (b : Bank) : Bool × Bank :=
  match b.processWide with
  | some id => (true, b.checkin id)
  | none => (false, b)

/-- A monitor is given up: it is no longer process-wide. -/
def unregister (id : Nat) (b : Bank) : Bank :=
  if b.processWide = some id then { b with processWide := none } else b

def dispose (id : Nat) (b : Bank) : Bank × List Log.Entry :=
  match b.monitors[id]? with
  | none => (b, [])
  | some m =>
    let (m, log) := m.dispose
    (unregister id { b with monitors := b.monitors.set id m }, log)

/-- Gives a monitor up and joins its watcher. -/
def drop (id : Nat) (b : Bank) : Bank × List Log.Entry :=
  match b.monitors[id]? with
  | none => (b, [])
  | some m =>
    if m.dropped then
      (b, [])
    else
      let (m, log) := m.drop b.now
      (unregister id { b with monitors := b.monitors.set id m }, log)

/-- The stalls that the monitors of the supervision have reported. -/
def stalls (b : Bank) : Nat :=
  (b.monitors.filter (·.supervises)).foldl (fun stalls m => stalls + m.hits) 0

end Bank

end TwoTierWatchdog.Liveness
