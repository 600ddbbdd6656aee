import TwoTierWatchdog.Duration
import TwoTierWatchdog.Liveness.Cell
import TwoTierWatchdog.Thread

/-!
# Liveness monitors

A monitor owns a watcher thread. The watcher sleeps until the deadline, the last
checkin plus the timeout. If by then no checkin has moved the deadline, it runs the
stall callback once and ends.

    top --> haveTimeout --> haveStamp --+--> parked --> top
                                        |
                                        +--> late --+--> stalled --> ended
                                                    |                  ^
                                                    +------------------+

Each arrow is one atomic step. Stamps are floored to whole microseconds, so only a
difference larger than the timeout proves that the full timeout has passed.
-/

namespace TwoTierWatchdog.Liveness

/-- What the watcher has done since the top of its loop. -/
inductive Watcher where
  | top
  | haveTimeout (timeout : UInt64)
  | haveStamp (timeout stamp : UInt64)
  /-- It has seen the deadline missed, and is about to leave `running`. -/
  | late
  /-- It is about to run the callback. -/
  | stalled
  /-- It sleeps for at most so many microseconds. -/
  | parked (length : UInt64)
  | ended
  deriving DecidableEq, Repr

/-- A monitor with its watcher. -/
structure Monitor where
  /-- The instant at which the monitor's clock was made. -/
  made : Nat
  policy : DisposePolicy
  /-- The callback panics after its work is done. -/
  panics : Bool := false
  /-- The callback reports to the supervision rather than to the monitor's owner. -/
  supervises : Bool := false
  cell : Cell
  watcher : Watcher := .top
  /-- The wake-up that a sleep consumes, or that cuts the next one short. -/
  token : Bool := false
  hits : Nat := 0
  /-- The monitor was dropped: its watcher is joined. -/
  dropped : Bool := false
  deriving DecidableEq, Repr

namespace Monitor

/-- What the monitor's clock shows at an instant. -/
def clock (m : Monitor) (now : Nat) : UInt64 :=
  uptime m.made now

def checkin (now : Nat) (m : Monitor) : Monitor :=
  { m with cell := m.cell.checkin (m.clock now) }

def step (now : Nat) (m : Monitor) : Monitor :=
  match m.watcher with
  | .top => { m with watcher := .haveTimeout m.cell.timeout }
  | .haveTimeout timeout => { m with watcher := .haveStamp timeout m.cell.lastCheckin }
  | .haveStamp timeout stamp =>
    let time := elapsed (m.clock now) stamp
    { m with watcher := if timeout < time then .late else .parked (timeout - time + 1) }
  | .late =>
    let (won, cell) := m.cell.leaveRunning .fired
    { m with cell, watcher := if won || m.policy == .fire then .stalled else .ended }
  | .stalled => { m with hits := m.hits + 1, watcher := .ended }
  | .parked _ => { m with watcher := .top, token := false }
  | .ended => m

def atRest (m : Monitor) : Bool :=
  match m.watcher with
  | .parked _ | .ended => true
  | _ => false

/-- Steps of the watcher, no more than given, until it is at rest. -/
def settle (now : Nat) : Nat → Monitor → Monitor
  | 0, m => m
  | steps + 1, m => if m.atRest then m else settle now steps (m.step now)

/-- One undisturbed turn of the watcher's loop, after a wake-up. From the top it is at
rest again within five steps. -/
def turn (now : Nat) (m : Monitor) : Monitor :=
  (m.step now).settle now 5

/-- What no step of the watcher changes, no turn of it does. -/
theorem turn_of_step {α : Type} {f : Monitor → α} {now : Nat}
    (h : ∀ m : Monitor, f (m.step now) = f m) (m : Monitor) : f (m.turn now) = f m := by
  have hsettle : ∀ steps m, f (settle now steps m) = f m := by
    intro steps
    induction steps with
    | zero => exact fun _ => rfl
    | succ steps ih =>
        intro m
        unfold settle
        split
        · rfl
        · exact (ih _).trans (h m)
  exact (hsettle 5 _).trans (h m)

def isComplete (m : Monitor) : Bool :=
  m.watcher == .ended

/-- The first instant at which the watcher finds the deadline missed, if no checkin
moves it. -/
def deadline (m : Monitor) : Nat :=
  m.made + (m.cell.lastCheckin.toNat + m.cell.timeout.toNat + 1) * 1000

def timeout (m : Monitor) : Duration :=
  .ofMicros m.cell.timeout.toNat

/-- Gives the monitor up: first the state, then the timeout, then the wake-up, so that a
watcher that reads the zero timeout also finds the state changed. Says in the log
whether it was this call that changed the state. -/
def dispose (m : Monitor) : Monitor × List Log.Entry :=
  let (won, cell) := m.cell.leaveRunning .disposed
  ({ m with cell := { cell with timeout := 0 }, token := true },
    if won then [⟨.info, "liveness: disposed"⟩] else [])

/-- Gives the monitor up and waits for its watcher to end. -/
def drop (now : Nat) (m : Monitor) : Monitor × List Log.Entry :=
  if m.dropped then
    (m, [])
  else
    let (m, log) := m.dispose
    let m := { m.turn (max now m.deadline) with dropped := true }
    (m, log ++
      if m.panics && 0 < m.hits then [⟨.error, "liveness: stall callback panicked"⟩]
      else [])

end Monitor

/-- The stack of a watcher thread unless another is asked for. -/
def defaultStackSize : UInt64 := 4096

/-- The priority of a watcher thread unless another is asked for. -/
def defaultPriority : UInt8 := 23

/-- What a monitor is to be like. -/
structure Spec where
  timeout : Duration
  stackSize : UInt64 := defaultStackSize
  policy : DisposePolicy := .silent
  name : String := "appwdt"
  priority : UInt8 := defaultPriority
  /-- Checkins without a handle reach this monitor. -/
  processWide : Bool := false
  panics : Bool := false
  supervises : Bool := false
  deriving DecidableEq, Repr

namespace Spec

def timeoutMs (s : Spec) : UInt32 :=
  s.timeout.millisCeil

/-- The timeout in force while the monitor is not given up, in whole microseconds. -/
def timeoutUs (s : Spec) : UInt64 :=
  s.timeoutMs.toUInt64 * 1000

theorem toNat_timeoutUs (spec : Spec) :
    spec.timeoutUs.toNat = spec.timeoutMs.toNat * 1000 := by
  have := spec.timeoutMs.toNat_lt
  simp only [Spec.timeoutUs, UInt64.toNat_mul, UInt32.toNat_toUInt64,
    UInt64.reduceToNat]
  omega

/-- The monitor that a specification makes at an instant, checked in and with its
watcher about to begin. -/
def spawned (s : Spec) (now : Nat) : Monitor where
  made := now
  policy := s.policy
  panics := s.panics
  supervises := s.supervises
  cell := { timeout := s.timeoutUs }

/-- The same monitor with its watcher asleep. -/
def monitor (s : Spec) (now : Nat) : Monitor :=
  (s.spawned now).turn now

end Spec

end TwoTierWatchdog.Liveness
