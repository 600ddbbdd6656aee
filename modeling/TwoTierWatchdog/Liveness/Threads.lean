import TwoTierWatchdog.Liveness.Monitor

/-!
# Threads around a monitor

A monitor may be used from any number of threads while its watcher runs. This module
takes the calls apart into their atomic steps and lets them run in any order. A
schedule is a list of moves: time passes, a thread enters a call, a call or the watcher
takes its next step. Every list of moves is a schedule, so what holds after all of them
holds for every interleaving.

    checkin --> haveClock --> checkedIn
    dispose --> haveLeft --> haveZeroed --> disposed

The watcher's side is `Monitor.step`. A watcher that sleeps may wake at any move: from
its timeout, from being woken, or for no reason at all.
-/

namespace TwoTierWatchdog.Liveness

/-- How far a thread's call has come. -/
inductive Call where
  /-- A checkin is about to read the clock. -/
  | checkin
  | haveClock (stamp : UInt64)
  /-- It has stored what it read, and is over. -/
  | checkedIn (stamp : UInt64)
  /-- Giving up is about to leave `running`. -/
  | dispose
  /-- It has tried to leave `running`. -/
  | haveLeft
  /-- It has cleared the timeout. -/
  | haveZeroed
  /-- It has woken the watcher, and is over. -/
  | disposed
  deriving DecidableEq, Repr

/-- The next atomic step of a call. One that is over takes none. -/
def Call.proceed (now : Nat) (m : Monitor) : Call → Call × Monitor
  | checkin => (haveClock (m.clock now), m)
  | haveClock stamp => (checkedIn stamp, { m with cell := m.cell.checkin stamp })
  | checkedIn stamp => (checkedIn stamp, m)
  | dispose => (haveLeft, { m with cell := (m.cell.leaveRunning .disposed).2 })
  | haveLeft => (haveZeroed, { m with cell := { m.cell with timeout := 0 } })
  | haveZeroed => (disposed, { m with token := true })
  | disposed => (disposed, m)

/-- A checkin that is over. -/
def Call.isCheckedIn : Call → Bool
  | checkedIn _ => true
  | checkin | haveClock _ | dispose | haveLeft | haveZeroed | disposed => false

/-- A call that has given the monitor up and is over. -/
def Call.isDisposed : Call → Bool
  | disposed => true
  | checkin | haveClock _ | checkedIn _ | dispose | haveLeft | haveZeroed => false

/-- What the watcher compared when it last judged the deadline. -/
structure Judgement where
  timeout : UInt64
  stamp : UInt64
  clock : UInt64
  /-- The calls as they stood when the stamp was read. -/
  calls : List Call
  deriving DecidableEq, Repr

/-- A monitor and the threads around it. A call keeps its place in the list when it is
over. The last two fields only record what the watcher saw; no step reads them. -/
structure Threads where
  monitor : Monitor
  now : Nat
  calls : List Call := []
  /-- The calls as they stood when the watcher last read the stamp. -/
  glimpse : List Call := []
  /-- What the watcher last went by. -/
  judgement : Option Judgement := none
  deriving DecidableEq, Repr

/-- One move of a schedule. -/
inductive Move where
  | pass (time : Duration)
  | checkin
  /-- A thread gives the monitor up. Dropping it does this, too. -/
  | dispose
  | proceed (i : Nat)
  | watch
  deriving DecidableEq, Repr

namespace Threads

/-- A monitor that was made at one instant and checked in at another, before its watcher
has taken a step. -/
def spawned (spec : Spec) (made now : Nat) : Threads where
  monitor := (spec.spawned made).checkin now
  now := now

def proceed (i : Nat) (t : Threads) : Threads :=
  match t.calls[i]? with
  | none => t
  | some call =>
    let (call, monitor) := call.proceed t.now t.monitor
    { t with monitor, calls := t.calls.set i call }

def watch (t : Threads) : Threads :=
  let monitor := t.monitor.step t.now
  match t.monitor.watcher with
  | .haveTimeout _ => { t with monitor, glimpse := t.calls }
  | .haveStamp timeout stamp =>
    { t with
      monitor
      judgement := some ⟨timeout, stamp, t.monitor.clock t.now, t.glimpse⟩ }
  | _ => { t with monitor }

def step (t : Threads) : Move → Threads
  | .pass time => { t with now := t.now + time.nanos }
  | .checkin => { t with calls := t.calls ++ [.checkin] }
  | .dispose => { t with calls := t.calls ++ [.dispose] }
  | .proceed i => t.proceed i
  | .watch => t.watch

def run (t : Threads) (schedule : List Move) : Threads :=
  schedule.foldl step t

def state (t : Threads) : State :=
  t.monitor.cell.state

/-- How many checkins are over. -/
def checkins (t : Threads) : Nat :=
  t.calls.countP Call.isCheckedIn

/-- How many calls that give the monitor up are over. -/
def disposals (t : Threads) : Nat :=
  t.calls.countP Call.isDisposed

/-- What every move keeps, every schedule does. -/
theorem run_keeps {P : Threads → Prop} (hstep : ∀ {t}, P t → ∀ m, P (t.step m))
    {t : Threads} (h : P t) (schedule : List Move) : P (t.run schedule) := by
  induction schedule generalizing t with
  | nil => exact h
  | cons m rest ih => exact ih (hstep h m)

/-! ## Calls that nothing comes between

The operations of a monitor are schedules in which one thread is left to itself. -/

theorem proceed_last (t : Threads) (call : Call) :
    proceed t.calls.length { t with calls := t.calls ++ [call] } =
      { t with
        monitor := (call.proceed t.now t.monitor).2
        calls := t.calls ++ [(call.proceed t.now t.monitor).1] } := by
  simp [proceed]

theorem monitor_run_checkin (t : Threads) :
    (t.run [.checkin, .proceed t.calls.length, .proceed t.calls.length]).monitor =
      t.monitor.checkin t.now := by
  have h₁ := proceed_last t .checkin
  have h₂ := proceed_last t (.haveClock (t.monitor.clock t.now))
  simp only [run, List.foldl_cons, List.foldl_nil, step, h₁, Call.proceed, h₂]
  rfl

theorem monitor_run_dispose (t : Threads) :
    (t.run [.dispose, .proceed t.calls.length, .proceed t.calls.length,
      .proceed t.calls.length]).monitor = t.monitor.dispose.1 := by
  have h₁ := proceed_last t .dispose
  have h₂ := proceed_last { t with monitor := (Call.dispose.proceed t.now t.monitor).2 }
    .haveLeft
  have h₃ := proceed_last { t with monitor :=
    (Call.haveLeft.proceed t.now (Call.dispose.proceed t.now t.monitor).2).2 } .haveZeroed
  simp only [Call.proceed] at h₁ h₂ h₃
  simp only [run, List.foldl_cons, List.foldl_nil, step, h₁, h₂, h₃]
  rfl

theorem monitor_watch (t : Threads) : t.watch.monitor = t.monitor.step t.now := by
  unfold watch
  dsimp only
  split <;> rfl

theorem now_watch (t : Threads) : t.watch.now = t.now := by
  unfold watch
  dsimp only
  split <;> rfl

theorem monitor_run_settle (t : Threads) (steps : Nat) :
    ∃ n, (t.run (List.replicate n .watch)).monitor = t.monitor.settle t.now steps := by
  induction steps generalizing t with
  | zero => exact ⟨0, rfl⟩
  | succ steps ih =>
      by_cases hrest : t.monitor.atRest = true
      · exact ⟨0, (if_pos hrest).symm⟩
      · obtain ⟨n, hn⟩ := ih t.watch
        rw [monitor_watch, now_watch] at hn
        exact ⟨n + 1, hn.trans (if_neg hrest).symm⟩

theorem monitor_run_turn (t : Threads) :
    ∃ n, (t.run (List.replicate n .watch)).monitor = t.monitor.turn t.now := by
  obtain ⟨n, hn⟩ := monitor_run_settle t.watch 5
  rw [monitor_watch, now_watch] at hn
  exact ⟨n + 1, hn⟩

end Threads

end TwoTierWatchdog.Liveness
