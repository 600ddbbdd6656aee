import TwoTierWatchdog.Liveness.Bank

/-!
# What a process does with its monitors

Everything that can happen to the monitors of a process, one thing at a time: they are
spawned, checked in with, given up and dropped; time passes; a single watcher takes a
single step; the platform runs out of threads and has some again. Any list of events is
the course of some process, so what holds after all of them holds whenever anybody looks.
-/

namespace TwoTierWatchdog.Liveness

/-- What can happen to the monitors of a process. -/
inductive Event where
  | spawn (spec : Spec)
  /-- The platform can create no thread from now on, or can again. -/
  | threads (failure : Option String)
  | sleep (time : Duration)
  | await (id : Nat)
  /-- A watcher takes one step. It may miss the deadline, fire, or run its callback. -/
  | watch (id : Nat)
  | checkin (id : Nat)
  | checkinProcessWide
  | dispose (id : Nat)
  | drop (id : Nat)
  deriving DecidableEq, Repr

/-- The monitor that an event gives up. -/
def Event.givesUp? : Event → Option Nat
  | dispose id | drop id => some id
  | spawn _ | threads _ | sleep _ | await _ | watch _ | checkin _ | checkinProcessWide =>
    none

namespace Bank

def watch (id : Nat) (b : Bank) : Bank :=
  { b with monitors := b.monitors.modify id (Monitor.step b.now) }

/-- The bank that is there after a spawn, whatever came of it. -/
def left (outcome : Except Error Nat × Bank × List Log.Entry) : Bank :=
  outcome.2.1

def step (b : Bank) : Event → Bank
  | .spawn spec => left (b.spawn spec)
  | .threads failure => { b with threadFailure := failure }
  | .sleep time => b.sleep time
  | .await id => b.await id
  | .watch id => b.watch id
  | .checkin id => b.checkin id
  | .checkinProcessWide => b.checkinProcessWide.2
  | .dispose id => (b.dispose id).1
  | .drop id => (b.drop id).1

def run (b : Bank) (events : List Event) : Bank :=
  events.foldl step b

/-- All that can come of a spawn. -/
theorem spawn_cases (b : Bank) (spec : Spec) :
    (spec.timeoutMs = 0 ∧ (b.spawn spec).1 = .error .invalidArgument ∧
      left (b.spawn spec) = b) ∨
    (spec.timeoutMs ≠ 0 ∧ b.threadFailure ≠ none ∧ (b.spawn spec).1 = .error .internal ∧
      left (b.spawn spec) = b) ∨
    (spec.timeoutMs ≠ 0 ∧ b.threadFailure = none ∧ (b.spawn spec).1 = .ok b.nextId ∧
      left (b.spawn spec) = b.add spec) := by
  unfold spawn
  by_cases hzero : spec.timeoutMs = 0
  · rw [if_pos hzero]
    exact .inl ⟨hzero, rfl, rfl⟩
  · rw [if_neg hzero]
    cases b.threadFailure with
    | some why => exact .inr (.inl ⟨hzero, nofun, rfl, rfl⟩)
    | none => exact .inr (.inr ⟨hzero, rfl, rfl, rfl⟩)

/-- The number of the monitor that an event spawns process-wide, if it does: not if the
spawn is rejected. -/
def enrols? (b : Bank) : Event → Option Nat
  | .spawn spec => if spec.processWide then (b.spawn spec).1.toOption else none
  | _ => none

end Bank

end TwoTierWatchdog.Liveness
