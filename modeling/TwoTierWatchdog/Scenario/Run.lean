import TwoTierWatchdog.Scenario.Step
import TwoTierWatchdog.Simulation
import TwoTierWatchdog.Supervisor.Boot

/-!
# Running scenarios

Each step answers something and changes the system. Steps of a callback are run like
any others, while the operation that fired the line is still under way; a callback may
fire a line itself, and callbacks nest up to a fixed depth. One that would be nested
deeper is not run, and that it came up is all that is recorded of it.
-/

namespace TwoTierWatchdog.Scenario

/-- A system whose callbacks take steps. -/
abbrev World := System Callback

/-- A step's answer, and the system after it. -/
abbrev Outcome := Answer × World

/-! ## Supervision -/

def withSupervision (s : World) (next : Supervision → Outcome) : Outcome :=
  match s.supervision with
  | none => (.absent .supervision, s)
  | some up => next up

def ofFailure : Except Supervisor.Failure Unit → Answer
  | .ok () => .done
  | .error f => .supervisionFailed f

def superviseReport (s : World) (up : Supervision) : Answer :=
  match s.bank.monitors[up.monitor]? with
  | none => .absent .monitor
  | some m =>
    .supervision {
      id := up.watchdog.id
      started := s.started up.watchdog
      state := m.cell.state
      timeout := m.timeout
      complete := m.isComplete }

/-- The end of a supervision's monitor. -/
def stalledReport (s : World) (up : Supervision) : Answer :=
  match s.bank.monitors[up.monitor]? with
  | none => .absent .monitor
  | some m => .stalled m.cell.state m.isComplete s.bank.stalls

/-! ## Monitors -/

/-- The number that a monitor has in the bank, by the number its owner gave it. -/
def monitorId? (s : World) (name : Nat) : Option Nat :=
  (s.named.find? (·.1 = name)).map (·.2)

/-- Gives a monitor a number, in place of the one that had it. -/
def nameMonitor (name id : Nat) (s : World) : World :=
  { s with named := (name, id) :: s.named.filter (·.1 ≠ name) }

def reportOf (m : Liveness.Monitor) : Answer :=
  .monitor {
    state := m.cell.state, timeout := m.timeout, complete := m.isComplete, hits := m.hits }

def dropMonitor (id : Nat) (s : World) : World :=
  let (bank, log) := s.bank.drop id
  { s with bank }.append log

/-- A monitor was spawned, to go under a number, or was not to be had. The one that had the
number is dropped, once the new one is up. -/
def spawned (name : Nat) (s : World) :
    Except Error Nat × Liveness.Bank × List Log.Entry → Outcome
  | (.error e, bank, log) => (.failed e, { s with bank }.append log)
  | (.ok id, bank, log) =>
    let old := monitorId? s name
    let s := { s with bank }.append log
    let s := match old with
      | some old => dropMonitor old s
      | none => s
    (.done, nameMonitor name id s)

/-- Spawns a monitor under a number. -/
def spawn (name : Nat) (spec : Liveness.Spec) (s : World) : Outcome :=
  spawned name s (s.bank.spawn spec)

def reportMonitor (id : Nat) (s : World) : Answer :=
  match s.bank.monitors[id]? with
  | none => .absent .monitor
  | some m => reportOf m

/-- Calls a monitor of the bank. One that was dropped takes no calls but checkins
through a handle, and tells how often its callback ran. -/
def callMonitor (id : Nat) (m : Liveness.Monitor) (call : MonitorCall) (s : World) :
    Outcome :=
  match call with
  | .checkinByHandle => (.done, { s with bank := s.bank.checkin id })
  | .drop =>
    let s := dropMonitor id s
    (.number ((s.bank.monitors[id]?.map (·.hits)).getD 0), s)
  | _ =>
    if m.dropped then
      (.absent .dropped, s)
    else
      match call with
      | .checkin => (.done, { s with bank := s.bank.checkin id })
      | .dispose =>
        let (bank, log) := s.bank.dispose id
        (.done, { s with bank }.append log)
      | .await =>
        let s := { s with bank := s.bank.await id }
        (reportMonitor id s, s)
      | .unknown => (.absent .call, s)
      | _ => (reportMonitor id s, s)

def monitorStep (name : Nat) (call : MonitorCall) (s : World) : Outcome :=
  match call with
  | .spawn spec => spawn name spec s
  | _ =>
    match monitorId? s name with
    | none => (.absent .monitor, s)
    | some id =>
      match s.bank.monitors[id]? with
      | none => (.absent .monitor, s)
      | some m => callMonitor id m call s

/-! ## Watchdogs -/

/-- Goes on with the watchdog of an instance in the current registry. -/
def withWatchdog (id : UInt8) (s : World) (next : Watchdog → Outcome) : Outcome :=
  match Instance.ofNumber id with
  | .error e => (.failed e, s)
  | .ok i =>
    match s.watchdog i with
    | .error e => (.failed e, s)
    | .ok w => next w

def request (h : Handler Callback) (w : Watchdog) (q : Request) (s : World) : Outcome :=
  let (result, s) := s.serve h w q
  (.ofResult result, s)

/-- What a watchdog answers to an inquiry. -/
def inquire (w : Watchdog) (what : Inquiry) (s : World) : Answer :=
  match what with
  | .info =>
    match s.info w with
    | .ok i => .info i
    | .error e => .failed e
  | .writeInfo buffer =>
    match s.writeInfo w buffer with
    | .ok (n, buffer) => .written (.ok n) buffer
    | .error e => .written (.error e) buffer
  | .started => .flag (s.started w)
  | .identity => .number w.id.val
  | .expirations => .number ((s.registry w.registry).expirations w.id).toNat
  | .unknown => .absent .call

/-- Refreshes so many times, and adds the successes to those counted before. -/
def refreshTimes (h : Handler Callback) (w : Watchdog) : Nat → Nat → World → Nat × World
  | 0, count, s => (count, s)
  | times + 1, count, s =>
    match s.serve h w .refresh with
    | (.ok (), s) => refreshTimes h w times (count + 1) s
    | (.error _, s) => refreshTimes h w times count s

/-- Refreshes from each thread in turn; the guard lets in one at a time. What the
threads log is theirs. -/
def refreshThreads (h : Handler Callback) (w : Watchdog) (times : Nat) :
    Nat → World → List Nat × World
  | 0, s => ([], s)
  | threads + 1, s =>
    let (n, after) := refreshTimes h w times 0 s
    let (ns, s) := refreshThreads h w times threads { after with log := s.log }
    (n :: ns, s)

/-! ## Steps -/

mutual

/-- Takes a step, callbacks being run by a handler. -/
def Step.run (h : Handler Callback) : Step → World → Outcome
  | .build pairs, s =>
    let (result, s) := s.build pairs
    (.ofResult result, s)
  | .instances, s => (.numbers ((s.registry s.current).instances.map (·.val)), s)
  | .contains id, s =>
    match Instance.ofNumber id with
    | .error e => (.failed e, s)
    | .ok i => (.flag ((s.registry s.current).contains i), s)
  | .locked steps, s =>
    let (answers, s) := runAll h steps #[] s
    (.list answers.toList, s)
  | .sleep time, s => (.done, { s with bank := s.bank.sleep time })
  | .checkinProcessWide, s =>
    let (found, bank) := s.bank.checkinProcessWide
    (.flag found, { s with bank })
  | .boot settings, s =>
    let (result, s) := s.boot h settings
    (ofFailure result, s)
  | .feed, s =>
    withSupervision s fun up =>
      let (result, s) := s.feed h up
      (ofFailure result, s)
  | .supervision, s => withSupervision s fun up => (superviseReport s up, s)
  | .supervisionCheckin, s =>
    withSupervision s fun up => (.done, { s with bank := s.bank.checkin up.monitor })
  | .supervisionAwait, s =>
    withSupervision s fun up =>
      let s := { s with bank := s.bank.await up.monitor }
      (stalledReport s up, s)
  | .supervisionDrop, s =>
    withSupervision s fun _ =>
      let s := s.dropSupervision
      (.number s.bank.stalls, s)
  | .request id q, s => withWatchdog id s fun w => request h w q s
  | .initEncoded id bytes, s =>
    withWatchdog id s fun w =>
      match Record.Config.decode bytes with
      | .error e => (.failed e, s)
      | .ok c => request h w (.init c) s
  | .inquire id what, s => withWatchdog id s fun w => (inquire w what s, s)
  | .onExpired id tag script, s =>
    withWatchdog id s fun w =>
      let (result, s) := s.onExpired w ⟨tag, script⟩
      (.ofResult result, s)
  | .refreshInParallel id threads times, s =>
    withWatchdog id s fun w =>
      let (ns, s) := refreshThreads h w times threads s
      (.numbers ns, s)
  | .device k what, s => s.stimulate h k what
  | .monitor name call, s => monitorStep name call s
  | .unknown, s => (.absent .call, s)

/-- Takes steps one after the other, and adds their answers to those given before. -/
def runAll (h : Handler Callback) : List Step → Array Answer → World → Array Answer × World
  | [], answers, s => (answers, s)
  | step :: rest, answers, s =>
    let (answer, s) := step.run h s
    runAll h rest (answers.push answer) s

end

/-- The callbacks that may be under way at once. -/
def maxNesting : Nat := 3

/-- Runs a callback, given how many more may be nested, and records it once it has come
to its end. -/
def handler : Nat → Handler Callback
  | 0, callback, s => { s with called := s.called.push ⟨callback, none⟩ }
  | depth + 1, callback, s =>
    let (answers, s) := runAll (handler depth) callback.script #[] s
    { s with called := s.called.push ⟨callback, some answers.toList⟩ }

/-- Takes a step outside of any callback. Log and record of callbacks are those of this
step alone. -/
def perform (step : Step) (s : World) : Outcome :=
  step.run (handler maxNesting) { s with log := #[], called := #[] }

/-- The system as it is shown after a step: each device with the calls made on it since
it was last shown. -/
def shown (s : World) : List Mounted × World :=
  (s.devices, { s with devices := s.devices.map fun m => { m with calls := #[] } })

/-- A system with given devices and nothing else. -/
def initial (devices : List Device) : World :=
  { devices := devices.map fun device => { device } }

end TwoTierWatchdog.Scenario
