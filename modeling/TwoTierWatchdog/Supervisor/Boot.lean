import TwoTierWatchdog.Supervisor.Settings
import TwoTierWatchdog.System

/-!
# Bringing up the supervision

First the hardware watchdog is armed, then the liveness monitor started. A hardware
watchdog that still runs from before the last reset is kept: if it takes no second
configuration it keeps its old period.
-/

namespace TwoTierWatchdog.System

open Supervisor

variable {κ : Type}

def failAt (stage : Stage) (e : Error) (s : System κ) :
    Except Failure Supervision × System κ :=
  (.error ⟨stage, e⟩, s)

def monitorSpec (c : Settings) : Liveness.Spec where
  timeout := c.appTimeout
  stackSize := c.appStackSize
  policy := c.disposePolicy
  supervises := true

/-- The hardware runs, and the monitor was spawned or was not to be had. -/
def watched (c : Settings) (w : Watchdog) (s : System κ) :
    Except Error Nat × Liveness.Bank × List Log.Entry → Except Failure Supervision × System κ
  | (.error e, bank, log) => { s with bank }.append log |>.failAt .monitor e
  | (.ok monitor, bank, log) =>
    let up : Log.Entry :=
      ⟨.info, s!"boot: supervision up (hw {c.hwTimeoutMs} ms, app {c.appTimeoutMs} ms)"⟩
    (.ok ⟨w, monitor⟩, { s with bank }.append (log ++ [up]))

/-- The hardware runs: starts the monitor. -/
def watch (c : Settings) (w : Watchdog) (s : System κ) :
    Except Failure Supervision × System κ :=
  s.watched c w (s.bank.spawn (monitorSpec c))

/-- The hardware is configured: starts it. -/
def arm (h : Handler κ) (c : Settings) (w : Watchdog) (s : System κ) :
    Except Failure Supervision × System κ :=
  match s.serve h w .start with
  | (.error e, s) => s.failAt .start e
  | (.ok (), s) => s.watch c w

/-- Brings up both tiers over the current registry. -/
def startSupervision (h : Handler κ) (c : Settings) (s : System κ) :
    Except Failure Supervision × System κ :=
  match c.validate with
  | .error e => s.failAt .settings e
  | .ok () =>
    match c.instanceOf with
    | .error e => s.failAt .settings e
    | .ok i =>
      match s.watchdog i with
      | .error e => s.failAt (.lookup i) e
      | .ok w =>
        match s.info w with
        | .error e => s.failAt .info e
        | .ok before =>
          match s.serve h w (.init (.ofTimeout c.hwTimeout c.hardReset)) with
          | (.ok (), s) => s.arm h c w
          | (.error e, s) =>
            if e = .invalidState ∧ before.running = true then
              let kept : Log.Entry :=
                ⟨.warn, "boot: hardware watchdog running since before reset, keeping " ++
                  s!"{before.timeoutMs} ms"⟩
              (s.append [kept]).arm h c w
            else
              s.failAt .init e

/-- Gives a supervision up: its monitor is dropped, the hardware goes on. -/
def dropSupervision (s : System κ) : System κ :=
  match s.supervision with
  | none => s
  | some up =>
    let (bank, log) := s.bank.drop up.monitor
    { s with bank, supervision := none }.append log

/-- Brings up both tiers in place of the present supervision, which is given up only
once the new one is up. -/
def boot (h : Handler κ) (c : Settings) (s : System κ) : Except Failure Unit × System κ :=
  match s.startSupervision h c with
  | (.error f, s) => (.error f, s)
  | (.ok up, s) => (.ok (), { s.dropSupervision with supervision := some up })

/-- Feeds both tiers: checks in with the monitor, then refreshes the hardware. -/
def feed (h : Handler κ) (up : Supervision) (s : System κ) : Except Failure Unit × System κ :=
  let s := { s with bank := s.bank.checkin up.monitor }
  match s.serve h up.watchdog .refresh with
  | (.error e, s) => (.error ⟨.refresh, e⟩, s)
  | (.ok (), s) => (.ok (), s)

end TwoTierWatchdog.System
