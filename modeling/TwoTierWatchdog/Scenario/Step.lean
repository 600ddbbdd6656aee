import TwoTierWatchdog.Device
import TwoTierWatchdog.Liveness.Monitor
import TwoTierWatchdog.Supervisor.Settings

/-!
# Steps

A scenario is a list of steps. A step does something with a system: builds a registry,
calls a watchdog, lets time pass for a device, spawns a monitor, and so on. A callback
is itself a list of steps, so a scenario can say what happens inside an interrupt.
-/

namespace TwoTierWatchdog.Scenario

/-- A call of a watchdog that stores nothing. -/
inductive Inquiry where
  | info
  /-- The information record, written into a buffer. -/
  | writeInfo (buffer : List UInt8)
  | started
  | identity
  | expirations
  /-- Anything else, which no watchdog answers. -/
  | unknown
  deriving DecidableEq, Repr

/-- A call of a monitor. -/
inductive MonitorCall where
  | spawn (spec : Liveness.Spec)
  | checkin
  /-- Check in through a handle, which outlives the monitor. -/
  | checkinByHandle
  | dispose
  | drop
  | report
  /-- Wait until the watcher has ended, then report. -/
  | await
  /-- Anything else, which no monitor answers. -/
  | unknown
  deriving DecidableEq, Repr

inductive Step where
  /-- Build a registry from pairs of an instance's and a device's number. -/
  | build (pairs : List (UInt8 × Nat))
  | instances
  | contains (id : UInt8)
  | locked (steps : List Step)
  | sleep (time : Duration)
  | checkinProcessWide
  | boot (settings : Supervisor.Settings)
  | feed
  | supervision
  | supervisionCheckin
  | supervisionAwait
  | supervisionDrop
  | request (id : UInt8) (q : Request)
  /-- A request for the configuration that some bytes hold. -/
  | initEncoded (id : UInt8) (bytes : List UInt8)
  | inquire (id : UInt8) (what : Inquiry)
  /-- Store a callback that takes steps. -/
  | onExpired (id : UInt8) (tag : String) (script : List Step)
  /-- Refresh a watchdog so many times from each of so many threads. -/
  | refreshInParallel (id : UInt8) (threads times : Nat)
  | device (k : Nat) (what : Device.Stimulus)
  /-- Call the monitor to which its owner gave a number. -/
  | monitor (name : Nat) (call : MonitorCall)
  /-- Anything else. A script may hold it as long as it is not taken. -/
  | unknown

/-- A callback: a name to tell it by, and the steps that it takes. -/
structure Callback where
  tag : String
  script : List Step

end TwoTierWatchdog.Scenario
