import TwoTierWatchdog.Interrupt
import TwoTierWatchdog.Record.Config
import TwoTierWatchdog.Record.Info
import TwoTierWatchdog.Log
import TwoTierWatchdog.Ticks
import TwoTierWatchdog.Thread
import TwoTierWatchdog.Nrf52.Driver
import TwoTierWatchdog.Nrf52.Peripheral
import TwoTierWatchdog.Nrf52.Eager
import TwoTierWatchdog.Rtl872x.Driver
import TwoTierWatchdog.Rtl872x.Peripheral
import TwoTierWatchdog.Twdt.Driver
import TwoTierWatchdog.Twdt.Peripheral
import TwoTierWatchdog.Twdt.Unfaithful
import TwoTierWatchdog.Liveness.Bank
import TwoTierWatchdog.Liveness.Threads
import TwoTierWatchdog.Supervisor.Json
import TwoTierWatchdog.Simulation
import TwoTierWatchdog.Supervisor.Boot
import TwoTierWatchdog.Scenario.Run
import TwoTierWatchdog.Bench
import TwoTierWatchdog.Proofs.Liveness.Verdict
import TwoTierWatchdog.Proofs.Liveness.Stamp
import TwoTierWatchdog.Deployment
import TwoTierWatchdog.Proofs.Nrf52.Books
import TwoTierWatchdog.Proofs.Rtl872x.Books
import TwoTierWatchdog.Proofs.Rtl872x.Divider
import TwoTierWatchdog.Proofs.Twdt.Books
import TwoTierWatchdog.Proofs.Reaction
import TwoTierWatchdog.Proofs.Rtl872x.Mode
import TwoTierWatchdog.Proofs.Twdt.Mode
import TwoTierWatchdog.Proofs.Device
import TwoTierWatchdog.Proofs.Trace
import TwoTierWatchdog.Proofs.Stepping
import TwoTierWatchdog.Proofs.Counting
import TwoTierWatchdog.Proofs.Checks
import TwoTierWatchdog.Proofs.Nrf52.Arming
import TwoTierWatchdog.Proofs.Arming
import TwoTierWatchdog.Proofs.Expiry
import TwoTierWatchdog.Proofs.Mode
import TwoTierWatchdog.Proofs.Steady
import TwoTierWatchdog.Proofs.Outcome
import TwoTierWatchdog.Proofs.Bringup
import TwoTierWatchdog.Proofs.Resubmission
import TwoTierWatchdog.Proofs.TwoTiers
import TwoTierWatchdog.Proofs.Immutable
import TwoTierWatchdog.Proofs.Reentrancy
import TwoTierWatchdog.Proofs.Routing
import TwoTierWatchdog.Proofs.Course
import TwoTierWatchdog.Proofs.Chronicle
import TwoTierWatchdog.Proofs.Nrf52.Conversion
import TwoTierWatchdog.Proofs.Rtl872x.Effective
import TwoTierWatchdog.Proofs.Reported
import TwoTierWatchdog.Proofs.Json.Grammar
import TwoTierWatchdog.Proofs.Json.Number
import TwoTierWatchdog.Proofs.Json.Quoted
import TwoTierWatchdog.Proofs.Json.Skip
import TwoTierWatchdog.Proofs.Supervisor.Json
import TwoTierWatchdog.Proofs.Screening
import TwoTierWatchdog.Proofs.Switching
import TwoTierWatchdog.Proofs.Midway
import TwoTierWatchdog.Liveness.Parking
import TwoTierWatchdog.Proofs.Liveness.Clock
import TwoTierWatchdog.Proofs.Liveness.Pace
import TwoTierWatchdog.Proofs.Liveness.Wakeup
import TwoTierWatchdog.Liveness.Process
import TwoTierWatchdog.Proofs.Liveness.Registration
import TwoTierWatchdog.Proofs.Liveness.Window
import TwoTierWatchdog.Proofs.Record.Config
import TwoTierWatchdog.Proofs.Record.Info
import TwoTierWatchdog.Proofs.Passage
import TwoTierWatchdog.Proofs.Rounds
