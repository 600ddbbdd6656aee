import TwoTierWatchdog.Error
import TwoTierWatchdog.Instance

/-!
# Failures of the supervision

Bringing up the supervision and feeding it take several steps. A failure says which
step failed, and for what cause.
-/

namespace TwoTierWatchdog.Supervisor

inductive Stage where
  | settings
  | lookup (i : Instance)
  | info
  | init
  | start
  | monitor
  | refresh
  deriving DecidableEq, Repr

def Stage.text : Stage → String
  | settings => "invalid supervisor config"
  | lookup i => s!"watchdog instance {i} not registered"
  | info => "hardware watchdog info"
  | init => "hardware watchdog init"
  | start => "hardware watchdog start"
  | monitor => "liveness monitor"
  | refresh => "hardware watchdog refresh"

/-- The step that failed, and the cause. -/
structure Failure where
  stage : Stage
  cause : Error
  deriving DecidableEq, Repr

/-- The wording of a failure: the step, then the cause. -/
def Failure.message (f : Failure) : String :=
  f.stage.text ++ ": " ++ f.cause.message

end TwoTierWatchdog.Supervisor
