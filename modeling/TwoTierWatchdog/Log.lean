/-!
# Log records

Operations report what they did as a list of entries, oldest first.
-/

namespace TwoTierWatchdog

namespace Log

/-- How much an entry matters, from the gravest to the least. -/
inductive Level where
  | error
  | warn
  | info
  | debug
  deriving DecidableEq, Repr

def Level.name : Level → String
  | error => "ERROR"
  | warn => "WARN"
  | info => "INFO"
  | debug => "DEBUG"

structure Entry where
  level : Level
  text : String
  deriving DecidableEq, Repr

end Log

end TwoTierWatchdog
