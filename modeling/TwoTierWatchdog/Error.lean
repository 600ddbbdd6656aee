/-!
# Why an operation fails

Every operation of the library either succeeds or fails for one of five causes.
Nothing here retries: a caller that wants resilience asks again.
-/

namespace TwoTierWatchdog

/-- The cause of a failed operation. -/
inductive Error where
  /-- A malformed record, a zero timeout, or a timeout outside the bounds. -/
  | invalidArgument
  /-- The operation is illegal in the present state. -/
  | invalidState
  /-- The hardware lacks the capability the operation needs. -/
  | notSupported
  /-- No such instance, or none registered under that identifier. -/
  | notFound
  /-- The hardware reads back something other than what was asked of it. -/
  | internal
  deriving DecidableEq, Repr

namespace Error

def message : Error → String
  | invalidArgument => "invalid argument"
  | invalidState => "invalid state"
  | notSupported => "not supported"
  | notFound => "not found"
  | internal => "internal error"

end Error

end TwoTierWatchdog
