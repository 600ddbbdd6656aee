import TwoTierWatchdog.Log
import TwoTierWatchdog.Text.Utf8

/-!
# Threads

A thread is created with a name, a stack and a priority. On a host, core and priority
have no effect, and the stack has none that can be seen: what is left is the name and
the line that announces the thread.
-/

namespace TwoTierWatchdog

/-- What is seen of a thread that ran to its end: its name and its result. -/
structure Thread (α : Type) where
  name : String
  result : α

namespace Thread

/-- The line that announces a thread. -/
def announcement (name : String) (stackSize : UInt64) : Log.Entry :=
  ⟨.debug, s!"spawning '{name}' (host, stack={stackSize}B)"⟩

/-- Runs a thread to its end. Its name is given in bytes, and shown with a replacement
character for each run of them that is not UTF-8. -/
def run {α : Type} (name : List UInt8) (stackSize : UInt64) (work : Unit → α) :
    Thread α × List Log.Entry :=
  let name := Text.Utf8.decodeLossy name
  (⟨name, work ()⟩, [announcement name stackSize])

end Thread

end TwoTierWatchdog
