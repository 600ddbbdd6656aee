import TwoTierWatchdog.Proofs.Trace

/-!
# What a peripheral does on expiry

The registers say whether an expiry raises the interrupt or resets the device, and which
line is on the vector. The books record the configuration that asked for it. A request
that configures nothing touches neither, and one that configures in vain may at most
have put the driver's own line on the vector; so what is recorded stays what is armed,
as long as a new record is made only of what was written.
-/

namespace TwoTierWatchdog

/-- What the registers say of an expiry. -/
structure Reaction where
  /-- It raises the interrupt; otherwise it resets the device. -/
  interrupts : Bool
  /-- The line on the vector. -/
  line : Option Interrupt.Line

/-- It is what a configuration asks for, with a given line to raise. -/
structure Reaction.Meets (x : Reaction) (c : Record.Config) (line : Option Interrupt.Line) :
    Prop where
  mode : x.interrupts = !c.hardReset
  line : c.hardReset = false → x.line = line

namespace Rig

variable {π κ : Type} {react : π → Reaction} {write : κ → π → π} {r r' r'' : Rig π κ}

/-- The recorded configuration and the reaction are as they were. -/
structure Still (react : π → Reaction) (r r' : Rig π κ) : Prop where
  config : r'.driver.config = r.driver.config
  reaction : react r'.hardware = react r.hardware

theorem Still.refl (r : Rig π κ) : Still react r r :=
  ⟨rfl, rfl⟩

theorem Still.trans (h : Still react r r') (h' : Still react r' r'') : Still react r r'' :=
  ⟨h'.config.trans h.config, h'.reaction.trans h.reaction⟩

theorem Still.note (h : Still react r r') (level : Log.Level) (text : String) :
    Still react r (r'.note level text) :=
  ⟨h.config, h.reaction⟩

theorem Still.enter (h : Still react r r') {f : Driver → Driver}
    (hf : (f r'.driver).config = r'.driver.config) : Still react r (r'.enter f) :=
  ⟨hf.trans h.config, h.reaction⟩

theorem TurnedAway.still {s : Served π κ} (h : r.TurnedAway s) : Still react r s.2 :=
  ⟨congrArg _ h.driver, congrArg react h.hardware⟩

/-- Books and mode are as they were; the driver may have attached its line. -/
structure Kept (react : π → Reaction) (r r' : Rig π κ) : Prop where
  config : r'.driver.config = r.driver.config
  mode : (react r'.hardware).interrupts = (react r.hardware).interrupts
  line : (react r'.hardware).line = (react r.hardware).line ∨
    (react r'.hardware).line = r.driver.line

theorem Still.kept (h : Still react r r') : Kept react r r' :=
  ⟨h.config, congrArg _ h.reaction, .inl (congrArg _ h.reaction)⟩

theorem Kept.still (h : Kept react r r') (h' : Still react r' r'') : Kept react r r'' :=
  ⟨h'.config.trans h.config, by rw [h'.reaction]; exact h.mode,
    by rw [h'.reaction]; exact h.line⟩

/-- The reaction is the one that is recorded. -/
def Recorded (react : π → Reaction) (d : Driver) (p : π) : Prop :=
  ∀ c, d.config = some c → (react p).Meets c d.line

theorem Kept.recorded (h : Kept react r r') (ht : r.Traced write r')
    (hr : Recorded react r.driver r.hardware) : Recorded react r'.driver r'.hardware := by
  intro c hc
  have hmeets := hr c (h.config.symm.trans hc)
  refine ⟨h.mode.trans hmeets.mode, fun hsoft => ht.line ▸ ?_⟩
  rcases h.line with hline | hline
  · exact hline.trans (hmeets.line hsoft)
  · exact hline

end Rig

end TwoTierWatchdog
