import TwoTierWatchdog.Proofs.Ways

/-!
# Rigs between two requests

A driver's books and the registers of its peripheral say things about each other that
hold whenever no request is under way. What they say differs from family to family;
that they go on saying it after every request, on success and on each failure, is what
the families prove of a settled rig.
-/

namespace TwoTierWatchdog.Rig

variable {π κ : Type} {sound : π → Prop} {books : Driver → π → Prop} {r : Rig π κ}

/-- No request is under way: the registers are sound in themselves, the books agree with
them, and no line waits to be delivered. -/
structure Settled (sound : π → Prop) (books : Driver → π → Prop) (r : Rig π κ) :
    Prop where
  sound : sound r.hardware
  books : books r.driver r.hardware
  quiet : r.raised = []

/-- What goes into the log settles nothing and unsettles nothing. -/
theorem Settled.note (h : r.Settled sound books) (level : Log.Level) (text : String) :
    (r.note level text).Settled sound books :=
  ⟨h.sound, h.books, h.quiet⟩

theorem Settled.turnedAway {s : Served π κ} (h : r.Settled sound books)
    (away : r.TurnedAway s) : s.2.Settled sound books :=
  ⟨away.hardware ▸ h.sound, away.driver ▸ away.hardware ▸ h.books, away.raised.trans h.quiet⟩

end TwoTierWatchdog.Rig
