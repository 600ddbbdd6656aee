import TwoTierWatchdog.Liveness.Threads

/-!
# A watcher that sleeps

In `Threads` a sleeping watcher may wake at any move. Here it sleeps as a parked thread
does. Waking a thread leaves a token for it. A thread that parks takes the token, if
there is one, and goes on at once; if not it sleeps until there is a token or the time is
over. It may also wake for no reason.

    parked --+-- token ------------------------------------> top
             |                                                ^
             +--> asleep --+-- token, or for no reason -------+
                           +-- time is over ------------------+

A turn that the watcher is given in its sleep changes nothing. Every schedule here is
one of `Threads` (`toThreads_run`), so what holds of those holds of the watcher that
sleeps.
-/

namespace TwoTierWatchdog.Liveness

/-- Threads around a monitor whose watcher sleeps. The last three fields only record
what the watcher did; no step reads them. -/
structure Parking extends Threads where
  /-- The instant at which the watcher fell asleep, while it sleeps. -/
  since : Option Nat := none
  /-- How often the watcher has judged the deadline. -/
  judged : Nat := 0
  /-- How often it went on from parking before the time was over. -/
  roused : Nat := 0
  /-- The turns it was given and did not sleep through. -/
  turns : Nat := 0
  deriving DecidableEq, Repr

namespace Parking

/-- One act of a schedule in which the watcher sleeps. -/
inductive Act where
  | move (m : Move)
  /-- The watcher wakes for no reason. -/
  | stir
  deriving DecidableEq, Repr

def spawned (spec : Spec) (made now : Nat) : Parking where
  toThreads := .spawned spec made now

/-- The watcher takes its next step, which is not to fall asleep. -/
def advance (p : Parking) : Parking :=
  { p with toThreads := p.watch, since := none, turns := p.turns + 1 }

/-- A turn of the watcher. -/
def turn (p : Parking) : Parking :=
  match p.monitor.watcher with
  | .parked length =>
    if p.monitor.token then
      { p.advance with roused := p.roused + 1 }
    else
      match p.since with
      | none => { p with since := some p.now, turns := p.turns + 1 }
      | some since => if since + length.toNat * 1000 ≤ p.now then p.advance else p
  | .haveStamp _ _ => { p.advance with judged := p.judged + 1 }
  | _ => p.advance

/-- The watcher wakes, if it sleeps, before the time is over. -/
def stir (p : Parking) : Parking :=
  match p.monitor.watcher, p.since with
  | .parked _, some _ => { p.advance with roused := p.roused + 1 }
  | _, _ => p

def step (p : Parking) : Act → Parking
  | .move .watch => p.turn
  | .move m => { p with toThreads := p.toThreads.step m }
  | .stir => p.stir

def run (p : Parking) (schedule : List Act) : Parking :=
  schedule.foldl step p

/-- The watcher sleeps, and nothing wakes it yet. -/
def Blocked (p : Parking) : Prop :=
  ∃ length since, p.monitor.watcher = .parked length ∧ p.since = some since ∧
    p.monitor.token = false ∧ p.now < since + length.toNat * 1000

theorem turn_of_blocked {p : Parking} (h : p.Blocked) : p.turn = p := by
  obtain ⟨length, since, hw, hs, ht, hlt⟩ := h
  simp only [turn, hw, ht, hs, Bool.false_eq_true, if_false, if_neg (Nat.not_le.mpr hlt)]

theorem step_of_ne {m : Move} (hm : m ≠ .watch) (p : Parking) :
    p.step (.move m) = { p with toThreads := p.toThreads.step m } := by
  cases m with
  | watch => exact absurd rfl hm
  | pass | checkin | dispose | proceed => rfl

/-- All that an act can come to: nothing, or the watcher falls asleep, or it goes on, or
the others do. What it has been given to record only grows. -/
theorem step_cases (p : Parking) (a : Act) :
    p.step a = p ∨
    (∃ length, p.monitor.watcher = .parked length ∧ p.since = none ∧
      p.step a = { p with since := some p.now, turns := p.turns + 1 }) ∨
    (∃ judged roused, p.judged ≤ judged ∧ p.roused ≤ roused ∧
      p.step a = { p.advance with judged, roused }) ∨
    ∃ m, m ≠ .watch ∧ p.step a = { p with toThreads := p.toThreads.step m } := by
  have hadvance : ∃ judged roused, p.judged ≤ judged ∧ p.roused ≤ roused ∧
      p.advance = { p.advance with judged, roused } :=
    ⟨p.judged, p.roused, Nat.le_refl _, Nat.le_refl _, rfl⟩
  have hroused : ∃ judged roused, p.judged ≤ judged ∧ p.roused ≤ roused ∧
      { p.advance with roused := p.roused + 1 } = { p.advance with judged, roused } :=
    ⟨p.judged, p.roused + 1, Nat.le_refl _, Nat.le_succ _, rfl⟩
  cases a with
  | stir =>
      simp only [step, stir]
      split
      · exact .inr (.inr (.inl hroused))
      · exact .inl rfl
  | move m =>
      by_cases hm : m = .watch
      · subst hm
        simp only [step, turn]
        split
        · next length hw =>
            split
            · exact .inr (.inr (.inl hroused))
            · split
              · next hs => exact .inr (.inl ⟨length, hw, hs, rfl⟩)
              · split
                · exact .inr (.inr (.inl hadvance))
                · exact .inl rfl
        · exact .inr (.inr (.inl
            ⟨p.judged + 1, p.roused, Nat.le_succ _, Nat.le_refl _, rfl⟩))
        · exact .inr (.inr (.inl hadvance))
      · exact .inr (.inr (.inr ⟨m, hm, step_of_ne hm p⟩))

/-! ## Every schedule is one of the threads -/

theorem toThreads_turn (p : Parking) :
    (∃ length, p.monitor.watcher = .parked length) ∧ p.turn.toThreads = p.toThreads ∨
      p.turn.toThreads = p.watch := by
  unfold turn
  split
  · next length hw =>
      split
      · exact .inr rfl
      · split
        · exact .inl ⟨⟨length, hw⟩, rfl⟩
        · split
          · exact .inr rfl
          · exact .inl ⟨⟨length, hw⟩, rfl⟩
  · exact .inr rfl
  · exact .inr rfl

theorem toThreads_step (p : Parking) (a : Act) :
    (p.step a).toThreads = p.toThreads ∨
      ∃ m, (p.step a).toThreads = p.toThreads.step m := by
  rcases step_cases p a with heq | ⟨_, -, -, heq⟩ | ⟨_, _, -, -, heq⟩ | ⟨m, -, heq⟩
  · exact .inl (by rw [heq])
  · exact .inl (by rw [heq])
  · exact .inr ⟨.watch, by rw [heq]; rfl⟩
  · exact .inr ⟨m, by rw [heq]⟩

/-- What holds of the threads as they are, and after any move of theirs, holds after any
act. -/
theorem step_of_moves {P : Threads → Prop} {p : Parking} (hsame : P p.toThreads)
    (hmove : ∀ m, P (p.toThreads.step m)) (a : Act) : P (p.step a).toThreads := by
  rcases toThreads_step p a with heq | ⟨m, heq⟩
  · exact heq ▸ hsame
  · exact heq ▸ hmove m

/-- What no act makes smaller, no schedule does. -/
theorem le_run {f : Parking → Nat} (h : ∀ p a, f p ≤ f (p.step a)) (p : Parking)
    (schedule : List Act) : f p ≤ f (p.run schedule) := by
  induction schedule generalizing p with
  | nil => exact Nat.le_refl _
  | cons a rest ih => exact Nat.le_trans (h p a) (ih (p.step a))

theorem toThreads_run (p : Parking) (schedule : List Act) :
    ∃ moves, (p.run schedule).toThreads = p.toThreads.run moves := by
  induction schedule generalizing p with
  | nil => exact ⟨[], rfl⟩
  | cons a rest ih =>
      obtain ⟨moves, hrest⟩ := ih (p.step a)
      rcases toThreads_step p a with hp | ⟨m, hm⟩
      · exact ⟨moves, hrest.trans (by rw [hp])⟩
      · exact ⟨m :: moves, hrest.trans (by rw [hm]; rfl)⟩

end Parking

end TwoTierWatchdog.Liveness
