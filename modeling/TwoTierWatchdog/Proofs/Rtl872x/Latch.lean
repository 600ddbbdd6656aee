import TwoTierWatchdog.Proofs.Rtl872x.Mode

/-!
# The early interrupt of an RTL872x watchdog

The peripheral remembers in one bit that its early interrupt went out. Here the same is
counted from outside: how many interrupts went out since a call last reloaded the
counter. While the counter runs, the bit says whether there was one, and there is never
a second: the call that clears the bit is the one that reloads.
-/

namespace TwoTierWatchdog.Rtl872x

namespace Peripheral

/-- A call reloads the counter: one that feeds it, one that writes its divider, and one
that enables it. -/
def reloads (c : Command) (p : Peripheral) : Bool :=
  match c with
  | .configure .. => !p.dividerLocked
  | .attachInterrupt _ => false
  | .setEnabled on => on && !p.enabled && !p.enableStuck
  | .refresh => true

/-- What a call does to the counter: it has the full period left, or what it had. -/
theorem remaining_write (c : Command) (p : Peripheral) :
    (p.write c).countdown.remaining =
      if p.reloads c then (p.write c).countdown.period else p.countdown.remaining := by
  cases c with
  | configure divider early =>
      cases hl : p.dividerLocked <;> simp [write, reloads, hl, Countdown.ofPeriod]
  | attachInterrupt line => rfl
  | setEnabled on =>
      cases on <;> cases hk : p.enableStuck <;> cases he : p.enabled <;>
        simp [write, reloads, hk, he, Countdown.reload]
  | refresh => rfl

/-- The interrupts since the last reload, once some calls were made. -/
def unanswered (p : Peripheral) (n : Nat) : List Command → Nat
  | [] => n
  | c :: made => unanswered (p.write c) (if p.reloads c then 0 else n) made

end Peripheral

/-- The bit of a counter that runs and the count of its interrupts agree. -/
structure Latched (n : Nat) (p : Peripheral) : Prop where
  once : n ≤ 1
  latch : p.enabled = true → (p.earlyFired = true ↔ n = 1)

variable {n : Nat} {p : Peripheral}

theorem latched_fresh : Latched 0 {} :=
  ⟨Nat.zero_le 1, nofun⟩

theorem latched_write (h : Latched n p) (c : Command) :
    Latched (if p.reloads c then 0 else n) (p.write c) := by
  have hreload : ∀ {q : Peripheral}, q.earlyFired = false → Latched 0 q := fun hq =>
    ⟨Nat.zero_le 1, fun _ => by simp [hq]⟩
  cases c with
  | configure divider early =>
      cases hl : p.dividerLocked with
      | true =>
          have hw : p.write (.configure divider early) = p := if_pos hl
          rw [hw, Peripheral.reloads, hl]
          exact h
      | false =>
          have hw : (p.write (.configure divider early)).earlyFired = false := by
            simp [Peripheral.write, hl]
          rw [Peripheral.reloads, hl]
          exact hreload hw
  | attachInterrupt line => exact ⟨h.once, h.latch⟩
  | setEnabled on =>
      cases hk : p.enableStuck with
      | true =>
          have hw : p.write (.setEnabled on) = p := if_pos hk
          rw [hw, Peripheral.reloads, hk]
          simpa using h
      | false =>
          cases hon : on && !p.enabled with
          | true =>
              have hw : (p.write (.setEnabled on)).earlyFired = false := by
                simp [Peripheral.write, hk, hon]
              simp only [Peripheral.reloads, hk, hon]
              exact hreload hw
          | false =>
              have hw : p.write (.setEnabled on) = { p with enabled := on } := by
                simp [Peripheral.write, hk, hon]
              simp only [Peripheral.reloads, hk, hon, hw]
              refine ⟨h.once, fun he => h.latch ?_⟩
              simpa [show on = true from he] using hon
  | refresh => exact hreload rfl

theorem latched_calls (h : Latched n p) (made : List Command) :
    Latched (p.unanswered n made) (made.foldl (fun p c => p.write c) p) := by
  induction made generalizing n p with
  | nil => exact h
  | cons c made ih => exact ih (latched_write h c)

/-- An interrupt goes out only where none is unanswered; a counter that is reset
otherwise is off. -/
theorem latched_expire (h : Latched n p) (he : p.enabled = true)
    (hline : p.earlyInterrupt = true → p.line.isSome = true) :
    Latched (if p.expire.2.1.isSome then n + 1 else n) p.expire.1 := by
  unfold Peripheral.expire
  split
  · next hearly =>
      obtain ⟨hmode, hunfired⟩ := Bool.and_eq_true_iff.mp hearly
      have hn : n ≠ 1 := fun hn => by simp [(h.latch he).mpr hn] at hunfired
      have hzero : n = 0 := by
        have := h.once
        omega
      rw [if_pos (hline hmode), hzero]
      exact ⟨Nat.le_refl 1, fun _ => ⟨fun _ => rfl, fun _ => rfl⟩⟩
  · exact ⟨h.once, nofun⟩

end TwoTierWatchdog.Rtl872x
