import TwoTierWatchdog.Proofs.Checks
import TwoTierWatchdog.Proofs.Nrf52.Books
import TwoTierWatchdog.Proofs.Reaction

/-!
# The mode of an nRF52840 watchdog

This watchdog resets in either mode; the mode only says whether its interrupt comes
first, and that is whether a line is on the vector. The line is attached by the one
`init` that there can be, and never taken off: a line that an earlier driver left there
stays, also under a driver that asked for none.
-/

namespace TwoTierWatchdog.Nrf52

def reaction (p : Peripheral) : Reaction where
  interrupts := p.line.isSome
  line := p.line

abbrev Still (r r' : Rig Peripheral Command) : Prop :=
  r.Still reaction r'

variable {r r' : Rig Peripheral Command} {c : Record.Config}

theorem line_write {command : Command} (hc : ∀ line, command ≠ .enableTimeoutInterrupt line)
    (p : Peripheral) : (p.write command).line = p.line := by
  cases command with
  | enableTimeoutInterrupt line => exact absurd rfl (hc line)
  | setReloadValue | start | feed =>
      simp only [Peripheral.write]
      split <;> rfl
  | setBehaviour | enableReloadChannel => rfl

theorem still_write {command : Command}
    (hc : ∀ line, command ≠ .enableTimeoutInterrupt line) (r : Rig Peripheral Command) :
    Still r (write command r) := by
  have hline : (write command r).hardware.line = r.hardware.line := line_write hc r.hardware
  refine ⟨rfl, ?_⟩
  rw [reaction, reaction, hline]

theorem still_launch (r : Rig Peripheral Command) : Still r (launch r).2 := by
  have hw : Still r (write .start r) := still_write (by nofun) r
  cases launch_ways r with
  | starts _ eq => exact eq ▸ (hw.enter rfl).note _ _
  | fails _ eq => exact eq ▸ hw.note _ _

/-- A request that configures nothing. -/
theorem still_serve {q : Request} (hq : q.config? r.driver = none) :
    Still r (serve r q).2 := by
  cases q with
  | init c | setTimeout timeout => cases hq
  | stop => exact .refl r
  | start =>
      show Still r (start r).2
      cases start_ways r with
      | unready _ eq => exact eq ▸ .refl r
      | runs _ _ eq => exact eq ▸ .refl r
      | launches _ _ eq => exact eq ▸ still_launch r
  | refresh =>
      show Still r (refresh r).2
      unfold refresh
      split
      · exact still_write (by nofun) r
      · exact .refl r

theorem line_program (crv : UInt32) (line : Option Interrupt.Line)
    (r : Rig Peripheral Command) :
    (program crv line r).hardware.line = line.or r.hardware.line ∧
      (program crv line r).driver = r.driver := by
  have hcrv : (r.hardware.write (.setReloadValue crv)).line = r.hardware.line :=
    line_write (by nofun) r.hardware
  cases line with
  | none => exact ⟨hcrv, rfl⟩
  | some line => exact ⟨rfl, rfl⟩

/-- The first configuration of all, and the driver's line on the vector if it asks for
the interrupt. -/
structure Entered (c : Record.Config) (r r' : Rig Peripheral Command) : Prop where
  before : r.driver.state = .uninitialized
  after : r'.driver.state = .configured
  config : r'.driver.config = some c
  line : r'.hardware.line = if c.hardReset then r.hardware.line else r.driver.line

theorem mode_init (r : Rig Peripheral Command) (c : Record.Config) :
    Still r (init c r).2 ∧ (init c r).2.driver.state = r.driver.state ∧
        (init c r).1 ≠ .ok () ∨
      Entered c r (init c r).2 := by
  cases init_ways c r with
  | turnedAway away =>
      exact .inl ⟨away.still, congrArg Driver.state away.driver, away.failed⟩
  | takes pass _ bound eq =>
      have hs : r.driver.state = .uninitialized :=
        Classical.byContradiction fun hs => refusal?_ne_none hs pass
      obtain ⟨hvector, -⟩ := line_program _ _ r
      exact eq ▸ .inr ⟨hs, rfl, rfl, hvector.trans ((Driver.lineFor?_eq_some bound).2 _)⟩

/-- No request takes a driver back to where it has no configuration. -/
theorem state_serve {q : Request} (hq : q.config? r.driver = none)
    (hs : (serve r q).2.driver.state = .uninitialized) :
    r.driver.state = .uninitialized := by
  have hlaunch : (launch r).2.driver.state = .uninitialized →
      r.driver.state = .uninitialized := by
    cases launch_ways r with
    | starts _ eq => exact eq ▸ nofun
    | fails _ eq => exact eq ▸ id
  cases q with
  | init | setTimeout => cases hq
  | stop => exact hs
  | start =>
      have hs : (start r).2.driver.state = .uninitialized := hs
      cases start_ways r with
      | unready fresh => exact fresh
      | runs _ _ eq => rwa [eq] at hs
      | launches _ _ eq =>
          rw [eq] at hs
          exact hlaunch hs
  | refresh =>
      have hs : (refresh r).2.driver.state = .uninitialized := hs
      unfold refresh at hs
      split at hs <;> exact hs

theorem mode_serve (r : Rig Peripheral Command) (q : Request) :
    Still r (serve r q).2 ∧ ((serve r q).2.driver.state = .uninitialized →
        r.driver.state = .uninitialized) ∨
      ∃ c, Entered c r (serve r q).2 := by
  cases hq : q.config? r.driver with
  | none => exact .inl ⟨still_serve hq, state_serve hq⟩
  | some c =>
      have hserve : serve r q = init c r := by
        cases q with
        | init | setTimeout => cases hq; rfl
        | start | stop | refresh => cases hq
      rw [hserve]
      exact (mode_init r c).imp (fun ⟨hstill, hstate, _⟩ => ⟨hstill, fun hu => hstate ▸ hu⟩)
        fun h => ⟨c, h⟩

/-! ## What the books say of the mode -/

/-- If the interrupt is recorded, the driver's line is on the vector. -/
def Recorded (d : Driver) (p : Peripheral) : Prop :=
  ∀ c, d.config = some c → c.hardReset = false → p.line = d.line

theorem Entered.recorded (h : Entered c r r') (ht : Traced r r')
    (hsoft : c.hardReset = false) : r'.hardware.line = r'.driver.line := by
  rw [h.line, hsoft, ht.line]
  rfl

theorem recorded_serve (hr : Recorded r.driver r.hardware) (q : Request) :
    Recorded (serve r q).2.driver (serve r q).2.hardware := by
  have ht := traced_serve r q
  intro c hc hsoft
  rcases mode_serve r q with ⟨hstill, -⟩ | ⟨c', hentered⟩
  · rw [ht.line, ← hr c (hstill.config.symm.trans hc) hsoft]
    exact congrArg Reaction.line hstill.reaction
  · obtain rfl := Option.some.inj (hentered.config.symm.trans hc)
    exact hentered.recorded ht hsoft

theorem line_of_init (hok : (init c r).1 = .ok ()) (hsoft : c.hardReset = false) :
    (init c r).2.hardware.line = (init c r).2.driver.line := by
  rcases mode_init r c with ⟨-, -, hfailed⟩ | hentered
  · exact absurd hok hfailed
  · exact hentered.recorded (traced_init calm_peripheral r c) hsoft

/-- A counter that runs goes on running, for the same period, whatever is written. -/
theorem crv_write_of_running {p : Peripheral} (hr : p.running = true) (command : Command) :
    (p.write command).running = true ∧ (p.write command).crv = p.crv := by
  cases command with
  | setReloadValue crv =>
      have hw : p.write (.setReloadValue crv) = p := if_pos hr
      exact hw.symm ▸ ⟨hr, rfl⟩
  | start =>
      have hw : p.write .start = p := if_pos (by simp [hr])
      exact hw.symm ▸ ⟨hr, rfl⟩
  | feed channel =>
      simp only [Peripheral.write]
      split <;> exact ⟨hr, rfl⟩
  | setBehaviour | enableReloadChannel | enableTimeoutInterrupt => exact ⟨hr, rfl⟩

theorem running_serve (hr : r.hardware.running = true) (q : Request) :
    (serve r q).2.hardware.running = true ∧
      (serve r q).2.hardware.crv = r.hardware.crv := by
  refine (traced_serve r q).keeps
    (P := fun p => p.running = true ∧ p.crv = r.hardware.crv) ?_ ⟨hr, rfl⟩
  rintro command p ⟨hr', hcrv⟩
  obtain ⟨hr'', hcrv'⟩ := crv_write_of_running hr' command
  exact ⟨hr'', hcrv'.trans hcrv⟩

/-- No other driver left a line behind: the vector has the driver's line if it asked for
the interrupt, and none otherwise. -/
structure Exact (d : Driver) (p : Peripheral) : Prop where
  blank : d.state = .uninitialized → d.config = none
  line : p.line = if d.config.any fun c => !c.hardReset then d.line else none

theorem exact_serve (h : Exact r.driver r.hardware) (q : Request) :
    Exact (serve r q).2.driver (serve r q).2.hardware := by
  have ht := traced_serve r q
  rcases mode_serve r q with ⟨hstill, hstate⟩ | ⟨c, hentered⟩
  · refine ⟨fun hu => hstill.config.trans (h.blank (hstate hu)), ?_⟩
    rw [hstill.config, ht.line, ← h.line]
    exact congrArg Reaction.line hstill.reaction
  · refine ⟨fun hu => absurd (hentered.after.symm.trans hu) nofun, ?_⟩
    have hnone := h.line
    rw [h.blank hentered.before] at hnone
    rw [hentered.line, hentered.config, ht.line, Option.any_some, hnone]
    cases c.hardReset <;> rfl

end TwoTierWatchdog.Nrf52
