import TwoTierWatchdog.Proofs.Checks
import TwoTierWatchdog.Proofs.Reaction
import TwoTierWatchdog.Proofs.Twdt.Books

/-!
# The mode of a task watchdog

Period and mode are set by one call, which takes both or fails, and the books are written
only once it has succeeded. The line is attached before that, so a call that fails may
leave a line on the hook that nothing fires.
-/

namespace TwoTierWatchdog.Twdt

def reaction (p : Peripheral) : Reaction where
  interrupts := !p.triggerPanic
  line := p.line

abbrev Still (r r' : Rig Peripheral Command) : Prop :=
  r.Still reaction r'

abbrev Kept (r r' : Rig Peripheral Command) : Prop :=
  r.Kept reaction r'

/-- The mode that is recorded is the one on the watchdog. -/
abbrev Recorded (d : Driver) (p : Peripheral) : Prop :=
  Rig.Recorded reaction d p

variable {r r' r'' : Rig Peripheral Command} {c : Record.Config}

/-! ## Requests that configure nothing -/

/-- A call that is about the subscription. -/
def Command.Mild (c : Command) : Prop :=
  c = .subscribe ∨ c = .unsubscribe ∨ c = .reset

theorem still_act {c : Command} (hc : c.Mild) (p : Peripheral) :
    reaction (p.act c).2 = reaction p := by
  rcases hc with rfl | rfl | rfl <;> unfold Peripheral.act <;> dsimp only
  · split
    · rfl
    · split <;> rfl
  · split <;> rfl
  · split <;> rfl

theorem Command.Mild.ne_attach {c : Command} (hc : c.Mild) (line : Interrupt.Line) :
    c ≠ .attachInterrupt line := by
  rcases hc with rfl | rfl | rfl <;> exact nofun

variable {next : Rig Peripheral Command → Served Peripheral Command}

theorem still_write (h : Still r r') (name : String) {c : Command} (hc : c.Mild)
    (hn : ∀ {r'}, Still r r' → Still r (next r').2) :
    Still r (write name c r' next).2 := by
  have hf := faulted_takeFailure r'.hardware
  cases htake : r'.hardware.takeFailure with
  | mk due p =>
      rw [htake] at hf
      obtain ⟨failure, failureSkip, hp⟩ : Faulted r'.hardware p := hf
      cases due with
      | some e =>
          rw [write_of_due hc.ne_attach htake, hp]
          exact ⟨h.config, h.reaction⟩
      | none =>
          have hstill : Still r { r' with hardware := (p.act c).2, calls := r'.calls ++ [c] } :=
            ⟨h.config, (still_act hc p).trans (hp ▸ h.reaction)⟩
          unfold write
          rw [interface_write_of_none hc.ne_attach htake]
          dsimp only
          split
          · exact hn hstill
          · exact hstill.note _ _

theorem still_confirm (h : Still r r') (want : Bool)
    (hn : ∀ {r'}, Still r r' → Still r (next r').2) :
    Still r (confirm want r' next).2 := by
  cases confirm_ways want r' next with
  | agrees _ eq => exact eq ▸ hn h
  | differs _ eq => exact eq ▸ h.note _ _

theorem still_launched (h : Still r r') : Still r (launched r').2 := by
  cases launched_ways r' with
  | starts _ eq => exact eq ▸ (h.enter rfl).note _ _
  | fails _ eq => exact eq ▸ h.note _ _

theorem still_launch (r : Rig Peripheral Command) : Still r (launch r).2 := by
  unfold launch
  split
  · exact still_launched (.refl r)
  · exact still_write (.refl r) _ (.inl rfl) still_launched

theorem still_start (r : Rig Peripheral Command) : Still r (start r).2 := by
  cases start_ways r with
  | unready _ eq => exact eq ▸ .refl r
  | runs _ _ eq => exact eq ▸ .refl r
  | launches _ _ eq => exact eq ▸ still_launch r

theorem still_settle (h : Still r r') : Still r (settle r').2 := by
  unfold settle
  split
  · exact ⟨h.config, h.reaction⟩
  · exact h

theorem still_stop (r : Rig Peripheral Command) : Still r (stop r).2 := by
  unfold stop
  split
  · exact still_write (.refl r) _ (.inr (.inl rfl)) fun h =>
      still_confirm h false fun h => still_settle (h.note _ _)
  · exact still_settle (.refl r)

theorem still_feed (r : Rig Peripheral Command) : Still r (refresh r).2 := by
  unfold refresh
  split
  · exact still_write (.refl r) _ (.inr (.inr rfl)) fun h => h
  · exact .refl r

/-! ## Programming -/

/-- The books have a new configuration, and the watchdog does what it asks for. -/
structure Entered (c : Record.Config) (r r' : Rig Peripheral Command) : Prop where
  config : r'.driver.config = some c
  meets : (reaction r'.hardware).Meets c r.driver.line

theorem Entered.still (h : Entered c r r') (h' : Still r' r'') : Entered c r r'' :=
  ⟨h'.config.trans h.config, h'.reaction.symm ▸ h.meets⟩

theorem still_commit (r : Rig Peripheral Command) (c : Record.Config) :
    Still (r.enter fun d => { d with config := some c, timeoutMs := c.timeoutMs })
      (commit c r).2 := by
  unfold commit
  dsimp only
  split
  · exact still_write (.refl _) _ (.inr (.inr rfl)) fun h =>
      still_confirm h true fun h => h.note _ _
  · exact ⟨rfl, rfl⟩

/-- The line has been attached: period and mode are taken, or the call fails. -/
theorem mode_reconfigure {r₀ : Rig Peripheral Command} (hd : r.driver = r₀.driver)
    (hp : (reaction r.hardware).interrupts = (reaction r₀.hardware).interrupts)
    (hl : r.hardware.line = if c.hardReset then r₀.hardware.line else r₀.driver.line) :
    let served := write "reconfigure" (.reconfigure c.timeoutMs c.hardReset) r (commit c)
    Kept r₀ served.2 ∧ served.1 ≠ .ok () ∨ Entered c r₀ served.2 := by
  intro served
  have hf := faulted_takeFailure r.hardware
  cases htake : r.hardware.takeFailure with
  | mk due p =>
      rw [htake] at hf
      obtain ⟨failure, failureSkip, rfl⟩ : Faulted r.hardware p := hf
      cases due with
      | some e =>
          have hserved : served = _ := write_of_due (by nofun) htake _ _
          rw [hserved]
          refine .inl ⟨⟨congrArg _ hd, hp, ?_⟩, nofun⟩
          show r.hardware.line = _ ∨ r.hardware.line = _
          rw [hl]
          cases c.hardReset with
          | true => exact .inl rfl
          | false => exact .inr rfl
      | none =>
          have hserved : served = _ := write_of_act (by nofun) htake rfl _ _
          rw [hserved]
          refine .inr (Entered.still ⟨rfl, rfl, fun hsoft => ?_⟩ (still_commit _ c))
          show r.hardware.line = _
          rw [hl, hsoft]
          rfl

theorem mode_init (r : Rig Peripheral Command) (c : Record.Config) :
    Kept r (init c r).2 ∧ (init c r).1 ≠ .ok () ∨ Entered c r (init c r).2 := by
  cases init_ways c r with
  | turnedAway away => exact .inl ⟨away.still.kept, away.failed⟩
  | plain _ bound eq =>
      exact eq ▸ mode_reconfigure rfl rfl ((Driver.lineFor?_eq_some bound).2 r.hardware.line)
  | attaches _ bound eq =>
      rw [eq, write_attach]
      exact mode_reconfigure rfl rfl ((Driver.lineFor?_eq_some bound).2 r.hardware.line)

theorem mode_serve (r : Rig Peripheral Command) (q : Request) :
    Kept r (serve r q).2 ∨ ∃ c, Entered c r (serve r q).2 := by
  cases q with
  | init c => exact (mode_init r c).imp And.left fun h => ⟨c, h⟩
  | setTimeout timeout => exact (mode_init r _).imp And.left fun h => ⟨_, h⟩
  | start => exact .inl (still_start r).kept
  | stop => exact .inl (still_stop r).kept
  | refresh => exact .inl (still_feed r).kept

/-! ## What the books say of the mode -/

theorem recorded_serve (hr : Recorded r.driver r.hardware) (q : Request) :
    Recorded (serve r q).2.driver (serve r q).2.hardware := by
  have ht := traced_serve r q
  rcases mode_serve r q with hkept | ⟨c, hentered⟩
  · exact hkept.recorded ht hr
  · intro c' hc'
    rw [hentered.config] at hc'
    rw [← Option.some.inj hc', ht.line]
    exact hentered.meets

theorem meets_of_init (hok : (init c r).1 = .ok ()) :
    (reaction (init c r).2.hardware).Meets c (init c r).2.driver.line := by
  rcases mode_init r c with ⟨-, hfailed⟩ | hentered
  · exact absurd hok hfailed
  · rw [(traced_init r c).line]
    exact hentered.meets

end TwoTierWatchdog.Twdt
