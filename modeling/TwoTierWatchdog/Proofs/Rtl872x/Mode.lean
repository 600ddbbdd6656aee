import TwoTierWatchdog.Proofs.Checks
import TwoTierWatchdog.Proofs.Reaction

/-!
# The mode of an RTL872x watchdog

Divider and mode are written by one call, and only the divider is read back. A register
that is locked therefore shows as long as the divider is to change; if the period that
is asked for is the one it holds already, the readback agrees, and the books take a mode
that the register did not.
-/

namespace TwoTierWatchdog.Rtl872x

def reaction (p : Peripheral) : Reaction where
  interrupts := p.earlyInterrupt
  line := p.line

abbrev Still (r r' : Rig Peripheral Command) : Prop :=
  r.Still reaction r'

abbrev Kept (r r' : Rig Peripheral Command) : Prop :=
  r.Kept reaction r'

/-- The mode that is recorded is the one on the peripheral. -/
abbrev Recorded (d : Driver) (p : Peripheral) : Prop :=
  Rig.Recorded reaction d p

/-- A configuration that asks for the other mode, but for the period that the register
holds, finds the register locked. -/
def Deaf (c : Record.Config) (p : Peripheral) : Prop :=
  p.dividerLocked = true ∧ p.earlyInterrupt = c.hardReset ∧
    Divider.forMillis? c.timeoutMs = some p.divider

instance (c : Record.Config) (p : Peripheral) : Decidable (Deaf c p) :=
  inferInstanceAs (Decidable (_ ∧ _))

variable {r r' r'' : Rig Peripheral Command} {c : Record.Config}

theorem locked_of_traced (h : Traced r r') :
    r'.hardware.dividerLocked = r.hardware.dividerLocked := by
  refine h.keeps (P := fun p => p.dividerLocked = r.hardware.dividerLocked) ?_ rfl
  intro command p hp
  rw [← hp]
  cases command with
  | configure divider early =>
      show (if _ then _ else _ : Peripheral).dividerLocked = _
      split <;> rfl
  | attachInterrupt line => rfl
  | setEnabled on =>
      show (if _ then _ else _ : Peripheral).dividerLocked = _
      split
      · rfl
      · split <;> rfl
  | refresh => rfl

/-! ## Requests that configure nothing -/

theorem still_setEnabled (r : Rig Peripheral Command) (on : Bool) :
    Still r (write (.setEnabled on) r) := by
  refine ⟨rfl, ?_⟩
  show reaction (r.hardware.write (.setEnabled on)) = _
  simp only [Peripheral.write]
  split
  · rfl
  · split <;> rfl

theorem still_refresh (r : Rig Peripheral Command) : Still r (write .refresh r) :=
  ⟨rfl, rfl⟩

variable {next : Rig Peripheral Command → Served Peripheral Command}

theorem still_confirm (h : Still r r') (want : Bool)
    (hn : ∀ {r'}, Still r r' → Still r (next r').2) :
    Still r (confirm want r' next).2 := by
  cases confirm_ways want r' next with
  | agrees _ eq => exact eq ▸ hn h
  | differs _ eq => exact eq ▸ h.note _ _

theorem still_resume (h : Still r r') (hn : ∀ {r'}, Still r r' → Still r (next r').2) :
    Still r (resume r' next).2 :=
  still_confirm ((h.trans (still_setEnabled _ _)).trans (still_refresh _)) true hn

theorem still_launch (r : Rig Peripheral Command) : Still r (launch r).2 :=
  still_confirm (still_setEnabled r true) true fun h => (h.enter rfl).note _ _

theorem still_start (r : Rig Peripheral Command) : Still r (start r).2 := by
  cases start_ways r with
  | unready _ eq => exact eq ▸ .refl r
  | runs _ _ eq => exact eq ▸ .refl r
  | launches _ _ eq => exact eq ▸ still_launch r

theorem still_settle (h : Still r r') : Still r (settle r').2 := by
  unfold settle
  split
  · exact ⟨h.config, h.reaction⟩
  · exact h

theorem still_stop (r : Rig Peripheral Command) : Still r (stop r).2 := by
  unfold stop
  split
  · exact still_confirm (still_setEnabled r false) false fun h => still_settle (h.note _ _)
  · exact still_settle (.refl r)

theorem still_feed (r : Rig Peripheral Command) : Still r (refresh r).2 := by
  unfold refresh
  split
  · exact still_refresh r
  · exact .refl r

/-! ## Programming -/

/-- Divider and mode are written together, or neither if the register is locked. -/
structure Written (divider : Divider) (early : Bool) (p p' : Peripheral) : Prop where
  line : p'.line = p.line
  took : p.dividerLocked = true ∧ p'.divider = p.divider ∧
      p'.earlyInterrupt = p.earlyInterrupt ∨
    p'.divider = divider ∧ p'.earlyInterrupt = early

theorem written_configure (p : Peripheral) (divider : Divider) (early : Bool) :
    Written divider early p (p.write (.configure divider early)) := by
  cases hl : p.dividerLocked with
  | true =>
      have hkept : p.write (.configure divider early) = p := if_pos hl
      rw [hkept]
      exact ⟨rfl, .inl ⟨hl, rfl, rfl⟩⟩
  | false =>
      have htook : p.write (.configure divider early) =
          { p with
            divider, earlyInterrupt := early, earlyFired := false
            countdown := .ofPeriod (Peripheral.periodOf divider) } :=
        if_neg (by simp [hl])
      rw [htook]
      exact ⟨rfl, .inr ⟨rfl, rfl⟩⟩

/-- To disable the counter first makes no difference to what is written. -/
theorem Written.of_disable {p p' : Peripheral} {divider : Divider} {early : Bool}
    (h : Written divider early (p.write (.setEnabled false)) p') :
    Written divider early p p' := by
  have hoff : p.write (.setEnabled false) = p ∨
      p.write (.setEnabled false) = { p with enabled := false } := by
    cases hs : p.enableStuck with
    | true => exact .inl (if_pos hs)
    | false => exact .inr (by simp [Peripheral.write, hs])
  rcases hoff with hoff | hoff <;> rw [hoff] at h
  · exact h
  · exact ⟨h.line, h.took⟩

theorem written_program (r : Rig Peripheral Command) (divider : Divider)
    (line : Option Interrupt.Line) (live : Bool) :
    ∃ p, Written divider line.isSome r.hardware p ∧
      (program divider line live r).hardware = { p with line := line.or p.line } ∧
      (program divider line live r).driver = r.driver := by
  have hoff : ∃ r₀, r₀ = (if live then write (.setEnabled false) r else r) ∧
      r₀.driver = r.driver ∧ ∀ p, Written divider line.isSome r₀.hardware p →
        Written divider line.isSome r.hardware p := by
    cases live with
    | false => exact ⟨r, rfl, rfl, fun _ => id⟩
    | true => exact ⟨write (.setEnabled false) r, rfl, rfl, fun _ => Written.of_disable⟩
  obtain ⟨r₀, hr₀, hdriver, hback⟩ := hoff
  refine ⟨_, hback _ (written_configure r₀.hardware divider line.isSome), ?_⟩
  unfold program
  rw [← hr₀]
  cases line with
  | none => exact ⟨rfl, hdriver⟩
  | some line => exact ⟨rfl, hdriver⟩

theorem line_program {line : Option Interrupt.Line} (bound : r.driver.lineFor? c = some line)
    (divider : Divider) (live : Bool) :
    (program divider line live r).hardware.line =
      if c.hardReset then r.hardware.line else r.driver.line := by
  obtain ⟨p, hp, hhardware, -⟩ := written_program r divider line live
  rw [hhardware]
  exact (congrArg line.or hp.line).trans ((Driver.lineFor?_eq_some bound).2 _)

/-- The books have a new configuration, and the driver's line is on the vector if that
asks for the interrupt. Its mode is written, unless the register is locked and holds its
period. -/
structure Entered (c : Record.Config) (r r' : Rig Peripheral Command) : Prop where
  config : r'.driver.config = some c
  mode : (reaction r'.hardware).interrupts = !c.hardReset ∨
    r.hardware.dividerLocked = true ∧
      (reaction r'.hardware).interrupts = (reaction r.hardware).interrupts ∧
      Divider.forMillis? c.timeoutMs = some r.hardware.divider
  line : c.hardReset = false → (reaction r'.hardware).line = r.driver.line

theorem Entered.still (h : Entered c r r') (h' : Still r' r'') : Entered c r r'' :=
  ⟨h'.config.trans h.config, by rw [h'.reaction]; exact h.mode,
    fun hc => (congrArg _ h'.reaction).trans (h.line hc)⟩

theorem still_commit (r : Rig Peripheral Command) (c : Record.Config) (divider : Divider)
    (live : Bool) :
    Still (r.enter fun d => { d with config := some c, timeoutMs := divider.timeoutMs })
      (commit c divider live r).2 := by
  unfold commit
  dsimp only
  split
  · exact still_resume (.refl _) fun h => h.note _ _
  · exact ⟨rfl, rfl⟩

/-- A locked register takes the previous divider as little as it took the new one. -/
theorem still_restore (hl : r.hardware.dividerLocked = true) (divider : Divider)
    (early live : Bool) : Still r (restore divider early live r).2 := by
  have hkept : Peripheral.write (.configure divider early) r.hardware = r.hardware :=
    if_pos hl
  have hstill : Still r (write (.configure divider early) (r.note .error
      "wdt(rtl872x): divider readback mismatch, restoring previous period")) :=
    ⟨rfl, congrArg reaction hkept⟩
  unfold restore
  dsimp only
  split
  · exact still_resume hstill fun h => h
  · exact hstill

/-- A configuration is turned away, or taken back because it did not read back, or
entered, and it is entered if it is said to have succeeded. -/
theorem mode_init (r : Rig Peripheral Command) (c : Record.Config) :
    Kept r (init c r).2 ∧ (init c r).1 ≠ .ok () ∨ Entered c r (init c r).2 := by
  cases init_ways c r with
  | turnedAway away => exact .inl ⟨away.still.kept, away.failed⟩
  | @takes divider line _ found bound reads eq =>
      obtain ⟨p, hp, hhardware, -⟩ :=
        written_program r divider line (r.driver.state = .running)
      refine eq ▸ .inr (Entered.still ⟨rfl, ?_, fun hsoft => ?_⟩ (still_commit _ c _ _))
      · have hread : p.divider = divider := (congrArg Peripheral.divider hhardware).symm.trans reads
        show (program divider line _ r).hardware.earlyInterrupt = _ ∨
          _ ∧ (program divider line _ r).hardware.earlyInterrupt = _ ∧ _
        rw [hhardware, ← (Driver.lineFor?_eq_some bound).1]
        refine hp.took.symm.imp And.right fun ⟨hl, hd, he⟩ => ⟨hl, he, ?_⟩
        rw [found, ← hd, hread]
      · exact (line_program bound divider _).trans (by rw [hsoft]; rfl)
  | @differs divider line _ _ bound reads eq =>
      obtain ⟨p, hp, hhardware, hdriver⟩ :=
        written_program r divider line (r.driver.state = .running)
      have hlocked := locked_of_traced
        (traced_program r divider line (r.driver.state = .running))
      have hkept := hp.took.resolve_right fun ⟨hd, _⟩ =>
        reads ((congrArg Peripheral.divider hhardware).trans hd)
      rw [eq, restore_failed]
      refine .inl ⟨Rig.Kept.still ⟨congrArg _ hdriver, ?_, ?_⟩
        (still_restore (hlocked.trans hkept.1) _ _ _), nofun⟩
      · rw [hhardware]
        exact hkept.2.2
      · show (program divider line _ r).hardware.line = _ ∨
          (program divider line _ r).hardware.line = _
        rw [line_program bound]
        cases c.hardReset with
        | true => exact .inl rfl
        | false => exact .inr rfl

theorem mode_serve (r : Rig Peripheral Command) (q : Request) :
    Kept r (serve r q).2 ∨ ∃ c, q.config? r.driver = some c ∧ Entered c r (serve r q).2 := by
  cases q with
  | init c => exact (mode_init r c).imp And.left fun h => ⟨c, rfl, h⟩
  | setTimeout timeout => exact (mode_init r _).imp And.left fun h => ⟨_, rfl, h⟩
  | start => exact .inl (still_start r).kept
  | stop => exact .inl (still_stop r).kept
  | refresh => exact .inl (still_feed r).kept

/-! ## What the books say of the mode -/

theorem Entered.meets (h : Entered c r r') (ht : Traced r r') (hc : ¬ Deaf c r.hardware) :
    (reaction r'.hardware).Meets c r'.driver.line := by
  refine ⟨?_, fun hsoft => ht.line ▸ h.line hsoft⟩
  rcases h.mode with hmode | ⟨hlocked, hmode, hdivider⟩
  · exact hmode
  · -- locked, but in the mode that is asked for: the readback cannot mislead
    have hasked : r.hardware.earlyInterrupt ≠ c.hardReset := fun he =>
      hc ⟨hlocked, he, hdivider⟩
    exact hmode.trans (Bool.eq_not_of_ne hasked)

theorem recorded_serve (hr : Recorded r.driver r.hardware) {q : Request}
    (hq : ∀ c, q.config? r.driver = some c → ¬ Deaf c r.hardware) :
    Recorded (serve r q).2.driver (serve r q).2.hardware := by
  have ht := traced_serve r q
  rcases mode_serve r q with hkept | ⟨c, hc, hentered⟩
  · exact hkept.recorded ht hr
  · intro c' hc'
    rw [hentered.config] at hc'
    exact Option.some.inj hc' ▸ hentered.meets ht (hq c hc)

theorem meets_of_init (hc : ¬ Deaf c r.hardware) (hok : (init c r).1 = .ok ()) :
    (reaction (init c r).2.hardware).Meets c (init c r).2.driver.line := by
  rcases mode_init r c with ⟨-, hfailed⟩ | hentered
  · exact absurd hok hfailed
  · exact hentered.meets (traced_init r c) hc

/-- Before anything is recorded the mode is the one of a new peripheral. -/
theorem blank_serve (hb : r.driver.config = none → r.hardware.earlyInterrupt = false)
    (q : Request) : (serve r q).2.driver.config = none →
      (serve r q).2.hardware.earlyInterrupt = false := by
  rcases mode_serve r q with hkept | ⟨c, -, hentered⟩
  · exact fun hnone => hkept.mode.trans (hb (hkept.config.symm.trans hnone))
  · exact fun hnone => absurd (hentered.config.symm.trans hnone) nofun

end TwoTierWatchdog.Rtl872x
