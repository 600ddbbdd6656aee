import TwoTierWatchdog.Proofs.Rtl872x.Divider
import TwoTierWatchdog.Proofs.Settled
import TwoTierWatchdog.Rtl872x.Driver
import TwoTierWatchdog.Rtl872x.Peripheral

/-!
# The books on an RTL872x watchdog

What a driver's books and the registers say about each other, and that every request
keeps it so.

The counter takes its period when the divider is written, not when it is enabled, so
period and divider part only in a peripheral whose divider was never written. That is
the reset value with a prescaler of zero, and `forMillis?` never picks it: a readback
that matches what the driver asked for is of a divider that was written, even if a
locked register did not take it this time.
-/

namespace TwoTierWatchdog.Rtl872x

/-- The counter has the period of its divider. -/
def Peripheral.Timed (p : Peripheral) : Prop :=
  p.countdown.period = Peripheral.periodOf p.divider

/-- A counter that is enabled, or whose divider was written, has its period. -/
structure Peripheral.Sound (p : Peripheral) : Prop where
  enabled : p.enabled = true → p.Timed
  written : p.divider.divFac ≠ 0 → p.Timed

/-- The books agree with the registers. -/
structure Books (d : Driver) (p : Peripheral) : Prop where
  running : p.enabled = true → d.state = .running
  configured : d.state ≠ .uninitialized → d.timeoutMs = p.divider.timeoutMs ∧ p.Timed

/-- A rig of this family between two requests. -/
abbrev Settled (r : Rig Peripheral Command) : Prop :=
  r.Settled Peripheral.Sound Books

/-! ## The peripheral on its own -/

theorem sound_fresh : Peripheral.Sound {} :=
  ⟨nofun, fun h => absurd rfl h⟩

theorem sound_elapse {p : Peripheral} (h : p.Sound) (time : Duration) :
    (p.elapse time).Sound :=
  ⟨h.enabled, h.written⟩

theorem sound_expire {p : Peripheral} (h : p.Sound) : p.expire.1.Sound := by
  unfold Peripheral.expire
  split
  · exact ⟨h.enabled, h.written⟩
  · exact ⟨nofun, h.written⟩

theorem books_expire {d : Driver} {p : Peripheral} (h : Books d p) :
    Books d p.expire.1 := by
  unfold Peripheral.expire
  split
  · exact ⟨h.running, h.configured⟩
  · exact ⟨nofun, h.configured⟩

/-! ## A new driver -/

theorem books_adopt {p : Peripheral} (h : p.Sound) : Books (adopt p).1 p := by
  unfold adopt
  split
  · next he => exact ⟨fun _ => rfl, fun _ => ⟨rfl, h.enabled he⟩⟩
  · next he => exact ⟨fun h => absurd h he, fun h => absurd rfl h⟩

/-! ## Single calls -/

/-- Divider and period are as they were. -/
structure Alike (p q : Peripheral) : Prop where
  divider : q.divider = p.divider
  period : q.countdown.period = p.countdown.period

theorem Alike.trans {p q o : Peripheral} (h : Alike p q) (h' : Alike q o) : Alike p o :=
  ⟨h'.divider.trans h.divider, h'.period.trans h.period⟩

theorem Alike.timed {p q : Peripheral} (h : Alike p q) (hp : p.Timed) : q.Timed := by
  unfold Peripheral.Timed
  rw [h.period, h.divider]
  exact hp

theorem alike_setEnabled (p : Peripheral) (on : Bool) :
    Alike p (p.write (.setEnabled on)) := by
  simp only [Peripheral.write]
  split
  · exact ⟨rfl, rfl⟩
  · split <;> exact ⟨rfl, rfl⟩

theorem alike_refresh (p : Peripheral) : Alike p (p.write .refresh) :=
  ⟨rfl, rfl⟩

theorem alike_attach (p : Peripheral) (line : Interrupt.Line) :
    Alike p (p.write (.attachInterrupt line)) :=
  ⟨rfl, rfl⟩

/-- A divider that is locked stays, and one that is not takes the new period with it. -/
theorem configure_cases (p : Peripheral) (divider : Divider) (early : Bool) :
    p.dividerLocked = true ∧ p.write (.configure divider early) = p ∨
      p.dividerLocked = false ∧ (p.write (.configure divider early)).divider = divider ∧
        (p.write (.configure divider early)).Timed := by
  cases hl : p.dividerLocked with
  | true => exact .inl ⟨rfl, if_pos hl⟩
  | false =>
      have hw : p.write (.configure divider early) =
          { p with
            divider, earlyInterrupt := early, earlyFired := false
            countdown := .ofPeriod (Peripheral.periodOf divider) } :=
        if_neg (by simp [hl])
      rw [hw]
      exact .inr ⟨rfl, rfl, rfl⟩

theorem enabled_of_disable {p : Peripheral}
    (h : (p.write (.setEnabled false)).enabled = true) : p.enabled = true := by
  by_cases hs : p.enableStuck = true
  · rwa [show p.write (.setEnabled false) = p from if_pos hs] at h
  · rw [show p.write (.setEnabled false) = { p with enabled := false } by
      simp [Peripheral.write, hs]] at h
    cases h

/-! ## Starting, stopping, feeding -/

/-- Starting what runs already does nothing. -/
theorem start_of_enabled {p : Peripheral} {driver : Driver} (hs : driver.state = .running)
    (hr : Interface.isEnabled p = true) :
    start { driver, hardware := p } = (.ok (), { driver, hardware := p }) :=
  (start_ways _).eq_done hs hr

/-- Whatever the enable bit, a driver that runs has the books in order as long as they
name the divider and the counter has its period. -/
theorem settled_of_running {r : Rig Peripheral Command} (hs : r.driver.state = .running)
    (hms : r.driver.timeoutMs = r.hardware.divider.timeoutMs) (ht : r.hardware.Timed)
    (hq : r.raised = []) : Settled r :=
  ⟨⟨fun _ => ht, fun _ => ht⟩, ⟨fun _ => hs, fun _ => ⟨hms, ht⟩⟩, hq⟩

theorem settled_launch {r : Rig Peripheral Command} (h : Settled r)
    (hs : r.driver.state ≠ .uninitialized) : Settled (launch r).2 := by
  obtain ⟨hms, ht⟩ := h.books.configured hs
  have ha : Alike r.hardware (write (.setEnabled true) r).hardware :=
    alike_setEnabled r.hardware true
  have ht' := ha.timed ht
  have hms' : r.driver.timeoutMs =
      (write (.setEnabled true) r).hardware.divider.timeoutMs := by rw [ha.divider, hms]
  cases launch_ways r with
  | starts _ eq => exact eq ▸ settled_of_running rfl hms' ht' h.quiet
  | fails reads eq =>
      exact eq ▸ ⟨⟨fun _ => ht', fun _ => ht'⟩,
        ⟨fun hr => absurd (reads.symm.trans hr) nofun, fun _ => ⟨hms', ht'⟩⟩, h.quiet⟩

theorem settled_start {r : Rig Peripheral Command} (h : Settled r) :
    Settled (start r).2 := by
  cases start_ways r with
  | unready _ eq => exact eq ▸ h
  | runs _ _ eq => exact eq ▸ h
  | launches past _ eq => exact eq ▸ settled_launch h past

/-- A counter that reads disabled may be entered as stopped. -/
theorem settled_settle {r : Rig Peripheral Command} (h : Settled r)
    (he : r.hardware.enabled = false) : Settled (settle r).2 := by
  unfold settle
  split
  · next hs =>
      refine ⟨h.sound, ⟨fun hr => ?_, fun _ => ?_⟩, h.quiet⟩
      · exact absurd (he.symm.trans hr) nofun
      · exact h.books.configured (by simp [hs])
  · exact h

theorem settled_disable {r : Rig Peripheral Command} (h : Settled r) :
    Settled (write (.setEnabled false) r) := by
  have ha : Alike r.hardware (write (.setEnabled false) r).hardware :=
    alike_setEnabled r.hardware false
  refine ⟨⟨fun he => ?_, fun hw => ?_⟩, ⟨fun he => ?_, fun hs => ?_⟩, h.quiet⟩
  · exact ha.timed (h.sound.enabled (enabled_of_disable he))
  · exact ha.timed (h.sound.written (ha.divider ▸ hw))
  · exact h.books.running (enabled_of_disable he)
  · obtain ⟨hms, ht⟩ := h.books.configured hs
    exact ⟨by rw [ha.divider]; exact hms, ha.timed ht⟩

theorem settled_stop {r : Rig Peripheral Command} (h : Settled r) :
    Settled (stop r).2 := by
  unfold stop
  split
  · cases confirm_ways false (write (.setEnabled false) r) _ with
    | agrees reads eq => exact eq ▸ settled_settle ((settled_disable h).note _ _) reads
    | differs _ eq => exact eq ▸ (settled_disable h).note _ _
  · next he => exact settled_settle h (Bool.eq_false_iff.mpr he)

theorem settled_feed {r : Rig Peripheral Command} (h : Settled r) :
    Settled (write .refresh r) :=
  ⟨⟨h.sound.enabled, h.sound.written⟩, ⟨h.books.running, h.books.configured⟩, h.quiet⟩

theorem settled_refresh {r : Rig Peripheral Command} (h : Settled r) :
    Settled (refresh r).2 := by
  unfold refresh
  split
  · exact settled_feed h
  · exact h

/-! ## Programming -/

/-- What programming leaves: the divider and its period, unless the register is locked
and keeps what it had. Nothing is enabled that was not. -/
structure Programmed (r r' : Rig Peripheral Command) (divider : Divider) : Prop where
  driver : r'.driver = r.driver
  raised : r'.raised = r.raised
  enabled : r'.hardware.enabled = true → r.hardware.enabled = true
  took : Alike r.hardware r'.hardware ∧ r'.hardware.dividerLocked = true ∨
    r'.hardware.divider = divider ∧ r'.hardware.Timed

theorem programmed_configure (r : Rig Peripheral Command) (divider : Divider)
    (early : Bool) : Programmed r (write (.configure divider early) r) divider := by
  rcases configure_cases r.hardware divider early with ⟨hl, hw⟩ | ⟨hl, hd, ht⟩
  · have hw' : (write (.configure divider early) r).hardware = r.hardware := hw
    refine ⟨rfl, rfl, fun he => hw' ▸ he, .inl ⟨?_, hw' ▸ hl⟩⟩
    rw [hw']
    exact ⟨rfl, rfl⟩
  · refine ⟨rfl, rfl, fun he => ?_, .inr ⟨hd, ht⟩⟩
    have hw : (write (.configure divider early) r).hardware.enabled =
        r.hardware.enabled := by
      show (if r.hardware.dividerLocked = true then _ else _ : Peripheral).enabled = _
      split <;> rfl
    exact hw ▸ he

theorem programmed_program (r : Rig Peripheral Command) (divider : Divider)
    (line : Option Interrupt.Line) (live : Bool) :
    Programmed r (program divider line live r) divider := by
  have hoff : ∀ early, Programmed r
      (write (.configure divider early) (if live then write (.setEnabled false) r else r))
      divider := by
    intro early
    cases live with
    | false => exact programmed_configure r divider early
    | true =>
        have hc := programmed_configure (write (.setEnabled false) r) divider early
        refine ⟨hc.driver, hc.raised, fun he => enabled_of_disable (hc.enabled he), ?_⟩
        exact hc.took.imp_left fun ⟨ha, hl⟩ =>
          ⟨(alike_setEnabled r.hardware false).trans ha, hl⟩
  unfold program
  cases line with
  | none => exact hoff _
  | some line =>
      have hc := hoff true
      exact ⟨hc.driver, hc.raised, hc.enabled,
        hc.took.imp_left fun ⟨ha, hl⟩ => ⟨ha.trans (alike_attach _ line), hl⟩⟩

/-- What reads back as a divider that was searched for has its period: it took, or it is
locked and was written before. -/
theorem timed_of_programmed {r r' : Rig Peripheral Command} {ms : UInt32} {divider : Divider}
    (hs : r.hardware.Sound) (hp : Programmed r r' divider)
    (hfound : Divider.forMillis? ms = some divider) (hread : r'.hardware.divider = divider) :
    r'.hardware.Timed := by
  rcases hp.took with ⟨ha, -⟩ | ⟨-, ht⟩
  · have hsame : r.hardware.divider = divider := ha.divider.symm.trans hread
    exact ha.timed (hs.written (hsame ▸ (Divider.forMillis?_sound hfound).1))
  · exact ht

/-- Enabling anew keeps divider and period, whether or not the bit takes. -/
theorem settled_resume {r : Rig Peripheral Command}
    {next : Rig Peripheral Command → Served Peripheral Command}
    (hs : r.driver.state = .running)
    (hms : r.driver.timeoutMs = r.hardware.divider.timeoutMs) (ht : r.hardware.Timed)
    (hq : r.raised = []) (hn : ∀ r', Settled r' → Settled (next r').2) :
    Settled (resume r next).2 := by
  have ha : Alike r.hardware (write .refresh (write (.setEnabled true) r)).hardware :=
    (alike_setEnabled r.hardware true).trans (alike_refresh _)
  have h : Settled (write .refresh (write (.setEnabled true) r)) :=
    settled_of_running hs (by rw [ha.divider]; exact hms) (ha.timed ht) hq
  unfold resume
  cases confirm_ways true (write .refresh (write (.setEnabled true) r)) next with
  | agrees _ eq => exact eq ▸ hn _ h
  | differs _ eq => exact eq ▸ h.note _ _

theorem settled_commit {r : Rig Peripheral Command} {divider : Divider} {live : Bool}
    (hs : live = true → r.driver.state = .running)
    (hoff : live = false → r.hardware.enabled = false)
    (hd : r.hardware.divider = divider) (ht : r.hardware.Timed) (hq : r.raised = [])
    (c : Record.Config) : Settled (commit c divider live r).2 := by
  unfold commit
  cases live with
  | true =>
      exact settled_resume (hs rfl) (by rw [← hd]; rfl) ht hq fun r' h => h.note _ _
  | false =>
      refine ⟨⟨fun _ => ht, fun _ => ht⟩, ⟨fun he => ?_, fun _ => ?_⟩, hq⟩
      · exact absurd ((hoff rfl).symm.trans he) nofun
      · exact ⟨by rw [← hd]; rfl, ht⟩

/-- A divider that did not take is locked, so writing the previous one back changes
nothing either. -/
theorem settled_restore {r : Rig Peripheral Command} {live : Bool} (h : Settled r)
    (hs : live = true → r.driver.state = .running)
    (hl : r.hardware.dividerLocked = true) (divider : Divider) (early : Bool) :
    Settled (restore divider early live r).2 := by
  have hw : (write (.configure divider early) r).hardware = r.hardware := if_pos hl
  unfold restore
  cases live with
  | true =>
      obtain ⟨hms, ht⟩ := h.books.configured (by simp [hs rfl])
      exact settled_resume (hs rfl) (by rw [← hw] at hms; exact hms)
        (by rw [← hw] at ht; exact ht) h.quiet fun r' h => h
  | false =>
      have h' : Settled (write (.configure divider early) r) :=
        ⟨hw ▸ h.sound, hw ▸ h.books, h.quiet⟩
      exact h'.note _ _

/-- The divider did not take, so programming came to nothing but that the counter is off. -/
theorem settled_of_locked {r r' : Rig Peripheral Command} (h : Settled r) {divider : Divider}
    (hp : Programmed r r' divider) (ha : Alike r.hardware r'.hardware) : Settled r' := by
  refine ⟨⟨fun he => ?_, fun hw => ?_⟩, ⟨fun he => ?_, fun hu => ?_⟩, hp.raised.trans h.quiet⟩
  · exact ha.timed (h.sound.enabled (hp.enabled he))
  · exact ha.timed (h.sound.written (ha.divider ▸ hw))
  · rw [hp.driver]
    exact h.books.running (hp.enabled he)
  · rw [hp.driver] at hu ⊢
    obtain ⟨hms, ht⟩ := h.books.configured hu
    exact ⟨by rw [ha.divider]; exact hms, ha.timed ht⟩

theorem settled_init {r : Rig Peripheral Command} (h : Settled r) (c : Record.Config) :
    Settled (init c r).2 := by
  cases init_ways c r with
  | turnedAway away => exact h.turnedAway away
  | @takes divider line _ found _ reads eq =>
      have hp := programmed_program r divider line (r.driver.state = .running)
      refine eq ▸ settled_commit (fun hlive => ?_) (fun hidle => ?_) reads
        (timed_of_programmed h.sound hp found reads) (hp.raised.trans h.quiet) c
      · rw [hp.driver]
        exact of_decide_eq_true hlive
      · exact Bool.eq_false_iff.mpr fun he =>
          of_decide_eq_false hidle (h.books.running (hp.enabled he))
  | @differs divider line _ _ _ reads eq =>
      have hp := programmed_program r divider line (r.driver.state = .running)
      obtain ⟨ha, hl⟩ := hp.took.resolve_right fun ⟨hd, _⟩ => reads hd
      refine eq ▸ settled_restore (settled_of_locked h hp ha) (fun hlive => ?_) hl _ _
      rw [hp.driver]
      exact of_decide_eq_true hlive

theorem settled_serve {r : Rig Peripheral Command} (h : Settled r) (q : Request) :
    Settled (serve r q).2 := by
  cases q with
  | init c => exact settled_init h c
  | setTimeout timeout => exact settled_init h _
  | start => exact settled_start h
  | stop => exact settled_stop h
  | refresh => exact settled_refresh h

theorem refresh_of_enabled {d : Driver} {p : Peripheral} (hp : p.Sound) (h : Books d p)
    (he : p.enabled = true) :
    serve { driver := d, hardware := p } .refresh =
      (.ok (), write .refresh { driver := d, hardware := p }) ∧
    (p.write .refresh).countdown = .ofPeriod (Peripheral.periodOf p.divider) := by
  refine ⟨?_, ?_⟩
  · show (if d.state = .running then _ else _) = _
    rw [if_pos (h.running he)]
    rfl
  · rw [← hp.enabled he]
    rfl

end TwoTierWatchdog.Rtl872x
