import TwoTierWatchdog.Nrf52.Driver
import TwoTierWatchdog.Nrf52.Peripheral
import TwoTierWatchdog.Proofs.Settled

/-!
# The books on an nRF52840 watchdog

What a driver's books and the registers say about each other, and that every request
keeps it so.

The reload value can only be written before the start, and starting is one-way; a
driver that finds the counter stopped does not know whether it configured it. That a
counter runs only with its reload channel enabled comes from the order of the driver's
calls: `init` enables the channel, and no start comes before an `init`. A power cycle
takes the channel away under a driver that is past its `init`, so what the books know
of a counter that does not run is claimed only while the power stays on.
-/

namespace TwoTierWatchdog.Nrf52

/-- The reload channel that the driver feeds is enabled. -/
def Peripheral.Fed (p : Peripheral) : Prop :=
  p.channels &&& Peripheral.channelBit reloadChannel ≠ 0

/-- A counter that runs counts the period of its reload value and can be fed. -/
structure Peripheral.Sound (p : Peripheral) : Prop where
  fed : p.running = true → p.Fed
  period : p.running = true → p.countdown.period = Peripheral.periodOf p.crv

/-- The books agree with the registers. -/
structure Books (powered : Bool) (d : Driver) (p : Peripheral) : Prop where
  running : p.running = true → d.state = .running
  reported : p.running = true → d.timeoutMs = millisForCrv p.crv
  configured : powered = true → d.state ≠ .uninitialized →
    d.timeoutMs = millisForCrv p.crv ∧ p.Fed

/-- A rig of this family between two requests. -/
abbrev Settled (r : Rig Peripheral Command) : Prop :=
  r.Settled Peripheral.Sound (Books true)

/-! ## The peripheral on its own -/

theorem sound_fresh (vectorClaimed : Bool) :
    Peripheral.Sound { vectorClaimed } :=
  ⟨nofun, nofun⟩

theorem sound_elapse {p : Peripheral} (h : p.Sound) (time : Duration) :
    (p.elapse time).Sound :=
  ⟨h.fed, h.period⟩

theorem sound_reset {p : Peripheral} (h : p.Sound) : p.reset.1.Sound :=
  ⟨h.fed, h.period⟩

theorem sound_powerCycle (p : Peripheral) : p.powerCycle.Sound :=
  sound_fresh p.vectorClaimed

theorem fed_enable (channels : UInt8) :
    (channels ||| Peripheral.channelBit reloadChannel) &&&
      Peripheral.channelBit reloadChannel ≠ 0 := by
  have hbit : Peripheral.channelBit reloadChannel = 1 := by decide
  rw [hbit]
  intro h
  have h' := congrArg UInt8.toBitVec h
  have h0 := congrArg (fun b : BitVec 8 => b.getLsbD 0) h'
  simp at h0

/-! ## A new driver -/

theorem books_adopt (p : Peripheral) (h : p.Sound) : Books true (adopt p).1 p := by
  by_cases hr : p.running = true
  · have ha : (adopt p).1 = { state := .running, timeoutMs := millisForCrv p.crv } := by
      unfold adopt
      rw [if_pos (show Interface.isRunning p = true from hr)]
      rfl
    rw [ha]
    exact ⟨fun _ => rfl, fun _ => rfl, fun _ _ => ⟨rfl, h.fed hr⟩⟩
  · have ha : (adopt p).1 = {} := by
      unfold adopt
      rw [if_neg (show ¬ Interface.isRunning p = true from hr)]
    rw [ha]
    exact ⟨fun h => absurd h hr, fun h => absurd h hr, fun _ h => absurd rfl h⟩

/-! ## One request -/

/-- Starting what runs already does nothing. -/
theorem start_of_running {π : Type} [Interface π] {p : π} {driver : Driver}
    (hs : driver.state = .running) (hr : Interface.isRunning p = true) :
    start { driver, hardware := p } = (.ok (), { driver, hardware := p }) :=
  (start_ways _).eq_done hs hr

/-- Feeding reloads the counter and leaves the registers alone. -/
theorem settled_feed {r : Rig Peripheral Command} (h : Settled r) :
    Settled (write (.feed reloadChannel) r) := by
  refine ⟨?_, ?_, ?_⟩
  · show Peripheral.Sound (if _ then _ else _)
    split
    · exact ⟨h.sound.fed, h.sound.period⟩
    · exact h.sound
  · show Books true r.driver (if _ then _ else _)
    split
    · exact ⟨h.books.running, h.books.reported, h.books.configured⟩
    · exact h.books
  · exact (List.append_nil _).trans h.quiet

/-- Starting lets the counter run on the period of the reload value; with the books past
`init`, that is the period in the books. -/
theorem settled_launch {r : Rig Peripheral Command} (h : Settled r)
    (hs : r.driver.state ≠ .uninitialized) : Settled (launch r).2 := by
  obtain ⟨hms, hfed⟩ := h.books.configured rfl hs
  have hquiet : r.raised ++ [] = [] := (List.append_nil _).trans h.quiet
  by_cases hoff : (r.hardware.startIgnored || r.hardware.running) = true
  · have hw : (write .start r).hardware = r.hardware := if_pos hoff
    cases launch_ways r with
    | starts _ eq =>
        exact eq ▸ ⟨hw ▸ h.sound,
          ⟨fun _ => rfl, fun _ => hw ▸ hms, fun _ _ => hw ▸ ⟨hms, hfed⟩⟩, hquiet⟩
    | fails _ eq => exact eq ▸ ⟨hw ▸ h.sound, hw ▸ h.books, hquiet⟩
  · have hw : (write .start r).hardware =
        { r.hardware with
          running := true
          countdown := .ofPeriod (Peripheral.periodOf r.hardware.crv) } := if_neg hoff
    cases launch_ways r with
    | starts _ eq =>
        exact eq ▸ ⟨hw ▸ ⟨fun _ => hfed, fun _ => rfl⟩,
          ⟨fun _ => rfl, fun _ => hw ▸ hms, fun _ _ => hw ▸ ⟨hms, hfed⟩⟩, hquiet⟩
    | fails reads =>
        rw [hw] at reads
        cases reads

theorem settled_start {r : Rig Peripheral Command} (h : Settled r) :
    Settled (start r).2 := by
  cases start_ways r with
  | unready _ eq => exact eq ▸ h
  | runs _ _ eq => exact eq ▸ h
  | launches past _ eq => exact eq ▸ settled_launch h past

/-- Programming a counter that does not run: the reload value lands, the channel is
enabled, and nothing is raised. -/
theorem program_eq {r : Rig Peripheral Command} (hr : r.hardware.running = false)
    (crv : UInt32) (line : Option Interrupt.Line) :
    (program crv line r).hardware =
        { r.hardware with
          crv, runInSleep := true, runInHalt := false
          channels := r.hardware.channels ||| Peripheral.channelBit reloadChannel
          line := line.orElse fun _ => r.hardware.line } ∧
      (program crv line r).driver = r.driver ∧
      (program crv line r).raised = r.raised := by
  have hcrv : Interface.write (.setReloadValue crv) r.hardware =
      { r.hardware with crv } := if_neg (by simp [hr])
  cases line with
  | none =>
      simp only [program, write, hcrv]
      exact ⟨rfl, trivial, by simp [Interface.raised]⟩
  | some line =>
      simp only [program, write, hcrv]
      exact ⟨rfl, trivial, by simp [Interface.raised]⟩

/-- Past the first `init` no configuration gets through, and a sound one is turned away for
that reason. -/
theorem refusal?_of_past {p : Peripheral} {state : Lifecycle} (hs : state ≠ .uninitialized)
    (c : Record.Config) : (profile p).refusal? state c =
      some (if c.Malformed then .malformed else .alreadyConfigured) := by
  have hfixed : (profile p).capabilities.contains .reconfigurable = false := by
    unfold profile
    cases Interface.vectorAvailable p <;> rfl
  unfold Profile.refusal?
  split
  · rfl
  · rw [if_pos ⟨hs, hfixed⟩]

theorem refusal?_ne_none {r : Rig Peripheral Command} {c : Record.Config}
    (hs : r.driver.state ≠ .uninitialized) :
    (profile r.hardware).refusal? r.driver.state c ≠ none := by
  rw [refusal?_of_past hs]
  exact Option.some_ne_none _

theorem settled_init {r : Rig Peripheral Command} (h : Settled r) (c : Record.Config) :
    Settled (init c r).2 := by
  cases init_ways c r with
  | turnedAway away => exact h.turnedAway away
  | @takes crv line _ pass _ _ eq =>
      have hs : r.driver.state = .uninitialized :=
        Classical.byContradiction fun hs => refusal?_ne_none hs pass
      have hr : r.hardware.running = false := by
        cases hr : r.hardware.running with
        | false => rfl
        | true => rw [h.books.running hr] at hs; cases hs
      obtain ⟨hw, -, hq⟩ := program_eq hr crv line
      rw [eq]
      refine ⟨?_, ?_, hq.trans h.quiet⟩
      · show Peripheral.Sound (program crv line r).hardware
        rw [hw]
        exact ⟨fun hr' => absurd (hr.symm.trans hr') nofun,
          fun hr' => absurd (hr.symm.trans hr') nofun⟩
      · show Books true _ (program crv line r).hardware
        rw [hw]
        exact ⟨fun hr' => absurd (hr.symm.trans hr') nofun,
          fun hr' => absurd (hr.symm.trans hr') nofun,
          fun _ _ => ⟨rfl, fed_enable r.hardware.channels⟩⟩

theorem settled_refresh {r : Rig Peripheral Command} (h : Settled r) :
    Settled (refresh r).2 := by
  unfold refresh
  split
  · exact settled_feed h
  · exact h

theorem settled_serve {r : Rig Peripheral Command} (h : Settled r) (q : Request) :
    Settled (serve r q).2 := by
  cases q with
  | init c => exact settled_init h c
  | setTimeout timeout => exact settled_init h _
  | start => exact settled_start h
  | stop => exact h
  | refresh => exact settled_refresh h

/-- A counter that runs takes the feed, also after a loss of power that did not stop
it. -/
theorem refresh_of_running {powered : Bool} {d : Driver} {p : Peripheral}
    (hp : p.Sound) (h : Books powered d p) (hr : p.running = true) :
    serve { driver := d, hardware := p } .refresh =
      (.ok (), write (.feed reloadChannel) { driver := d, hardware := p }) ∧
    (write (.feed reloadChannel) { driver := d, hardware := p }).hardware =
      { p with
        countdown := .ofPeriod (Peripheral.periodOf p.crv), feeds := p.feeds + 1 } := by
  refine ⟨?_, ?_⟩
  · show (if d.state = .running then _ else _) = _
    rw [if_pos (h.running hr)]
    rfl
  · show (if (p.running && p.channels &&& Peripheral.channelBit reloadChannel != 0) = true
      then _ else p) = _
    have hfed : (p.channels &&& Peripheral.channelBit reloadChannel != 0) = true :=
      bne_iff_ne.mpr (hp.fed hr)
    rw [hr, hfed, ← hp.period hr]
    rfl

end TwoTierWatchdog.Nrf52
