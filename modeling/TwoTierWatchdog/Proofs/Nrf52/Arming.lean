import TwoTierWatchdog.Proofs.Checks
import TwoTierWatchdog.Proofs.Nrf52.Books
import TwoTierWatchdog.Proofs.Nrf52.Reload
import TwoTierWatchdog.Proofs.Trace

/-!
# Arming an nRF52840 watchdog

What `init` and `start` make of a peripheral that does not run, and what a driver does to
one that does.
-/

namespace TwoTierWatchdog.Nrf52

/-- A peripheral that counts for a driver, with so much left of its period. -/
structure Armed (hardReset : Bool) (line : Interrupt.Line) (c : Countdown) (resets : Nat)
    (p : Peripheral) : Prop where
  running : p.running = true
  fed : p.Fed
  countdown : p.countdown = c
  resets : p.resets = resets
  line : p.line = if hardReset then none else some line

variable {hardReset : Bool} {line : Interrupt.Line} {c : Countdown} {resets : Nat}
  {p : Peripheral}

theorem le_periodOf {d : Duration} (h : d.millisCeil ≤ maxTimeoutMs) {crv : UInt32}
    (hcrv : crvForMillis? d.millisCeil = some crv) :
    d.nanos ≤ (Peripheral.periodOf crv).nanos :=
  Nat.le_trans (Duration.nanos_le h (by decide))
    (Ticks.le_toNanos (by decide) (by decide) (crvForMillis?_sound hcrv))

/-- A driver that was never configured, over a peripheral that does not run, has no line
on its vector and has no fault. -/
structure Ready (line : Interrupt.Line) (d : Driver) (p : Peripheral) : Prop where
  line : d.line = some line
  blank : d.state = .uninitialized
  off : p.running = false
  heedful : p.startIgnored = false
  detached : p.line = none

variable {driver : Driver}

theorem init_of_pass (hl : driver.line = some line) {config : Record.Config} {crv : UInt32}
    (hr : p.running = false) (hcheck : (profile p).refusal? driver.state config = none)
    (hcrv : crvForMillis? config.timeoutMs = some crv) :
    ∃ r, init config { driver, hardware := p } = (.ok (), r) ∧
      r.raised = [] ∧ r.driver.state = .configured ∧
      r.hardware = { p with
        crv, runInSleep := true, runInHalt := false
        channels := p.channels ||| Peripheral.channelBit reloadChannel
        line := if config.hardReset then p.line else some line } := by
  have hline := Driver.lineFor?_of_bound hl config
  obtain ⟨hw, -, hq⟩ := program_eq (r := { driver, hardware := p }) hr crv
    (if config.hardReset then none else some line)
  obtain ⟨text, eq⟩ := init_eq (r := { driver, hardware := p }) hcheck hcrv hline
  refine ⟨_, eq, hq, rfl, ?_⟩
  show (program crv _ _).hardware = _
  rw [hw]
  cases config.hardReset <;> rfl

theorem start_of_configured (hs : driver.state = .configured)
    (hr : p.running = false) (hi : p.startIgnored = false) :
    ∃ r, start { driver, hardware := p } = (.ok (), r) ∧ r.raised = [] ∧
      r.driver.state = .running ∧ r.hardware = { p with
        running := true, countdown := .ofPeriod (Peripheral.periodOf p.crv) } := by
  have hw : (write .start { driver, hardware := p }).hardware = { p with
      running := true, countdown := .ofPeriod (Peripheral.periodOf p.crv) } :=
    if_neg (by simp [hr, hi])
  rw [(start_ways _).eq_launched hs]
  cases launch_ways { driver, hardware := p } with
  | starts _ eq => exact ⟨_, eq, rfl, rfl, hw⟩
  | fails reads =>
      rw [hw] at reads
      cases reads

/-- A peripheral with a period that the driver programmed, and nothing but the start
still to come. -/
structure Primed (hardReset : Bool) (line : Interrupt.Line) (d : Duration) (resets : Nat)
    (driver : Driver) (p : Peripheral) : Prop where
  configured : driver.state = .configured
  off : p.running = false
  fed : p.Fed
  period : d.nanos ≤ (Peripheral.periodOf p.crv).nanos
  resets : p.resets = resets
  line : p.line = if hardReset then none else some line

/-- What `init` makes of a peripheral that does not run, whether it heeds the start that
is to follow or not. -/
theorem primed_of_init (hl : driver.line = some line) (hs : driver.state = .uninitialized)
    (hoff : p.running = false) (hnone : p.line = none) {d : Duration}
    (hmode : hardReset = true ∨ p.vectorClaimed = false) (h0 : d.nanos ≠ 0)
    (hmax : d.millisCeil ≤ maxTimeoutMs) :
    ∃ r, init (.ofTimeout d hardReset) { driver, hardware := p } = (.ok (), r) ∧
      r.raised = [] ∧ r.hardware.startIgnored = p.startIgnored ∧
      Primed hardReset line d p.resets r.driver r.hardware := by
  have hms : d.millisCeil ≠ 0 := mt Duration.millisCeil_eq_zero_iff.mp h0
  obtain ⟨crv, hcrv⟩ := crvForMillis?_of_le hms hmax
  have hcheck : (profile p).refusal? driver.state (.ofTimeout d hardReset) = none := by
    refine Profile.refusal?_of_le (.inl hs) (show minTimeoutMs = 1 by decide) ?_ h0 hmax
    refine hmode.imp_right fun hm => ?_
    have hv : Interface.vectorAvailable p = true := by
      show (!p.vectorClaimed) = true
      rw [hm]
      rfl
    rw [profile, if_pos hv]
    decide
  obtain ⟨r, hinit, hq, hstate, hhardware⟩ := init_of_pass hl hoff hcheck hcrv
  refine ⟨r, hinit, hq, by rw [hhardware], ?_⟩
  rw [hhardware]
  exact ⟨hstate, hoff, fed_enable p.channels, le_periodOf hmax hcrv, rfl, by rw [hnone]; rfl⟩

theorem Primed.start {d : Duration} (h : Primed hardReset line d resets driver p)
    (hi : p.startIgnored = false) :
    ∃ r, start { driver, hardware := p } = (.ok (), r) ∧ r.raised = [] ∧
      r.driver.state = .running ∧ ∃ period : Duration, d.nanos ≤ period.nanos ∧
        Armed hardReset line (.ofPeriod period) resets r.hardware := by
  obtain ⟨r, hstart, hq, hstate, hhardware⟩ := start_of_configured h.configured h.off hi
  refine ⟨r, hstart, hq, hstate, Peripheral.periodOf p.crv, h.period, ?_⟩
  rw [hhardware]
  exact ⟨rfl, h.fed, rfl, h.resets, h.line⟩

/-- A start that the peripheral ignores is found out, and changes nothing. -/
theorem Primed.start_of_ignored {d : Duration}
    (h : Primed hardReset line d resets driver p) (hi : p.startIgnored = true) :
    ∃ r, Nrf52.start { driver, hardware := p } = (.error .internal, r) ∧
      r.driver = driver ∧ r.hardware = p := by
  have hw : (write .start { driver, hardware := p }).hardware = p := if_pos (by simp [hi])
  rw [(start_ways _).eq_launched h.configured]
  cases launch_ways { driver, hardware := p } with
  | starts reads =>
      rw [hw] at reads
      cases reads.symm.trans h.off
  | fails _ eq => exact ⟨_, eq, rfl, hw⟩

theorem Primed.heeding {d : Duration} (h : Primed hardReset line d resets driver p) :
    Primed hardReset line d resets driver { p with startIgnored := false } :=
  ⟨h.configured, h.off, h.fed, h.period, h.resets, h.line⟩

/-- There is no second configuration. -/
theorem init_of_configured (hs : driver.state = .configured) {d : Duration}
    (h0 : d.nanos ≠ 0) :
    ∃ r, init (.ofTimeout d hardReset) { driver, hardware := p } = (.error .invalidState, r) ∧
      r.driver = driver ∧ r.hardware = p := by
  have hwhy : (profile p).refusal? driver.state (.ofTimeout d hardReset) =
      some .alreadyConfigured := by
    rw [refusal?_of_past (by simp [hs]), if_neg (mt Profile.malformed_ofTimeout.mp h0)]
  exact ⟨_, init_of_refusal (r := { driver, hardware := p }) hwhy, rfl, rfl⟩

/-- A peripheral that does not run, configured and started: it counts a period that is no
shorter than what was asked for. -/
theorem armed_of_start (h : Ready line driver p) {d : Duration}
    (hmode : hardReset = true ∨ p.vectorClaimed = false) (h0 : d.nanos ≠ 0)
    (hmax : d.millisCeil ≤ maxTimeoutMs) :
    ∃ r, init (.ofTimeout d hardReset) { driver, hardware := p } = (.ok (), r) ∧
      r.raised = [] ∧
      ∃ r', start { driver := r.driver, hardware := r.hardware } = (.ok (), r') ∧
        r'.raised = [] ∧ r'.driver.state = .running ∧
        ∃ period : Duration, d.nanos ≤ period.nanos ∧
          Armed hardReset line (.ofPeriod period) p.resets r'.hardware := by
  obtain ⟨r, hinit, hq, hheed, hprimed⟩ :=
    primed_of_init h.line h.blank h.off h.detached hmode h0 hmax
  obtain ⟨r', hstart⟩ := hprimed.start (hheed.trans h.heedful)
  exact ⟨r, hinit, hq, r', hstart⟩

/-- A configuration that passes the checks, over a peripheral that does not run: it is
written, and started as written. -/
theorem started_of_pass (hl : driver.line = some line) (hr : p.running = false)
    (hi : p.startIgnored = false) {config : Record.Config}
    (hcheck : (profile p).refusal? driver.state config = none) :
    ∃ r, init config { driver, hardware := p } = (.ok (), r) ∧ r.raised = [] ∧
      ∃ r', start { driver := r.driver, hardware := r.hardware } = (.ok (), r') ∧
        r'.raised = [] ∧ r'.driver.state = .running ∧
        ∃ crv, config.timeout.nanos ≤ (Peripheral.periodOf crv).nanos ∧
          r'.hardware = { p with
            crv, runInSleep := true, runInHalt := false
            channels := p.channels ||| Peripheral.channelBit reloadChannel
            line := if config.hardReset then p.line else some line
            running := true, countdown := .ofPeriod (Peripheral.periodOf crv) } := by
  obtain ⟨h0, hmax, -, -⟩ := Profile.refusal?_eq_none hcheck
  obtain ⟨crv, hcrv⟩ := crvForMillis?_of_le h0 hmax
  obtain ⟨r, hinit, hq, hstate, hhardware⟩ := init_of_pass hl hr hcheck hcrv
  obtain ⟨r', hstart, hq', hstate', hhardware'⟩ := start_of_configured hstate
    (show r.hardware.running = false by rw [hhardware]; exact hr)
    (show r.hardware.startIgnored = false by rw [hhardware]; exact hi)
  refine ⟨r, hinit, hq, r', hstart, hq', hstate', crv, ?_, ?_⟩
  · exact Ticks.le_toNanos (by decide) (by decide) (crvForMillis?_sound hcrv)
  · rw [hhardware', hhardware]

theorem start_of_armed (h : Armed hardReset line c resets p)
    (hs : driver.state = .running) :
    start { driver, hardware := p } = (.ok (), { driver, hardware := p }) :=
  start_of_running hs h.running

theorem refresh_of_armed (h : Armed hardReset line c resets p)
    (hs : driver.state = .running) :
    ∃ r, refresh { driver, hardware := p } = (.ok (), r) ∧ r.driver = driver ∧
      r.raised = [] ∧ Armed hardReset line c.reload resets r.hardware := by
  have hw : (write (.feed reloadChannel) { driver, hardware := p }).hardware = { p with
      countdown := p.countdown.reload, feeds := p.feeds + 1 } := by
    refine if_pos ?_
    rw [h.running, Bool.true_and, bne_iff_ne]
    exact h.fed
  refine ⟨_, if_pos hs, rfl, rfl, ?_⟩
  rw [hw]
  exact ⟨h.running, h.fed, by rw [← h.countdown], h.resets, h.line⟩

theorem armed_elapse (h : Armed hardReset line c resets p) (time : Duration) :
    Armed hardReset line (c.elapse time) resets (p.elapse time) :=
  ⟨h.running, h.fed, by rw [← h.countdown]; rfl, h.resets, h.line⟩

end TwoTierWatchdog.Nrf52
