import TwoTierWatchdog.Proofs.Checks
import TwoTierWatchdog.Proofs.Rtl872x.Books

/-!
# Arming an RTL872x watchdog

What `init` and `start` make of a peripheral that is off, and what a driver does to one
that runs.
-/

namespace TwoTierWatchdog.Rtl872x

/-- A peripheral that counts for a driver, with so much left of its period. -/
structure Armed (hardReset : Bool) (line : Interrupt.Line) (c : Countdown) (resets : Nat)
    (p : Peripheral) : Prop where
  enabled : p.enabled = true
  countdown : p.countdown = c
  resets : p.resets = resets
  early : p.earlyInterrupt = !hardReset
  unfired : p.earlyFired = false
  line : hardReset = false → p.line = some line

variable {hardReset : Bool} {line : Interrupt.Line} {c : Countdown} {resets : Nat}
  {p : Peripheral}

theorem le_periodOf {d : Duration} (h : d.millisCeil ≤ maxTimeoutMs) {divider : Divider}
    (hdivider : Divider.forMillis? d.millisCeil = some divider) :
    d.nanos ≤ (Peripheral.periodOf divider).nanos :=
  Nat.le_trans (Duration.nanos_le h (by decide))
    (Ticks.le_toNanos (by decide) (by decide) (Divider.forMillis?_sound hdivider).2)

/-- A driver that does not run, over a peripheral that is off and has no fault. -/
structure Ready (line : Interrupt.Line) (d : Driver) (p : Peripheral) : Prop where
  line : d.line = some line
  idle : d.state ≠ .running
  off : p.enabled = false
  free : p.enableStuck = false
  unlocked : p.dividerLocked = false

variable {driver : Driver}

theorem init_of_pass (hl : driver.line = some line) (hs : driver.state ≠ .running)
    (hu : p.dividerLocked = false) {config : Record.Config} {divider : Divider}
    (hcheck : profile.refusal? driver.state config = none)
    (hdivider : Divider.forMillis? config.timeoutMs = some divider) :
    ∃ r, init config { driver, hardware := p } = (.ok (), r) ∧
      r.raised = [] ∧ r.driver.state = .configured ∧
      r.hardware = { p with
        divider, earlyInterrupt := !config.hardReset, earlyFired := false
        countdown := .ofPeriod (Peripheral.periodOf divider)
        line := if config.hardReset then p.line else some line } := by
  have hline := Driver.lineFor?_of_bound hl config
  have hw : (program divider (if config.hardReset then none else some line) false
      { driver, hardware := p }).hardware = { p with
        divider, earlyInterrupt := !config.hardReset, earlyFired := false
        countdown := .ofPeriod (Peripheral.periodOf divider)
        line := if config.hardReset then p.line else some line } := by
    cases config.hardReset <;>
      simp [program, write, Interface.write, Peripheral.write, hu]
  have hq := (programmed_program { driver, hardware := p } divider
    (if config.hardReset then none else some line) false).raised
  rw [init_eq (r := { driver, hardware := p }) hcheck hdivider hline, decide_eq_false hs]
  dsimp only
  rw [if_pos (show Interface.divider _ = divider from congrArg Peripheral.divider hw)]
  exact ⟨_, rfl, hq, rfl, hw⟩

theorem start_of_configured (hs : driver.state = .configured)
    (he : p.enabled = false) (hk : p.enableStuck = false) :
    ∃ r, start { driver, hardware := p } = (.ok (), r) ∧ r.raised = [] ∧
      r.driver.state = .running ∧ r.hardware = { p with
        enabled := true, countdown := p.countdown.reload, earlyFired := false } := by
  have hw : (write (.setEnabled true) { driver, hardware := p }).hardware = { p with
      enabled := true, countdown := p.countdown.reload, earlyFired := false } := by
    simp [write, Interface.write, Peripheral.write, hk, he]
  rw [(start_ways _).eq_launched hs]
  cases launch_ways { driver, hardware := p } with
  | starts _ eq => exact ⟨_, eq, rfl, rfl, hw⟩
  | fails reads => cases reads.symm.trans (congrArg Peripheral.enabled hw)

/-- A peripheral that is off, configured and started: it counts a period that is no
shorter than what was asked for. -/
theorem armed_of_start (h : Ready line driver p) {d : Duration} (h0 : d.nanos ≠ 0)
    (hmax : d.millisCeil ≤ maxTimeoutMs) :
    ∃ r, init (.ofTimeout d hardReset) { driver, hardware := p } = (.ok (), r) ∧
      r.raised = [] ∧
      ∃ r', start { driver := r.driver, hardware := r.hardware } = (.ok (), r') ∧
        r'.raised = [] ∧ r'.driver.state = .running ∧
        ∃ period : Duration, d.nanos ≤ period.nanos ∧
          Armed hardReset line (.ofPeriod period) p.resets r'.hardware := by
  have hms : d.millisCeil ≠ 0 := mt Duration.millisCeil_eq_zero_iff.mp h0
  obtain ⟨divider, hdivider⟩ := Divider.forMillis?_of_le hms hmax
  have hcheck : profile.refusal? driver.state (.ofTimeout d hardReset) = none :=
    Profile.refusal?_of_le (.inr (by decide)) (by decide) (.inr (by decide)) h0 hmax
  obtain ⟨r, hinit, hq, hstate, hhardware⟩ :=
    init_of_pass h.line h.idle h.unlocked hcheck hdivider
  obtain ⟨r', hstart, hq', hstate', hhardware'⟩ := start_of_configured hstate
    (show r.hardware.enabled = false by rw [hhardware]; exact h.off)
    (show r.hardware.enableStuck = false by rw [hhardware]; exact h.free)
  refine ⟨r, hinit, hq, r', hstart, hq', hstate', Peripheral.periodOf divider,
    le_periodOf hmax hdivider, ?_⟩
  rw [hhardware', hhardware]
  refine ⟨rfl, rfl, rfl, rfl, rfl, fun hsoft => ?_⟩
  subst hsoft
  rfl

/-- A driver that runs configures its counter in place: it is disabled, written, and
enabled again with all of the new period to count. -/
theorem init_of_running (hl : driver.line = some line) (hs : driver.state = .running)
    (hk : p.enableStuck = false) (hu : p.dividerLocked = false) {config : Record.Config}
    {divider : Divider} (hcheck : profile.refusal? driver.state config = none)
    (hdivider : Divider.forMillis? config.timeoutMs = some divider) :
    ∃ r, init config { driver, hardware := p } = (.ok (), r) ∧
      r.raised = [] ∧ r.driver.state = .running ∧
      r.hardware = { p with
        divider, earlyInterrupt := !config.hardReset, earlyFired := false
        enabled := true, countdown := .ofPeriod (Peripheral.periodOf divider)
        line := if config.hardReset then p.line else some line
        refreshes := p.refreshes + 1 } := by
  have hline := Driver.lineFor?_of_bound hl config
  have hw : (program divider (if config.hardReset then none else some line) true
      { driver, hardware := p }).hardware = { p with
        divider, earlyInterrupt := !config.hardReset, earlyFired := false
        enabled := false, countdown := .ofPeriod (Peripheral.periodOf divider)
        line := if config.hardReset then p.line else some line } := by
    cases config.hardReset <;>
      simp [program, write, Interface.write, Peripheral.write, hk, hu]
  have hq := (programmed_program { driver, hardware := p } divider
    (if config.hardReset then none else some line) true).raised
  have hd := (programmed_program { driver, hardware := p } divider
    (if config.hardReset then none else some line) true).driver
  rw [init_eq (r := { driver, hardware := p }) hcheck hdivider hline, decide_eq_true hs]
  dsimp only
  rw [if_pos (show Interface.divider _ = divider from congrArg Peripheral.divider hw)]
  generalize program divider (if config.hardReset then none else some line) true
    { driver, hardware := p } = r at hw hq hd
  have hresumed : (write .refresh (write (.setEnabled true) r)).hardware = { p with
      divider, earlyInterrupt := !config.hardReset, earlyFired := false
      enabled := true, countdown := .ofPeriod (Peripheral.periodOf divider)
      line := if config.hardReset then p.line else some line
      refreshes := p.refreshes + 1 } := by
    simp only [write, Interface.write, hw]
    simp [Peripheral.write, hk, Countdown.reload, Countdown.ofPeriod]
  unfold commit resume confirm
  dsimp only
  rw [if_pos rfl, if_pos (show Interface.isEnabled _ = true from
    congrArg Peripheral.enabled hresumed)]
  exact ⟨_, rfl, hq, (congrArg Driver.state hd).trans hs, hresumed⟩

/-- A configuration that passes the checks, over a peripheral with no fault, running or
not: it is written, and the counter has all of the new period to count. -/
theorem started_of_pass (hl : driver.line = some line) (hb : Books driver p)
    (hk : p.enableStuck = false) (hu : p.dividerLocked = false) {config : Record.Config}
    (hcheck : profile.refusal? driver.state config = none) :
    ∃ r, init config { driver, hardware := p } = (.ok (), r) ∧ r.raised = [] ∧
      ∃ r', start { driver := r.driver, hardware := r.hardware } = (.ok (), r') ∧
        r'.raised = [] ∧ r'.driver.state = .running ∧
        ∃ divider refreshes, config.timeout.nanos ≤ (Peripheral.periodOf divider).nanos ∧
          r'.hardware = { p with
            divider, earlyInterrupt := !config.hardReset, earlyFired := false
            enabled := true, countdown := .ofPeriod (Peripheral.periodOf divider)
            line := if config.hardReset then p.line else some line, refreshes } := by
  obtain ⟨h0, hmax, -, -⟩ := Profile.refusal?_eq_none hcheck
  obtain ⟨divider, hdivider⟩ := Divider.forMillis?_of_le h0 hmax
  have hlong : config.timeout.nanos ≤ (Peripheral.periodOf divider).nanos :=
    Ticks.le_toNanos (by decide) (by decide) (Divider.forMillis?_sound hdivider).2
  by_cases hs : driver.state = .running
  · obtain ⟨r, hinit, hq, hstate, hhardware⟩ :=
      init_of_running hl hs hk hu hcheck hdivider
    have hon : Interface.isEnabled r.hardware = true := by
      rw [hhardware]
      rfl
    exact ⟨r, hinit, hq, { driver := r.driver, hardware := r.hardware },
      start_of_enabled hstate hon, rfl, hstate, divider, _, hlong, hhardware⟩
  · have hoff : p.enabled = false := Bool.eq_false_iff.mpr (mt hb.running hs)
    obtain ⟨r, hinit, hq, hstate, hhardware⟩ := init_of_pass hl hs hu hcheck hdivider
    obtain ⟨r', hstart, hq', hstate', hhardware'⟩ := start_of_configured hstate
      (show r.hardware.enabled = false by rw [hhardware]; exact hoff)
      (show r.hardware.enableStuck = false by rw [hhardware]; exact hk)
    refine ⟨r, hinit, hq, r', hstart, hq', hstate', divider, p.refreshes, hlong, ?_⟩
    rw [hhardware', hhardware]
    rfl

theorem start_of_armed (h : Armed hardReset line c resets p)
    (hs : driver.state = .running) :
    start { driver, hardware := p } = (.ok (), { driver, hardware := p }) :=
  start_of_enabled hs h.enabled

theorem refresh_of_armed (h : Armed hardReset line c resets p)
    (hs : driver.state = .running) :
    ∃ r, refresh { driver, hardware := p } = (.ok (), r) ∧ r.driver = driver ∧
      r.raised = [] ∧ Armed hardReset line c.reload resets r.hardware :=
  ⟨_, if_pos hs, rfl, rfl, h.enabled, by rw [← h.countdown]; rfl, h.resets, h.early, rfl, h.line⟩

theorem armed_elapse (h : Armed hardReset line c resets p) (time : Duration) :
    Armed hardReset line (c.elapse time) resets (p.elapse time) :=
  ⟨h.enabled, by rw [← h.countdown]; rfl, h.resets, h.early, h.unfired, h.line⟩

end TwoTierWatchdog.Rtl872x
