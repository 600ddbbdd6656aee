import TwoTierWatchdog.Proofs.Checks
import TwoTierWatchdog.Proofs.Twdt.Books

/-!
# Arming a task watchdog

What `init` and `start` make of a watchdog that is off, and what a driver does to one
that runs. No fault is injected here, so no call fails.
-/

namespace TwoTierWatchdog.Twdt

/-- A watchdog that counts for a driver, with so much left of its period. -/
structure Armed (hardReset : Bool) (line : Interrupt.Line) (c : Countdown) (resets : Nat)
    (p : Peripheral) : Prop where
  subscribed : p.subscribed = true
  faultless : p.failure = none
  countdown : p.countdown = c
  resets : p.resets = resets
  panic : p.triggerPanic = hardReset
  line : hardReset = false → p.line = some line

variable {hardReset : Bool} {line : Interrupt.Line} {c : Countdown} {resets : Nat}
  {p : Peripheral}

theorem takeFailure_of_none (h : p.failure = none) : p.takeFailure = (none, p) := by
  unfold Peripheral.takeFailure
  rw [h]
  split
  · next heq _ => cases heq
  · rw [← h]
  · rfl

/-- A driver that does not run, over a watchdog that is off and has no fault to come. -/
structure Ready (line : Interrupt.Line) (d : Driver) (p : Peripheral) : Prop where
  line : d.line = some line
  idle : d.state ≠ .running
  off : p.subscribed = false
  faultless : p.failure = none

variable {driver : Driver}

/-- What `init` comes to once the line is attached and the period programmed. -/
theorem init_eq_commit (hl : driver.line = some line) (hf : p.failure = none)
    {config : Record.Config} (hcheck : profile.refusal? driver.state config = none) :
    ∃ calls, init config { driver, hardware := p } = commit config {
      driver, calls, hardware := { p with
        timeoutMs := some config.timeoutMs, triggerPanic := config.hardReset
        countdown := .ofPeriod (.ofMillis config.timeoutMs.toNat)
        line := if config.hardReset then p.line else some line } } := by
  rw [init_eq (r := { driver, hardware := p }) hcheck (Driver.lineFor?_of_bound hl config)]
  cases hmode : config.hardReset with
  | true =>
      rw [if_pos rfl, attach, reconfigure, hmode,
        write_of_act (by simp) (takeFailure_of_none hf) rfl]
      exact ⟨_, rfl⟩
  | false =>
      have hf' : ({ p with line := some line } : Peripheral).failure = none := hf
      rw [if_neg (by simp), attach, write_attach, reconfigure, hmode,
        write_of_act (by simp) (takeFailure_of_none hf') rfl]
      exact ⟨_, rfl⟩

theorem commit_of_idle (config : Record.Config) {r : Rig Peripheral Command}
    (hs : r.driver.state ≠ .running) :
    ∃ r', commit config r = (.ok (), r') ∧ r'.raised = r.raised ∧
      r'.driver.state = .configured ∧ r'.hardware = r.hardware := by
  have hs' : ¬ (r.enter fun d => { d with
      config := some config, timeoutMs := config.timeoutMs }).driver.state = .running := hs
  unfold commit
  dsimp only
  rw [if_neg hs']
  exact ⟨_, rfl, rfl, rfl, rfl⟩

theorem commit_of_running (config : Record.Config) {r : Rig Peripheral Command}
    (hs : r.driver.state = .running) (hf : r.hardware.failure = none)
    (hon : r.hardware.subscribed = true) :
    ∃ r', commit config r = (.ok (), r') ∧ r'.raised = r.raised ∧
      r'.driver.state = .running ∧ r'.hardware = { r.hardware with
        countdown := r.hardware.countdown.reload, feeds := r.hardware.feeds + 1 } := by
  have hact : r.hardware.act .reset = (.ok (), { r.hardware with
      countdown := r.hardware.countdown.reload, feeds := r.hardware.feeds + 1 }) :=
    if_pos hon
  have hs' : (r.enter fun d => { d with
      config := some config, timeoutMs := config.timeoutMs }).driver.state = .running := hs
  have ht : (r.enter fun d => { d with
      config := some config, timeoutMs := config.timeoutMs }).hardware.takeFailure =
      (none, r.hardware) := takeFailure_of_none hf
  unfold commit
  dsimp only
  rw [if_pos hs', write_of_act (by simp) ht hact]
  unfold confirm
  rw [if_pos (show Interface.isSubscribed _ = true from hon)]
  exact ⟨_, rfl, rfl, hs, rfl⟩

/-- A watchdog that is off cannot be reset. -/
theorem commit_of_dead (config : Record.Config) {r : Rig Peripheral Command}
    (hs : r.driver.state = .running) (hf : r.hardware.failure = none)
    (hoff : r.hardware.subscribed = false) : (commit config r).1 = .error .internal := by
  have hact : r.hardware.act .reset = (.error .notFound, r.hardware) := if_neg (by simp [hoff])
  have hs' : (r.enter fun d => { d with
      config := some config, timeoutMs := config.timeoutMs }).driver.state = .running := hs
  have ht : (r.enter fun d => { d with
      config := some config, timeoutMs := config.timeoutMs }).hardware.takeFailure =
      (none, r.hardware) := takeFailure_of_none hf
  unfold commit
  dsimp only
  rw [if_pos hs']
  unfold write
  rw [interface_write_of_none (by simp) ht, hact]
  rfl

theorem init_of_pass (hl : driver.line = some line) (hs : driver.state ≠ .running)
    (hf : p.failure = none) {config : Record.Config}
    (hcheck : profile.refusal? driver.state config = none) :
    ∃ r, init config { driver, hardware := p } = (.ok (), r) ∧
      r.raised = [] ∧ r.driver.state = .configured ∧
      r.hardware = { p with
        timeoutMs := some config.timeoutMs, triggerPanic := config.hardReset
        countdown := .ofPeriod (.ofMillis config.timeoutMs.toNat)
        line := if config.hardReset then p.line else some line } := by
  obtain ⟨calls, hinit⟩ := init_eq_commit hl hf hcheck
  rw [hinit]
  exact commit_of_idle config hs

theorem start_of_configured (hs : driver.state = .configured)
    (hoff : p.subscribed = false) (hf : p.failure = none) (ht : p.timeoutMs ≠ none) :
    ∃ r, start { driver, hardware := p } = (.ok (), r) ∧ r.raised = [] ∧
      r.driver.state = .running ∧
      r.hardware = { p with subscribed := true, countdown := p.countdown.reload } := by
  have hact : p.act .subscribe =
      (.ok (), { p with subscribed := true, countdown := p.countdown.reload }) := by
    simp [Peripheral.act, hoff, ht]
  rw [(start_ways _).eq_launched hs]
  unfold launch
  rw [if_neg (show ¬ Interface.isSubscribed p = true from Bool.eq_false_iff.mp hoff),
    write_of_act (by intro _ hc; cases hc) (takeFailure_of_none hf) hact]
  exact ⟨_, rfl, rfl, rfl, rfl⟩

/-! ## The fault -/

/-- A request that failed in a call met the fault, which is over then. -/
def Spent (s : Served Peripheral Command) : Prop :=
  s.1 = .error .internal → s.2.hardware.failure = none

theorem spent_of_ok {s : Served Peripheral Command} (h : s.1 = .ok ()) : Spent s :=
  fun he => nomatch h.symm.trans he

theorem failure_takeFailure {q : Peripheral} {e : VendorError}
    (h : p.takeFailure = (some e, q)) : q.failure = none := by
  unfold Peripheral.takeFailure at h
  split at h
  · cases h
  · rw [← (Prod.mk.inj h).2]
  · cases h

/-- A call that would succeed fails only with the fault. -/
theorem spent_write {r : Rig Peripheral Command} {c : Command}
    (hc : ∀ line, c ≠ .attachInterrupt line) (name : String)
    {next : Rig Peripheral Command → Served Peripheral Command}
    (hn : ∀ q, Faulted r.hardware q → ∃ q', q.act c = (.ok (), q') ∧
      Spent (next { r with hardware := q', calls := r.calls ++ [c] })) :
    Spent (write name c r next) := by
  have hf := faulted_takeFailure r.hardware
  cases htake : r.hardware.takeFailure with
  | mk due q =>
      rw [htake] at hf
      cases due with
      | some e =>
          rw [write_of_due hc htake]
          exact fun _ => failure_takeFailure htake
      | none =>
          obtain ⟨q', hact, hnext⟩ := hn q hf
          rw [write_of_act hc htake hact]
          exact hnext

theorem spent_reconfigure {r : Rig Peripheral Command} (hs : r.driver.state ≠ .running)
    (c : Record.Config) : Spent (reconfigure c r) := by
  refine spent_write (by nofun) _ fun q _ => ⟨_, rfl, spent_of_ok ?_⟩
  unfold commit
  dsimp only
  split
  · next hlive => exact absurd hlive hs
  · rfl

theorem spent_init {r : Rig Peripheral Command} (hs : r.driver.state ≠ .running)
    (c : Record.Config) : Spent (init c r) := by
  cases init_ways c r with
  | turnedAway away => exact fun h => absurd h away.blameless
  | plain _ _ eq => exact eq ▸ spent_reconfigure hs c
  | attaches _ _ eq =>
      rw [eq, write_attach]
      refine spent_reconfigure ?_ c
      exact hs

theorem spent_start {r : Rig Peripheral Command} (hb : Books r.driver r.hardware)
    (hoff : r.hardware.subscribed = false) : Spent (start r) := by
  have hlaunch : r.driver.state ≠ .uninitialized → Spent (launch r) := by
    intro hs
    unfold launch
    rw [if_neg (show ¬ Interface.isSubscribed r.hardware = true from Bool.eq_false_iff.mp hoff)]
    refine spent_write (by simp) _ ?_
    rintro q ⟨failure, failureSkip, hq⟩
    have hact : q.act .subscribe =
        (.ok (), { q with subscribed := true, countdown := q.countdown.reload }) := by
      rw [hq]
      simp [Peripheral.act, hoff, hb.configured hs]
    exact ⟨_, hact, spent_of_ok rfl⟩
  cases start_ways r with
  | unready _ eq =>
      rw [eq]
      intro h
      cases h
  | runs _ _ eq => exact eq ▸ spent_of_ok rfl
  | launches past _ eq => exact eq ▸ hlaunch past

/-! ## Without a fault -/

/-- A watchdog that is off, configured and started: it counts a period that is no shorter
than what was asked for. -/
theorem armed_of_start (h : Ready line driver p) {d : Duration} (h0 : d.nanos ≠ 0)
    (hmax : d.millisCeil ≤ maxTimeoutMs) :
    ∃ r, init (.ofTimeout d hardReset) { driver, hardware := p } = (.ok (), r) ∧
      r.raised = [] ∧
      ∃ r', start { driver := r.driver, hardware := r.hardware } = (.ok (), r') ∧
        r'.raised = [] ∧ r'.driver.state = .running ∧
        ∃ period : Duration, d.nanos ≤ period.nanos ∧
          Armed hardReset line (.ofPeriod period) p.resets r'.hardware := by
  have hcheck : profile.refusal? driver.state (.ofTimeout d hardReset) = none :=
    Profile.refusal?_of_le (.inr (by decide)) (by decide) (.inr (by decide)) h0 hmax
  obtain ⟨r, hinit, hq, hstate, hhardware⟩ :=
    init_of_pass h.line h.idle h.faultless hcheck
  obtain ⟨r', hstart, hq', hstate', hhardware'⟩ := start_of_configured hstate
    (show r.hardware.subscribed = false by rw [hhardware]; exact h.off)
    (show r.hardware.failure = none by rw [hhardware]; exact h.faultless)
    (show r.hardware.timeoutMs ≠ none by rw [hhardware]; exact nofun)
  refine ⟨r, hinit, hq, r', hstart, hq', hstate', .ofMillis d.millisCeil.toNat,
    Duration.nanos_le hmax (by decide), ?_⟩
  rw [hhardware', hhardware]
  refine ⟨rfl, h.faultless, rfl, rfl, rfl, fun hsoft => ?_⟩
  subst hsoft
  rfl

/-- A configuration that passes the checks, over a watchdog with no fault that runs if
its driver says so: it is programmed, and the counter has all of the new period to
count. -/
theorem started_of_pass (hl : driver.line = some line) (hb : Books driver p)
    (hf : p.failure = none) (hlive : driver.state = .running → p.subscribed = true)
    {config : Record.Config} (hcheck : profile.refusal? driver.state config = none) :
    ∃ r, init config { driver, hardware := p } = (.ok (), r) ∧ r.raised = [] ∧
      ∃ r', start { driver := r.driver, hardware := r.hardware } = (.ok (), r') ∧
        r'.raised = [] ∧ r'.driver.state = .running ∧
        ∃ feeds, r'.hardware = { p with
          timeoutMs := some config.timeoutMs, triggerPanic := config.hardReset
          subscribed := true, countdown := .ofPeriod config.timeout
          line := if config.hardReset then p.line else some line, feeds } := by
  by_cases hs : driver.state = .running
  · have hon := hlive hs
    obtain ⟨calls, hinit⟩ := init_eq_commit hl hf hcheck
    obtain ⟨r, hcommit, hq, hstate, hhardware⟩ := commit_of_running config
      (r := { driver, calls, hardware := { p with
        timeoutMs := some config.timeoutMs, triggerPanic := config.hardReset
        countdown := .ofPeriod (.ofMillis config.timeoutMs.toNat)
        line := if config.hardReset then p.line else some line } }) hs hf hon
    have hon' : Interface.isSubscribed r.hardware = true := by
      rw [hhardware]
      exact hon
    refine ⟨r, hinit.trans hcommit, hq, { driver := r.driver, hardware := r.hardware },
      start_of_subscribed hstate hon', rfl, hstate, p.feeds + 1, ?_⟩
    rw [hhardware, ← hon]
    rfl
  · have hoff : p.subscribed = false := Bool.eq_false_iff.mpr (mt hb.running hs)
    obtain ⟨r, hinit, hq, hstate, hhardware⟩ := init_of_pass hl hs hf hcheck
    obtain ⟨r', hstart, hq', hstate', hhardware'⟩ := start_of_configured hstate
      (show r.hardware.subscribed = false by rw [hhardware]; exact hoff)
      (show r.hardware.failure = none by rw [hhardware]; exact hf)
      (show r.hardware.timeoutMs ≠ none by rw [hhardware]; simp)
    refine ⟨r, hinit, hq, r', hstart, hq', hstate', p.feeds, ?_⟩
    rw [hhardware', hhardware]
    rfl

theorem start_of_armed (h : Armed hardReset line c resets p)
    (hs : driver.state = .running) :
    start { driver, hardware := p } = (.ok (), { driver, hardware := p }) :=
  start_of_subscribed hs h.subscribed

theorem refresh_of_armed (h : Armed hardReset line c resets p)
    (hs : driver.state = .running) :
    ∃ r, refresh { driver, hardware := p } = (.ok (), r) ∧ r.driver = driver ∧
      r.raised = [] ∧ Armed hardReset line c.reload resets r.hardware := by
  have hact : p.act .reset =
      (.ok (), { p with countdown := p.countdown.reload, feeds := p.feeds + 1 }) :=
    if_pos h.subscribed
  have hserve : refresh { driver, hardware := p } =
      write "reset" .reset { driver, hardware := p } Rig.done := if_pos hs
  rw [hserve, write_of_act (by nofun) (takeFailure_of_none h.faultless) hact]
  exact ⟨_, rfl, rfl, rfl, h.subscribed, h.faultless, by rw [← h.countdown], h.resets, h.panic,
    h.line⟩

theorem armed_elapse (h : Armed hardReset line c resets p) (time : Duration) :
    Armed hardReset line (c.elapse time) resets (p.elapse time) :=
  ⟨h.subscribed, h.faultless, by rw [← h.countdown]; rfl, h.resets, h.panic, h.line⟩

end TwoTierWatchdog.Twdt
