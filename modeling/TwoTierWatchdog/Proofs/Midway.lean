import TwoTierWatchdog.Proofs.Bringup
import TwoTierWatchdog.Proofs.Counting
import TwoTierWatchdog.Proofs.Screening

/-!
# Configurations that fail midway

To configure an RTL872x or a task watchdog takes several calls, and any of them may fail.
There is one call that counts, the one that programs the period: the books are written
right after it is seen to have taken, and whatever fails later fails with the new period
on both sides. If it does not take, nothing has changed on either side, but that a line
may be on the vector; a counter that was turned off for it is turned on again.
-/

namespace TwoTierWatchdog

/-! ## The nRF52840 -/

/-- Nothing is read back, so nothing fails. -/
theorem Nrf52.init_ne_internal {π : Type} [Interface π] (c : Record.Config)
    (r : Rig π Command) : (init c r).1 ≠ .error .internal := by
  cases init_ways c r with
  | turnedAway away => exact away.blameless
  | takes _ _ _ eq => exact eq ▸ nofun

/-! ## The RTL872x -/

namespace Rtl872x

/-- Divider and period are as they were. A counter that runs still does, with all of its
period before it. -/
structure Peripheral.Undone (p p' : Peripheral) : Prop where
  alike : Alike p p'
  enabled : p.enabled = true → p'.enabled = true
  full : p.enabled = true → p'.countdown = .ofPeriod (Peripheral.periodOf p.divider)

/-- The divider for a configuration is in the register, and the counter has its period. -/
structure Peripheral.Done (c : Record.Config) (p : Peripheral) : Prop where
  divider : Divider.forMillis? c.timeoutMs = some p.divider
  timed : p.Timed

variable {r t : Rig Peripheral Command} {c : Record.Config}

/-- Whether or not the readback agrees, a counter that is resumed was told to count from
the start of its period. -/
theorem resume_cases (t : Rig Peripheral Command)
    (next : Rig Peripheral Command → Served Peripheral Command)
    (hn : ∀ r, (next r).2.driver = r.driver ∧ (next r).2.hardware = r.hardware) :
    (resume t next).2.driver = t.driver ∧
      Alike t.hardware (resume t next).2.hardware ∧
      (resume t next).2.hardware.countdown = .ofPeriod t.hardware.countdown.period := by
  have halike : Alike t.hardware (write .refresh (write (.setEnabled true) t)).hardware :=
    (alike_setEnabled t.hardware true).trans (alike_refresh _)
  have hfull : (write .refresh (write (.setEnabled true) t)).hardware.countdown =
      .ofPeriod t.hardware.countdown.period := by
    rw [← (alike_setEnabled t.hardware true).period]
    rfl
  unfold resume
  cases confirm_ways true (write .refresh (write (.setEnabled true) t)) next with
  | agrees _ eq =>
      obtain ⟨hdriver, hhardware⟩ := hn (write .refresh (write (.setEnabled true) t))
      rw [eq, hdriver, hhardware]
      exact ⟨rfl, halike, hfull⟩
  | differs _ eq => exact eq ▸ ⟨rfl, halike, hfull⟩

/-- A configuration that took, and fails all the same, does so because the counter is off. -/
theorem off_of_failed_commit {divider : Divider} {live : Bool}
    (hfailed : (commit c divider live r).1 = .error .internal) :
    (commit c divider live r).2.hardware.enabled = false := by
  revert hfailed
  unfold commit resume confirm
  dsimp only
  split
  · split
    · exact nofun
    · next hoff => exact fun _ => Bool.eq_false_iff.mpr hoff
  · exact nofun

theorem done_commit {divider : Divider} {live : Bool}
    (hdivider : Divider.forMillis? c.timeoutMs = some divider)
    (hread : r.hardware.divider = divider) (htimed : r.hardware.Timed)
    (hfailed : (commit c divider live r).1 = .error .internal) :
    (commit c divider live r).2.driver =
        { r.driver with config := some c, timeoutMs := divider.timeoutMs } ∧
      (commit c divider live r).2.hardware.divider = divider ∧
      (commit c divider live r).2.hardware.Done c := by
  cases live with
  | false => cases hfailed
  | true =>
      obtain ⟨hdriver, halike, -⟩ := resume_cases (r.enter fun d =>
        { d with config := some c, timeoutMs := divider.timeoutMs })
        (fun r => (r.note .info
          (s!"wdt(rtl872x): div_fac={divider.divFac} cnt_limit={divider.cntLimit} " ++
            s!"({divider.timeoutMs} ms, early_int={!c.hardReset})")).done)
        fun _ => ⟨rfl, rfl⟩
      have hsame := halike.divider.trans hread
      exact ⟨hdriver, hsame, hdivider.trans (congrArg some hsame.symm), halike.timed htimed⟩

/-- A register that did not take the new divider is locked, and does not take the previous
one either. -/
theorem restore_cases {live : Bool} (hs : r.Settled Peripheral.Sound Books)
    (hlive : r.driver.state = .running → live = true)
    (halike : Alike r.hardware t.hardware) (hlocked : t.hardware.dividerLocked = true)
    (divider : Divider) (early : Bool) :
    (restore divider early live t).2.driver = t.driver ∧
      Alike r.hardware (restore divider early live t).2.hardware ∧
      (r.hardware.enabled = true → (restore divider early live t).2.hardware.countdown =
        .ofPeriod (Peripheral.periodOf r.hardware.divider)) := by
  let t' := write (.configure divider early) (t.note .error
    "wdt(rtl872x): divider readback mismatch, restoring previous period")
  have hkept : t'.hardware = t.hardware := if_pos hlocked
  cases live with
  | false =>
      refine ⟨rfl, ?_, fun hon => nomatch hlive (hs.books.running hon)⟩
      show Alike r.hardware t'.hardware
      rwa [hkept]
  | true =>
      obtain ⟨hdriver, hresumed, hfull⟩ := resume_cases t'
        (fun r => r.fail .internal) fun _ => ⟨rfl, rfl⟩
      rw [hkept] at hresumed hfull
      refine ⟨hdriver, halike.trans hresumed, fun hon => ?_⟩
      exact hfull.trans (congrArg _ (halike.period.trans (hs.sound.enabled hon)))

theorem enabled_init_of_enabled (c : Record.Config) (hon : r.hardware.enabled = true) :
    (init c r).2.hardware.enabled = true := by
  by_cases hlit : Relights r c
  · exact (init_of_relights hlit).1
  · exact (enabled_init_of_not hlit).trans hon

/-- What a configuration leaves that fails with the hardware to blame. -/
theorem undone_or_done_init (hs : Settled r) (hfailed : (init c r).1 = .error .internal) :
    (init c r).2.driver = r.driver ∧ r.hardware.Undone (init c r).2.hardware ∨
      (init c r).2.hardware.enabled = false ∧
        (init c r).2.driver = { r.driver with
          config := some c, timeoutMs := (init c r).2.hardware.divider.timeoutMs } ∧
        (init c r).2.hardware.Done c := by
  have hon := enabled_init_of_enabled (r := r) c
  cases init_ways c r with
  | turnedAway away => exact absurd hfailed away.blameless
  | @takes divider line _ found _ reads eq =>
      have hp := programmed_program r divider line (r.driver.state = .running)
      rw [eq] at hfailed ⊢
      obtain ⟨hdriver, hsame, hdone⟩ :=
        done_commit found reads (timed_of_programmed hs.sound hp found reads) hfailed
      refine .inr ⟨off_of_failed_commit hfailed, ?_, hdone⟩
      rw [hdriver, hsame, hp.driver]
  | @differs divider line _ _ _ reads eq =>
      have hp := programmed_program r divider line (r.driver.state = .running)
      obtain ⟨halike, hlocked⟩ := hp.took.resolve_right fun ⟨hd, _⟩ => reads hd
      rw [eq] at hon ⊢
      obtain ⟨hdriver, hsame, hfull⟩ := restore_cases hs decide_eq_true halike hlocked
        (Interface.divider r.hardware) (r.driver.config.any fun c => !c.hardReset)
      exact .inl ⟨hdriver.trans hp.driver, hsame, hon, hfull⟩

end Rtl872x

/-! ## The task watchdog -/

namespace Twdt

/-- The watchdog counts as it did, with what it had left. -/
structure Peripheral.Undone (p p' : Peripheral) : Prop where
  timeoutMs : p'.timeoutMs = p.timeoutMs
  triggerPanic : p'.triggerPanic = p.triggerPanic
  subscribed : p'.subscribed = p.subscribed
  countdown : p'.countdown = p.countdown

/-- The watchdog is programmed for a configuration. -/
structure Peripheral.Done (c : Record.Config) (p : Peripheral) : Prop where
  timeoutMs : p.timeoutMs = some c.timeoutMs
  triggerPanic : p.triggerPanic = c.hardReset
  period : p.countdown.period = .ofMillis c.timeoutMs.toNat

variable {r t : Rig Peripheral Command} {c : Record.Config}

theorem done_reset {p : Peripheral} (h : p.Done c) : (p.write .reset).2.Done c := by
  obtain ⟨failure, failureSkip, hq⟩ := faulted_takeFailure p
  have hdone : p.takeFailure.2.Done c := by
    rw [hq]
    exact ⟨h.timeoutMs, h.triggerPanic, h.period⟩
  cases htake : p.takeFailure with
  | mk due q =>
      rw [htake] at hdone
      cases due with
      | some e =>
          rw [show p.write .reset = _ from interface_write_of_some (c := .reset) (by simp) htake]
          exact hdone
      | none =>
          rw [show p.write .reset = _ from interface_write_of_none (c := .reset) (by simp) htake]
          simp only [Peripheral.act]
          split
          · exact ⟨hdone.timeoutMs, hdone.triggerPanic, hdone.period⟩
          · exact hdone

/-- The period is programmed, and whatever becomes of the reset the books say so. -/
theorem done_commit (h : r.hardware.Done c) (hfailed : (commit c r).1 = .error .internal) :
    (commit c r).2.driver =
        { r.driver with config := some c, timeoutMs := c.timeoutMs } ∧
      (commit c r).2.hardware.Done c := by
  revert hfailed
  unfold commit
  dsimp only
  split
  · intro _
    unfold write
    dsimp only
    split
    · unfold confirm
      split <;> exact ⟨rfl, done_reset h⟩
    · exact ⟨rfl, done_reset h⟩
  · exact nofun

/-- What the call that programs the period decides: if a failure is due for it nothing has
changed, and otherwise everything that was asked for. -/
theorem undone_or_done_program (hd : t.driver = r.driver)
    (hdue : t.hardware.takeFailure.1 = r.hardware.takeFailure.1)
    (hsame : r.hardware.Undone t.hardware)
    (hfailed : (reconfigure c t).1 = .error .internal) :
    let left := reconfigure c t
    (r.hardware.takeFailure.1.isSome ∧ left.2.driver = r.driver ∧
        r.hardware.Undone left.2.hardware) ∨
      r.hardware.takeFailure.1 = none ∧
        left.2.driver = { r.driver with config := some c, timeoutMs := c.timeoutMs } ∧
        left.2.hardware.Done c := by
  revert hfailed
  unfold reconfigure
  obtain ⟨failure, failureSkip, hq⟩ := faulted_takeFailure t.hardware
  cases htake : t.hardware.takeFailure with
  | mk due q =>
      rw [htake] at hq hdue
      cases due with
      | some e =>
          rw [write_of_due (by simp) htake, ← hdue]
          refine fun _ => .inl ⟨rfl, hd, ?_⟩
          obtain rfl : q = _ := hq
          exact ⟨hsame.timeoutMs, hsame.triggerPanic, hsame.subscribed, hsame.countdown⟩
      | none =>
          rw [write_of_act (by simp) htake rfl, ← hdue, ← hd]
          exact fun hfailed => .inr ⟨rfl, done_commit ⟨rfl, rfl, rfl⟩ hfailed⟩

/-- A line on the vector has nothing to do with a failure that is due. -/
theorem due_attach (p : Peripheral) (line : Interrupt.Line) :
    ({ p with line := some line } : Peripheral).takeFailure.1 = p.takeFailure.1 := by
  unfold Peripheral.takeFailure
  cases p.failure <;> cases p.failureSkip <;> rfl

theorem undone_or_done_init (hfailed : (init c r).1 = .error .internal) :
    (r.hardware.takeFailure.1.isSome ∧ (init c r).2.driver = r.driver ∧
        r.hardware.Undone (init c r).2.hardware) ∨
      r.hardware.takeFailure.1 = none ∧
        (init c r).2.driver = { r.driver with config := some c, timeoutMs := c.timeoutMs } ∧
        (init c r).2.hardware.Done c := by
  cases init_ways c r with
  | turnedAway away => exact absurd hfailed away.blameless
  | plain _ _ eq =>
      rw [eq] at hfailed ⊢
      exact undone_or_done_program rfl rfl ⟨rfl, rfl, rfl, rfl⟩ hfailed
  | attaches _ _ eq =>
      rw [eq, write_attach] at hfailed ⊢
      exact undone_or_done_program rfl (due_attach _ _) ⟨rfl, rfl, rfl, rfl⟩ hfailed

end Twdt

/-! ## Any device -/

namespace Device

/-- The books are as they were, and so is the period that is programmed. -/
def Undone (driver driver' : Driver) : Device → Device → Prop
  | rtl872x p, rtl872x p' => driver' = driver ∧ p.Undone p'
  | twdt p, twdt p' => driver' = driver ∧ p.Undone p'
  | _, _ => False

/-- The configuration and its period are in the books, and the period is programmed. -/
def Done (c : Record.Config) (driver driver' : Driver) : Device → Device → Prop
  | rtl872x _, rtl872x p' =>
    driver' = { driver with config := some c, timeoutMs := p'.divider.timeoutMs } ∧ p'.Done c
  | twdt _, twdt p' =>
    driver' = { driver with config := some c, timeoutMs := c.timeoutMs } ∧ p'.Done c
  | _, _ => False

/-- What a failed configuration always leaves as it was: a counter that runs, and a task
watchdog whose next call is due to fail. -/
def Withstands : Device → Prop
  | rtl872x p => p.enabled = true
  | twdt p => p.takeFailure.1.isSome
  | _ => False

variable {device : Device} {driver : Driver} {c : Record.Config}

/-- What a configuration leaves that fails with the hardware to blame. -/
theorem undone_or_done_init (hs : device.Sound) {powered : Bool}
    (hb : device.Books powered driver)
    (hfailed : (device.serve (.init c) driver).result = .error .internal) :
    let left := device.serve (.init c) driver
    (Undone driver left.driver device left.device ∨
        Done c driver left.driver device left.device) ∧
      (device.Withstands → Undone driver left.driver device left.device) := by
  cases device with
  | nrf52 p => exact absurd hfailed (Nrf52.init_ne_internal c _)
  | rtl872x p =>
      have hcases :=
        Rtl872x.undone_or_done_init (r := { driver, hardware := p }) ⟨hs, hb, rfl⟩ hfailed
      refine ⟨hcases.imp_right And.right, fun hon => hcases.resolve_right fun ⟨hoff, _⟩ => ?_⟩
      have hkept := Rtl872x.enabled_init_of_enabled (r := { driver, hardware := p }) c hon
      exact absurd (hoff.symm.trans hkept) nofun
  | twdt p =>
      have hcases := Twdt.undone_or_done_init (r := { driver, hardware := p }) hfailed
      refine ⟨hcases.imp And.right And.right, fun hdue => ?_⟩
      refine (hcases.resolve_right fun ⟨hnone, _⟩ => ?_).2
      exact absurd ((congrArg Option.isSome hnone).symm.trans hdue) nofun
  | eager p | unfaithful p => exact hs.elim

theorem state_of_undone_or_done {device' : Device} {driver' : Driver}
    (h : Undone driver driver' device device' ∨ Done c driver driver' device device') :
    driver'.state = driver.state := by
  rcases h with hundone | hdone
  · cases device <;> cases device' <;>
      first | exact hundone.elim | exact congrArg Driver.state hundone.1
  · cases device <;> cases device' <;>
      first | exact hdone.elim | exact (congrArg Driver.state hdone.1).trans rfl

end Device

namespace Deployment

variable {κ : Type} {d : Deployment κ} {i : Instance} {slot : Slot} {device : Device}

/-- Wherever a run has led, a watchdog whose configuration fails with the hardware to blame
is where it was in its life. Either the books are as they were and the period that is
programmed as well, and then an RTL872x that runs goes on from the start of its period and a
task watchdog goes on as it was; or the books have the configuration and its effective
period, and that is what is programmed. It is always the first on an RTL872x that runs, and
on a task watchdog that fails to be programmed. -/
theorem failed_configuration_is_all_or_nothing {sims : List Sim}
    (hd : Reaches (fresh sims) d)
    (hslot : d.system.slot? ⟨d.system.current, i⟩ = some slot)
    (hk : d.system.device? slot.device = some device) {q : Request} {c : Record.Config}
    (hq : q.config? slot.driver = some c) {h : Handler κ} {s : System κ}
    (hfailed : d.system.serve h ⟨d.system.current, i⟩ q = (.error .internal, s)) :
    ∃ driver' device', s.slot? ⟨d.system.current, i⟩ = some { slot with driver := driver' } ∧
      s.device? slot.device = some device' ∧ driver'.state = slot.driver.state ∧
      (Device.Undone slot.driver driver' device device' ∨
        Device.Done c slot.driver driver' device device') ∧
      (device.Withstands → Device.Undone slot.driver driver' device device') := by
  have hd := hd.inOrder (inOrder_fresh sims)
  obtain ⟨hmem, -⟩ := System.slot?_eq_some hslot
  have hidle := hd.idle slot hmem
  have hne : q ≠ .refresh := by rintro rfl; cases hq
  obtain ⟨hresult, hex⟩ := System.answered hslot hidle hk hne h
  rw [hfailed, Device.serve_of_config? hq] at hresult hex
  obtain ⟨hcases, hkept⟩ :=
    Device.undone_or_done_init (hd.sound _ _ hk) (hd.books slot hmem _ hk) hresult.symm
  exact ⟨_, _, hex.slot_of_idle hidle, hex.device? hk, Device.state_of_undone_or_done hcases,
    hcases, hkept⟩

/-- The RTL872x cannot be given two seconds, and goes on with the second it had. The task
watchdog takes them, and fails when it is to be reset after that. -/
theorem half_done_is_done :
    let i : Instance := ⟨0, by decide⟩
    let j : Instance := ⟨1, by decide⟩
    let d := (fresh [.rtl872x, .twdt] : Deployment Empty).run
      [.build [(0, 0), (1, 1)], .request i (.init { timeoutMs := 1000 }), .request i .start,
        .request j (.init { timeoutMs := 1000 }), .request j .start, .elapse 0 ⟨400000000⟩,
        .poke 0 (.lockDivider true), .poke 1 (.failAfter 1 ⟨-1⟩)]
    let locked := d.system.serve quiet ⟨d.system.current, i⟩ (.init { timeoutMs := 2000 })
    let late := d.system.serve quiet ⟨d.system.current, j⟩ (.setTimeout (.ofMillis 2000))
    locked.1 = .error .internal ∧ late.1 = .error .internal ∧
      (∃ p, locked.2.device? 0 = some (.rtl872x p) ∧ p.enabled = true ∧
        p.countdown = .ofPeriod (.ofMillis 1000)) ∧
      ∃ p, late.2.device? 1 = some (.twdt p) ∧ p.timeoutMs = some 2000 ∧
        p.countdown.period = .ofMillis 2000 := by
  intro i j d locked late
  let driver (i : Instance) : Driver :=
    { state := .running, config := some { timeoutMs := 1000 }, timeoutMs := 1000
      line := some ⟨1, i⟩ }
  have hslot : d.system.slot? ⟨d.system.current, i⟩ =
      some { id := i, device := 0, driver := driver i } := by decide +kernel
  have hslot' : d.system.slot? ⟨d.system.current, j⟩ =
      some { id := j, device := 1, driver := driver j } := by decide +kernel
  have hk : d.system.device? 0 = some (.rtl872x {
      divider := ⟨32767, 0⟩, enabled := true, dividerLocked := true
      countdown := { period := .ofMillis 1000, remaining := .ofMillis 600 } }) := by
    decide +kernel
  have hk' : d.system.device? 1 = some (.twdt {
      timeoutMs := some 1000, triggerPanic := true, subscribed := true
      countdown := .ofPeriod (.ofMillis 1000)
      failure := some ⟨-1⟩, failureSkip := 1 }) := by
    decide +kernel
  have hlocked : locked.1 = .error .internal := by decide +kernel
  have hlate : late.1 = .error .internal := by decide +kernel
  have hentered : (late.2.slot? ⟨d.system.current, j⟩).map (·.driver.config) =
      some (some { timeoutMs := 2000 }) := by decide +kernel
  have hd : Reaches (fresh [.rtl872x, .twdt]) d := ⟨_, rfl⟩
  -- what the run leads to is not to be computed again
  clear_value d
  refine ⟨hlocked, hlate, ?_, ?_⟩
  · obtain ⟨after, left, -, hleft, -, -, hruns⟩ :=
      failed_configuration_is_all_or_nothing hd hslot hk rfl (Prod.ext hlocked rfl)
    cases left with
    | rtl872x p =>
        have hundone := (hruns rfl).2
        have hperiod : Rtl872x.Peripheral.periodOf ⟨32767, 0⟩ = .ofMillis 1000 := by
          decide +kernel
        exact ⟨p, hleft, hundone.enabled rfl, (hundone.full rfl).trans (congrArg _ hperiod)⟩
    | nrf52 | twdt | eager | unfaithful => exact (hruns rfl).elim
  · have hconfig : (driver j).withTimeout (.ofMillis 2000) = { timeoutMs := 2000 } := by
      decide +kernel
    obtain ⟨after, left, hafter, hleft, -, hcases, -⟩ :=
      failed_configuration_is_all_or_nothing hd hslot' hk'
        (q := .setTimeout (.ofMillis 2000)) (congrArg some hconfig) (Prod.ext hlate rfl)
    rw [hafter] at hentered
    cases left with
    | twdt p =>
        rcases hcases with ⟨rfl, -⟩ | ⟨-, hdone⟩
        · exact absurd hentered (by decide)
        · exact ⟨p, hleft, hdone.timeoutMs, hdone.period⟩
    | nrf52 | rtl872x | eager | unfaithful => exact (or_self False ▸ hcases).elim

end Deployment

end TwoTierWatchdog
