import TwoTierWatchdog.Proofs.BothTiers
import TwoTierWatchdog.Proofs.Mode

/-!
# The order of the two tiers

A boot that succeeds leaves the hardware as the slower tier: its period is at least what
the settings ask for, and the monitor gives up at least a millisecond before. A main loop
that feeds both tiers as often as the settings say then keeps the hardware from ever
expiring.

What is found before the boot may be anything that a run can leave behind, also a line on
the vector of an nRF52840 that an earlier registry put there. So nothing is said here of
the line that a hard reset does not use, except that it is not changed.
-/

namespace TwoTierWatchdog

open Supervisor

/-! ## A device -/

namespace Device

/-- No fault is active. -/
def Faultless : Device → Prop
  | nrf52 p => p.startIgnored = false
  | rtl872x p => p.enableStuck = false ∧ p.dividerLocked = false
  | twdt p => p.failure = none
  | eager _ | unfaithful _ => True

instance (device : Device) : Decidable device.Faultless :=
  match device with
  | nrf52 _ | twdt _ => inferInstanceAs (Decidable (_ = _))
  | rtl872x _ => inferInstanceAs (Decidable (_ ∧ _))
  | eager _ | unfaithful _ => inferInstanceAs (Decidable True)

/-- The line that an interrupt would fire. -/
def vector : Device → Option Interrupt.Line
  | nrf52 p => p.line
  | eager p => p.line
  | rtl872x p => p.line
  | twdt p => p.line
  | unfaithful _ => none

/-- A device was configured and started, and has all of its new period to count. -/
structure Rearmed (c : Record.Config) (line : Interrupt.Line) (period : Duration)
    (before after : Device) : Prop where
  long : c.timeout.nanos ≤ period.nanos
  held : after.heldPeriod? = some period
  mode : after.InMode c (some line)
  vector : after.vector = if c.hardReset then before.vector else some line
  armed : ∃ hardReset line, after.Armed hardReset line (.ofPeriod period) before.resets

variable {device : Device} {driver : Driver} {line : Interrupt.Line} {c : Record.Config}

theorem rearmed_nrf52 {p : Nrf52.Peripheral} {crv : UInt32} {channels : UInt8}
    (hlong : c.timeout.nanos ≤ (Nrf52.Peripheral.periodOf crv).nanos)
    (hfed : channels &&& Nrf52.Peripheral.channelBit Nrf52.reloadChannel ≠ 0) :
    Rearmed c line (Nrf52.Peripheral.periodOf crv) (nrf52 p) (nrf52 { p with
      crv, runInSleep := true, runInHalt := false, channels
      line := if c.hardReset then p.line else some line
      running := true, countdown := .ofPeriod (Nrf52.Peripheral.periodOf crv) }) where
  long := hlong
  held := rfl
  mode hsoft := if_neg (by simp [hsoft])
  vector := rfl
  armed := by
    -- in the hard mode there may be a line that is not the driver's
    generalize (if c.hardReset then p.line else some line) = attached
    cases attached with
    | none => exact ⟨true, line, rfl, hfed, rfl, rfl, rfl⟩
    | some other => exact ⟨false, other, rfl, hfed, rfl, rfl, rfl⟩

theorem rearmed_rtl872x {p : Rtl872x.Peripheral} {divider : Rtl872x.Divider} {refreshes : Nat}
    (hlong : c.timeout.nanos ≤ (Rtl872x.Peripheral.periodOf divider).nanos) :
    Rearmed c line (Rtl872x.Peripheral.periodOf divider) (rtl872x p) (rtl872x { p with
      divider, earlyInterrupt := !c.hardReset, earlyFired := false, enabled := true
      countdown := .ofPeriod (Rtl872x.Peripheral.periodOf divider)
      line := if c.hardReset then p.line else some line, refreshes }) where
  long := hlong
  held := rfl
  mode := ⟨rfl, fun hsoft => if_neg (by simp [hsoft])⟩
  vector := rfl
  armed := ⟨c.hardReset, line, rfl, rfl, rfl, rfl, rfl, fun hsoft => if_neg (by simp [hsoft])⟩

theorem rearmed_twdt {p : Twdt.Peripheral} {feeds : Nat} (hf : p.failure = none) :
    Rearmed c line c.timeout (twdt p) (twdt { p with
      timeoutMs := some c.timeoutMs, triggerPanic := c.hardReset, subscribed := true
      countdown := .ofPeriod c.timeout
      line := if c.hardReset then p.line else some line, feeds }) where
  long := Nat.le_refl _
  held := rfl
  mode := ⟨rfl, fun hsoft => if_neg (by simp [hsoft])⟩
  vector := rfl
  armed := ⟨c.hardReset, line, rfl, hf, rfl, rfl, rfl, fun hsoft => if_neg (by simp [hsoft])⟩

/-- A configuration that passes the checks is started. The one exception is a task
watchdog that is off while its driver says that it runs: it cannot be reset. -/
theorem rearmed_of_pass (hs : device.Sound) (hb : device.Books true driver)
    (hl : driver.line = some line) (hf : device.Faultless)
    (hcheck : device.profile.refusal? driver.state c = none) :
    (device.serve (.init c) driver).result = .error .internal ∨
    ∃ driver₁ device₁ driver₂ device₂ period,
      Obeys (.init c) driver device driver₁ device₁ ∧
      Obeys .start driver₁ device₁ driver₂ device₂ ∧ driver₂.state = .running ∧
      Rearmed c line period device device₂ := by
  cases device with
  | nrf52 p =>
      have hfresh : driver.state = .uninitialized :=
        Classical.byContradiction fun hs' =>
          Nrf52.refusal?_ne_none (r := { driver, hardware := p }) hs' hcheck
      have hoff : p.running = false := by
        refine Bool.eq_false_iff.mpr fun hr => ?_
        cases hfresh.symm.trans (hb.running hr)
      obtain ⟨r, hinit, hq, r', hstart, hq', hstate, crv, hlong, hhardware⟩ :=
        Nrf52.started_of_pass hl hoff hf hcheck
      refine .inr ⟨_, _, _, _, Nrf52.Peripheral.periodOf crv, obeys_nrf52 (q := .init c) hinit hq,
        obeys_nrf52 (q := .start) hstart hq', hstate, ?_⟩
      rw [hhardware]
      exact rearmed_nrf52 hlong (Nrf52.fed_enable p.channels)
  | rtl872x p =>
      obtain ⟨r, hinit, hq, r', hstart, hq', hstate, divider, refreshes, hlong, hhardware⟩ :=
        Rtl872x.started_of_pass hl hb hf.1 hf.2 hcheck
      refine .inr ⟨_, _, _, _, Rtl872x.Peripheral.periodOf divider,
        obeys_rtl872x (q := .init c) hinit hq, obeys_rtl872x (q := .start) hstart hq', hstate, ?_⟩
      rw [hhardware]
      exact rearmed_rtl872x hlong
  | twdt p =>
      by_cases hdead : driver.state = .running ∧ p.subscribed = false
      · refine .inl ?_
        obtain ⟨calls, hinit⟩ := Twdt.init_eq_commit hl hf hcheck
        exact (congrArg Prod.fst hinit).trans (Twdt.commit_of_dead c hdead.1 hf hdead.2)
      · have hlive : driver.state = .running → p.subscribed = true := fun hr =>
          eq_true_of_ne_false fun hoff => hdead ⟨hr, hoff⟩
        obtain ⟨r, hinit, hq, r', hstart, hq', hstate, feeds, hhardware⟩ :=
          Twdt.started_of_pass hl hb hf hlive hcheck
        refine .inr ⟨_, _, _, _, c.timeout, obeys_twdt (q := .init c) hinit hq,
          obeys_twdt (q := .start) hstart hq', hstate, ?_⟩
        rw [hhardware]
        exact rearmed_twdt hf
  | eager p | unfaithful p => exact hs.elim

/-- A device without a fault that was off, or that can be configured again, and was
brought up. -/
theorem rearmed_of_bringUp (hs : device.Sound) (hb : device.Books true driver)
    (hl : driver.line = some line) (hf : device.Faultless)
    (hanew : device.isRunning = false ∨
      device.profile.capabilities.contains .reconfigurable = true)
    (hok : (device.bringUp c driver).result = .ok ()) :
    (device.bringUp c driver).driver.state = .running ∧
      ∃ period, Rearmed c line period device (device.bringUp c driver).device := by
  -- an `init` that fails is not forgiven here
  have hfailed : ∀ {e}, (device.serve (.init c) driver).result = .error e →
      ¬ (e = .invalidState ∧ device.isRunning = true) → False := fun he hkeep => by
    rw [bringUp_of_error he hkeep] at hok
    cases hok
  cases hcheck : device.profile.refusal? driver.state c with
  | some why =>
      refine (hfailed (congrArg Served.result (init_of_refusal hcheck))
        fun ⟨hstate, hon⟩ => ?_).elim
      rcases hanew with hoff | hagain
      · cases hoff.symm.trans hon
      · cases hagain.symm.trans (Profile.cause_of_refusal? hcheck hstate).2
  | none =>
      rcases rearmed_of_pass hs hb hl hf hcheck with hdead |
        ⟨driver₁, device₁, driver₂, device₂, period, hinit, hstart, hstate, hrearmed⟩
      · exact (hfailed hdead (by simp)).elim
      · rw [bringUp_of_ok hinit.result, hinit.newDriver, hinit.newDevice]
        dsimp only [begin]
        rw [hstart.newDriver, hstart.newDevice]
        exact ⟨hstate, period, hrearmed⟩

/-- A device that runs and takes no second configuration is left alone. -/
theorem bringUp_of_kept (hs : device.Sound) (hb : device.Books true driver)
    (hon : device.isRunning = true)
    (hfixed : device.profile.capabilities.contains .reconfigurable = false)
    (hc : ¬ c.Malformed) : device.bringUp c driver = ⟨.ok (), driver, device⟩ := by
  obtain ⟨hstate, -⟩ := hb.of_running hs hon
  have hwhy : device.profile.refusal? driver.state c = some .alreadyConfigured := by
    unfold Profile.refusal?
    rw [if_neg hc, if_pos ⟨by simp [hstate], hfixed⟩]
  unfold bringUp
  dsimp only
  rw [init_of_refusal hwhy]
  dsimp only
  rw [if_pos ⟨rfl, hon⟩, begin, start_of_running hstate hon]
  rfl

end Device

/-! ## The settings -/

/-- Settings that hold together: the hardware's period is the longest, and a feed comes
twice in the monitor's. -/
theorem Supervisor.Settings.order_of_validate {c : Settings} (h : c.validate = .ok ()) :
    c.feedIntervalMs.toNat * 2 ≤ c.appTimeoutMs.toNat ∧
      c.appTimeoutMs.toNat < c.hwTimeoutMs.toNat := by
  obtain ⟨-, hoften, hslower⟩ := tiered_of_validate h
  exact ⟨by omega, hslower⟩

/-! ## Runs -/

namespace Deployment

variable {κ : Type}

/-- Nothing is forbidden, and nothing asked of drivers and devices. -/
theorem agrees_run (sims : List Sim) (moves : List (Move κ)) :
    Agrees (fun _ _ => True) ((fresh sims).run moves) := by
  have hlasting : Lasting (fun (_ : Deployment κ) _ => True) fun _ _ => True :=
    ⟨fun _ _ _ _ => trivial, fun _ _ _ _ _ => trivial, fun _ _ _ => trivial⟩
  refine (agrees_fresh sims).run hlasting ?_
  generalize (fresh sims : Deployment κ) = d
  induction moves generalizing d with
  | nil => trivial
  | cons m rest ih => exact ⟨trivial, ih _⟩

end Deployment

namespace System

variable {κ : Type} {s s' : System κ} {up : Supervision} {w : Watchdog} {k : Nat}
  {c : Settings}

/-! ## The main loop -/

/-- What the main loop does: time passes for the device, then both tiers are fed. -/
def mainLoop (h : Handler κ) (up : Supervision) (k : Nat) :
    System κ → List Duration → Except Failure Unit × System κ
  | s, [] => (.ok (), s)
  | s, time :: times =>
    match (s.advance h k time).feed h up with
    | (.ok (), s) => mainLoop h up k s times
    | (.error f, s) => (.error f, s)

variable {hardReset : Bool} {line : Interrupt.Line} {countdown : Countdown}
  {period : Duration}

/-- Feeding both tiers feeds the hardware. -/
theorem TickingOver.feed (h : s.TickingOver up.watchdog k hardReset line countdown) :
    ∃ s', (∀ h, s.feed h up = (.ok (), s')) ∧ s.Undisturbed s' ∧
      s'.TickingOver up.watchdog k hardReset line countdown.reload := by
  have hchecked : TickingOver { s with bank := s.bank.checkin up.monitor } up.watchdog k
      hardReset line countdown := ⟨h.slot, h.device⟩
  obtain ⟨s', hserve, hquiet, hticking⟩ :=
    hchecked.serve fun harmed hstate => harmed.refresh hstate
  refine ⟨s', fun handler => ?_, ⟨⟨hquiet.expiry, hquiet.called⟩, hquiet.resets⟩, hticking⟩
  rw [System.feed, hserve]

/-- One round that is shorter than the period: nothing is disturbed, and the counter has
all of its period again. -/
theorem TickingOver.round (h : s.TickingOver up.watchdog k hardReset line (.ofPeriod period))
    {time : Duration} (hshort : time.nanos < period.nanos) :
    ∃ s', (∀ h, (s.advance h k time).feed h up = (.ok (), s')) ∧ s.Undisturbed s' ∧
      s'.TickingOver up.watchdog k hardReset line (.ofPeriod period) := by
  obtain ⟨hquiet, hticking⟩ := h.elapse time
  obtain ⟨s', hfeed, hquiet', hticking'⟩ := hticking.feed
  refine ⟨s', fun handler => ?_, hquiet.trans hquiet', hticking'⟩
  rw [h.advance_of_lt hshort]
  exact hfeed handler

theorem TickingOver.mainLoop {times : List Duration}
    (h : s.TickingOver up.watchdog k hardReset line (.ofPeriod period))
    (hshort : ∀ time ∈ times, time.nanos < period.nanos) :
    ∃ s', (∀ h, s.mainLoop h up k times = (.ok (), s')) ∧ s.Undisturbed s' ∧
      s'.TickingOver up.watchdog k hardReset line (.ofPeriod period) := by
  induction times generalizing s with
  | nil => exact ⟨s, fun _ => rfl, .refl s, h⟩
  | cons time times ih =>
      obtain ⟨hfirst, hrest⟩ := List.forall_mem_cons.mp hshort
      obtain ⟨s₁, hround, hquiet, hticking⟩ := h.round hfirst
      obtain ⟨s₂, hloop, hquiet', hticking'⟩ := ih hticking hrest
      refine ⟨s₂, fun handler => ?_, hquiet.trans hquiet', hticking'⟩
      rw [System.mainLoop, hround]
      exact hloop handler

/-! ## A boot that succeeds -/

/-- How a boot succeeds: the device is brought up, and a monitor is added. -/
theorem startSupervision_ok {h : Handler κ} (hok : s.startSupervision h c = (.ok up, s')) :
    ∃ i slot device, c.validate = .ok () ∧ c.instanceOf = .ok i ∧
      up = ⟨⟨s.current, i⟩, s.bank.nextId⟩ ∧ s.slot? up.watchdog = some slot ∧
      s.device? slot.device = some device ∧
      s'.bank = s.bank.add (monitorSpec c) ∧
      let b := device.bringUp (hardwareConfig c) slot.driver
      b.result = .ok () ∧ s'.device? slot.device = some b.device ∧
        s'.slot? up.watchdog = some { slot with driver := b.driver, busy := false } := by
  rcases startSupervision_cases s c with ⟨f, -, hturned⟩ |
    ⟨i, slot, device, hvalid, hi, hslot, hidle, hk⟩
  · cases (hturned h).symm.trans hok
  · obtain ⟨s₁, hex, hstart⟩ := exchanged_startSupervision hslot hidle hk c rfl hvalid hi
    obtain ⟨log, hwatch⟩ := watch_eq hvalid ⟨s.current, i⟩ s₁
    rw [hstart] at hok
    cases hr : (device.bringUp (hardwareConfig c) slot.driver).result with
    | error f =>
        rw [hr] at hok
        cases hok
    | ok =>
        rw [hr, finish, hwatch, hex.bank] at hok
        cases hthread : s.bank.threadFailure with
        | some why =>
            rw [hthread] at hok
            cases hok
        | none =>
            rw [hthread] at hok
            obtain ⟨hup, hs'⟩ := Prod.mk.inj hok
            obtain rfl := Except.ok.inj hup
            subst hs'
            exact ⟨i, slot, device, hvalid, hi, rfl, hslot, hk, rfl, hr, hex.device? hk, hex.slot⟩

theorem timeout_hardwareConfig (c : Settings) : (hardwareConfig c).timeout = c.hwTimeout := by
  show Duration.ofMillis c.hwTimeout.millisCeil.toNat = _
  rw [Settings.hwTimeout, Duration.millisCeil_ofMillis]

/-- A period that is as long as the settings ask for leaves room for a feed, and for the
monitor's timeout and a millisecond more. -/
theorem nanos_of_validate (hvalid : c.validate = .ok ())
    (hlong : c.hwTimeout.nanos ≤ period.nanos) :
    c.feedInterval.nanos < period.nanos ∧
      c.appTimeout.nanos + 1000000 ≤ period.nanos := by
  obtain ⟨hoften, hslower⟩ := Supervisor.Settings.order_of_validate hvalid
  simp only [Settings.hwTimeout, Settings.feedInterval, Settings.appTimeout,
    Duration.ofMillis] at hlong ⊢
  omega

/-- Both tiers are up, and the hardware is the slower one: it runs in the mode that the
settings ask for, for no less than their period, and the monitor's timeout is theirs and
ends a millisecond before. Feeding both in time keeps it so. -/
structure Layered (c : Settings) (before : Device) (s : System κ) (up : Supervision)
    (k : Nat) (after : Device) (period : Duration) (m : Liveness.Monitor) : Prop where
  device : s.device? k = some after
  running : after.isRunning = true
  mode : after.InMode (hardwareConfig c) (some ⟨up.watchdog.registry, up.watchdog.id⟩)
  vector : after.vector =
    if c.hardReset then before.vector else some ⟨up.watchdog.registry, up.watchdog.id⟩
  held : after.heldPeriod? = some period
  long : c.hwTimeout.nanos ≤ period.nanos
  monitor : s.bank.monitors[up.monitor]? = some m
  watches : Watches m c
  slower : m.timeout.nanos + 1000000 ≤ period.nanos
  fed : ∀ times, (∀ time ∈ times, time.nanos ≤ c.feedInterval.nanos) →
    ∃ s', (∀ h, s.mainLoop h up k times = (.ok (), s')) ∧ s.Undisturbed s' ∧
      s'.remaining? k = some period

theorem layered_of_rearmed {slot : Slot} {before after : Device}
    (hvalid : c.validate = .ok ()) (hslot : s.slot? up.watchdog = some slot)
    (hk : slot.device = k) (hidle : slot.busy = false)
    (hstate : slot.driver.state = .running) (hdevice : s.device? k = some after)
    (hrearmed : Device.Rearmed (hardwareConfig c)
      ⟨up.watchdog.registry, up.watchdog.id⟩ period before after)
    (hmonitor : ∃ m, s.bank.monitors[up.monitor]? = some m ∧ Watches m c) :
    ∃ m, s.Layered c before up k after period m := by
  obtain ⟨m, hmonitor, hwatches⟩ := hmonitor
  obtain ⟨hardReset, line, harmed⟩ := hrearmed.armed
  have hlong : c.hwTimeout.nanos ≤ period.nanos :=
    timeout_hardwareConfig c ▸ hrearmed.long
  obtain ⟨hfeed, hslower⟩ := nanos_of_validate hvalid hlong
  have hticking : s.TickingOver up.watchdog k hardReset line (.ofPeriod period) :=
    ⟨⟨slot, hslot, hk, hidle, hstate⟩, after, _, hdevice, harmed⟩
  refine ⟨m, hdevice, harmed.isRunning, hrearmed.mode, hrearmed.vector, hrearmed.held, hlong,
    hmonitor, hwatches, ?_, fun times hfeeds => ?_⟩
  · rw [hwatches.timeout]
    exact hslower
  · obtain ⟨s', hloop, hquiet, hticking'⟩ := hticking.mainLoop fun time htime =>
      Nat.lt_of_le_of_lt (hfeeds time htime) hfeed
    exact ⟨s', hloop, hquiet, hticking'.remaining⟩

/-- A boot leaves a counter alone that runs and cannot be configured again, and fails at
most for want of a thread. -/
theorem boot_of_kept {i : Instance} {slot : Slot} {device : Device}
    (hslot : s.slot? ⟨s.current, i⟩ = some slot) (hidle : slot.busy = false)
    (hk : s.device? slot.device = some device) (hs : device.Sound)
    (hb : device.Books true slot.driver) (hon : device.isRunning = true)
    (hfixed : device.profile.capabilities.contains .reconfigurable = false)
    (hvalid : c.validate = .ok ()) (hi : c.instanceOf = .ok i) (h : Handler κ) :
    ∃ result s', s.startSupervision h c = (result, s') ∧
      s'.device? slot.device = some device ∧
      (s.bank.threadFailure = none → ∃ up, result = .ok up) := by
  have hkept := Device.bringUp_of_kept (c := hardwareConfig c) hs hb hon hfixed
    (mt Profile.malformed_ofTimeout.mp (hwTimeout_ne_zero_of_validate hvalid))
  obtain ⟨s₁, hex, hstart⟩ := exchanged_startSupervision hslot hidle hk c rfl hvalid hi
  obtain ⟨log, hwatch⟩ := watch_eq hvalid ⟨s.current, i⟩ s₁
  rw [hkept] at hstart hex
  rw [finish, hwatch, hex.bank] at hstart
  cases hthread : s.bank.threadFailure with
  | none =>
      rw [hthread] at hstart
      exact ⟨_, _, hstart h, hex.device? hk, fun _ => ⟨_, rfl⟩⟩
  | some why =>
      rw [hthread] at hstart
      exact ⟨_, _, hstart h, hex.device? hk, fun hnone => by cases hnone⟩

end System

namespace Deployment

open TwoTierWatchdog.System

variable {κ : Type}

/-- Wherever a run leads that has no power cycle without a new registry after it, the
supervision may be brought up.

If that succeeds, over hardware without a fault that was off or can be configured again,
then both tiers are up and the hardware is the slower one, for as long as both are fed.
Over hardware that runs and cannot be configured again it succeeds for any settings that
hold together, if there is a thread for the monitor, and in any case the device is exactly
as it was. -/
theorem boot_layers_tiers {sims : List Sim} {moves : List (Move κ)}
    (hpowered : ((fresh sims).run moves).powered = true) (c : Settings) (h : Handler κ) :
    let s := ((fresh sims).run moves).system
    (∀ up s', s.startSupervision h c = (.ok up, s') →
      ∃ slot before, s.slot? up.watchdog = some slot ∧
        s.device? slot.device = some before ∧
        (before.Faultless → before.isRunning = false ∨
            before.profile.capabilities.contains .reconfigurable = true →
          ∃ after period m, s'.Layered c before up slot.device after period m)) ∧
    ∀ i slot device, c.validate = .ok () → c.instanceOf = .ok i →
      s.slot? ⟨s.current, i⟩ = some slot → s.device? slot.device = some device →
      device.isRunning = true →
      device.profile.capabilities.contains .reconfigurable = false →
      ∃ result s', s.startSupervision h c = (result, s') ∧
        s'.device? slot.device = some device ∧
        (s.bank.threadFailure = none → ∃ up, result = .ok up) := by
  intro s
  have hagrees := agrees_run sims moves
  refine ⟨fun up s' hok => ?_, fun i slot device hvalid hi hslot hk hon hfixed => ?_⟩
  · obtain ⟨i, slot, before, hvalid, hi, rfl, hslot, hk, hbank, hr, hdevice, hslot'⟩ :=
      startSupervision_ok hok
    obtain ⟨hmem, hid⟩ := System.slot?_eq_some hslot
    refine ⟨slot, before, hslot, hk, fun hf hanew => ?_⟩
    have hbooks := hagrees.books slot hmem before hk
    rw [hpowered] at hbooks
    have hline : slot.driver.line = some ⟨s.current, i⟩ :=
      (hagrees.bound slot hmem).trans (by rw [hid])
    obtain ⟨hstate, period, hrearmed⟩ :=
      Device.rearmed_of_bringUp (hagrees.sound _ _ hk) hbooks hline hf hanew hr
    have hmonitor := hbank ▸ watching_add s.bank c
    exact ⟨_, period,
      layered_of_rearmed hvalid hslot' rfl rfl hstate hdevice hrearmed hmonitor⟩
  · obtain ⟨hmem, -⟩ := System.slot?_eq_some hslot
    have hbooks := hagrees.books slot hmem device hk
    rw [hpowered] at hbooks
    exact boot_of_kept hslot (hagrees.idle slot hmem) hk (hagrees.sound _ _ hk) hbooks hon
      hfixed hvalid hi h

/-- A counter that an earlier registry started for a second, and that has half of it left,
is brought up for two, with the interrupt: it counts those, and is fed as it should be. -/
theorem tiers_layered_over_running_counter :
    let i : Instance := ⟨0, by decide⟩
    let c : Supervisor.Settings :=
      { hwTimeoutMs := 2000, hardReset := false, appTimeoutMs := 1000, feedIntervalMs := 500 }
    let d := (fresh [.rtl872x] : Deployment Empty).run
      [.build [(0, 0)], .request i (.init { timeoutMs := 1000 }), .request i .start,
        .elapse 0 ⟨500000000⟩, .build [(0, 0)]]
    d.powered = true ∧ ∃ up before s' after period m,
      d.system.startSupervision quiet c = (.ok up, s') ∧
        d.system.device? 0 = some before ∧ before.isRunning = true ∧
        s'.Layered c before up 0 after period m ∧
        ∃ s'', s'.mainLoop quiet up 0 [⟨500000000⟩, ⟨400000000⟩, ⟨500000000⟩] = (.ok (), s'') ∧
          s'.Undisturbed s'' := by
  intro i c d
  have hpowered : d.powered = true := by decide +kernel
  have hok : (d.system.startSupervision quiet c).1 = .ok ⟨⟨2, i⟩, 0⟩ := by decide +kernel
  generalize hboot : d.system.startSupervision quiet c = booted at hok
  obtain ⟨result, s'⟩ := booted
  obtain rfl : result = .ok ⟨⟨2, i⟩, 0⟩ := hok
  obtain ⟨slot, before, hslot, hk, hlayered⟩ :=
    (boot_layers_tiers hpowered c quiet).1 _ s' hboot
  have hnew : (d.system.slot? ⟨2, i⟩).map (·.device) = some 0 := by decide +kernel
  rw [hslot] at hnew
  obtain hzero : slot.device = 0 := Option.some.inj hnew
  rw [hzero] at hk hlayered
  have hfound : (d.system.device? 0).any (fun device => device.Faultless ∧
      device.isRunning = true ∧
      device.profile.capabilities.contains .reconfigurable = true) = true := by decide +kernel
  rw [hk, Option.any_some, decide_eq_true_eq] at hfound
  obtain ⟨hf, hon, hagain⟩ := hfound
  obtain ⟨after, period, m, htiers⟩ := hlayered hf (.inr hagain)
  have hinterval : c.feedInterval = ⟨500000000⟩ := by decide +kernel
  obtain ⟨s'', hloop, hquiet, -⟩ :=
    htiers.fed [⟨500000000⟩, ⟨400000000⟩, ⟨500000000⟩] (by rw [hinterval]; decide)
  exact ⟨hpowered, _, before, s', after, period, m, rfl, hk, hon, htiers, s'', hloop quiet,
    hquiet⟩

end Deployment

end TwoTierWatchdog
