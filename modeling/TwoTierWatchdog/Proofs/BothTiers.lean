import TwoTierWatchdog.Proofs.Bringup
import TwoTierWatchdog.Proofs.Expiry

/-!
# Both tiers

What it is for the supervision to be up: the hardware counts, in the mode and for no less
than the period that the settings ask for, and a monitor watches with the timeout that
they ask for. A watchdog over a device that is ready is brought up so.
-/

namespace TwoTierWatchdog

open Supervisor

/-! ## A device -/

namespace Device

variable {device : Device} {driver : Driver} {c : Record.Config}

theorem bringUp_of_ok (h : (device.serve (.init c) driver).result = .ok ()) :
    device.bringUp c driver = (device.serve (.init c) driver).device.begin
      (device.serve (.init c) driver).driver := by
  unfold bringUp
  dsimp only
  rw [h]

theorem bringUp_of_error {e : Error} (h : (device.serve (.init c) driver).result = .error e)
    (hkeep : ¬ (e = .invalidState ∧ device.isRunning = true)) :
    device.bringUp c driver = ⟨.error ⟨.init, e⟩, (device.serve (.init c) driver).driver,
      (device.serve (.init c) driver).device⟩ := by
  unfold bringUp
  dsimp only
  rw [h]
  exact if_neg hkeep

theorem bringUp_of_ready {line : Interrupt.Line} {d : Duration} {hardReset : Bool}
    (hready : device.Ready line driver)
    (hmode : hardReset = true ∨ device.profile.capabilities.contains .interrupt = true)
    (h : ¬ (d.nanos = 0 ∨ device.profile.maxTimeoutMs < d.millisCeil)) :
    let b := device.bringUp (.ofTimeout d hardReset) driver
    b.result = .ok () ∧ b.driver.state = .running ∧ ∃ period : Duration,
      d.nanos ≤ period.nanos ∧ b.device.Armed hardReset line (.ofPeriod period)
        device.resets := by
  obtain ⟨driver₁, device₁, driver₂, device₂, hinit, hstart, hstate, harmed⟩ :=
    armed_of_start hready hmode h
  have hb : device.bringUp (.ofTimeout d hardReset) driver =
      ⟨.ok (), driver₂, device₂⟩ := by
    unfold bringUp
    dsimp only
    rw [hinit.result, hinit.newDriver, hinit.newDevice]
    dsimp only [begin]
    rw [hstart.result, hstart.newDriver, hstart.newDevice]
    rfl
  rw [hb]
  exact ⟨rfl, hstate, harmed⟩

end Device

/-! ## A monitor -/

namespace Liveness

theorem uptime_self (now : Nat) : uptime now now = 0 := by
  rw [← UInt64.toNat_inj, toNat_uptime, Nat.sub_self]
  rfl

/-- A watcher that begins where a monitor was just checked in goes to sleep. -/
theorem Monitor.turn_of_checkedIn {m : Monitor} {now : Nat} (hw : m.watcher = .top)
    (hc : elapsed (m.clock now) m.cell.lastCheckin = 0) :
    m.turn now = { m with watcher := .parked (m.cell.timeout - 0 + 1) } := by
  obtain ⟨made, policy, panics, supervises, ⟨stamp, timeout, state⟩, watcher⟩ := m
  subst hw
  have hlate : ¬ timeout < 0 := UInt64.not_lt.mpr UInt64.zero_le
  simp only [Monitor.clock] at hc
  simp only [Monitor.turn, Monitor.step, Monitor.settle, Monitor.atRest,
    Bool.false_eq_true, if_false, Monitor.clock, hc, if_neg hlate, if_true]
end Liveness

namespace System

variable {κ : Type} {s s' : System κ} {w : Watchdog} {c : Settings}

/-- A monitor watches, with the timeout that the settings ask for. -/
structure Watches (m : Liveness.Monitor) (c : Settings) : Prop where
  state : m.cell.state = .running
  watcher : m.isComplete = false
  kept : m.dropped = false
  timeout : m.timeout = c.appTimeout

theorem watches_monitor (c : Settings) (now : Nat) :
    Watches ((monitorSpec c).monitor now) c := by
  have htimeout : Duration.ofMicros (monitorSpec c).timeoutUs.toNat = c.appTimeout := by
    rw [Liveness.Spec.toNat_timeoutUs, timeoutMs_monitorSpec, Duration.ofMicros,
      Settings.appTimeout, Duration.ofMillis, Nat.mul_assoc]
  have hclock : Liveness.elapsed (Liveness.uptime now now) 0 = 0 := by
    rw [Liveness.uptime_self]
    rfl
  have hclock' : Liveness.elapsed (((monitorSpec c).spawned now).clock now)
      ((monitorSpec c).spawned now).cell.lastCheckin = 0 := hclock
  rw [Liveness.Spec.monitor, Liveness.Monitor.turn_of_checkedIn rfl hclock']
  exact ⟨rfl, rfl, rfl, htimeout⟩

/-- A new monitor watches from the moment it is spawned. -/
theorem watching_add (b : Liveness.Bank) (c : Settings) :
    ∃ m, (b.add (monitorSpec c)).monitors[b.nextId]? = some m ∧ Watches m c :=
  ⟨_, List.getElem?_concat_length, watches_monitor c b.now⟩

/-! ## A system -/

/-- The hardware counts for a watchdog, in the mode that the settings ask for and for a
period that is no shorter. -/
structure Counts (s : System κ) (w : Watchdog) (k : Nat) (c : Settings) : Prop where
  running : s.running? k = some true
  ticking : ∃ period : Duration, c.hwTimeout.nanos ≤ period.nanos ∧
    s.Ticking w k c.hardReset (.after period 0)

/-- Both tiers are up: the hardware counts, and the monitor watches. -/
structure Up (s : System κ) (up : Supervision) (k : Nat) (c : Settings) : Prop where
  hardware : s.Counts up.watchdog k c
  monitor : ∃ m, s.bank.monitors[up.monitor]? = some m ∧ Watches m c

/-- The hardware counts for a watchdog over a device that is armed. -/
theorem counts_of_armed {slot : Slot} {device : Device} {k n : Nat} {period : Duration}
    (hslot : s.slot? w = some slot) (hk : slot.device = k) (hidle : slot.busy = false)
    (hstate : slot.driver.state = .running) (hdevice : s.device? k = some device)
    (hle : c.hwTimeout.nanos ≤ period.nanos)
    (harmed : device.Armed c.hardReset ⟨w.registry, w.id⟩ (.ofPeriod period) n) :
    s.Counts w k c where
  running := (running?_of_some hdevice).trans (congrArg some harmed.isRunning)
  ticking := ⟨period, hle, ⟨slot, hslot, hk, hidle, hstate⟩, device, n, hdevice, harmed⟩

/-- Settings that hold together ask for a period that is some time. -/
theorem hwTimeout_ne_zero_of_validate (hvalid : c.validate = .ok ()) :
    c.hwTimeout.nanos ≠ 0 := by
  intro h0
  rw [← Duration.millisCeil_eq_zero_iff, Settings.hwTimeout, Duration.millisCeil_ofMillis] at h0
  exact (Settings.ne_zero_of_validate hvalid).1 h0

/-- The hardware counts the period if it is not too long. -/
theorem period_of_validate {p : Profile} (hvalid : c.validate = .ok ())
    (hmax : c.hwTimeoutMs ≤ p.maxTimeoutMs) :
    ¬ (c.hwTimeout.nanos = 0 ∨ p.maxTimeoutMs < c.hwTimeout.millisCeil) := by
  rintro (h0 | hlong)
  · exact hwTimeout_ne_zero_of_validate hvalid h0
  · rw [Settings.hwTimeout, Duration.millisCeil_ofMillis] at hlong
    exact UInt32.not_lt.mpr hmax hlong

/-- A watchdog over a device that is ready is brought up, and the monitor with it. -/
theorem up_of_ready {i : Instance} {slot : Slot} {device : Device}
    (hw : w = ⟨s.current, i⟩) (hslot : s.slot? w = some slot) (hidle : slot.busy = false)
    (hk : s.device? slot.device = some device)
    (hready : device.Ready ⟨w.registry, w.id⟩ slot.driver)
    (hthread : s.bank.threadFailure = none) (hvalid : c.validate = .ok ())
    (hi : c.instanceOf = .ok i) (hmax : c.hwTimeoutMs ≤ device.profile.maxTimeoutMs)
    (hmode : c.hardReset = true ∨ device.profile.capabilities.contains .interrupt = true) :
    ∃ up s', (∀ h, s.startSupervision h c = (.ok up, s')) ∧
      up.watchdog = w ∧ s'.Up up slot.device c := by
  obtain ⟨s₁, hex, hstart⟩ := exchanged_startSupervision hslot hidle hk c hw hvalid hi
  obtain ⟨hr, hstate, period, hle, harmed⟩ :=
    Device.bringUp_of_ready hready hmode (period_of_validate hvalid hmax)
  obtain ⟨log, hwatch⟩ := watch_eq hvalid w s₁
  rw [hex.bank, hthread] at hwatch
  have hmonitor := watching_add s.bank c
  have hcounts : s₁.Counts w slot.device c :=
    counts_of_armed hex.slot rfl rfl hstate (hex.device? hk) hle harmed
  refine ⟨⟨w, s.bank.nextId⟩,
    { s₁ with bank := s.bank.add (monitorSpec c) }.append log, fun h => ?_, rfl, ?_, hmonitor⟩
  · rw [hstart, hardwareConfig, hr]
    exact hwatch
  · exact ⟨hcounts.running, hcounts.ticking.imp fun _ h => ⟨h.1, h.2.slot, h.2.device⟩⟩

end System

end TwoTierWatchdog
