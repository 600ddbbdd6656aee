import Mathlib.Control.Monad.Basic
import TwoTierWatchdog.Deployment
import TwoTierWatchdog.Proofs.Checks
import TwoTierWatchdog.Proofs.Running
import TwoTierWatchdog.Proofs.Supervisor.Loading
import TwoTierWatchdog.Proofs.System
import TwoTierWatchdog.Proofs.Trace
import TwoTierWatchdog.Supervisor.Boot

/-!
# Bringing up the hardware tier

To the hardware, bringing up the supervision is an `init` and a `start` of one driver:
what comes before only reads, and what comes after, the monitor, leaves the hardware
alone. There is no way back. A start that fails leaves a counter as it found it, but a
counter that was started goes on also if then no monitor is to be had.
-/

namespace TwoTierWatchdog

open Supervisor

/-- The steps that come before the hardware is told anything. -/
def Supervisor.Stage.early : Stage → Bool
  | settings | lookup _ | info => true
  | init | start | monitor | refresh => false

theorem Supervisor.Settings.ne_zero_of_validate {c : Settings} (h : c.validate = .ok ()) :
    c.hwTimeoutMs ≠ 0 ∧ c.appTimeoutMs ≠ 0 := by
  obtain ⟨hfeed, hoften, hslower⟩ := tiered_of_validate h
  refine ⟨fun hw => ?_, fun ha => ?_⟩
  · rw [hw] at hslower
    exact Nat.not_lt_zero _ hslower
  · rw [ha, UInt32.toNat_zero] at hoften
    omega

/-- A monitor with a timeout needs a thread and nothing else. -/
theorem Liveness.Bank.spawn_eq {spec : Liveness.Spec} (b : Liveness.Bank)
    (h : spec.timeoutMs ≠ 0) :
    ∃ log, b.spawn spec =
      match b.threadFailure with
      | some _ => (.error .internal, b, log)
      | none => (.ok b.nextId, b.add spec, log) := by
  unfold spawn
  rw [if_neg h]
  cases b.threadFailure <;> exact ⟨_, rfl⟩

/-! ## A driver on its device -/

namespace Device

/-- How far bringing up a device got, and what came of driver and device. -/
structure BroughtUp where
  result : Except Failure Unit
  driver : Driver
  device : Device

/-- What comes after `init`. -/
def begin (driver : Driver) (device : Device) : BroughtUp :=
  let begun := device.serve .start driver
  ⟨begun.result.mapError (⟨.start, ·⟩), begun.driver, begun.device⟩

/-- Configures a device and starts it. One that runs and is not to be configured again
is kept. -/
def bringUp (c : Record.Config) (driver : Driver) (device : Device) : BroughtUp :=
  let configured := device.serve (.init c) driver
  match configured.result with
  | .ok () => configured.device.begin configured.driver
  | .error e =>
    if e = .invalidState ∧ device.isRunning = true then
      configured.device.begin configured.driver
    else
      ⟨.error ⟨.init, e⟩, configured.driver, configured.device⟩

variable {device : Device} {driver : Driver} {c : Record.Config}

/-- What a device is like that could not be brought up. -/
structure Failed (c : Record.Config) (driver : Driver) (device : Device) (f : Failure)
    (b : BroughtUp) : Prop where
  result : b.result = .error f
  stage : f.stage = .init ∨ f.stage = .start
  running : ¬ device.Misled driver c → b.device.isRunning = device.isRunning

theorem begin_cases (driver : Driver) (device : Device) :
    (device.begin driver).result = .ok () ∧ (device.begin driver).device.isRunning = true ∨
      ∃ e, (device.begin driver).result = .error ⟨.start, e⟩ ∧
        (device.begin driver).device.isRunning = device.isRunning := by
  have hstart := begun_start device driver
  unfold begin
  dsimp only at hstart ⊢
  generalize device.serve .start driver = begun at hstart
  rcases hstart with ⟨hok, hon⟩ | ⟨hfailed, hkept, -⟩
  · exact .inl ⟨by rw [hok]; rfl, hon⟩
  · cases hr : begun.result with
    | ok => exact absurd hr hfailed
    | error e => exact .inr ⟨e, rfl, hkept⟩

/-- A device is brought up, and its counter runs; or that fails, and the counter runs if
it ran before, unless the driver was misled. -/
theorem bringUp_cases (c : Record.Config) (driver : Driver) (device : Device) :
    (device.bringUp c driver).result = .ok () ∧
        (device.bringUp c driver).device.isRunning = true ∨
      ∃ f, Failed c driver device f (device.bringUp c driver) := by
  have hinit := running_init device driver c
  have hmisled := misled_iff device driver c
  unfold bringUp
  dsimp only at hinit hmisled ⊢
  generalize device.serve (.init c) driver = configured at hinit hmisled
  have hbegin := begin_cases configured.driver configured.device
  -- a start that fails after an `init` that left the bit alone
  have hfailed : ∀ {e}, configured.device.isRunning = device.isRunning →
      (configured.device.begin configured.driver).result = .error ⟨.start, e⟩ ∧
        (configured.device.begin configured.driver).device.isRunning =
          configured.device.isRunning →
      Failed c driver device ⟨.start, e⟩ (configured.device.begin configured.driver) :=
    fun hkept ⟨hr, hbit⟩ => ⟨hr, .inr rfl, fun _ => hbit.trans hkept⟩
  split
  · next hr =>
      refine hbegin.imp_right fun ⟨e, he⟩ => ⟨_, hfailed ?_ he⟩
      rcases hinit with hkept | ⟨-, hon, hs⟩
      · exact hkept
      · have hok : (configured.device.begin configured.driver).result = .ok () := by
          rw [begin, start_of_running (hs hr) hon]
          rfl
        exact nomatch hok.symm.trans he.1
  · next e hr =>
      split
      · next hkeep =>
          refine hbegin.imp_right fun ⟨e, he⟩ => ⟨_, hfailed ?_ he⟩
          rcases hinit with hkept | ⟨-, hon, -⟩
          · exact hkept
          · exact hon.trans hkeep.2.symm
      · refine .inr ⟨_, rfl, .inl rfl, fun hnot => ?_⟩
        rcases hinit with hkept | ⟨hoff, hon, -⟩
        · exact hkept
        · exact absurd (hmisled.mpr ⟨hoff, hon, fun hok => nomatch hr.symm.trans hok⟩) hnot

end Device

/-! ## A driver in its registry -/

namespace System

variable {κ : Type} {s s' s'' : System κ} {w : Watchdog} {slot : Slot}

/-- A driver and its device were exchanged, and nothing else that anybody can tell. -/
structure Exchanged (s : System κ) (w : Watchdog) (slot : Slot) (driver : Driver)
    (device : Device) (s' : System κ) : Prop where
  devices : ∀ k, s'.device? k =
    if slot.device = k then (s.device? k).map fun _ => device else s.device? k
  current : s'.current = s.current
  slot : s'.slot? w = some { slot with driver, busy := false }
  bank : s'.bank = s.bank

theorem Exchanged.append {driver : Driver} {device : Device}
    (h : s.Exchanged w slot driver device s') (log : List Log.Entry) :
    s.Exchanged w slot driver device (s'.append log) :=
  ⟨h.devices, h.current, h.slot, h.bank⟩

theorem Exchanged.trans {driver driver' : Driver} {device device' : Device}
    (h : s.Exchanged w slot driver device s')
    (h' : s'.Exchanged w { slot with driver, busy := false } driver' device' s'') :
    s.Exchanged w slot driver' device' s'' := by
  refine ⟨fun k => ?_, h'.current.trans h.current, h'.slot, h'.bank.trans h.bank⟩
  rw [h'.devices, h.devices]
  dsimp only
  split
  · rw [Option.map_map]
    rfl
  · rfl

theorem Exchanged.device? {driver : Driver} {device before : Device}
    (h : s.Exchanged w slot driver device s') (hk : s.device? slot.device = some before) :
    s'.device? slot.device = some device := by
  rw [h.devices, if_pos rfl, hk, Option.map_some]

/-- A request that fires nothing exchanges driver and device. -/
theorem exchanged_serve {device : Device} {q : Request} (hslot : s.slot? w = some slot)
    (hidle : slot.busy = false) (hk : s.device? slot.device = some device)
    (hq : q ≠ .refresh) :
    ∃ s', (∀ h, s.serve h w q = ((device.serve q slot.driver).result, s')) ∧
      s.Exchanged w slot (device.serve q slot.driver).driver
        (device.serve q slot.driver).device s' := by
  have hquiet : (device.serve q slot.driver).raised = [] :=
    Device.raised_serve slot.driver fun h => absurd h hq
  obtain ⟨s', hserve, hserved⟩ := serve_of_quiet hslot hidle hk hquiet
  refine ⟨s', hserve, hserved.devices, hserved.current, hserved.slot? hslot, ?_⟩
  have hbank : (s.serve (fun _ s => s) w q).2.bank = s.bank := by
    unfold serve
    simp only [hslot, hidle, hk, hquiet, List.foldl_nil, Bool.false_eq_true, if_false]
    rfl
  rwa [hserve] at hbank

/-- The same, said of what is served. -/
theorem answered {device : Device} {q : Request} (hslot : s.slot? w = some slot)
    (hidle : slot.busy = false) (hk : s.device? slot.device = some device)
    (hq : q ≠ .refresh) (h : Handler κ) :
    (s.serve h w q).1 = (device.serve q slot.driver).result ∧
      s.Exchanged w slot (device.serve q slot.driver).driver
        (device.serve q slot.driver).device (s.serve h w q).2 := by
  obtain ⟨s', hserve, hex⟩ := exchanged_serve hslot hidle hk hq
  rw [hserve]
  exact ⟨rfl, hex⟩

/-- A driver that was not busy is not busy. -/
theorem Exchanged.slot_of_idle {driver : Driver} {device : Device}
    (h : s.Exchanged w slot driver device s') (hidle : slot.busy = false) :
    s'.slot? w = some { slot with driver } := by
  rw [h.slot, ← hidle]

/-- What comes of bringing up the hardware: the failure, or else the monitor. -/
def finish (c : Settings) (w : Watchdog) (result : Except Failure Unit) (s : System κ) :
    Except Failure Supervision × System κ :=
  match result with
  | .error f => (.error f, s)
  | .ok () => s.watch c w

/-- The configuration that the settings ask of the hardware. -/
def hardwareConfig (c : Settings) : Record.Config :=
  .ofTimeout c.hwTimeout c.hardReset

theorem startSupervision_of_ok {c : Settings} {i : Instance} {before : Record.Info} {h : Handler κ}
    {s₁ : System κ} (hvalid : c.validate = .ok ()) (hi : c.instanceOf = .ok i)
    (hw : s.watchdog i = .ok w) (hinfo : s.info w = .ok before)
    (hserve : s.serve h w (.init (hardwareConfig c)) = (.ok (), s₁)) :
    s.startSupervision h c = s₁.arm h c w := by
  rw [hardwareConfig] at hserve
  simp only [startSupervision, hvalid, hi, hw, hinfo, hserve]

theorem startSupervision_of_error {c : Settings} {i : Instance} {before : Record.Info}
    {h : Handler κ} {s₁ : System κ} {e : Error} (hvalid : c.validate = .ok ())
    (hi : c.instanceOf = .ok i) (hw : s.watchdog i = .ok w) (hinfo : s.info w = .ok before)
    (hserve : s.serve h w (.init (hardwareConfig c)) = (.error e, s₁)) :
    s.startSupervision h c =
      if e = .invalidState ∧ before.running = true then
        (s₁.append [⟨.warn, "boot: hardware watchdog running since before reset, keeping " ++
          s!"{before.timeoutMs} ms"⟩]).arm h c w
      else
        s₁.failAt .init e := by
  rw [hardwareConfig] at hserve
  simp only [startSupervision, hvalid, hi, hw, hinfo, hserve]

section

variable {device : Device} (hslot : s.slot? w = some slot) (hidle : slot.busy = false)
  (hk : s.device? slot.device = some device) (c : Settings)

include hslot hidle hk

theorem exchanged_arm :
    ∃ s', s.Exchanged w slot (device.begin slot.driver).driver
        (device.begin slot.driver).device s' ∧
      ∀ h, s.arm h c w = s'.finish c w (device.begin slot.driver).result := by
  obtain ⟨s', hserve, hex⟩ := exchanged_serve hslot hidle hk (q := .start) nofun
  refine ⟨s', hex, fun h => ?_⟩
  rw [arm, hserve, Device.begin]
  cases (device.serve .start slot.driver).result <;> rfl

/-- Over a watchdog that is not busy, the supervision is brought up as its device is. -/
theorem exchanged_startSupervision {i : Instance} (hw : w = ⟨s.current, i⟩)
    (hvalid : c.validate = .ok ()) (hi : c.instanceOf = .ok i) :
    let b := device.bringUp (hardwareConfig c) slot.driver
    ∃ s', s.Exchanged w slot b.driver b.device s' ∧
      ∀ h, s.startSupervision h c = s'.finish c w b.result := by
  have hcontains : s.watchdog i = .ok w := by
    rw [hw] at hslot ⊢
    exact if_pos (Option.isSome_iff_exists.mpr ⟨slot, hslot⟩)
  have hinfo : s.info w = .ok (device.info slot.driver) := by
    simp only [info, hslot, hidle, hk, Bool.false_eq_true, if_false]
  obtain ⟨s₁, hserve, hex⟩ :=
    exchanged_serve hslot hidle hk (q := .init (hardwareConfig c)) (by simp)
  unfold Device.bringUp
  dsimp only
  generalize device.serve (.init (hardwareConfig c)) slot.driver = configured
    at hex hserve
  have harm : ∀ log, ∃ s', s.Exchanged w slot
      (configured.device.begin configured.driver).driver
      (configured.device.begin configured.driver).device s' ∧
      ∀ h, (s₁.append log).arm h c w =
        s'.finish c w (configured.device.begin configured.driver).result := by
    intro log
    have hex := hex.append log
    obtain ⟨s', hex', harm⟩ := exchanged_arm hex.slot rfl (hex.device? hk) c
    exact ⟨s', hex.trans hex', harm⟩
  cases hr : configured.result with
  | ok =>
      obtain ⟨s', hex', harm⟩ := harm []
      rw [show s₁.append [] = s₁ by simp [append]] at harm
      refine ⟨s', hex', fun h => ?_⟩
      rw [startSupervision_of_ok hvalid hi hcontains hinfo ((hserve h).trans (by rw [hr]))]
      exact harm h
  | error e =>
      have hstart := fun h => startSupervision_of_error hvalid hi hcontains hinfo
        ((hserve h).trans (by rw [hr]))
      dsimp only
      by_cases hkeep : e = .invalidState ∧ device.isRunning = true
      · rw [if_pos hkeep]
        obtain ⟨s', hex', harm⟩ := harm _
        exact ⟨s', hex', fun h => ((hstart h).trans (if_pos hkeep)).trans (harm h)⟩
      · rw [if_neg hkeep]
        exact ⟨s₁, hex, fun h => (hstart h).trans (if_neg hkeep)⟩

end

theorem watchdog_eq_ok {i : Instance} (h : s.watchdog i = .ok w) : w = ⟨s.current, i⟩ := by
  unfold watchdog at h
  split at h
  · exact (Except.ok.inj h).symm
  · cases h

theorem info_eq_ok {before : Record.Info} (h : s.info w = .ok before) :
    ∃ slot device, s.slot? w = some slot ∧ slot.busy = false ∧
      s.device? slot.device = some device := by
  unfold info at h
  split at h
  · cases h
  · next slot hslot =>
      split at h
      · cases h
      · next hidle =>
          split at h
          · cases h
          · next device hk => exact ⟨slot, device, hslot, Bool.eq_false_iff.mpr hidle, hk⟩

/-- Either the supervision is turned away before the hardware is told anything, or there
is a watchdog to bring up. -/
theorem startSupervision_cases (s : System κ) (c : Settings) :
    (∃ f : Failure, f.stage.early = true ∧ ∀ h, s.startSupervision h c = (.error f, s)) ∨
    ∃ (i : Instance) (slot : Slot) (device : Device),
      c.validate = .ok () ∧ c.instanceOf = .ok i ∧
      s.slot? ⟨s.current, i⟩ = some slot ∧ slot.busy = false ∧
      s.device? slot.device = some device := by
  cases hvalid : c.validate with
  | error e =>
      exact .inl ⟨⟨.settings, e⟩, rfl, fun h => by simp only [startSupervision, hvalid, failAt]⟩
  | ok =>
      cases hi : c.instanceOf with
      | error e => exact .inl ⟨⟨.settings, e⟩, rfl, fun h => by
          simp only [startSupervision, hvalid, hi, failAt]⟩
      | ok i =>
          cases hw : s.watchdog i with
          | error e => exact .inl ⟨⟨.lookup i, e⟩, rfl, fun h => by
              simp only [startSupervision, hvalid, hi, hw, failAt]⟩
          | ok w =>
              cases hinfo : s.info w with
              | error e => exact .inl ⟨⟨.info, e⟩, rfl, fun h => by
                  simp only [startSupervision, hvalid, hi, hw, hinfo, failAt]⟩
              | ok before =>
                  obtain ⟨slot, device, hslot, hidle, hk⟩ := info_eq_ok hinfo
                  rw [watchdog_eq_ok hw] at hslot
                  exact .inr ⟨i, slot, device, rfl, rfl, hslot, hidle, hk⟩

/-! ## The monitor -/

theorem timeoutMs_monitorSpec (c : Settings) : (monitorSpec c).timeoutMs = c.appTimeoutMs :=
  Duration.millisCeil_ofMillis c.appTimeoutMs

/-- Once the hardware runs, a monitor is to be had if a thread is. -/
theorem watch_eq {c : Settings} (hvalid : c.validate = .ok ()) (w : Watchdog) (s : System κ) :
    ∃ log, s.watch c w =
      match s.bank.threadFailure with
      | some _ => (.error ⟨.monitor, .internal⟩, s.append log)
      | none => (.ok ⟨w, s.bank.nextId⟩,
          { s with bank := s.bank.add (monitorSpec c) }.append log) := by
  have htimeout : (monitorSpec c).timeoutMs ≠ 0 :=
    timeoutMs_monitorSpec c ▸ (Settings.ne_zero_of_validate hvalid).2
  obtain ⟨log, hspawn⟩ := s.bank.spawn_eq htimeout
  rw [watch, hspawn]
  cases s.bank.threadFailure <;> exact ⟨_, rfl⟩

/-- A monitor is nothing to the hardware. -/
theorem watch_frame (s : System κ) (c : Settings) (w : Watchdog) :
    (s.watch c w).2.devices = s.devices ∧ (s.watch c w).2.registries = s.registries := by
  unfold watch
  obtain ⟨result, bank, log⟩ := s.bank.spawn (monitorSpec c)
  cases result <;> exact ⟨rfl, rfl⟩

/-! ## A failed boot -/

variable {c : Settings} {f : Failure} {h : Handler κ}

/-- How a boot fails: before the hardware is told anything, or with the hardware brought
up as far as it goes, or with the hardware up and no thread to be had. -/
theorem startSupervision_error (hfail : s.startSupervision h c = (.error f, s')) :
    f.stage.early = true ∧ s' = s ∨
    ∃ i slot device, c.instanceOf = .ok i ∧ s.slot? ⟨s.current, i⟩ = some slot ∧
      s.device? slot.device = some device ∧
      let b := device.bringUp (hardwareConfig c) slot.driver
      s.Exchanged ⟨s.current, i⟩ slot b.driver b.device s' ∧
        (b.result = .error f ∨
          b.result = .ok () ∧ f = ⟨.monitor, .internal⟩ ∧ s.bank.threadFailure.isSome) := by
  rcases startSupervision_cases s c with ⟨f', hearly, hturned⟩ |
    ⟨i, slot, device, hvalid, hi, hslot, hidle, hk⟩
  · rw [hturned] at hfail
    obtain ⟨hf, hs⟩ := Prod.mk.inj hfail
    exact .inl ⟨Except.error.inj hf ▸ hearly, hs.symm⟩
  · obtain ⟨s₁, hex, hstart⟩ := exchanged_startSupervision hslot hidle hk c rfl hvalid hi
    refine .inr ⟨i, slot, device, hi, hslot, hk, ?_⟩
    rw [hstart] at hfail
    dsimp only
    cases hr : (device.bringUp (hardwareConfig c) slot.driver).result with
    | error f' =>
        rw [hr] at hfail
        obtain ⟨hf, hs⟩ := Prod.mk.inj hfail
        exact ⟨hs ▸ hex, .inl (congrArg Except.error (Except.error.inj hf))⟩
    | ok =>
        obtain ⟨log, hwatch⟩ := watch_eq hvalid ⟨s.current, i⟩ s₁
        rw [hr, finish, hwatch, hex.bank] at hfail
        cases hthread : s.bank.threadFailure with
        | none => rw [hthread] at hfail; cases hfail
        | some why =>
            rw [hthread] at hfail
            obtain ⟨hf, hs⟩ := Prod.mk.inj hfail
            exact ⟨hs ▸ hex.append log, .inr ⟨rfl, (Except.error.inj hf).symm, rfl⟩⟩

/-- The watchdog that is to be brought up is over the device with number `k`, and its driver
is misled about it. -/
def Misled (c : Settings) (s : System κ) (k : Nat) : Prop :=
  ∃ i slot device, c.instanceOf = .ok i ∧ s.slot? ⟨s.current, i⟩ = some slot ∧
    slot.device = k ∧ s.device? k = some device ∧
    device.Misled slot.driver (hardwareConfig c)

/-- After a boot that failed the monitors are as they were: none was added, and none has
called back. So is every counter, running or stopped, unless it was the monitor that
failed. Then the platform had no thread for it, and the counter of the watchdog runs, as
it was told to; the others are as they were. What becomes of a counter about which its own
driver is misled is left open. -/
theorem failed_boot_keeps_counters (hfail : s.startSupervision h c = (.error f, s')) :
    s'.bank = s.bank ∧
      (f.stage ≠ .monitor → ∀ k, ¬ s.Misled c k → s'.running? k = s.running? k) ∧
      (f.stage = .monitor → f.cause = .internal ∧ s.bank.threadFailure.isSome ∧
        ∃ i slot, c.instanceOf = .ok i ∧ s.slot? ⟨s.current, i⟩ = some slot ∧
          s'.running? slot.device = some true ∧
          ∀ k, k ≠ slot.device → s'.running? k = s.running? k) := by
  rcases startSupervision_error hfail with ⟨hearly, rfl⟩ |
    ⟨i, slot, device, hi, hslot, hk, hex, hresult⟩
  · refine ⟨rfl, fun _ _ _ => rfl, fun hstage => ?_⟩
    rw [hstage] at hearly
    cases hearly
  · have hcases := Device.bringUp_cases (hardwareConfig c) slot.driver device
    have hothers : ∀ k, k ≠ slot.device → s'.running? k = s.running? k := fun k hne => by
      rw [running?, hex.devices, if_neg (Ne.symm hne), running?]
    have hown := running?_of_some (hex.device? hk)
    rcases hresult with hr | ⟨hr, rfl, hthread⟩
    · obtain ⟨f', hfailed⟩ := hcases.resolve_left fun hok => by cases hok.1.symm.trans hr
      obtain rfl := Except.error.inj (hfailed.result.symm.trans hr)
      refine ⟨hex.bank, fun _ k hmisled => ?_, fun hstage => ?_⟩
      · by_cases hne : k = slot.device
        · subst hne
          rw [hown, running?_of_some hk, hfailed.running fun hdevice =>
            hmisled ⟨i, slot, device, hi, hslot, rfl, hk, hdevice⟩]
        · exact hothers k hne
      · rcases hfailed.stage with h | h <;> rw [h] at hstage <;> cases hstage
    · obtain ⟨-, hon⟩ := hcases.resolve_right fun hfails =>
        hfails.elim fun _ hfailed => by cases hr.symm.trans hfailed.result
      exact ⟨hex.bank, fun hstage => absurd rfl hstage, fun _ => ⟨rfl, hthread, i, slot, hi,
        hslot, hown.trans (congrArg some hon), hothers⟩⟩

/-- An RTL872x that was reset while its driver was running, and whose divider is locked since.
It is asked for a longer period than it can count: the boot fails at the `init`, and
everything is as before. -/
theorem refused_boot_leaves_counter_off :
    let c : Settings := { hwTimeoutMs := 8190001, appTimeoutMs := 1000, feedIntervalMs := 100 }
    let i : Instance := ⟨0, by decide⟩
    let s := ((Deployment.fresh [.rtl872x, .twdt] : Deployment Empty).run
      [.build [(0, 0), (1, 1)], .request i (.init { timeoutMs := 1000 }), .request i .start,
        .elapse 0 ⟨1000000000⟩, .strike 0, .poke 0 (.lockDivider true)]).system
    ∃ s', s.startSupervision Deployment.quiet c = (.error ⟨.init, .invalidArgument⟩, s') ∧
      s'.bank = s.bank ∧ ∀ k, s'.running? k = s.running? k := by
  intro c i s
  have hfail : (s.startSupervision Deployment.quiet c).1 =
      .error ⟨.init, .invalidArgument⟩ := by decide +kernel
  -- what the run leads to is not to be computed again
  clear_value s
  obtain ⟨hbank, hearlier, -⟩ :=
    failed_boot_keeps_counters (h := Deployment.quiet) (Prod.ext hfail rfl)
  refine ⟨_, Prod.ext hfail rfl, hbank, fun k => hearlier (by decide) k ?_⟩
  rintro ⟨_, _, device, -, -, -, -, hmisled⟩
  cases device with
  | rtl872x p => exact absurd hmisled.2.1.taken (by decide)
  | _ => exact hmisled

/-- A counter that a failed boot leaves running, though it was off before: of any family,
if there is no thread for the monitor; and an RTL872x that was reset while its driver was
running, if its divider is then locked. -/
theorem failed_boot_leaves_counter_running :
    let c : Settings := { hwTimeoutMs := 2000, appTimeoutMs := 1000, feedIntervalMs := 100 }
    let i : Instance := ⟨0, by decide⟩
    (∀ sim ∈ [Sim.nrf52 false, .rtl872x, .twdt],
      let built := ((Deployment.fresh [sim] : Deployment Empty).run [.build [(0, 0)]]).system
      let s := { built with bank := { threadFailure := some "out of memory" } }
      let after := s.startSupervision Deployment.quiet c
      after.1 = .error ⟨.monitor, .internal⟩ ∧
        s.running? 0 = some false ∧ after.2.running? 0 = some true) ∧
    (let s := ((Deployment.fresh [.rtl872x] : Deployment Empty).run
        [.build [(0, 0)], .request i (.init { timeoutMs := 1000 }), .request i .start,
          .elapse 0 ⟨1000000000⟩, .strike 0, .poke 0 (.lockDivider true)]).system
      let after := s.startSupervision Deployment.quiet c
      after.1 = .error ⟨.init, .internal⟩ ∧
        s.running? 0 = some false ∧ after.2.running? 0 = some true) := by
  decide +kernel

end System

end TwoTierWatchdog
