import Mathlib.Data.List.Induction
import TwoTierWatchdog.Proofs.Bringup
import TwoTierWatchdog.Proofs.Counting
import TwoTierWatchdog.Proofs.Nrf52.Arming

/-!
# An nRF52840 watchdog that runs is fixed

The driver does not read the reload value back, and its write is ignored once the counter
runs. One path that reached the writes would therefore leave books that report a period
the counter does not have. There is none: the driver of a counter that runs is never
`uninitialized`, also if a new registry has taken the counter over, and no other driver
gets past the checks.
-/

namespace TwoTierWatchdog

/-! ## A driver on its peripheral -/

namespace Nrf52

/-- A counter that runs as it did before, but for what it has left. -/
structure Peripheral.Unaltered (p p' : Peripheral) : Prop where
  running : p'.running = true
  crv : p'.crv = p.crv
  inSleep : p'.runInSleep = p.runInSleep
  inHalt : p'.runInHalt = p.runInHalt
  line : p'.line = p.line
  period : p'.countdown.period = p.countdown.period

theorem Peripheral.Unaltered.refl {p : Peripheral} (h : p.running = true) : p.Unaltered p :=
  ⟨h, rfl, rfl, rfl, rfl, rfl⟩

theorem Peripheral.Unaltered.trans {p p' p'' : Peripheral} (h : p.Unaltered p')
    (h' : p'.Unaltered p'') : p.Unaltered p'' :=
  ⟨h'.running, h'.crv.trans h.crv, h'.inSleep.trans h.inSleep, h'.inHalt.trans h.inHalt,
    h'.line.trans h.line, h'.period.trans h.period⟩

/-- How a request to a watchdog that runs ends. -/
def Settles : Request → Except Error Unit → Prop
  | .init _, result | .setTimeout _, result =>
    result = .error .invalidState ∨ result = .error .invalidArgument
  | .start, result | .refresh, result => result = .ok ()
  | .stop, result => result = .error .notSupported

variable {driver : Driver} {p : Peripheral}

/-- A record that is unsound is turned away as such, any other because of what is
configured already. -/
theorem init_of_past (hs : driver.state ≠ .uninitialized) (c : Record.Config) :
    ∃ e log, init c { driver, hardware := p } = (.error e, { driver, hardware := p, log }) ∧
      (e = .invalidState ∨ e = .invalidArgument) := by
  refine ⟨_, _, init_of_refusal (r := { driver, hardware := p }) (refusal?_of_past hs c), ?_⟩
  split
  · exact .inr rfl
  · exact .inl rfl

/-- What a request does under a driver that is running: a feed, or nothing. -/
theorem serve_of_running (hs : driver.state = .running) (hr : p.running = true)
    (q : Request) :
    Settles q (serve { driver, hardware := p } q).1 ∧
      (serve { driver, hardware := p } q).2.driver = driver ∧
      p.Unaltered (serve { driver, hardware := p } q).2.hardware ∧
      (q ≠ .refresh → (serve { driver, hardware := p } q).2.hardware = p ∧
        (serve { driver, hardware := p } q).2.calls = []) := by
  have hpast : driver.state ≠ .uninitialized := by simp [hs]
  cases q with
  | init c =>
      obtain ⟨e, log, hinit, he⟩ := init_of_past (p := p) hpast c
      rw [serve, hinit]
      exact ⟨he.imp (congrArg Except.error) (congrArg Except.error), rfl, .refl hr,
        fun _ => ⟨rfl, rfl⟩⟩
  | setTimeout timeout =>
      obtain ⟨e, log, hinit, he⟩ := init_of_past (p := p) hpast (driver.withTimeout timeout)
      rw [serve, hinit]
      exact ⟨he.imp (congrArg Except.error) (congrArg Except.error), rfl, .refl hr,
        fun _ => ⟨rfl, rfl⟩⟩
  | start =>
      rw [serve, start_of_running hs hr]
      exact ⟨rfl, rfl, .refl hr, fun _ => ⟨rfl, rfl⟩⟩
  | stop =>
      refine ⟨?_, rfl, .refl hr, fun _ => ⟨rfl, rfl⟩⟩
      show (profile p).capabilities.require .stoppable = _
      unfold profile
      cases Interface.vectorAvailable p <;> rfl
  | refresh =>
      have hfeed : serve { driver, hardware := p } .refresh =
          (write (.feed reloadChannel) { driver, hardware := p }).done := if_pos hs
      rw [hfeed]
      refine ⟨rfl, rfl, ?_, fun h => absurd rfl h⟩
      show p.Unaltered (if _ then _ else p)
      split
      · exact ⟨hr, rfl, rfl, rfl, rfl, rfl⟩
      · exact .refl hr

end Nrf52

namespace System

variable {κ : Type} {s : System κ} {w : Watchdog} {slot : Slot} {device : Device}

/-- To put a device where it is, after no calls, changes nothing. -/
theorem devices_putDevice_self {k : Nat} (hk : s.device? k = some device) :
    (s.putDevice k device []).devices = s.devices := by
  refine List.ext_getElem? fun j => ?_
  rw [putDevice, List.getElem?_modify]
  split
  · next hj =>
      obtain ⟨m, hm, rfl⟩ := Option.map_eq_some_iff.mp hk
      rw [← hj, hm]
      simp
  · simp

/-- A request that makes no call and leaves the device as it is. -/
theorem devices_serve (hslot : s.slot? w = some slot) (hidle : slot.busy = false)
    (hk : s.device? slot.device = some device) {q : Request}
    (hkept : (device.serve q slot.driver).device = device)
    (hcalls : (device.serve q slot.driver).calls = [])
    (hraised : (device.serve q slot.driver).raised = []) (h : Handler κ) :
    (s.serve h w q).2.devices = s.devices := by
  unfold serve
  simp only [hslot, hidle, hk, hraised, hkept, hcalls, List.foldl_nil, Bool.false_eq_true,
    if_false]
  exact devices_putDevice_self hk

end System

namespace Deployment

open Supervisor

variable {κ : Type} {d d' : Deployment κ} {k : Nat} {p : Nrf52.Peripheral}

/-! ## What may come after -/

/-- Moves that leave the power on lead from one system to another. -/
def Endures (d d' : Deployment κ) : Prop :=
  ∃ moves : List (Move κ), (∀ m ∈ moves, m.cuts = false) ∧ d.run moves = d'

theorem Endures.refl (d : Deployment κ) : Endures d d :=
  ⟨[], by simp, rfl⟩

theorem Endures.step {m : Move κ} (hm : m.cuts = false) : Endures d (d.step m) :=
  ⟨[m], by simpa using hm, rfl⟩

theorem Endures.trans {d'' : Deployment κ} (h : Endures d d') (h' : Endures d' d'') :
    Endures d d'' := by
  obtain ⟨moves, hm, rfl⟩ := h
  obtain ⟨moves', hm', rfl⟩ := h'
  exact ⟨moves ++ moves', List.forall_mem_append.mpr ⟨hm, hm'⟩, List.foldl_append ..⟩

/-- Whatever leaves devices and registries alone is a move. -/
theorem Endures.elsewhere {s : System κ} (hdevices : s.devices = d.system.devices)
    (hregistries : s.registries = d.system.registries) :
    Endures d { d with system := s } := by
  refine ⟨[.elsewhere s], by simp [Move.cuts], ?_⟩
  show { d with
    system := { s with devices := d.system.devices, registries := d.system.registries } } = _
  rw [← hdevices, ← hregistries]

theorem Endures.request (hd : InOrder d) (hpowered : d.powered = true) (h : Handler κ)
    (i : Instance) (q : Request) :
    Endures d { d with system := (d.system.serve h ⟨d.system.current, i⟩ q).2 } := by
  rw [hd.serve_eq_quiet]
  refine ⟨[.request i q], by simp [Move.cuts], if_pos hpowered⟩

theorem Endures.arm (hd : InOrder d) (hpowered : d.powered = true) (h : Handler κ)
    (c : Settings) (i : Instance) :
    Endures d { d with system := (d.system.arm h c ⟨d.system.current, i⟩).2 } := by
  refine (Endures.request hd hpowered h i .start).trans ?_
  unfold System.arm
  obtain ⟨result, s⟩ := d.system.serve h ⟨d.system.current, i⟩ .start
  cases result with
  | error e => exact .refl _
  | ok =>
      obtain ⟨hdevices, hregistries⟩ := System.watch_frame s c ⟨d.system.current, i⟩
      exact .elsewhere hdevices hregistries

/-- To bring up the supervision is a run: two requests, and what the monitor does. -/
theorem Endures.supervise (hd : InOrder d) (hpowered : d.powered = true) (h : Handler κ)
    (c : Settings) : Endures d { d with system := (d.system.startSupervision h c).2 } := by
  rcases System.startSupervision_cases d.system c with
    ⟨f, -, hturned⟩ | ⟨i, slot, device, hvalid, hi, hslot, hidle, hk⟩
  · rw [hturned]
    exact .refl d
  · have hw : d.system.watchdog i = .ok ⟨d.system.current, i⟩ :=
      if_pos (Option.isSome_iff_exists.mpr ⟨slot, hslot⟩)
    have hinfo : d.system.info ⟨d.system.current, i⟩ = .ok (device.info slot.driver) := by
      simp only [System.info, hslot, hidle, hk, Bool.false_eq_true, if_false]
    obtain ⟨s, hserve, hex⟩ := System.exchanged_serve hslot hidle hk
      (q := .init (System.hardwareConfig c)) (by simp)
    have hinit : Endures d { d with system := s } := by
      have hrequest := Endures.request hd hpowered h i (.init (System.hardwareConfig c))
      rwa [hserve] at hrequest
    -- the watchdog is the same after `init`, whatever else is logged before the start
    have harm : ∀ log, Endures d { d with
        system := ((s.append log).arm h c ⟨d.system.current, i⟩).2 } := by
      intro log
      have hlogged : Endures d { d with system := s.append log } :=
        hinit.trans (.elsewhere rfl rfl)
      obtain ⟨moves, -, hmoves⟩ := id hlogged
      have hd' : InOrder { d with system := s.append log } := hmoves ▸ hd.run moves
      have hstart := Endures.arm hd' hpowered h c i
      rw [show (s.append log).current = d.system.current from hex.current] at hstart
      exact hlogged.trans hstart
    cases hr : (device.serve (.init (System.hardwareConfig c)) slot.driver).result with
    | ok =>
        rw [System.startSupervision_of_ok hvalid hi hw hinfo ((hserve h).trans (by rw [hr]))]
        have hstart := harm []
        rwa [show s.append [] = s by simp [System.append]] at hstart
    | error e =>
        rw [System.startSupervision_of_error hvalid hi hw hinfo
          ((hserve h).trans (by rw [hr]))]
        split
        · exact harm _
        · exact hinit

/-- What may come after a state: anything that leaves the power on, the supervision being
brought up included. -/
inductive Onward (d : Deployment κ) : Deployment κ → Prop
  | refl : Onward d d
  | move {d' : Deployment κ} {m : Move κ} (sofar : Onward d d') (on : m.cuts = false) :
      Onward d (d'.step m)
  | supervise {d' : Deployment κ} (sofar : Onward d d') (powered : d'.powered = true)
      (h : Handler κ) (c : Settings) :
      Onward d { d' with system := (d'.system.startSupervision h c).2 }

theorem Onward.endures (h : Onward d d') (hd : InOrder d) : Endures d d' := by
  induction h with
  | refl => exact .refl d
  | move _ on ih => exact ih.trans (.step on)
  | supervise _ powered h c ih =>
      obtain ⟨moves, -, hmoves⟩ := id ih
      exact ih.trans (.supervise (hmoves ▸ hd.run moves) powered h c)

theorem Onward.run {moves : List (Move κ)} (hcut : ∀ m ∈ moves, m.cuts = false) :
    Onward d (d.run moves) := by
  induction moves using List.reverseRecOn with
  | nil => exact .refl
  | append_singleton moves m ih =>
      rw [Deployment.run, List.foldl_append]
      exact .move (ih fun m hm => hcut m (List.mem_append_left _ hm)) (hcut m (by simp))

/-! ## One peripheral -/

theorem Touch.unaltered {m : Move κ} {device : Device}
    (ht : Touch m k (.nrf52 p) device) (hcut : m.cuts = false) (hr : p.running = true) :
    ∃ p', device = .nrf52 p' ∧ p.Unaltered p' := by
  cases ht with
  | elapse | recover => exact ⟨_, rfl, hr, rfl, rfl, rfl, rfl, rfl⟩
  | strike => exact ⟨p, rfl, .refl hr⟩
  | poke lawful poked =>
      cases Device.poked_of_poke lawful poked with
      | powerCycle => cases hcut
      | ignoreStart on => exact ⟨_, rfl, hr, rfl, rfl, rfl, rfl, rfl⟩
      | vectorAvailable => exact ⟨p, rfl, .refl hr⟩

/-- The driver of a counter that runs is running. -/
theorem InOrder.running (h : InOrder d) {i : Instance} {slot : Slot}
    (hslot : d.system.slot? ⟨d.system.current, i⟩ = some slot)
    (hk : d.system.device? slot.device = some (.nrf52 p)) (hr : p.running = true) :
    slot.driver.state = .running :=
  (h.books slot (System.slot?_eq_some hslot).1 _ hk).running hr

theorem InOrder.unaltered_step (h : InOrder d) (hk : d.system.device? k = some (.nrf52 p))
    (hr : p.running = true) {m : Move κ} (hcut : m.cuts = false) :
    ∃ p', (d.step m).system.device? k = some (.nrf52 p') ∧ p.Unaltered p' := by
  rcases (stepped h.sound m).device_cases hk with
    hsame | ⟨device, ht, hafter⟩ | ⟨i, q, slot, -, hslot, hdevice, hafter⟩
  · exact ⟨p, hsame, .refl hr⟩
  · obtain ⟨p', rfl, hp⟩ := ht.unaltered hcut hr
    exact ⟨p', hafter, hp⟩
  · obtain ⟨-, -, hp, -⟩ :=
      Nrf52.serve_of_running (h.running hslot (hdevice ▸ hk) hr) hr q
    exact ⟨_, hafter, hp⟩

/-- By induction on the run. -/
theorem InOrder.unaltered_run (h : InOrder d) (hk : d.system.device? k = some (.nrf52 p))
    (hr : p.running = true) {moves : List (Move κ)} (hcut : ∀ m ∈ moves, m.cuts = false) :
    ∃ p', (d.run moves).system.device? k = some (.nrf52 p') ∧ p.Unaltered p' := by
  induction moves generalizing d p with
  | nil => exact ⟨p, hk, .refl hr⟩
  | cons m rest ih =>
      obtain ⟨p₁, hk₁, hp₁⟩ := h.unaltered_step hk hr (hcut m List.mem_cons_self)
      obtain ⟨p₂, hk₂, hp₂⟩ := ih (h.step m) hk₁ hp₁.running
        fun m hm => hcut m (List.mem_cons_of_mem _ hm)
      exact ⟨p₂, hk₂, hp₁.trans hp₂⟩

/-- An nRF52840 watchdog that runs, wherever a run has led to that: as long as the power
stays on it goes on running, and reload value, behaviour, line and period are what they
were. Every request to it that configures is turned away, a stop as well, a start
succeeds, and none of them makes a single writing call. -/
theorem running_nrf52_is_immutable {sims : List Sim} {d₀ d : Deployment κ}
    (hd₀ : Reaches (fresh sims) d₀) (hk : d₀.system.device? k = some (.nrf52 p))
    (hr : p.running = true) (hd : Onward d₀ d) :
    (∃ p', d.system.device? k = some (.nrf52 p') ∧ p.Unaltered p') ∧
      ∀ i slot, d.system.slot? ⟨d.system.current, i⟩ = some slot → slot.device = k →
        ∀ (h : Handler κ) (q : Request),
          let served := d.system.serve h ⟨d.system.current, i⟩ q
          Nrf52.Settles q served.1 ∧
            (q ≠ .refresh → served.2.devices = d.system.devices) := by
  have hd₀ : InOrder d₀ := hd₀.inOrder (inOrder_fresh sims)
  obtain ⟨moves, hcut, rfl⟩ := hd.endures hd₀
  have hd := hd₀.run moves
  obtain ⟨p', hk', hp⟩ := hd₀.unaltered_run hk hr hcut
  refine ⟨⟨p', hk', hp⟩, fun i slot hslot hdevice h q => ?_⟩
  subst hdevice
  have hidle := hd.idle slot (System.slot?_eq_some hslot).1
  have hquiet := (hd.sound _ _ hk').raised_serve slot.driver q
  obtain ⟨s, hserve, -⟩ := System.serve_of_quiet hslot hidle hk' hquiet
  obtain ⟨hends, -, -, hnothing⟩ :=
    Nrf52.serve_of_running (hd.running hslot hk' hp.running) hp.running q
  refine ⟨by rw [hserve]; exact hends, fun hq => ?_⟩
  obtain ⟨hkept, hcalls⟩ := hnothing hq
  exact System.devices_serve hslot hidle hk' (congrArg Device.nrf52 hkept)
    (congrArg (List.map Device.Call.nrf52) hcalls) hquiet h

/-- A watchdog that was started for a second, taken over by a registry that asks for nine
seconds while the start is to be ignored, expired with a refresh in its callback, and
booted over. -/
theorem nrf52_unaltered_through_takeover :
    let i : Instance := ⟨0, by decide⟩
    let j : Instance := ⟨2, by decide⟩
    let d₀ := (fresh [.nrf52 false] : Deployment Empty).run
      [.build [(0, 0)], .request i (.init { timeoutMs := 1000, hardReset := false }),
        .request i .start]
    let d₁ := d₀.run
      [.elapse 0 ⟨900000000⟩, .build [(2, 0)], .poke 0 (.ignoreStart true),
        .request j (.init { timeoutMs := 9000 }), .elapse 0 ⟨100000000⟩, .strike 0,
        .request j .refresh, .recover 0]
    let d := { d₁ with system := (d₁.system.startSupervision quiet { instanceId := 2 }).2 }
    ∃ p p' slot, d₀.system.device? 0 = some (.nrf52 p) ∧ p.running = true ∧
      d.system.device? 0 = some (.nrf52 p') ∧ p.Unaltered p' ∧
      d.system.slot? ⟨d.system.current, j⟩ = some slot ∧ slot.device = 0 ∧
      (d.system.serve quiet ⟨d.system.current, j⟩ .stop).1 = .error .notSupported := by
  intro i j d₀ d₁ d
  have hk' : d₀.system.device? 0 = some (.nrf52 {
      crv := 32767, runInSleep := true, channels := 1, line := some ⟨1, i⟩, running := true
      countdown := .ofPeriod ⟨1000000000⟩ }) := by
    decide +kernel
  have hpowered : d₁.powered = true := by decide +kernel
  have honward : Onward d₀ d :=
    .supervise (.run (by decide +kernel)) hpowered quiet { instanceId := 2 }
  obtain ⟨⟨p', hafter, hp⟩, hends⟩ :=
    running_nrf52_is_immutable ⟨_, rfl⟩ hk' rfl honward
  have hslot : (d.system.slot? ⟨d.system.current, j⟩).map (·.device) = some 0 := by
    decide +kernel
  obtain ⟨slot, hslot, hzero⟩ := Option.map_eq_some_iff.mp hslot
  exact ⟨_, p', slot, hk', rfl, hafter, hp, hslot, hzero, (hends j slot hslot hzero quiet .stop).1⟩

end Deployment

end TwoTierWatchdog
