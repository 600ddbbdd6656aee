import TwoTierWatchdog.Proofs.Expiry
import TwoTierWatchdog.Proofs.Steady

/-!
# What an expiry comes to

Whenever a counter expires in the course of a steady run, what happens is settled by its
family, by the configuration that is recorded at that moment, and on the RTL872x by
whether an interrupt is unanswered.

An expiry has two halves with a callback between them. The first half is read off the
registers; that the second half still finds the device it is about, and on the nRF52840
a counter that runs, holds because whatever the callback does is a steady run too.
-/

namespace TwoTierWatchdog

namespace System

variable {κ : Type} {s s' s₁ s₂ : System κ} {w : Watchdog} {k : Nat} {device : Device}

/-- The line of a watchdog is fired once, and nothing else disturbs anything: it is counted
as one expiry, and then the callback runs that is stored for it, if there is one. -/
structure Fired (h : Handler κ) (w : Watchdog) (s s₁ s₂ : System κ) : Prop where
  counted : s.Counted ⟨w.registry, w.id⟩ s₁
  called : s₂ = (s.callback? ⟨w.registry, w.id⟩).elim s₁ fun callback => h callback s₁

/-- The chip is reset once, and no line is fired. -/
structure Reset (k : Nat) (s s' : System κ) : Prop extends Silent s s' where
  resets : s'.resets? k = (s.resets? k).map (· + 1)

/-- What an expiry is to come to over a device, with a configuration recorded and some
interrupts unanswered. -/
def Expiry (h : Handler κ) (w : Watchdog) (k : Nat) (c : Record.Config) (unanswered : Nat)
    (s : System κ) (device : Device) : Prop :=
  match device with
  | .nrf52 _ =>
    (if c.hardReset then
      s.Reset k (s.expire h k)
    else
      ∃ s₁ s₂, s.Fired h w s₁ s₂ ∧ s₂.Reset k (s.expire h k)) ∧
    (s.expire h k).remaining? k = device.heldPeriod?
  | .rtl872x _ =>
    if c.hardReset = false ∧ unanswered = 0 then
      ∃ s₁, s.Fired h w s₁ (s.expire h k) ∧ s₁.remaining? k = device.heldPeriod?
    else
      s.Reset k (s.expire h k) ∧ (s.expire h k).running? k = some false
  | .twdt _ =>
    if c.hardReset then
      s.Reset k (s.expire h k) ∧ (s.expire h k).running? k = some false
    else
      ∃ s₁, s.Fired h w s₁ (s.expire h k) ∧ s₁.remaining? k = device.heldPeriod?
  | .eager _ | .unfaithful _ => False

/-! ## The two halves -/

theorem reset_of_silent {left : Duration} (hk : s.device? k = some device)
    (hleft : device.remaining? = some left) (hline : device.strike.2.1 = none)
    (hresets : device.strike.1.recover.1.resets = device.resets + 1) (h : Handler κ) :
    s.Reset k (s.expire h k) ∧
      (s.expire h k).device? k = some device.strike.1.recover.1 := by
  obtain ⟨s', hexpire, hsilent, hreset, hdevice⟩ := expire_of_no_line hk hleft hline hresets
  exact hexpire h ▸ ⟨⟨hsilent, hreset⟩, hdevice⟩

/-- The line of a watchdog is fired between the two halves. -/
theorem fired_of_line {slot : Slot} {line : Interrupt.Line} {left : Duration}
    (hslot : s.slot? w = some slot) (hk : s.device? k = some device)
    (hleft : device.remaining? = some left) (hline : device.strike.2.1 = some line)
    (hown : line = ⟨w.registry, w.id⟩)
    (hresets : device.strike.1.resets = device.resets) (h : Handler κ) :
    s.Fired h w ((s.struck k device).count line) ((s.struck k device).fire h line) ∧
      s.expire h k = ((s.struck k device).fire h line).recover k := by
  subst hown
  obtain ⟨hcounted, -⟩ := expire_of_line hk hleft hline hresets (lt_size_of_slot? hslot)
  exact ⟨⟨hcounted, fire_eq ..⟩, by rw [expire_of_running hk hleft, hline]⟩

/-- A device without a second half of an expiry is left as it is by it. -/
theorem recover_of_idle (hk : s.device? k = some device)
    (hidle : device.recover = (device, [])) : s.recover k = s := by
  have hdevices : (s.devices.modify k fun m => ⟨device, m.calls⟩) = s.devices := by
    refine List.ext_getElem? fun j => ?_
    rw [List.getElem?_modify]
    split
    · next hj =>
        subst hj
        obtain ⟨m, hm, rfl⟩ := Option.map_eq_some_iff.mp hk
        simp [hm]
    · exact id_map _
  rw [recover_of_some hk, hidle]
  simp [putDevice, append, hdevices]

/-- The second half of an expiry of an nRF52840: the reset, and the full period. -/
theorem reset_of_recover {p : Nrf52.Peripheral} (hk : s.device? k = some (.nrf52 p))
    (hs : p.Sound) (hr : p.running = true) :
    s.Reset k (s.recover k) ∧
      (s.recover k).remaining? k = some (Nrf52.Peripheral.periodOf p.crv) := by
  have hdevice : (s.recover k).device? k = some (.nrf52 p.reset.1) := by
    rw [recover_of_some hk, device?_append, device?_putDevice, if_pos rfl, hk,
      Option.map_some]
    rfl
  refine ⟨⟨?_, ?_⟩, ?_⟩
  · rw [recover_of_some hk]
    exact ⟨fun _ => rfl, rfl⟩
  · rw [resets?, resets?, hdevice, hk]
    rfl
  · rw [remaining?, hdevice, Option.bind_some]
    exact (if_pos hr).trans (congrArg some (hs.period hr))

end System

namespace Deployment

variable {κ : Type} {d : Deployment κ} {k : Nat} {device : Device} {slot : Slot}
  {w : Watchdog} {h : Handler κ} {c : Record.Config} {n : Nat}

/-! ## The callback and the second half -/

/-- Callbacks come to steady moves. -/
def Tame (h : Handler κ) : Prop :=
  ∀ callback (d : Deployment κ), InOrder d → d.powered = true →
    ∃ moves, (∀ m ∈ moves, Move.Steady m) ∧ (d.run moves).system = h callback d.system

theorem Upright.fire (hd : Upright d) (hh : Tame h) (hk : d.system.device? k = some device)
    {left : Duration} (hleft : device.remaining? = some left) {line : Interrupt.Line}
    (hline : device.strike.2.1 = some line) :
    ∃ d', Upright d' ∧ d'.system = (d.system.struck k device).fire h line ∧
      ∃ device', d'.system.device? k = some device' ∧ device.strike.1.Onward device' := by
  have hstruck : (d.step (.strike k)).system = (d.system.struck k device).count line := by
    have hrunning : d.system.remaining? k = some left := by
      rw [System.remaining?, hk, Option.bind_some, hleft]
    simp only [Deployment.step, strike, hrunning]
    rw [System.strike_of_some hk, hline]
    rfl
  have hd₁ : Upright (d.step (.strike k)) := hd.step trivial
  have hk₁ : (d.step (.strike k)).system.device? k = some device.strike.1 := by
    rw [(touched_strike hk hleft).devices, if_pos rfl, hk, Option.map_some]
  unfold System.fire
  split
  · next callback _ =>
      obtain ⟨moves, hm, hmoves⟩ := hh callback _ hd₁.toInOrder hd₁.powered
      rw [hstruck] at hmoves
      exact ⟨_, hd₁.run hm, hmoves, hd₁.onward_run hm hk₁⟩
  · exact ⟨_, hd₁, hstruck, _, hk₁, .refl (hd₁.sound k _ hk₁)⟩

section

variable (hd : Upright d) (hslot : d.system.slot? w = some slot)
  (hw : w.registry = d.system.current)

include hd hslot hw

theorem Upright.line_eq : slot.driver.line = some ⟨w.registry, w.id⟩ := by
  obtain ⟨hmem, hid⟩ := System.slot?_eq_some hslot
  rw [hw] at hmem ⊢
  rw [hd.bound slot hmem, hid]

variable (hk : d.system.device? slot.device = some device)

include hk

theorem Upright.faithful : device.Faithful slot.driver := by
  have hmem := (System.slot?_eq_some hslot).1
  rw [hw] at hmem
  exact hd.agree slot hmem device hk

omit hw in
/-- An expiry that fires the line of a watchdog and has no second half. -/
theorem Upright.interrupted {left : Duration} (hleft : device.remaining? = some left)
    (hline : device.strike.2.1 = some ⟨w.registry, w.id⟩)
    (hresets : device.strike.1.resets = device.resets)
    (hidle : ∀ device', device.strike.1.Onward device' → device'.recover = (device', []))
    (hh : Tame h) :
    ∃ s₁, d.system.Fired h w s₁ (d.system.expire h slot.device) ∧
      s₁.remaining? slot.device = device.strike.1.remaining? := by
  obtain ⟨hfired, hexpire⟩ := System.fired_of_line hslot hk hleft hline rfl hresets h
  obtain ⟨d', -, hsystem, device', hk', honward⟩ := hd.fire hh hk hleft hline
  rw [hsystem] at hk'
  rw [System.recover_of_idle hk' (hidle device' honward)] at hexpire
  refine ⟨_, hexpire ▸ hfired, ?_⟩
  rw [System.remaining?, System.device?_count, System.device?_struck hk, Option.bind_some]

omit hd hslot hw in
/-- An expiry that fires nothing, resets the chip and stops the counter. -/
theorem reset_stopped {left : Duration} (hleft : device.remaining? = some left)
    (hline : device.strike.2.1 = none)
    (hresets : device.strike.1.recover.1.resets = device.resets + 1)
    (hoff : device.strike.1.recover.1.isRunning = false) (h : Handler κ) :
    d.system.Reset slot.device (d.system.expire h slot.device) ∧
      (d.system.expire h slot.device).running? slot.device = some false := by
  obtain ⟨hreset, hdevice⟩ := System.reset_of_silent hk hleft hline hresets h
  exact ⟨hreset, by rw [System.running?, hdevice, Option.map_some, hoff]⟩

/-! ## The families -/

theorem expiry_nrf52 {p : Nrf52.Peripheral} (hp : device = .nrf52 p)
    (hc : slot.driver.config = some c) (hr : p.running = true) (hh : Tame h) :
    d.system.Expiry h w slot.device c n device := by
  subst hp
  have hleft : (Device.nrf52 p).remaining? = some p.countdown.remaining := if_pos hr
  have hexact : Nrf52.Exact slot.driver p := hd.faithful hslot hw hk
  have hline := hexact.line
  rw [hc, Option.any_some, hd.line_eq hslot hw] at hline
  unfold System.Expiry
  dsimp only
  cases hmode : c.hardReset with
  | true =>
      rw [hmode] at hline
      have hnone : (Device.nrf52 p).strike.2.1 = none := hline
      obtain ⟨hreset, -⟩ := System.reset_of_silent hk hleft hnone rfl h
      refine ⟨hreset, ?_⟩
      rw [System.expire_of_running hk hleft, hnone]
      exact (System.reset_of_recover (System.device?_struck hk) (hd.sound _ _ hk) hr).2
  | false =>
      rw [hmode] at hline
      obtain ⟨hfired, hexpire⟩ := System.fired_of_line hslot hk hleft hline rfl rfl h
      obtain ⟨d', hd', hsystem, device', hk', honward⟩ := hd.fire hh hk hleft hline
      cases device' with
      | nrf52 p' =>
          obtain ⟨hr', hcrv⟩ : p'.running = true ∧ p'.crv = p.crv := honward hr
          obtain ⟨hreset, hfull⟩ := System.reset_of_recover hk' (hd'.sound _ _ hk') hr'
          rw [hsystem, ← hexpire] at hreset hfull
          refine ⟨⟨_, _, hfired, hreset⟩, ?_⟩
          rw [hfull, hcrv]
          rfl
      | _ => exact honward.elim

theorem expiry_rtl872x {p : Rtl872x.Peripheral} (hp : device = .rtl872x p)
    (hc : slot.driver.config = some c) (hr : p.enabled = true)
    (hl : Rtl872x.Latched n p) (hh : Tame h) :
    d.system.Expiry h w slot.device c n device := by
  subst hp
  have hsound : p.Sound := hd.sound _ _ hk
  have hleft : (Device.rtl872x p).remaining? = some p.countdown.remaining := if_pos hr
  obtain ⟨-, -, hrecorded⟩ := hd.faithful hslot hw hk
  have hearly : p.earlyInterrupt = !c.hardReset := (hrecorded c hc).mode
  unfold System.Expiry
  dsimp only
  -- the bit of a counter that runs tells whether an interrupt is unanswered
  have hlatch : p.earlyFired = true ↔ n ≠ 0 := by
    have := hl.once
    rw [hl.latch hr]
    omega
  split
  · next hif =>
      have hline : p.line = some ⟨w.registry, w.id⟩ :=
        ((hrecorded c hc).line hif.1).trans (hd.line_eq hslot hw)
      have hexpire : p.expire =
          ({ p with earlyFired := true, countdown := p.countdown.reload }, p.line, []) :=
        if_pos (by simp [hearly, hif.1, Bool.eq_false_iff, hlatch, hif.2])
      have hstrike : (Device.rtl872x p).strike = (.rtl872x p.expire.1, p.expire.2) := rfl
      rw [hexpire, hline] at hstrike
      obtain ⟨s₁, hfired, hremaining⟩ := hd.interrupted hslot hk hleft
        (by rw [hstrike]) (by rw [hstrike]; rfl) (fun device' honward => by
          cases device' with
          | rtl872x p' => rfl
          | _ => rw [hstrike] at honward; exact honward.elim) hh
      refine ⟨s₁, hfired, hremaining.trans ?_⟩
      rw [hstrike]
      exact (if_pos hr).trans (congrArg some (hsound.enabled hr))
  · next hif =>
      have hexpire : p.expire = ({ p with
          resets := p.resets + 1, enabled := false, earlyFired := false }, none, _) :=
        if_neg fun hraise => hif (by
          obtain ⟨hmode, hunfired⟩ := Bool.and_eq_true_iff.mp hraise
          refine ⟨by simpa [hmode] using hearly, Classical.byContradiction fun hn => ?_⟩
          rw [hlatch.mpr hn] at hunfired
          cases hunfired)
      have hstrike : (Device.rtl872x p).strike = (.rtl872x p.expire.1, p.expire.2) := rfl
      rw [hexpire] at hstrike
      exact reset_stopped hk hleft (by rw [hstrike]) (by rw [hstrike]; rfl)
        (by rw [hstrike]; rfl) h

theorem expiry_twdt {p : Twdt.Peripheral} (hp : device = .twdt p)
    (hc : slot.driver.config = some c) (hr : p.subscribed = true) (hh : Tame h) :
    d.system.Expiry h w slot.device c n device := by
  subst hp
  have hsound : p.Sound := hd.sound _ _ hk
  have hleft : (Device.twdt p).remaining? = some p.countdown.remaining := if_pos hr
  have hrecorded : Twdt.Recorded slot.driver p := hd.faithful hslot hw hk
  have hpanic : p.triggerPanic = c.hardReset := Bool.not_inj (hrecorded c hc).mode
  have hstrike : (Device.twdt p).strike = (.twdt p.expire.1, p.expire.2) := rfl
  unfold System.Expiry
  dsimp only
  cases hmode : c.hardReset with
  | true =>
      have hexpire : p.expire = ({ p with
          resets := p.resets + 1, subscribed := false }, none, _) :=
        if_pos (hpanic.trans hmode)
      rw [hexpire] at hstrike
      exact reset_stopped hk hleft (by rw [hstrike]) (by rw [hstrike]; rfl)
        (by rw [hstrike]; rfl) h
  | false =>
      have hline : p.line = some ⟨w.registry, w.id⟩ :=
        ((hrecorded c hc).line hmode).trans (hd.line_eq hslot hw)
      have hexpire : p.expire = ({ p with countdown := p.countdown.reload }, p.line, []) :=
        if_neg (by simp [hpanic, hmode])
      rw [hexpire, hline] at hstrike
      obtain ⟨s₁, hfired, hremaining⟩ := hd.interrupted hslot hk hleft
        (by rw [hstrike]) (by rw [hstrike]; rfl) (fun device' honward => by
          cases device' with
          | twdt p' => rfl
          | _ => rw [hstrike] at honward; exact honward.elim) hh
      refine ⟨s₁, hfired, hremaining.trans ?_⟩
      obtain ⟨t, ht⟩ := Option.ne_none_iff_exists'.mp (hsound.programmed hr)
      rw [hstrike, Device.heldPeriod?, ht, Option.map_some, ← hsound.timed t ht]
      exact if_pos hr

end

/-! ## Every expiry -/

/-- Wherever a steady run leads, over a registry built over new peripherals: of the
interrupts of an RTL872x at most one is unanswered, and when the counter of a watchdog
expires, by the configuration that its books have at that moment,

* an nRF52840 fires its line exactly once if that asks for the interrupt and not at all
  otherwise, then counts one reset and runs on for its full period;
* an RTL872x fires its line exactly once, without a reset, and runs on for its full
  period if that asks for the interrupt and none is unanswered, and otherwise is reset
  once and stops;
* a task watchdog fires its line exactly once, without a reset, and runs on for its full
  period if that asks for the interrupt, and otherwise is reset once and stops. -/
theorem expiry_by_recorded_mode {sims : List Sim} {pairs : List (UInt8 × Nat)}
    {moves : List (Move κ)} (hm : ∀ m ∈ moves, m.Steady) {i : Instance} :
    let d := (opened sims pairs).run moves
    let w : Watchdog := ⟨d.system.current, i⟩
    let n := unanswered slot.device (opened sims pairs) 0 moves
    d.system.slot? w = some slot → d.system.device? slot.device = some device →
      (∀ p, device = .rtl872x p → n ≤ 1) ∧
      ∀ c, slot.driver.config = some c → device.isRunning = true →
        ∀ h : Handler κ, Tame h → d.system.Expiry h w slot.device c n device := by
  intro d w n hslot hk
  have hd : Upright d := (upright_built sims pairs).run hm
  have hmem : slot.device ∈ d.slots.map (·.device) :=
    List.mem_map_of_mem (System.slot?_eq_some hslot).1
  have hlatched : ∀ p, device = .rtl872x p → Rtl872x.Latched n p := fun p hp =>
    latched_opened hm hmem (hp ▸ hk)
  refine ⟨fun p hp => (hlatched p hp).once, fun c hc hr h hh => ?_⟩
  cases device with
  | nrf52 p => exact expiry_nrf52 hd hslot rfl hk rfl hc hr hh
  | rtl872x p => exact expiry_rtl872x hd hslot rfl hk rfl hc hr (hlatched p rfl) hh
  | twdt p => exact expiry_twdt hd hslot rfl hk rfl hc hr hh
  | eager p | unfaithful p => exact (hd.sound _ _ hk).elim

/-- An RTL872x in the interrupt mode, fed by its callback and then not: the second
expiry in a row finds the first one unanswered, and resets. -/
theorem reset_after_unanswered_interrupt :
    let i : Instance := ⟨2, by decide⟩
    let feeds : Handler Unit := fun _ s => (s.serve quiet ⟨s.current, i⟩ .refresh).2
    let moves : List (Move Unit) :=
      [.request i (.init { timeoutMs := 1000, hardReset := false }), .request i .start,
        .strike 0, .request i .refresh, .recover 0, .elapse 0 ⟨1000000000⟩, .strike 0,
        .recover 0, .onExpired i ()]
    let s := ((opened [.rtl872x] [(2, 0)]).run moves).system
    (∀ m ∈ moves, m.Steady) ∧ unanswered 0 (opened [.rtl872x] [(2, 0)]) 0 moves = 1 ∧
      Tame feeds ∧ s.Reset 0 (s.expire feeds 0) ∧
      (s.expire feeds 0).running? 0 = some false := by
  intro i feeds moves s
  have hm : ∀ m ∈ moves, m.Steady := by
    simp only [moves, List.forall_mem_cons, Move.Steady]
    simp
  have hh : Tame feeds := fun _ d _ hp => by
    refine ⟨[.request i .refresh], by simp [Move.Steady], ?_⟩
    show (d.step (.request i .refresh)).system = _
    simp only [Deployment.step, if_pos hp, feeds]
  have hslot : (s.slot? ⟨1, i⟩).map (fun slot => (slot.device, slot.driver.config)) =
      some (0, some { timeoutMs := 1000, hardReset := false }) := by decide +kernel
  obtain ⟨slot, hslot, hdriver⟩ := Option.map_eq_some_iff.mp hslot
  obtain ⟨hk, hconfig⟩ := Prod.mk.inj hdriver
  have hcurrent : s.current = 1 := by decide +kernel
  have hdevice : (s.device? 0).any (fun device =>
      device.isRunning && (device.poke (.stickEnable true)).isSome) = true := by
    decide +kernel
  obtain ⟨device, hdevice, hon⟩ := (Option.any_eq_true _ _).mp hdevice
  obtain ⟨hr, hfamily⟩ := Bool.and_eq_true_iff.mp hon
  have hn : unanswered 0 (opened [.rtl872x] [(2, 0)]) 0 moves = 1 := by decide +kernel
  rw [← hcurrent] at hslot
  rw [← hk] at hdevice
  have hevery := @expiry_by_recorded_mode Unit device slot [.rtl872x] [(2, 0)] moves hm i
  have hexpiry := (hevery hslot hdevice).2 _ hconfig
  rw [hk, hn] at hexpiry
  cases device with
  | rtl872x p =>
      have hreset := hexpiry hr feeds hh
      unfold System.Expiry at hreset
      rw [if_neg (by simp)] at hreset
      exact ⟨hm, hn, hh, hreset⟩
  | _ => cases hfamily

end Deployment

end TwoTierWatchdog
