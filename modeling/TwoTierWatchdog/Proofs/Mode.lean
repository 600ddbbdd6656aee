import TwoTierWatchdog.Proofs.Agreement
import TwoTierWatchdog.Proofs.Nrf52.Mode
import TwoTierWatchdog.Proofs.Rtl872x.Mode
import TwoTierWatchdog.Proofs.Twdt.Mode

/-!
# The mode that is armed

A driver's books have the configuration that was last accepted, and with it whether an
expiry is to reset the device or to raise the interrupt. In every state that a run leads
to, the registers are set for the same, over the driver's own line, as long as no driver
was asked for the other mode when a locked register could not take it and its period
could not tell.
-/

namespace TwoTierWatchdog

namespace Device

/-- The device does on expiry what a configuration asks for, over a given line. An
nRF52840 resets in either mode. -/
def InMode (c : Record.Config) (line : Option Interrupt.Line) : Device → Prop
  | nrf52 p => c.hardReset = false → p.line = line
  | eager p => c.hardReset = false → p.line = line
  | rtl872x p => p.earlyInterrupt = !c.hardReset ∧ (c.hardReset = false → p.line = line)
  | twdt p => p.triggerPanic = c.hardReset ∧ (c.hardReset = false → p.line = line)
  | unfaithful p => p.triggerPanic = c.hardReset

instance (c : Record.Config) (line : Option Interrupt.Line) (device : Device) :
    Decidable (device.InMode c line) :=
  match device with
  | nrf52 _ | eager _ => inferInstanceAs (Decidable (_ → _))
  | rtl872x _ | twdt _ => inferInstanceAs (Decidable (_ ∧ _))
  | unfaithful _ => inferInstanceAs (Decidable (_ = _))

/-- The device would not take the mode that a configuration asks for, and its readback
would not tell. -/
def Deaf (c : Record.Config) : Device → Prop
  | rtl872x p => Rtl872x.Deaf c p
  | _ => False

instance (c : Record.Config) (device : Device) : Decidable (device.Deaf c) :=
  match device with
  | rtl872x p => inferInstanceAs (Decidable (Rtl872x.Deaf c p))
  | nrf52 _ | eager _ | twdt _ | unfaithful _ => inferInstanceAs (Decidable False)

/-- The device is in the mode that the books have. -/
def Recorded (driver : Driver) (device : Device) : Prop :=
  ∀ c, driver.config = some c → device.InMode c driver.line

variable {device device' : Device} {driver : Driver}

theorem recorded_rtl872x {p : Rtl872x.Peripheral} :
    Recorded driver (rtl872x p) ↔ Rtl872x.Recorded driver p :=
  forall₂_congr fun _ _ => ⟨fun ⟨hm, hl⟩ => ⟨hm, hl⟩, fun h => ⟨h.mode, h.line⟩⟩

theorem recorded_twdt {p : Twdt.Peripheral} :
    Recorded driver (twdt p) ↔ Twdt.Recorded driver p :=
  forall₂_congr fun _ _ =>
    ⟨fun ⟨hm, hl⟩ => ⟨congrArg (! ·) hm, hl⟩, fun h => ⟨Bool.not_inj h.mode, h.line⟩⟩

theorem recorded_serve (hs : device.Sound) (hr : Recorded driver device) {q : Request}
    (hq : ∀ c, q.config? driver = some c → ¬ device.Deaf c) :
    Recorded (device.serve q driver).driver (device.serve q driver).device := by
  cases device with
  | nrf52 p => exact Nrf52.recorded_serve (r := { driver, hardware := p }) hr q
  | rtl872x p =>
      exact recorded_rtl872x.mpr (Rtl872x.recorded_serve (r := { driver, hardware := p })
        (recorded_rtl872x.mp hr) hq)
  | twdt p =>
      exact recorded_twdt.mpr (Twdt.recorded_serve (r := { driver, hardware := p })
        (recorded_twdt.mp hr) q)
  | eager p | unfaithful p => exact hs.elim

/-- An `init` that succeeds leaves the device in the mode it was asked for. -/
theorem inMode_of_init (hs : device.Sound) {c : Record.Config} (hc : ¬ device.Deaf c)
    (hok : (device.serve (.init c) driver).result = .ok ()) :
    (device.serve (.init c) driver).device.InMode c driver.line := by
  rw [← line_serve device driver (.init c)]
  cases device with
  | nrf52 p => exact Nrf52.line_of_init (r := { driver, hardware := p }) hok
  | rtl872x p =>
      have h := Rtl872x.meets_of_init (r := { driver, hardware := p }) hc hok
      exact ⟨h.mode, h.line⟩
  | twdt p =>
      have h := Twdt.meets_of_init (r := { driver, hardware := p }) hok
      exact ⟨Bool.not_inj h.mode, h.line⟩
  | eager p | unfaithful p => exact hs.elim

end Device

namespace Deployment

open Device (Recorded)

variable {κ : Type}

/-- What happens to a device without its driver does not change the mode, unless the
power is lost. -/
theorem Touch.recorded {m : Move κ} {k : Nat} {device device' : Device} {driver : Driver}
    (ht : Touch m k device device') (hcut : m.cuts = false) (hr : Recorded driver device) :
    Recorded driver device' := by
  cases ht with
  | elapse | recover => cases device <;> exact hr
  | strike =>
      cases device with
      | rtl872x p =>
          show Recorded driver (.rtl872x p.expire.1)
          unfold Rtl872x.Peripheral.expire
          split <;> exact hr
      | twdt p =>
          show Recorded driver (.twdt p.expire.1)
          unfold Twdt.Peripheral.expire
          split <;> exact hr
      | nrf52 p | eager p | unfaithful p => exact hr
  | poke lawful poked =>
      cases Device.poked_of_poke lawful poked with
      | powerCycle => cases hcut
      | _ => exact hr

/-- The power stays on, and no watchdog is asked for a mode that would go unheard. -/
def Heard (d : Deployment κ) : Move κ → Prop
  | .request i q => ∀ slot ∈ d.system.slot? ⟨d.system.current, i⟩,
      ∀ device ∈ d.system.device? slot.device, ∀ c ∈ q.config? slot.driver, ¬ device.Deaf c
  | m => m.cuts = false

theorem lasting_recorded : Lasting (Heard : Rules κ) Recorded where
  touch driver hm ht hr := by
    refine ht.recorded ?_ hr
    cases ht <;> exact hm
  serve hm hslot hdevice hs hr :=
    Device.recorded_serve hs hr (hm _ hslot _ hdevice)
  adopt line _ _ c hc := absurd (hc.symm.trans (Device.config_adopt _)) nofun

instance (d : Deployment κ) (m : Move κ) : Decidable (d.Heard m) :=
  match m with
  | .request i q => inferInstanceAs (Decidable (∀ slot ∈ d.system.slot? ⟨d.system.current, i⟩,
      ∀ device ∈ d.system.device? slot.device, ∀ c ∈ q.config? slot.driver, ¬ device.Deaf c))
  | .build _ | .onExpired .. | .poke .. | .elapse .. | .strike _ | .recover _
  | .elsewhere _ => inferInstanceAs (Decidable (_ = _))

instance decidableWithin : (d : Deployment κ) → (moves : List (Move κ)) →
    Decidable (Within Heard d moves)
  | _, [] => .isTrue trivial
  | d, m :: rest =>
    let _ := decidableWithin (d.step m) rest
    inferInstanceAs (Decidable (_ ∧ _))

/-- Wherever a run leads that leaves the power on: if the books of a watchdog have a
configuration, its device is in the mode of that, over the watchdog's own line; and an
`init` that succeeds then leaves it in the mode of the new one. What is asked of the run,
and of that `init`, is only that no RTL872x is asked for the other mode over the period
it has while its divider is locked. -/
theorem recorded_mode_is_armed {sims : List Sim} {moves : List (Move κ)}
    (hw : Within Heard (fresh sims) moves) {i : Instance} {slot : Slot} {device : Device} :
    let d := (fresh sims).run moves
    let w : Watchdog := ⟨d.system.current, i⟩
    let line : Interrupt.Line := ⟨w.registry, i⟩
    d.system.slot? w = some slot → d.system.device? slot.device = some device →
      (∀ c, slot.driver.config = some c → device.InMode c (some line)) ∧
      ∀ (h : Handler κ) (c : Record.Config) (s : System κ), ¬ device.Deaf c →
        d.system.serve h w (.init c) = (.ok (), s) →
        ∃ device', s.device? slot.device = some device' ∧ device'.InMode c (some line) := by
  intro d w line hslot hdevice
  have hagrees : Agrees Recorded d := (agrees_fresh sims).run lasting_recorded hw
  obtain ⟨hmem, hid⟩ := System.slot?_eq_some hslot
  have hsound := hagrees.sound _ device hdevice
  have hrecorded : Recorded slot.driver device := hagrees.agree slot hmem device hdevice
  have hline : slot.driver.line = some line := (hagrees.bound slot hmem).trans (by rw [hid])
  refine ⟨fun c hc => hline ▸ hrecorded c hc, fun h c s hheard hserve => ?_⟩
  obtain ⟨s', hserve', hserved⟩ := System.serve_of_quiet hslot (hagrees.idle slot hmem)
    hdevice (hsound.raised_serve slot.driver (.init c))
  rw [hserve'] at hserve
  obtain ⟨hok, rfl⟩ := Prod.mk.inj hserve
  refine ⟨_, by rw [hserved.devices, if_pos rfl, hdevice, Option.map_some], ?_⟩
  rw [← hline]
  exact Device.inMode_of_init hsound hheard hok

/-- A counter that runs is asked for the mode it has and for another period while its
divider is locked, and for the interrupt once it is not: the interrupt is what is
armed. -/
theorem interrupt_armed_after_lock :
    let i : Instance := ⟨2, by decide⟩
    let soft : Record.Config := { timeoutMs := 2000, hardReset := false }
    let moves : List (Move Empty) :=
      [.build [(2, 0)], .request i (.init { timeoutMs := 1000 }), .request i .start,
        .poke 0 (.lockDivider true), .request i (.init { timeoutMs := 1000 }),
        .request i (.setTimeout ⟨2000000000⟩), .poke 0 (.lockDivider false),
        .request i (.init soft)]
    let d := (fresh [.rtl872x] : Deployment Empty).run moves
    Within Heard (fresh [.rtl872x]) moves ∧
      ∃ slot device, d.system.slot? ⟨d.system.current, i⟩ = some slot ∧
        d.system.device? slot.device = some device ∧ slot.driver.config = some soft ∧
        device.InMode soft (some ⟨1, i⟩) := by
  intro i soft moves d
  have hw : Within Heard (fresh [.rtl872x]) moves := by decide +kernel
  have hslot : (d.system.slot? ⟨d.system.current, i⟩).map (fun slot =>
      (slot.device, slot.driver.config)) = some (0, some soft) := by decide +kernel
  obtain ⟨slot, hslot, hdriver⟩ := Option.map_eq_some_iff.mp hslot
  obtain ⟨hk, hconfig⟩ := Prod.mk.inj hdriver
  have hdevice : (d.system.device? 0).isSome := by decide +kernel
  obtain ⟨device, hdevice⟩ := Option.isSome_iff_exists.mp hdevice
  rw [← hk] at hdevice
  have hcurrent : d.system.current = 1 := by decide +kernel
  have harmed := (recorded_mode_is_armed hw hslot hdevice).1 soft hconfig
  rw [hcurrent] at harmed
  exact ⟨hw, slot, device, hslot, hdevice, hconfig, harmed⟩

/-- What goes unheard: over the same period, with the divider locked, an `init` for the
interrupt succeeds and is recorded, and the device goes on to reset. -/
theorem unheard_mode_is_recorded :
    let i : Instance := ⟨0, by decide⟩
    let soft : Record.Config := { timeoutMs := 1000, hardReset := false }
    let d := (fresh [.rtl872x] : Deployment Empty).run
      [.build [(0, 0)], .request i (.init { timeoutMs := 1000 }), .poke 0 (.lockDivider true)]
    let after := d.system.serve quiet ⟨d.system.current, i⟩ (.init soft)
    after.1 = .ok () ∧ ∃ slot device, after.2.slot? ⟨1, i⟩ = some slot ∧
      after.2.device? slot.device = some device ∧ slot.driver.config = some soft ∧
      ¬ device.InMode soft (some ⟨1, i⟩) := by
  intro i soft d after
  have hslot : (after.2.slot? ⟨1, i⟩).map (fun slot => (slot.device, slot.driver.config)) =
      some (0, some soft) := by decide +kernel
  have hdevice : (after.2.device? 0).any
      (fun device => ¬ device.InMode soft (some ⟨1, i⟩)) = true := by decide +kernel
  obtain ⟨slot, hslot, hdriver⟩ := Option.map_eq_some_iff.mp hslot
  obtain ⟨hk, hconfig⟩ := Prod.mk.inj hdriver
  obtain ⟨device, hdevice, hmode⟩ := (Option.any_eq_true _ _).mp hdevice
  exact ⟨by decide +kernel, slot, device, hslot, hk ▸ hdevice, hconfig, of_decide_eq_true hmode⟩

end Deployment

end TwoTierWatchdog
