import TwoTierWatchdog.Proofs.Agreement
import TwoTierWatchdog.Proofs.Rtl872x.Effective

/-!
# The period that is reported

On an RTL872x the period that comes of a request is the least that some divider has and
that is no shorter, and to ask for it again changes nothing. In every state that a run
leads to, the period a watchdog reports is one of those: it finds the divider that the
register holds, and a configuration for it writes that divider again.
-/

namespace TwoTierWatchdog

namespace Device

/-- The books of an RTL872x report no period that was not taken. -/
def Candid (driver : Driver) : Device → Prop
  | rtl872x _ => Rtl872x.Candid driver
  | _ => True

/-- An RTL872x holds a divider that was searched for, or none yet. -/
def Searched : Device → Prop
  | rtl872x p => Rtl872x.Searched p
  | _ => True

/-- What a writing call programs, on an RTL872x. -/
def Call.configured? : Call → Option (Rtl872x.Divider × Bool)
  | rtl872x (.configure divider early) => some (divider, early)
  | _ => none

variable {device device' : Device} {driver : Driver}

theorem candid_adopt (device : Device) (line : Option Interrupt.Line) :
    device.Candid { device.adopt.1 with line } := by
  cases device with
  | rtl872x p =>
      have h := Rtl872x.candid_adopt p
      exact ⟨h.blank, h.sound⟩
  | _ => exact trivial

theorem candid_serve (h : device.Candid driver) (q : Request) :
    (device.serve q driver).device.Candid (device.serve q driver).driver := by
  cases device with
  | rtl872x p => exact Rtl872x.candid_serve (r := { driver, hardware := p }) h q
  | _ => exact trivial

theorem searched_serve (h : device.Searched) (driver : Driver) (q : Request) :
    (device.serve q driver).device.Searched := by
  cases device with
  | rtl872x p => exact Rtl872x.searched_serve (r := { driver, hardware := p }) h q
  | _ => exact trivial

theorem configured?_serve (p : Rtl872x.Peripheral) (driver : Driver) (q : Request) :
    ((rtl872x p).serve q driver).calls.filterMap Call.configured? =
      Rtl872x.configures (Rtl872x.serve { driver, hardware := p } q).2.calls := by
  show List.filterMap _ (List.map _ _) = _
  rw [List.filterMap_map]
  refine List.filterMap_congr fun c _ => ?_
  cases c <;> rfl

end Device

namespace Deployment

variable {κ : Type} {m : Move κ} {k : Nat} {device device' : Device}

/-- Whatever happens to an RTL872x without its driver, its divider is as it was. -/
theorem Touch.searched (ht : Touch m k device device') (h : device.Searched) :
    device'.Searched := by
  cases ht with
  | elapse | recover => cases device <;> exact h
  | strike =>
      cases device with
      | rtl872x p =>
          show Rtl872x.Searched p.expire.1
          unfold Rtl872x.Peripheral.expire
          split <;> exact h
      | _ => exact h
  | poke lawful poked => cases Device.poked_of_poke lawful poked <;> exact h

theorem Touch.candid {driver : Driver} (ht : Touch m k device device')
    (h : device.Candid driver) : device'.Candid driver := by
  cases ht with
  | elapse | recover | strike => cases device <;> exact h
  | poke lawful poked => cases Device.poked_of_poke lawful poked <;> exact h

theorem lasting_candid :
    Lasting (fun (_ : Deployment κ) _ => True) fun driver device => device.Candid driver where
  touch _ _ ht h := ht.candid h
  serve _ _ _ _ h := Device.candid_serve h _
  adopt line _ _ := Device.candid_adopt _ line

theorem within_all (d : Deployment κ) (moves : List (Move κ)) :
    Within (fun _ _ => True) d moves := by
  induction moves generalizing d with
  | nil => exact trivial
  | cons m rest ih => exact ⟨trivial, ih (d.step m)⟩

theorem searched_run (sims : List Sim) (moves : List (Move κ)) :
    ∀ j device, ((fresh sims).run moves).system.device? j = some device →
      device.Searched := by
  refine (inOrder_fresh sims).devices_run (fun ht => ht.searched)
    (fun driver q _ h => Device.searched_serve h driver q) (fun j device hj => ?_) moves
  rw [device?_fresh] at hj
  obtain ⟨sim, -, rfl⟩ := Option.map_eq_some_iff.mp hj
  cases sim with
  | rtl872x => exact .inl rfl
  | nrf52 | twdt => exact trivial

open Rtl872x (minTimeoutMs maxTimeoutMs)
open Rtl872x.Divider (forMillis? effectiveMs? effectiveMs?_mono exists_effectiveMs?)

/-- The effective period is no shorter than the request and one that the hardware counts;
it grows with the request; and it is its own effective period, by the very same divider.
So wherever a run leads: an `init` that succeeds has the watchdog report the effective
period, and a configuration for the period that is reported, by `init` or by another
timeout, leaves the divider in the register as it is, and unless it is turned away as
unsound it writes that divider, once and with the mode it asks for. -/
theorem reported_period_is_closed {sims : List Sim} {moves : List (Move κ)} :
    (∀ ms, minTimeoutMs ≤ ms → ms ≤ maxTimeoutMs → ∃ e, effectiveMs? ms = some e ∧
      ms ≤ e ∧ e ≤ maxTimeoutMs ∧ effectiveMs? e = some e ∧
      forMillis? e = forMillis? ms) ∧
    (∀ ms ms' e e', effectiveMs? ms = some e → effectiveMs? ms' = some e' →
      ms ≤ ms' → e ≤ e') ∧
    let d : Deployment κ := (fresh sims).run moves
    ∀ i slot p, d.system.slot? ⟨d.system.current, i⟩ = some slot →
      d.system.device? slot.device = some (.rtl872x p) →
      (∀ c, let served := (Device.rtl872x p).serve (.init c) slot.driver
        served.result = .ok () →
          effectiveMs? c.timeoutMs = some (served.device.info served.driver).timeoutMs) ∧
      ∀ q c, q.config? slot.driver = some c → minTimeoutMs ≤ c.timeoutMs →
        c.timeoutMs = ((Device.rtl872x p).info slot.driver).timeoutMs →
        let served := (Device.rtl872x p).serve q slot.driver
        (∃ p', served.device = .rtl872x p' ∧ p'.divider = p.divider) ∧
        ((∀ given, q = .init given → ¬ given.Malformed) →
          served.calls.filterMap Device.Call.configured? =
            [(p.divider, !c.hardReset)]) := by
  refine ⟨fun _ => exists_effectiveMs?, fun _ _ _ _ => effectiveMs?_mono, ?_⟩
  intro d i slot p hslot hdevice
  have hagrees : Agrees (fun driver device => device.Candid driver) d :=
    (agrees_fresh sims).run lasting_candid (within_all _ moves)
  obtain ⟨hmem, -⟩ := System.slot?_eq_some hslot
  have hcandid : Rtl872x.Candid slot.driver := hagrees.agree slot hmem _ hdevice
  have hbooks : Rtl872x.Books slot.driver p := hagrees.books slot hmem _ hdevice
  have hsearched : Rtl872x.Searched p := searched_run sims moves _ _ hdevice
  refine ⟨?_, ?_⟩
  · intro c served hok
    exact Rtl872x.effectiveMs?_of_init (r := { driver := slot.driver, hardware := p }) hok
  · intro q c hq hmin hms served
    have hreported : c.timeoutMs = slot.driver.timeoutMs := hms
    have hheld : forMillis? c.timeoutMs = some p.divider := by
      rw [hreported] at hmin ⊢
      exact Rtl872x.forMillis?_of_reported hbooks hcandid hsearched hmin
    refine ⟨⟨_, rfl, Rtl872x.divider_of_held hq hheld⟩, fun hgiven => ?_⟩
    have hline := Driver.lineFor?_of_bound (hagrees.bound slot hmem) c
    show List.filterMap _ ((Device.rtl872x p).serve q slot.driver).calls = _
    rw [Device.configured?_serve]
    exact Rtl872x.configures_of_held hcandid hq hgiven hmin hheld hline

/-- A counter that runs in the interrupt mode was asked for 475000 ms and reports a little
more. Its register is locked, and to ask for what it reports writes the same divider. -/
theorem reported_period_is_written_again :
    let i : Instance := ⟨2, by decide⟩
    let soft : Record.Config := { timeoutMs := 475000, hardReset := false }
    let again : Request := .setTimeout (.ofMillis 475004)
    let d := (fresh [.rtl872x] : Deployment Empty).run
      [.build [(2, 0)], .request i (.init soft), .request i .start,
        .poke 0 (.lockDivider true)]
    effectiveMs? 475000 = some 475004 ∧ effectiveMs? 475004 = some 475004 ∧
      ∃ slot p, d.system.slot? ⟨d.system.current, i⟩ = some slot ∧
        d.system.device? slot.device = some (.rtl872x p) ∧ p.enabled = true ∧
        ((Device.rtl872x p).info slot.driver).timeoutMs = 475004 ∧
        ((Device.rtl872x p).serve again slot.driver).calls.filterMap
            Device.Call.configured? = [(⟨61038, 7⟩, true)] := by
  intro i soft again d
  obtain ⟨hclosed, -, hwritten⟩ := @reported_period_is_closed Empty [.rtl872x]
    [.build [(2, 0)], .request i (.init soft), .request i .start, .poke 0 (.lockDivider true)]
  have heffective : effectiveMs? 475000 = some 475004 := by decide +kernel
  obtain ⟨e, he, -, -, hagain, -⟩ := hclosed 475000 (by decide) (by decide)
  obtain rfl := Option.some.inj (he.symm.trans heffective)
  have hslot : (d.system.slot? ⟨d.system.current, i⟩).map (fun slot =>
      (slot.device, slot.driver.timeoutMs, again.config? slot.driver)) =
        some (0, 475004, some { timeoutMs := 475004, hardReset := false }) := by
    decide +kernel
  obtain ⟨slot, hslot, hbooks⟩ := Option.map_eq_some_iff.mp hslot
  obtain ⟨hk, hbooks⟩ := Prod.mk.inj hbooks
  obtain ⟨hms, hconfig⟩ := Prod.mk.inj hbooks
  have hdevice : (d.system.device? 0).any (fun
      | .rtl872x p => p.enabled ∧ p.divider = ⟨61038, 7⟩
      | _ => false) = true := by decide +kernel
  obtain ⟨device, hdevice, hholds⟩ := (Option.any_eq_true _ _).mp hdevice
  obtain ⟨p, rfl⟩ : ∃ p, device = .rtl872x p := by
    cases device with
    | rtl872x p => exact ⟨p, rfl⟩
    | _ => cases hholds
  obtain ⟨henabled, hdivider⟩ := of_decide_eq_true hholds
  rw [← hk] at hdevice
  obtain ⟨-, hserve⟩ := hwritten i slot p hslot hdevice
  obtain ⟨-, hcalls⟩ := hserve again _ hconfig (by decide) hms.symm
  refine ⟨heffective, hagain, slot, p, hslot, hdevice, henabled, hms, ?_⟩
  rw [hcalls nofun, hdivider]
  rfl

end Deployment

end TwoTierWatchdog
