import TwoTierWatchdog.Proofs.Mode
import TwoTierWatchdog.Proofs.Rtl872x.Latch

/-!
# Steady runs

A registry is built over new peripherals, and from then on its watchdogs are configured,
started, stopped, fed and left to expire in any order, with faults other than a locked
divider. Over such a run registers and books agree more closely than they can over a
peripheral that an earlier driver may have left its line on, every device stays what it
is, and of the interrupts of an RTL872x at most one is unanswered: at most one went out
since a call last reloaded its counter.
-/

namespace TwoTierWatchdog

namespace Device

/-- The books of the only driver that was ever made for a device, and its registers. -/
def Faithful (driver : Driver) : Device → Prop
  | nrf52 p => Nrf52.Exact driver p
  | rtl872x p => p.dividerLocked = false ∧
      (driver.config = none → p.earlyInterrupt = false) ∧ Rtl872x.Recorded driver p
  | twdt p => Twdt.Recorded driver p
  | eager _ | unfaithful _ => False

variable {device device' device'' : Device} {driver : Driver}

theorem faithful_fresh (sim : Sim) (line : Option Interrupt.Line) :
    sim.fresh.Faithful { sim.fresh.adopt.1 with line } := by
  cases sim with
  | nrf52 vectorClaimed => exact ⟨fun _ => rfl, rfl⟩
  | rtl872x => exact ⟨rfl, fun _ => rfl, nofun⟩
  | twdt => exact nofun

theorem faithful_serve (h : device.Faithful driver) (q : Request) :
    (device.serve q driver).device.Faithful (device.serve q driver).driver := by
  cases device with
  | nrf52 p => exact Nrf52.exact_serve (r := { driver, hardware := p }) h q
  | rtl872x p =>
      obtain ⟨hl, hb, hr⟩ := h
      have hheard : ∀ c, q.config? driver = some c → ¬ Rtl872x.Deaf c p :=
        fun _ _ hdeaf => nomatch hl.symm.trans hdeaf.1
      exact ⟨(Rtl872x.locked_of_traced (Rtl872x.traced_serve _ q)).trans hl,
        Rtl872x.blank_serve (r := { driver, hardware := p }) hb q,
        Rtl872x.recorded_serve (r := { driver, hardware := p }) hr hheard⟩
  | twdt p => exact Twdt.recorded_serve (r := { driver, hardware := p }) h q
  | eager p | unfaithful p => exact h.elim

/-- What a device may become while the power is on: one of its family, and an nRF52840
that runs goes on running for the same period. -/
def Onward : Device → Device → Prop
  | nrf52 p, nrf52 p' => p.running = true → p'.running = true ∧ p'.crv = p.crv
  | rtl872x _, rtl872x _ | twdt _, twdt _ => True
  | _, _ => False

theorem Onward.refl (hs : device.Sound) : device.Onward device := by
  cases device with
  | nrf52 p => exact fun hr => ⟨hr, rfl⟩
  | rtl872x p | twdt p => trivial
  | eager p | unfaithful p => exact hs.elim

theorem Onward.trans (h : device.Onward device') (h' : device'.Onward device'') :
    device.Onward device'' := by
  cases device <;> cases device' <;> try exact h.elim
  all_goals cases device'' <;> try exact h'.elim
  · intro hr
    obtain ⟨hr', hcrv⟩ := h hr
    obtain ⟨hr'', hcrv'⟩ := h' hr'
    exact ⟨hr'', hcrv'.trans hcrv⟩
  · trivial
  · trivial

theorem onward_serve (hs : device.Sound) (driver : Driver) (q : Request) :
    device.Onward (device.serve q driver).device := by
  cases device with
  | nrf52 p =>
      exact fun hr => Nrf52.running_serve (r := { driver, hardware := p }) hr q
  | rtl872x p | twdt p => trivial
  | eager p | unfaithful p => exact hs.elim

end Device

namespace Deployment

open Device (Faithful Onward)

variable {κ : Type} {d : Deployment κ} {m : Move κ}

/-! ## Steady moves -/

/-- The registry stays, the power stays on, and no divider is locked. -/
def Move.Steady : Move κ → Prop
  | .build _ => False
  | .poke _ what => what ≠ .powerCycle ∧ ∀ on, what ≠ .lockDivider on
  | _ => True

variable {k : Nat} {device device' : Device}

theorem Touch.faithful {driver : Driver} (ht : Touch m k device device') (hm : m.Steady)
    (h : device.Faithful driver) : device'.Faithful driver := by
  cases ht with
  | elapse | recover =>
      cases device with
      | nrf52 p => exact ⟨h.blank, h.line⟩
      | rtl872x p | twdt p | eager p | unfaithful p => exact h
  | strike =>
      cases device with
      | rtl872x p =>
          show Faithful driver (.rtl872x p.expire.1)
          unfold Rtl872x.Peripheral.expire
          split <;> exact h
      | twdt p =>
          show Faithful driver (.twdt p.expire.1)
          unfold Twdt.Peripheral.expire
          split <;> exact h
      | nrf52 p | eager p | unfaithful p => exact h
  | poke lawful poked =>
      cases Device.poked_of_poke lawful poked with
      | powerCycle => exact absurd rfl hm.1
      | lockDivider on => exact absurd rfl (hm.2 on)
      | ignoreStart => exact ⟨h.blank, h.line⟩
      | vectorAvailable | stickEnable | failAfter | setRunning | setSubscribed => exact h

theorem Touch.onward (ht : Touch m k device device') (hm : m.Steady) (hs : device.Sound) :
    device.Onward device' := by
  cases ht with
  | elapse | recover =>
      cases device with
      | nrf52 p => exact fun hr => ⟨hr, rfl⟩
      | rtl872x p | twdt p => trivial
      | eager p | unfaithful p => exact hs.elim
  | strike =>
      cases device with
      | nrf52 p => exact fun hr => ⟨hr, rfl⟩
      | rtl872x p | twdt p => trivial
      | eager p | unfaithful p => exact hs.elim
  | poke lawful poked =>
      cases Device.poked_of_poke lawful poked with
      | powerCycle => exact absurd rfl hm.1
      | ignoreStart | vectorAvailable => exact fun hr => ⟨hr, rfl⟩
      | stickEnable | lockDivider | failAfter => trivial
      | setRunning | setSubscribed => exact hs.elim

/-- What holds between any two steady moves once a registry was built over new
peripherals. -/
structure Upright (d : Deployment κ) : Prop extends Agrees Faithful d where
  powered : d.powered = true

theorem upright_built (sims : List Sim) (pairs : List (UInt8 × Nat)) :
    Upright ((fresh sims : Deployment κ).step (.build pairs)) := by
  have hfresh : InOrder (fresh sims : Deployment κ) := inOrder_fresh sims
  have hstep := stepped hfresh.sound (.build pairs)
  have hinorder := hfresh.step (.build pairs)
  generalize (fresh sims : Deployment κ).step (.build pairs) = d at hstep hinorder
  cases hstep with
  | idle devices slots current powered =>
      have hnone : d.slots = [] := slots
      refine ⟨⟨hinorder, ?_, ?_⟩, powered⟩
      · exact fun slot hslot => absurd (hnone ▸ hslot) List.not_mem_nil
      · exact fun slot hslot => absurd (hnone ▸ hslot) List.not_mem_nil
  | touched ht => cases ht.touch
  | built hbuilt =>
      refine ⟨⟨hinorder, fun slot hslot => ?_, hbuilt.each ?_⟩, hbuilt.powered⟩
      · rw [hbuilt.slots] at hslot
        obtain ⟨old, -, rfl⟩ := List.mem_map.mp hslot
        rfl
      · intro slot device _ hdevice hdriver
        rw [device?_fresh] at hdevice
        obtain ⟨sim, -, rfl⟩ := Option.map_eq_some_iff.mp hdevice
        rw [Registry.bind, hdriver]
        exact Device.faithful_fresh sim _

theorem lasting_faithful : Lasting (fun (_ : Deployment κ) m => m.Steady) Faithful where
  touch _ hm ht h := ht.faithful hm h
  serve _ _ _ _ h := Device.faithful_serve h _
  adopt _ hm _ := hm.elim

theorem Upright.step (h : Upright d) (hm : m.Steady) : Upright (d.step m) := by
  refine ⟨h.toAgrees.step lasting_faithful hm, ?_⟩
  have hstep := stepped h.sound m
  generalize d.step m = d' at hstep
  cases hstep with
  | idle devices slots current powered => exact powered.trans h.powered
  | touched ht =>
      have hon : m.cuts = false := by
        cases m with
        | poke k what => exact beq_eq_false_iff_ne.mpr hm.1
        | _ => rfl
      rw [ht.powered, h.powered, hon]
      rfl
  | served => exact h.powered
  | built => exact hm.elim

theorem Upright.run (h : Upright d) {moves : List (Move κ)} (hm : ∀ m ∈ moves, m.Steady) :
    Upright (d.run moves) := by
  induction moves generalizing d with
  | nil => exact h
  | cons m rest ih =>
      obtain ⟨hfirst, hrest⟩ := List.forall_mem_cons.mp hm
      exact ih (h.step hfirst) hrest

theorem Upright.onward (h : Upright d) (hm : m.Steady)
    (hk : d.system.device? k = some device) :
    ∃ device', (d.step m).system.device? k = some device' ∧ device.Onward device' := by
  have hs := h.sound k device hk
  rcases (stepped h.sound m).device_cases hk with hsame | ⟨device', ht, hk'⟩ |
    ⟨i, q, slot, -, -, -, hk'⟩
  · exact ⟨device, hsame, Onward.refl hs⟩
  · exact ⟨device', hk', ht.onward hm hs⟩
  · exact ⟨_, hk', Device.onward_serve hs slot.driver q⟩

theorem Upright.onward_run (h : Upright d) {moves : List (Move κ)}
    (hm : ∀ m ∈ moves, m.Steady) (hk : d.system.device? k = some device) :
    ∃ device', (d.run moves).system.device? k = some device' ∧ device.Onward device' := by
  induction moves generalizing d device with
  | nil => exact ⟨device, hk, Onward.refl (h.sound k device hk)⟩
  | cons m rest ih =>
      obtain ⟨hfirst, hrest⟩ := List.forall_mem_cons.mp hm
      obtain ⟨device', hk', honward⟩ := h.onward hfirst hk
      obtain ⟨device'', hk'', honward'⟩ := ih (h.step hfirst) hrest hk'
      exact ⟨device'', hk'', honward.trans honward'⟩

/-! ## Unanswered interrupts -/

/-- The interrupts of an RTL872x since a call last reloaded its counter, once a move is
made. -/
def tally (k : Nat) (d : Deployment κ) (m : Move κ) (n : Nat) : Nat :=
  match d.system.device? k, m with
  | some (.rtl872x p), .strike j =>
    if j = k ∧ p.enabled = true ∧ p.expire.2.1.isSome then n + 1 else n
  | some (.rtl872x p), .request i q =>
    match d.system.slot? ⟨d.system.current, i⟩ with
    | some slot =>
      if d.powered = true ∧ slot.busy = false ∧ slot.device = k then
        p.unanswered n (Rtl872x.serve { driver := slot.driver, hardware := p } q).2.calls
      else
        n
    | none => n
  | _, _ => n

/-- The same after a run. -/
def unanswered (k : Nat) (d : Deployment κ) (n : Nat) : List (Move κ) → Nat
  | [] => n
  | m :: rest => unanswered k (d.step m) (d.tally k m n) rest

open Rtl872x (Latched)

variable {n : Nat} {p : Rtl872x.Peripheral} {slot : Slot}

/-- What neither raises the interrupt nor reloads the counter leaves the bit alone. -/
theorem latched_touch (ht : Touch m k (.rtl872x p) device') (hm : m.Steady)
    (hstrike : ∀ j, m ≠ .strike j) (hl : Latched n p) :
    ∃ p', device' = .rtl872x p' ∧ Latched n p' := by
  cases ht with
  | elapse k time => exact ⟨p.elapse time, rfl, hl.once, hl.latch⟩
  | recover => exact ⟨p, rfl, hl⟩
  | strike => exact absurd rfl (hstrike _)
  | poke lawful poked =>
      cases Device.poked_of_poke lawful poked with
      | stickEnable on => exact ⟨_, rfl, hl.once, hl.latch⟩
      | lockDivider on => exact absurd rfl (hm.2 on)

theorem latched_serve (hl : Latched n p) (driver : Driver) (q : Request) :
    Latched (p.unanswered n (Rtl872x.serve { driver, hardware := p } q).2.calls)
      (Rtl872x.serve { driver, hardware := p } q).2.hardware := by
  obtain ⟨made, hcalls, hhardware, -, -⟩ :=
    Rtl872x.traced_serve ({ driver, hardware := p } : Rig _ _) q
  rw [hcalls, hhardware]
  exact Rtl872x.latched_calls hl made

/-- An RTL872x in the interrupt mode has the line of its watchdog on the vector. -/
theorem Upright.vector (h : Upright d) (hmem : slot ∈ d.slots)
    (hk : d.system.device? slot.device = some (.rtl872x p)) (he : p.earlyInterrupt = true) :
    p.line = some ⟨d.system.current, slot.id⟩ := by
  obtain ⟨-, hblank, hrecorded⟩ := h.agree slot hmem _ hk
  cases hc : slot.driver.config with
  | none => exact absurd (he.symm.trans (hblank hc)) nofun
  | some c =>
      have hmeets := hrecorded c hc
      have hsoft : c.hardReset = false := by
        have hmode : p.earlyInterrupt = !c.hardReset := hmeets.mode
        rw [he] at hmode
        exact Bool.not_eq_eq_eq_not.mp hmode.symm
      exact (hmeets.line hsoft).trans (h.bound slot hmem)

/-- A move that is no expiry of the device and no request to it. -/
theorem latched_other (h : Upright d) (hm : m.Steady)
    (hk : d.system.device? k = some (.rtl872x p)) (hstrike : ∀ j, m ≠ .strike j)
    (hrequest : ∀ i q slot, m = .request i q →
      d.system.slot? ⟨d.system.current, i⟩ = some slot → slot.device ≠ k)
    (hl : Latched n p) :
    ∃ p', (d.step m).system.device? k = some (.rtl872x p') ∧ Latched n p' := by
  rcases (stepped h.sound m).device_cases hk with hsame | ⟨device', ht, hk'⟩ |
    ⟨i, q, slot, rfl, hslot, hdevice, -⟩
  · exact ⟨p, hsame, hl⟩
  · obtain ⟨p', rfl, hl'⟩ := latched_touch ht hm hstrike hl
    exact ⟨p', hk', hl'⟩
  · exact absurd hdevice (hrequest i q slot rfl hslot)

/-- The counter runs out, if it runs at all. -/
theorem Upright.latched_strike (h : Upright d) (hmem : slot ∈ d.slots)
    (hk : d.system.device? slot.device = some (.rtl872x p)) (hl : Latched n p) :
    ∃ p', (d.step (.strike slot.device)).system.device? slot.device = some (.rtl872x p') ∧
      Latched (d.tally slot.device (.strike slot.device) n) p' := by
  simp only [tally, hk]
  cases he : p.enabled with
  | true =>
      have ht := touched_strike hk (if_pos he)
      refine ⟨p.expire.1, ?_, ?_⟩
      · rw [ht.devices, if_pos rfl, hk, Option.map_some]
        rfl
      · simpa using Rtl872x.latched_expire hl he fun hearly => by
          rw [h.vector hmem hk hearly]
          rfl
  | false =>
      have hoff : d.system.remaining? slot.device = none := by
        rw [System.remaining?, hk]
        exact if_neg (by simp [he])
      refine ⟨p, ?_, by simpa [he] using hl⟩
      simp only [Deployment.step, Deployment.strike, hoff, hk]

/-- The calls of a request count if it goes through a slot of the device. -/
theorem Upright.latched_request (h : Upright d) (hk : d.system.device? k = some (.rtl872x p))
    (hl : Latched n p) (i : Instance) (q : Request) :
    ∃ p', (d.step (.request i q)).system.device? k = some (.rtl872x p') ∧
      Latched (d.tally k (.request i q) n) p' := by
  simp only [tally, hk]
  cases hslot : d.system.slot? ⟨d.system.current, i⟩ with
  | none =>
      refine latched_other h trivial hk (by simp) (fun i' q' slot' he hslot' => ?_) hl
      cases he
      cases hslot.symm.trans hslot'
  | some slot =>
      have hidle := h.idle slot (System.slot?_eq_some hslot).1
      dsimp only
      by_cases hdevice : slot.device = k
      · rw [← hdevice] at hk ⊢
        obtain ⟨s, hstep, hserved⟩ :=
          served_request h.powered hslot hidle hk (h.sound _ _ hk) q
        rw [if_pos ⟨h.powered, hidle, rfl⟩, hstep]
        refine ⟨_, ?_, latched_serve hl slot.driver q⟩
        rw [hserved.devices, if_pos rfl, hk, Option.map_some]
        rfl
      · rw [if_neg fun hif => hdevice hif.2.2]
        refine latched_other h trivial hk (by simp) (fun i' q' slot' he hslot' => ?_) hl
        cases he
        exact Option.some.inj (hslot.symm.trans hslot') ▸ hdevice

theorem Upright.latched (h : Upright d) (hm : m.Steady) (hmem : slot ∈ d.slots)
    (hk : d.system.device? slot.device = some (.rtl872x p)) (hl : Latched n p) :
    ∃ p', (d.step m).system.device? slot.device = some (.rtl872x p') ∧
      Latched (d.tally slot.device m n) p' := by
  cases m with
  | strike j =>
      by_cases hj : j = slot.device
      · subst hj
        exact h.latched_strike hmem hk hl
      · simp only [tally, hk]
        rw [if_neg fun hif => hj hif.1]
        rcases (stepped h.sound (.strike j)).device_cases hk with hsame | ⟨_, ht, -⟩ |
          ⟨_, _, _, hm, -⟩
        · exact ⟨p, hsame, hl⟩
        · cases ht
          exact absurd rfl hj
        · cases hm
  | request i q => exact h.latched_request hk hl i q
  | build pairs => exact hm.elim
  | onExpired | poke | elapse | recover | elsewhere =>
      simp only [tally, hk]
      exact latched_other h hm hk (by simp) (by simp) hl

/-- The slots stay over their devices. -/
theorem Upright.devices_step (h : Upright d) (hm : m.Steady) :
    (d.step m).slots.map (·.device) = d.slots.map (·.device) := by
  have hstep := stepped h.sound m
  generalize d.step m = d' at hstep
  cases hstep with
  | idle devices slots => rw [slots]
  | touched ht => rw [ht.slots]
  | served powered found under served =>
      simp only [slots]
      rw [served.current, served.map_slots fun _ => rfl]
  | built => exact hm.elim

theorem Upright.devices_run (h : Upright d) {moves : List (Move κ)}
    (hm : ∀ m ∈ moves, m.Steady) :
    (d.run moves).slots.map (·.device) = d.slots.map (·.device) := by
  induction moves generalizing d with
  | nil => rfl
  | cons m rest ih =>
      obtain ⟨hfirst, hrest⟩ := List.forall_mem_cons.mp hm
      exact (ih (h.step hfirst) hrest).trans (h.devices_step hfirst)

theorem Upright.latched_run (h : Upright d) {moves : List (Move κ)}
    (hm : ∀ m ∈ moves, m.Steady) (hmem : k ∈ d.slots.map (·.device))
    (hk : d.system.device? k = some (.rtl872x p)) (hl : Latched n p) :
    ∃ p', (d.run moves).system.device? k = some (.rtl872x p') ∧
      Latched (unanswered k d n moves) p' := by
  induction moves generalizing d n p with
  | nil => exact ⟨p, hk, hl⟩
  | cons m rest ih =>
      obtain ⟨hfirst, hrest⟩ := List.forall_mem_cons.mp hm
      obtain ⟨slot, hslot, rfl⟩ := List.mem_map.mp hmem
      obtain ⟨p', hk', hl'⟩ := h.latched hfirst hslot hk hl
      exact ih (h.step hfirst) hrest (h.devices_step hfirst ▸ hmem) hk' hl'

/-! ## From new peripherals on -/

/-- A registry was built over new peripherals. -/
def opened (sims : List Sim) (pairs : List (UInt8 × Nat)) : Deployment κ :=
  (fresh sims).step (.build pairs)

theorem device_opened {sims : List Sim} {pairs : List (UInt8 × Nat)}
    (hmem : k ∈ (opened sims pairs : Deployment κ).slots.map (·.device)) :
    ∃ sim : Sim, (opened sims pairs : Deployment κ).system.device? k = some sim.fresh := by
  have hstep := stepped (inOrder_fresh sims : InOrder (fresh sims : Deployment κ)).sound
    (.build pairs)
  rw [opened] at hmem ⊢
  generalize (fresh sims : Deployment κ).step (.build pairs) = d at hstep hmem
  cases hstep with
  | idle devices slots =>
      have hnone : d.slots = [] := slots
      rw [hnone] at hmem
      exact absurd hmem List.not_mem_nil
  | touched ht => cases ht.touch
  | built hbuilt =>
      rw [hbuilt.slots, List.map_map] at hmem
      obtain ⟨old, hold, rfl⟩ := List.mem_map.mp hmem
      obtain ⟨found, hfound, -⟩ := (hbuilt.adopted old hold).driver
      refine (hbuilt.devices old.device).symm ▸ ?_
      rw [device?_fresh] at hfound ⊢
      obtain ⟨sim, hsim, -⟩ := Option.map_eq_some_iff.mp hfound
      exact ⟨sim, congrArg (Option.map Sim.fresh) hsim⟩

/-- However a run goes, at most one interrupt of an RTL872x is unanswered, and while the
counter runs the peripheral knows of it. -/
theorem latched_opened {sims : List Sim} {pairs : List (UInt8 × Nat)}
    {moves : List (Move κ)} (hm : ∀ m ∈ moves, m.Steady)
    (hmem : k ∈ ((opened sims pairs).run moves).slots.map (·.device))
    (hk : ((opened sims pairs).run moves).system.device? k = some (.rtl872x p)) :
    Latched (unanswered k (opened sims pairs) 0 moves) p := by
  have h : Upright (opened sims pairs : Deployment κ) := upright_built sims pairs
  rw [h.devices_run hm] at hmem
  obtain ⟨sim, hsim⟩ := device_opened hmem
  obtain ⟨device, hdevice, honward⟩ := h.onward_run hm hsim
  obtain rfl := Option.some.inj (hk.symm.trans hdevice)
  -- only a new RTL872x becomes one
  cases sim with
  | nrf52 | twdt => exact honward.elim
  | rtl872x =>
      obtain ⟨p', hk', hl⟩ := h.latched_run hm hmem hsim Rtl872x.latched_fresh
      cases hk.symm.trans hk'
      exact hl

end Deployment

end TwoTierWatchdog
