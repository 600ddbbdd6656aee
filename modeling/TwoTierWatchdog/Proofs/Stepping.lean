import Mathlib.Data.List.Nodup
import TwoTierWatchdog.Proofs.Device
import TwoTierWatchdog.Proofs.System
import TwoTierWatchdog.Proofs.Trace

/-!
# What a move can do

To the watchdogs of the current registry and the devices under them, a move does one of
four things: nothing; it touches one device past its driver; it has a request served; it
builds the registry anew. That is read off the definitions here, once. Whatever is proved
of runs goes by these cases and by what `each` makes of them, and opens no operation of a
system again.
-/

namespace TwoTierWatchdog.Deployment

variable {κ : Type} {d d' : Deployment κ} {m : Move κ}

def slots (d : Deployment κ) : List Slot :=
  (d.system.registry d.system.current).slots

theorem device?_fresh (sims : List Sim) (k : Nat) :
    (fresh sims : Deployment κ).system.device? k = sims[k]?.map Sim.fresh := by
  simp only [fresh, System.device?, List.getElem?_map, Option.map_map]
  rfl

/-! ## One move -/

/-- The power is lost. -/
def Move.cuts : Move κ → Bool
  | .poke _ what => what == .powerCycle
  | _ => false

/-- What a move makes of the device with a given number, without its driver. -/
inductive Touch : Move κ → Nat → Device → Device → Prop
  | elapse (k : Nat) (time : Duration) (device : Device) :
      Touch (.elapse k time) k device (device.elapse time)
  | strike {k : Nat} {device : Device} {left : Duration}
      (running : device.remaining? = some left) :
      Touch (.strike k) k device device.strike.1
  | recover (k : Nat) (device : Device) : Touch (.recover k) k device device.recover.1
  | poke {k : Nat} {what : Device.Stimulus} {device device' : Device}
      {reply : Device.Reply} (lawful : ∀ c, what ≠ .call c)
      (poked : device.poke what = some (reply, device')) :
      Touch (.poke k what) k device device'

/-- One device is exchanged, and that is all. -/
structure Touched (d : Deployment κ) (m : Move κ) (k : Nat) (device device' : Device)
    (d' : Deployment κ) : Prop where
  touch : Touch m k device device'
  before : d.system.device? k = some device
  slots : d'.slots = d.slots
  current : d'.system.current = d.system.current
  powered : d'.powered = (d.powered && !m.cuts)
  devices : ∀ j, d'.system.device? j =
    if k = j then (d.system.device? j).map fun _ => device' else d.system.device? j

/-- A registry of new drivers is current. -/
structure Built (d : Deployment κ) (pairs : List (UInt8 × Nat)) (made : List Slot)
    (d' : Deployment κ) : Prop where
  devices : ∀ j, d'.system.device? j = d.system.device? j
  slots : d'.slots = made.map (Registry.bind d'.system.current)
  ids : (made.map (·.id)).Nodup
  distinct : (made.map (·.device)).Nodup
  adopted : ∀ slot ∈ made, d.system.Adopted slot
  powered : d'.powered = true

/-- What a move comes to. -/
inductive Stepped (d : Deployment κ) : Move κ → Deployment κ → Prop
  | idle {m : Move κ} {d' : Deployment κ}
      (devices : ∀ j, d'.system.device? j = d.system.device? j)
      (slots : d'.slots = d.slots) (current : d'.system.current = d.system.current)
      (powered : d'.powered = d.powered) : Stepped d m d'
  | touched {m : Move κ} {k : Nat} {device device' : Device} {d' : Deployment κ}
      (touched : Touched d m k device device' d') : Stepped d m d'
  | served {i : Instance} {q : Request} {slot : Slot} {device : Device} {s : System κ}
      (powered : d.powered = true)
      (found : d.system.slot? ⟨d.system.current, i⟩ = some slot)
      (under : d.system.device? slot.device = some device)
      (served : d.system.Served ⟨d.system.current, i⟩ slot
        (device.serve q slot.driver) s) :
      Stepped d (.request i q) { d with system := s }
  | built {pairs : List (UInt8 × Nat)} {made : List Slot} {d' : Deployment κ}
      (built : Built d pairs made d') : Stepped d (.build pairs) d'

theorem Stepped.refl (d : Deployment κ) (m : Move κ) : Stepped d m d :=
  .idle (fun _ => rfl) rfl rfl rfl

theorem stepped_poke (d : Deployment κ) (k : Nat) (what : Device.Stimulus) :
    Stepped d (.poke k what) (d.poke k what) := by
  unfold Deployment.poke
  split
  · exact .refl d _
  · exact .refl d _
  · next hcall hk =>
      split
      · next hpoke =>
          exact .touched ⟨.poke (fun c hc => hcall c hc) hpoke, hk, rfl, rfl, rfl,
            System.device?_putDevice d.system k _ _⟩
      · exact .refl d _

theorem stepped_elapse (d : Deployment κ) (k : Nat) (time : Duration) :
    Stepped d (.elapse k time) (d.step (.elapse k time)) := by
  have hdevices : ∀ j, (d.step (.elapse k time)).system.device? j =
      if k = j then (d.system.device? j).map (·.elapse time) else d.system.device? j :=
    System.device?_modifyDevice d.system k (·.elapse time)
  cases hk : d.system.device? k with
  | none =>
      refine .idle (fun j => ?_) rfl rfl rfl
      rw [hdevices]
      split
      · next hkj => rw [← hkj, hk, Option.map_none]
      · rfl
  | some device =>
      refine .touched ⟨.elapse k time device, hk, rfl, rfl, (Bool.and_true _).symm,
        fun j => ?_⟩
      rw [hdevices]
      split
      · next hkj => rw [← hkj, hk, Option.map_some, Option.map_some]
      · rfl

theorem touched_strike {k : Nat} {device : Device} {left : Duration}
    (hk : d.system.device? k = some device) (hleft : device.remaining? = some left) :
    Touched d (.strike k) k device device.strike.1 (d.step (.strike k)) := by
  have hrunning : d.system.remaining? k = some left := by
    rw [System.remaining?, hk, Option.bind_some, hleft]
  simp only [step, Deployment.strike, hrunning]
  rw [System.strike_of_some hk]
  cases device.strike.2.1 with
  | some line =>
      refine ⟨.strike hleft, hk, ?_, System.current_count _ _, (Bool.and_true _).symm,
        System.device?_putDevice d.system k _ _⟩
      simp only [slots, System.current_count, System.slots_count]
      rfl
  | none =>
      exact ⟨.strike hleft, hk, rfl, rfl, (Bool.and_true _).symm,
        System.device?_putDevice d.system k _ _⟩

theorem stepped_strike (d : Deployment κ) (k : Nat) :
    Stepped d (.strike k) (d.step (.strike k)) := by
  cases hleft : d.system.remaining? k with
  | none =>
      simp only [step, Deployment.strike, hleft]
      exact .refl d _
  | some left =>
      obtain ⟨device, hk, hrunning⟩ := Option.bind_eq_some_iff.mp hleft
      exact .touched (touched_strike hk hrunning)

theorem stepped_recover (d : Deployment κ) (k : Nat) :
    Stepped d (.recover k) (d.step (.recover k)) := by
  simp only [step]
  cases hk : d.system.device? k with
  | none =>
      simp only [System.recover, hk]
      exact .refl d _
  | some device =>
      rw [System.recover_of_some hk]
      exact .touched ⟨.recover k device, hk, rfl, rfl, (Bool.and_true _).symm,
        System.device?_putDevice d.system k _ _⟩

theorem stepped_onExpired (d : Deployment κ) (i : Instance) (callback : κ) :
    Stepped d (.onExpired i callback) (d.step (.onExpired i callback)) := by
  obtain ⟨hdevices, hcurrent, hslots⟩ :=
    System.onExpired_frame d.system ⟨d.system.current, i⟩ callback
  simp only [step]
  split
  · refine .idle hdevices ?_ hcurrent rfl
    simp only [slots]
    rw [hcurrent, hslots]
  · exact .refl d _

theorem served_request (hpowered : d.powered = true) {i : Instance} {slot : Slot}
    {device : Device} (hslot : d.system.slot? ⟨d.system.current, i⟩ = some slot)
    (hidle : slot.busy = false) (hdevice : d.system.device? slot.device = some device)
    (hs : device.Sound) (q : Request) :
    ∃ s, d.step (.request i q) = { d with system := s } ∧
      d.system.Served ⟨d.system.current, i⟩ slot (device.serve q slot.driver) s := by
  obtain ⟨s, hserve, hserved⟩ :=
    System.serve_of_quiet hslot hidle hdevice (hs.raised_serve slot.driver q)
  refine ⟨s, ?_, hserved⟩
  simp only [step, if_pos hpowered, hserve]

/-- A watchdog that is busy, or has no device, leaves everything as it is. -/
theorem stepped_request (hs : ∀ j device, d.system.device? j = some device → device.Sound)
    (i : Instance) (q : Request) : Stepped d (.request i q) (d.step (.request i q)) := by
  cases hpowered : d.powered with
  | false =>
      simp only [step, hpowered]
      exact .refl d _
  | true =>
      cases hslot : d.system.slot? ⟨d.system.current, i⟩ with
      | none =>
          simp only [step, hpowered, if_true, System.serve, hslot]
          exact .idle (fun _ => rfl) rfl rfl hpowered.symm
      | some slot =>
          cases hidle : slot.busy with
          | true =>
              simp only [step, hpowered, System.serve, hslot, hidle, if_true]
              exact .idle (fun _ => rfl) rfl rfl hpowered.symm
          | false =>
              cases hdevice : d.system.device? slot.device with
              | none =>
                  simp only [step, hpowered, System.serve, hslot, hdevice, hidle, if_true,
                    Bool.false_eq_true, if_false]
                  exact .idle (fun _ => rfl) rfl rfl hpowered.symm
              | some device =>
                  obtain ⟨s, hstep, hserved⟩ :=
                    served_request hpowered hslot hidle hdevice (hs _ device hdevice) q
                  rw [hstep]
                  exact .served hpowered hslot hdevice hserved

theorem stepped_build (d : Deployment κ) (pairs : List (UInt8 × Nat)) :
    Stepped d (.build pairs) (d.step (.build pairs)) := by
  simp only [step]
  split
  · next hdistinct =>
      split
      · next s hbuild =>
          obtain ⟨hdev, hcurrent, made, hslots, hids, hdevices, hadopted⟩ :=
            System.build_ok hbuild
          have hdistinct' : (made.map (·.device)).Nodup := hdevices ▸ hdistinct
          refine .built ⟨fun j => ?_, ?_, hids, hdistinct', hadopted, rfl⟩
          · simp only [System.device?, hdev]
          · rw [slots, hslots, hcurrent]
      · next s hbuild =>
          obtain ⟨hdev, hreg⟩ := System.build_error hbuild
          refine .idle (fun j => ?_) ?_ ?_ rfl
          · simp only [System.device?, hdev]
          · simp only [slots, System.registry, System.current, hreg]
          · simp only [System.current, hreg]
  · exact .refl d _

theorem stepped (hs : ∀ j device, d.system.device? j = some device → device.Sound)
    (m : Move κ) : Stepped d m (d.step m) := by
  cases m with
  | build pairs => exact stepped_build d pairs
  | request i q => exact stepped_request hs i q
  | onExpired i callback => exact stepped_onExpired d i callback
  | poke k what => exact stepped_poke d k what
  | elapse k time => exact stepped_elapse d k time
  | strike k => exact stepped_strike d k
  | recover k => exact stepped_recover d k
  | elsewhere s => exact .idle (fun _ => rfl) rfl rfl rfl

/-- One device, whatever the move: it is as it was, or touched, or a request to it was
served. -/
theorem Stepped.device_cases (h : Stepped d m d') {k : Nat} {device : Device}
    (hk : d.system.device? k = some device) :
    d'.system.device? k = some device ∨
      (∃ device', Touch m k device device' ∧ d'.system.device? k = some device') ∨
      ∃ i q slot, m = .request i q ∧ d.system.slot? ⟨d.system.current, i⟩ = some slot ∧
        slot.device = k ∧
        d'.system.device? k = some (device.serve q slot.driver).device := by
  cases h with
  | idle devices => exact .inl ((devices k).trans hk)
  | @touched _ j before after _ ht =>
      by_cases hj : j = k
      · subst hj
        obtain rfl := Option.some.inj (ht.before.symm.trans hk)
        exact .inr (.inl ⟨after, ht.touch, by rw [ht.devices, if_pos rfl, hk, Option.map_some]⟩)
      · exact .inl (by rw [ht.devices, if_neg hj, hk])
  | @served i q slot before s powered found under served =>
      by_cases hj : slot.device = k
      · subst hj
        obtain rfl := Option.some.inj (under.symm.trans hk)
        exact .inr (.inr ⟨i, q, slot, rfl, found, rfl,
          by rw [served.devices, if_pos rfl, hk, Option.map_some]⟩)
      · exact .inl (by rw [served.devices, if_neg hj, hk])
  | built hbuilt => exact .inl ((hbuilt.devices k).trans hk)

/-! ## What holds of each watchdog -/

/-- Something holds of every slot with the device under it. -/
def Each (P : Slot → Device → Prop) (d : Deployment κ) : Prop :=
  ∀ slot ∈ d.slots, ∀ device, d.system.device? slot.device = some device → P slot device

variable {P P' : Slot → Device → Prop}

theorem Each.of_eq (hp : d.Each P) (hdevices : ∀ j, d'.system.device? j = d.system.device? j)
    (hslots : d'.slots = d.slots) : d'.Each P := by
  intro slot hslot device hdevice
  rw [hslots] at hslot
  rw [hdevices] at hdevice
  exact hp slot hslot device hdevice

theorem Touched.each {k : Nat} {device device' : Device} (h : Touched d m k device device' d')
    (hp : d.Each P) (hother : ∀ slot device, P slot device → P' slot device)
    (htouch : ∀ slot, P slot device → P' slot device') : d'.Each P' := by
  intro slot hslot found hfound
  rw [h.slots] at hslot
  rw [h.devices] at hfound
  split at hfound
  · next hk =>
      rw [← hk, h.before] at hfound
      obtain rfl := Option.some.inj hfound
      exact htouch slot (hp slot hslot device (hk ▸ h.before))
  · exact hother slot found (hp slot hslot found hfound)

theorem Built.each {pairs : List (UInt8 × Nat)} {made : List Slot}
    (h : Built d pairs made d')
    (hnew : ∀ slot device, slot.busy = false → d.system.device? slot.device = some device →
      slot.driver = device.adopt.1 → P (Registry.bind d'.system.current slot) device) :
    d'.Each P := by
  intro slot hslot device hdevice
  rw [h.slots] at hslot
  obtain ⟨old, hold, rfl⟩ := List.mem_map.mp hslot
  have hadopted := h.adopted old hold
  obtain ⟨found, hfound, hdriver⟩ := hadopted.driver
  have hsame : found = device :=
    Option.some.inj (hfound.symm.trans ((h.devices old.device).symm.trans hdevice))
  exact hnew old device hadopted.idle (hsame ▸ hfound) (hsame ▸ hdriver)

/-- The slots after a request: the one that was asked has a new driver. -/
theorem slots_served {w : Watchdog} (hw : w.registry = d.system.current) {slot : Slot}
    {served : Device.Served} {s : System κ} (hserved : d.system.Served w slot served s) :
    slots { d with system := s } = d.slots.map fun slot =>
      if slot.id = w.id then { slot with driver := served.driver, busy := false }
      else slot := by
  simp only [slots]
  rw [hserved.current, ← hw, hserved.slots]

/-- A request exchanges one slot and the device under it. No other slot has that
device, and no other slot has that instance. -/
theorem Each.served (hids : (d.slots.map (·.id)).Nodup)
    (hdistinct : (d.slots.map (·.device)).Nodup) {w : Watchdog}
    (hw : w.registry = d.system.current) {slot : Slot} (hmem : slot ∈ d.slots)
    (hid : slot.id = w.id) {served : Device.Served} {s : System κ}
    (hserved : d.system.Served w slot served s) (hp : d.Each P)
    (hnew : P { slot with driver := served.driver, busy := false } served.device) :
    Each P { d with system := s } := by
  intro slot' hslot' device hdevice
  rw [slots_served hw hserved] at hslot'
  obtain ⟨old, hold, rfl⟩ := List.mem_map.mp hslot'
  rw [hserved.devices] at hdevice
  -- one instance is one slot and one slot is one device, both ways
  by_cases ho : old.id = w.id
  · have hsame : old = slot := List.inj_on_of_nodup_map hids hold hmem (ho.trans hid.symm)
    subst hsame
    rw [if_pos ho] at hdevice ⊢
    rw [if_pos rfl] at hdevice
    obtain ⟨_, -, rfl⟩ := Option.map_eq_some_iff.mp hdevice
    exact hnew
  · rw [if_neg ho] at hdevice ⊢
    have hother : slot.device ≠ old.device := fun heq => ho
      (List.inj_on_of_nodup_map hdistinct hmem hold heq ▸ hid)
    rw [if_neg hother] at hdevice
    exact hp old hold device hdevice

end TwoTierWatchdog.Deployment
