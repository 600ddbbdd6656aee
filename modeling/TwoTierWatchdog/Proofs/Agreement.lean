import TwoTierWatchdog.Proofs.Counting

/-!
# What lasts through a run

A driver and its device agree on something as long as every move keeps it so. Moves
touch devices, have requests served and make new drivers; a relation that lasts through
each of these, for the moves that are allowed, holds of every watchdog of the current
registry wherever a run of such moves leads.
-/

namespace TwoTierWatchdog.Deployment

variable {κ : Type} {d d' : Deployment κ} {m : Move κ}

/-- Which moves are allowed in which state. -/
abbrev Rules (κ : Type) :=
  Deployment κ → Move κ → Prop

/-- Every move of a run is allowed where it is made. -/
def Within (rules : Rules κ) (d : Deployment κ) : List (Move κ) → Prop
  | [] => True
  | m :: rest => rules d m ∧ Within rules (d.step m) rest

/-- A relation that no allowed move ends. -/
structure Lasting (rules : Rules κ) (R : Driver → Device → Prop) : Prop where
  touch : ∀ {d : Deployment κ} {m k device device'} (driver : Driver), rules d m →
    Touch m k device device' → R driver device → R driver device'
  serve : ∀ {d : Deployment κ} {i q slot device}, rules d (.request i q) →
    d.system.slot? ⟨d.system.current, i⟩ = some slot →
    d.system.device? slot.device = some device → device.Sound → R slot.driver device →
    R (device.serve q slot.driver).driver (device.serve q slot.driver).device
  adopt : ∀ {d : Deployment κ} {pairs device} (line : Option Interrupt.Line),
    rules d (.build pairs) → device.Sound → R { device.adopt.1 with line } device

/-- Besides being in order, every driver has the line of its instance and agrees with its
device. -/
structure Agrees (R : Driver → Device → Prop) (d : Deployment κ) : Prop extends
    InOrder d where
  bound : ∀ slot ∈ d.slots, slot.driver.line = some ⟨d.system.current, slot.id⟩
  agree : d.Each fun slot device => R slot.driver device

variable {rules : Rules κ} {R : Driver → Device → Prop}

theorem agrees_fresh (sims : List Sim) : Agrees R (fresh sims : Deployment κ) where
  toInOrder := inOrder_fresh sims
  bound _ h := absurd h List.not_mem_nil
  agree _ h := absurd h List.not_mem_nil

/-- A request changes neither the lines nor, to another watchdog, anything at all. -/
theorem Agrees.served (h : Agrees R d) {i : Instance} {q : Request} {slot : Slot}
    {device : Device} (hslot : d.system.slot? ⟨d.system.current, i⟩ = some slot)
    {s : System κ}
    (hserved : d.system.Served ⟨d.system.current, i⟩ slot (device.serve q slot.driver) s)
    (hnew : R (device.serve q slot.driver).driver (device.serve q slot.driver).device) :
    (∀ slot ∈ slots { d with system := s },
        slot.driver.line = some ⟨s.current, slot.id⟩) ∧
      Each (fun slot device => R slot.driver device) { d with system := s } := by
  obtain ⟨hmem, hid⟩ := System.slot?_eq_some hslot
  refine ⟨fun slot' hslot' => ?_, ?_⟩
  · rw [slots_served rfl hserved] at hslot'
    rw [hserved.current]
    obtain ⟨old, hold, rfl⟩ := List.mem_map.mp hslot'
    split
    · next ho =>
        have hsame : old = slot :=
          List.inj_on_of_nodup_map h.ids hold hmem (ho.trans hid.symm)
        rw [hsame]
        exact (Device.line_serve device slot.driver q).trans (h.bound slot hmem)
    · exact h.bound old hold
  · exact Each.served (P := fun slot device => R slot.driver device) h.ids h.devices rfl
      hmem hid hserved h.agree hnew

theorem Agrees.step (h : Agrees R d) (hl : Lasting rules R) (hm : rules d m) :
    Agrees R (d.step m) := by
  have hstep := stepped h.sound m
  have hinorder := h.toInOrder.step m
  generalize d.step m = d' at hstep hinorder
  suffices hrest : (∀ slot ∈ d'.slots,
      slot.driver.line = some ⟨d'.system.current, slot.id⟩) ∧
      d'.Each fun slot device => R slot.driver device from ⟨hinorder, hrest.1, hrest.2⟩
  cases hstep with
  | idle devices slots current powered =>
      refine ⟨?_, h.agree.of_eq devices slots⟩
      rw [slots, current]
      exact h.bound
  | touched ht =>
      refine ⟨?_, ht.each h.agree (fun _ _ => id) fun slot => hl.touch slot.driver hm ht.touch⟩
      rw [ht.slots, ht.current]
      exact h.bound
  | served powered found under served =>
      have hmem := (System.slot?_eq_some found).1
      exact h.served found served
        (hl.serve hm found under (h.sound _ _ under) (h.agree _ hmem _ under))
  | built hbuilt =>
      refine ⟨?_, hbuilt.each fun slot device _ hdevice hdriver => ?_⟩
      · rw [hbuilt.slots]
        intro slot hslot
        obtain ⟨old, -, rfl⟩ := List.mem_map.mp hslot
        rfl
      · have hadopt := hl.adopt (some ⟨d'.system.current, slot.id⟩) hm (h.sound _ device hdevice)
        rw [← hdriver] at hadopt
        exact hadopt

/-- By induction on the run, whatever state it begins in. -/
theorem Agrees.run (h : Agrees R d) (hl : Lasting rules R) {moves : List (Move κ)}
    (hw : Within rules d moves) : Agrees R (d.run moves) := by
  induction moves generalizing d with
  | nil => exact h
  | cons m rest ih => exact ih (h.step hl hw.1) hw.2

/-! ## Devices alone -/

section

variable {P : Device → Prop}
  (htouch : ∀ {m : Move κ} {k device device'}, Touch m k device device' → P device → P device')
  (hserve : ∀ {device : Device} (driver : Driver) (q : Request), device.Sound → P device →
    P (device.serve q driver).device)

include htouch hserve

/-- Something that holds of every device, driven or not, and that neither a request nor
anything else that happens to a device ends. -/
theorem InOrder.devices_step (h : InOrder d)
    (hp : ∀ j device, d.system.device? j = some device → P device) (m : Move κ) :
    ∀ j device, (d.step m).system.device? j = some device → P device := by
  have hstep := stepped h.sound m
  generalize d.step m = d' at hstep
  intro j device hj
  cases hstep with
  | idle devices => exact hp j device (devices j ▸ hj)
  | touched ht =>
      rw [ht.devices] at hj
      split at hj
      · obtain ⟨_, -, rfl⟩ := Option.map_eq_some_iff.mp hj
        exact htouch ht.touch (hp _ _ ht.before)
      · exact hp j device hj
  | served powered found under served =>
      rw [served.devices] at hj
      split at hj
      · obtain ⟨_, -, rfl⟩ := Option.map_eq_some_iff.mp hj
        exact hserve _ _ (h.sound _ _ under) (hp _ _ under)
      · exact hp j device hj
  | built hbuilt => exact hp j device (hbuilt.devices j ▸ hj)

theorem InOrder.devices_run (h : InOrder d)
    (hp : ∀ j device, d.system.device? j = some device → P device) (moves : List (Move κ)) :
    ∀ j device, (d.run moves).system.device? j = some device → P device := by
  induction moves generalizing d with
  | nil => exact hp
  | cons m rest ih => exact ih (h.step m) (h.devices_step htouch hserve hp m)

end

end TwoTierWatchdog.Deployment
