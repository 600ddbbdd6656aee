import TwoTierWatchdog.Simulation

/-!
# Reading a system after writing it

What each way of writing a part of a system leaves of the others, and what a request
and a build come to in those terms.
-/

namespace TwoTierWatchdog

namespace Interrupt.Table

variable {κ : Type}

theorem get_set (t : Table κ) (i j : Instance) (entry : Entry κ) :
    (t.set i entry i.isLt).get j = if i = j then entry else t.get j := by
  split
  · next hij =>
      subst hij
      exact Vector.getElem_set_self i.isLt
  · next hij =>
      exact Vector.getElem_set_ne i.isLt j.isLt fun h => hij (Fin.ext h)

@[simp] theorem callback_count (t : Table κ) (i j : Instance) :
    ((t.count i).get j).callback = (t.get j).callback := by
  rw [count, get_set]
  split
  · next hij => rw [hij]
  · rfl

theorem expirations_count (t : Table κ) (i j : Instance) :
    ((t.count i).get j).expirations =
      if i = j then (t.get j).expirations + 1 else (t.get j).expirations := by
  rw [count, get_set]
  split
  · next hij => rw [hij]
  · rfl

theorem get_empty (i : Instance) : (empty : Table κ).get i = {} :=
  Vector.getElem_replicate ..

/-- A callback is stored where there was none, and nothing is counted. -/
theorem get_register {t t' : Table κ} {i : Instance} {callback : κ}
    (h : t.register i callback = .ok t') :
    (t.get i).callback = none ∧ ∀ j,
      (t'.get j).callback = (if i = j then some callback else (t.get j).callback) ∧
        (t'.get j).expirations = (t.get j).expirations := by
  unfold register at h
  split at h
  · cases h
  · next hnone =>
      cases h
      refine ⟨hnone, fun j => ?_⟩
      rw [get_set]
      split
      · next hij => exact ⟨rfl, by rw [hij]⟩
      · exact ⟨rfl, rfl⟩

end Interrupt.Table

namespace System

variable {κ : Type} {s s' : System κ} {w : Watchdog} {slot : Slot} {device : Device}

/-! ## Devices -/

/-- Whether the counter of a device runs. -/
def running? (s : System κ) (k : Nat) : Option Bool :=
  (s.device? k).map (·.isRunning)

theorem running?_of_some {k : Nat} (h : s.device? k = some device) :
    s.running? k = some device.isRunning := by
  rw [running?, h, Option.map_some]

@[simp] theorem device?_append (s : System κ) (log : List Log.Entry) (k : Nat) :
    (s.append log).device? k = s.device? k := rfl

@[simp] theorem device?_modifySlot (s : System κ) (w : Watchdog) (f : Slot → Slot)
    (k : Nat) : (s.modifySlot w f).device? k = s.device? k := rfl

theorem device?_putDevice (s : System κ) (k : Nat) (device : Device)
    (calls : List Device.Call) (j : Nat) :
    (s.putDevice k device calls).device? j =
      if k = j then (s.device? j).map fun _ => device else s.device? j := by
  simp only [device?, putDevice, List.getElem?_modify]
  split
  · cases s.devices[j]? <;> rfl
  · simp

theorem device?_modifyDevice (s : System κ) (k : Nat) (f : Device → Device) (j : Nat) :
    (s.modifyDevice k f).device? j =
      if k = j then (s.device? j).map f else s.device? j := by
  simp only [device?, modifyDevice, List.getElem?_modify]
  split
  · cases s.devices[j]? <;> rfl
  · simp

/-! ## Registries -/

@[simp] theorem registry_append (s : System κ) (log : List Log.Entry) (g : Nat) :
    (s.append log).registry g = s.registry g := rfl

@[simp] theorem registry_putDevice (s : System κ) (k : Nat) (device : Device)
    (calls : List Device.Call) (g : Nat) :
    (s.putDevice k device calls).registry g = s.registry g := rfl

@[simp] theorem current_append (s : System κ) (log : List Log.Entry) :
    (s.append log).current = s.current := rfl

@[simp] theorem current_putDevice (s : System κ) (k : Nat) (device : Device)
    (calls : List Device.Call) : (s.putDevice k device calls).current = s.current := rfl

@[simp] theorem current_modifyRegistry (s : System κ) (g : Nat)
    (f : Registry κ → Registry κ) : (s.modifyRegistry g f).current = s.current := by
  simp only [current, modifyRegistry, Array.size_modify]

theorem registry_modifyRegistry (s : System κ) (g : Nat) (f : Registry κ → Registry κ)
    (g' : Nat) :
    (s.modifyRegistry g f).registry g' =
      if g = g' ∧ g' < s.registries.size then f (s.registry g') else s.registry g' := by
  simp only [registry, modifyRegistry, Array.getD_eq_getD_getElem?, Array.getElem?_modify]
  by_cases hg : g = g'
  · by_cases hlt : g' < s.registries.size <;> simp [hg, hlt]
  · simp [hg]

theorem slots_modifyRegistry (s : System κ) (g : Nat) {f : Registry κ → Registry κ}
    (hf : ∀ r, (f r).slots = r.slots) (g' : Nat) :
    ((s.modifyRegistry g f).registry g').slots = (s.registry g').slots := by
  rw [registry_modifyRegistry]
  split
  · exact hf _
  · rfl

/-! ## Slots -/

theorem slot?_eq_some (h : s.slot? w = some slot) :
    slot ∈ (s.registry w.registry).slots ∧ slot.id = w.id := by
  unfold slot? Registry.slot? at h
  exact ⟨List.mem_of_find?_eq_some h, by simpa using List.find?_some h⟩

theorem slot?_of_registries (h : s'.registries = s.registries) (w : Watchdog) :
    s'.slot? w = s.slot? w := by
  unfold slot? registry
  rw [h]

/-- There are no slots but in registries that were made. -/
theorem lt_size_of_slot? (h : s.slot? w = some slot) :
    w.registry < s.registries.size := by
  have hmem := (slot?_eq_some h).1
  unfold registry at hmem
  rw [Array.getD_eq_getD_getElem?] at hmem
  by_cases hlt : w.registry < s.registries.size
  · exact hlt
  · rw [Array.getElem?_eq_none (by omega)] at hmem
    cases hmem

theorem slots_modifySlot (h : w.registry < s.registries.size) (f : Slot → Slot) :
    ((s.modifySlot w f).registry w.registry).slots =
      (s.registry w.registry).slots.map fun slot =>
        if slot.id = w.id then f slot else slot := by
  rw [modifySlot, registry_modifyRegistry, if_pos ⟨rfl, h⟩]
  rfl

theorem expiry_modifySlot (s : System κ) (w : Watchdog) (f : Slot → Slot) (g : Nat) :
    ((s.modifySlot w f).registry g).expiry = (s.registry g).expiry := by
  rw [modifySlot, registry_modifyRegistry]
  split <;> rfl

theorem slot?_modifySlot (s : System κ) (w : Watchdog) {f : Slot → Slot}
    (hf : ∀ slot, (f slot).id = slot.id) (w' : Watchdog) :
    (s.modifySlot w f).slot? w' = if w' = w then (s.slot? w).map f else s.slot? w' := by
  have hid : (fun slot : Slot => decide (slot.id = w'.id)) ∘
      (fun slot : Slot => if slot.id = w.id then f slot else slot) =
      fun slot => decide (slot.id = w'.id) := by
    funext slot
    by_cases hw : slot.id = w.id <;> simp [hw, hf]
  by_cases hg : w.registry = w'.registry ∧ w'.registry < s.registries.size
  · have hfound : (s.modifySlot w f).slot? w' =
        (s.slot? w').map fun slot => if slot.id = w.id then f slot else slot := by
      unfold slot? modifySlot Registry.slot?
      rw [registry_modifyRegistry, if_pos hg]
      show (List.map _ _).find? _ = _
      rw [List.find?_map, hid]
    rw [hfound]
    by_cases hw : w'.id = w.id
    · obtain rfl : w' = w := by cases w; cases w'; simp_all
      rw [if_pos rfl]
      cases hslot : s.slot? w' with
      | none => rfl
      | some slot => simp [(slot?_eq_some hslot).2]
    · rw [if_neg fun h => hw (congrArg Watchdog.id h)]
      cases hslot : s.slot? w' with
      | none => rfl
      | some slot => simp [(slot?_eq_some hslot).2, hw]
  · have hsame : (s.modifySlot w f).slot? w' = s.slot? w' := by
      unfold slot? modifySlot
      rw [registry_modifyRegistry, if_neg hg]
    rw [hsame]
    split
    · next hw =>
        subst hw
        cases hslot : s.slot? w' with
        | none => rfl
        | some slot => exact absurd ⟨rfl, lt_size_of_slot? hslot⟩ hg
    · rfl

/-! ## Callbacks -/

/-- The callback that a line runs. -/
def callback? (s : System κ) (line : Interrupt.Line) : Option κ :=
  ((s.registry line.table).expiry.get line.entry).callback

theorem fire_of_none {line : Interrupt.Line} (hc : s.callback? line = none) (h : Handler κ) :
    s.fire h line = s.count line := by
  unfold callback? at hc
  simp only [fire, hc]

theorem fire_of_some {line : Interrupt.Line} {callback : κ}
    (hc : s.callback? line = some callback) (h : Handler κ) :
    s.fire h line = h callback (s.count line) := by
  unfold callback? at hc
  simp only [fire, hc]

theorem fire_eq (s : System κ) (line : Interrupt.Line) (h : Handler κ) :
    s.fire h line = (s.callback? line).elim (s.count line) fun callback =>
      h callback (s.count line) := by
  cases hc : s.callback? line with
  | none => exact fire_of_none hc h
  | some callback => exact fire_of_some hc h

@[simp] theorem callback?_modifySlot (s : System κ) (w : Watchdog) (f : Slot → Slot)
    (line : Interrupt.Line) : (s.modifySlot w f).callback? line = s.callback? line := by
  rw [callback?, expiry_modifySlot, callback?]

theorem slots_count (s : System κ) (line : Interrupt.Line) (g : Nat) :
    ((s.count line).registry g).slots = (s.registry g).slots := by
  unfold count
  exact slots_modifyRegistry s _ (by exact fun _ => rfl) g

theorem callback?_count (s : System κ) (line line' : Interrupt.Line) :
    (s.count line).callback? line' = s.callback? line' := by
  unfold callback? count
  rw [registry_modifyRegistry]
  split
  · rw [Interrupt.Table.callback_count]
  · rfl

/-- The expiries that were counted on a line. -/
def expirations (s : System κ) (line : Interrupt.Line) : UInt32 :=
  (s.registry line.table).expirations line.entry

/-- A callback was stored: the watchdog was there, not busy and without a callback, and
its hardware can interrupt. -/
structure Registered (s : System κ) (w : Watchdog) (callback : κ) (s' : System κ) :
    Prop where
  able : ∃ slot device, s.slot? w = some slot ∧ slot.busy = false ∧
    s.device? slot.device = some device ∧
    device.profile.capabilities.require .interrupt = .ok ()
  vacant : s.callback? ⟨w.registry, w.id⟩ = none
  made : s'.registries.size = s.registries.size
  callbacks : ∀ line, s'.callback? line =
    if line = ⟨w.registry, w.id⟩ then some callback else s.callback? line
  expirations : ∀ line, s'.expirations line = s.expirations line

theorem onExpired_cases (s : System κ) (w : Watchdog) (callback : κ) :
    (∃ e, s.onExpired w callback = (.error e, s)) ∨
      ∃ s', s.onExpired w callback = (.ok (), s') ∧ s.Registered w callback s' := by
  unfold onExpired
  split
  · exact .inl ⟨_, rfl⟩
  · next slot hslot =>
      split
      · exact .inl ⟨_, rfl⟩
      · next hidle =>
          split
          · exact .inl ⟨_, rfl⟩
          · next device hdevice =>
              split
              · exact .inl ⟨_, rfl⟩
              · next hable =>
                  split
                  · exact .inl ⟨_, rfl⟩
                  · next table hregister =>
                      obtain ⟨hvacant, hentries⟩ := Interrupt.Table.get_register hregister
                      refine .inr ⟨_, rfl, ⟨slot, device, hslot, by simpa using hidle,
                        hdevice, hable⟩, hvacant, Array.size_modify, fun line => ?_, fun line => ?_⟩
                      · simp only [callback?, registry_append, registry_modifyRegistry]
                        by_cases hg : w.registry = line.table
                        · rw [if_pos ⟨hg, hg ▸ lt_size_of_slot? hslot⟩, (hentries _).1]
                          by_cases hi : w.id = line.entry
                          · rw [if_pos hi, if_pos (by rw [hg, hi])]
                          · rw [if_neg hi,
                              if_neg fun h => hi (congrArg Interrupt.Line.entry h).symm, hg]
                        · rw [if_neg fun h => hg h.1,
                            if_neg fun h => hg (congrArg Interrupt.Line.table h).symm]
                      · simp only [System.expirations, Registry.expirations, registry_append,
                          registry_modifyRegistry]
                        by_cases hg : w.registry = line.table
                        · rw [if_pos ⟨hg, hg ▸ lt_size_of_slot? hslot⟩, (hentries _).2, hg]
                        · rw [if_neg fun h => hg h.1]

/-- What is left to check of a watchdog that is there and not busy. -/
theorem onExpired_of_idle (hslot : s.slot? w = some slot) (hidle : slot.busy = false)
    (hdevice : s.device? slot.device = some device) (callback : κ) :
    (s.onExpired w callback).1 = (do
      device.profile.capabilities.require .interrupt
      if (s.callback? ⟨w.registry, w.id⟩).isSome then throw .invalidState) := by
  have hregister : ∀ table : Interrupt.Table κ, table.register w.id callback =
      if (table.get w.id).callback.isSome then .error .invalidState else
        .ok (table.set w.id { table.get w.id with callback := some callback }) := by
    intro table
    unfold Interrupt.Table.register
    cases (table.get w.id).callback <;> rfl
  simp only [onExpired, hslot, hidle, hdevice, Bool.false_eq_true, if_false]
  cases device.profile.capabilities.require .interrupt with
  | error e => rfl
  | ok =>
      simp only [hregister]
      show _ = if ((s.registry w.registry).expiry.get w.id).callback.isSome then _ else _
      cases ((s.registry w.registry).expiry.get w.id).callback <;> rfl

theorem slot?_count (s : System κ) (line : Interrupt.Line) (w : Watchdog) :
    (s.count line).slot? w = s.slot? w := by
  unfold slot? Registry.slot?
  rw [slots_count]

/-! ## Expiries -/

theorem strike_of_some {k : Nat} (hk : s.device? k = some device) :
    s.strike k = (device.strike.2.1,
      (s.putDevice k device.strike.1 []).append device.strike.2.2) := by
  simp only [strike, hk]

theorem recover_of_some {k : Nat} (hk : s.device? k = some device) :
    s.recover k = (s.putDevice k device.recover.1 []).append device.recover.2 := by
  simp only [recover, hk]

/-- After the first half of an expiry, before the line is fired. -/
def struck (k : Nat) (device : Device) (s : System κ) : System κ :=
  (s.putDevice k device.strike.1 []).append device.strike.2.2

theorem device?_struck {k : Nat} (hk : s.device? k = some device) :
    (s.struck k device).device? k = some device.strike.1 := by
  rw [struck, device?_append, device?_putDevice, if_pos rfl, hk, Option.map_some]

theorem expire_of_running {k : Nat} {left : Duration} (hk : s.device? k = some device)
    (hleft : device.remaining? = some left) (h : Handler κ) :
    s.expire h k = match device.strike.2.1 with
      | some line => ((s.struck k device).fire h line).recover k
      | none => (s.struck k device).recover k := by
  have hrunning : s.remaining? k = some left := by
    rw [remaining?, hk, Option.bind_some, hleft]
  rw [expire, hrunning]
  dsimp only
  rw [strike_of_some hk]
  cases device.strike.2.1 <;> rfl

theorem expirations_count (line : Interrupt.Line) (h : line.table < s.registries.size) :
    (s.count line).expirations line = s.expirations line + 1 := by
  rw [expirations, Registry.expirations, count, registry_modifyRegistry, if_pos ⟨rfl, h⟩]
  exact (Interrupt.Table.expirations_count ..).trans (if_pos rfl)

theorem expirations_count_of_ne {line other : Interrupt.Line} (h : other ≠ line) :
    (s.count other).expirations line = s.expirations line := by
  unfold expirations Registry.expirations count
  rw [registry_modifyRegistry]
  split
  · next hg =>
      dsimp only
      rw [Interrupt.Table.expirations_count, if_neg]
      intro he
      obtain ⟨table, entry⟩ := line
      obtain rfl : other.table = table := hg.1
      obtain rfl : other.entry = entry := he
      exact h rfl
  · rfl

@[simp] theorem device?_count (s : System κ) (line : Interrupt.Line) (k : Nat) :
    (s.count line).device? k = s.device? k := rfl

@[simp] theorem current_count (s : System κ) (line : Interrupt.Line) :
    (s.count line).current = s.current :=
  current_modifyRegistry s _ _

/-! ## Time -/

theorem advance_of_lt {k : Nat} {step time : Duration} (hstep : s.remaining? k = some step)
    (hlt : time.nanos < step.nanos) (h : Handler κ) :
    s.advance h k time = s.modifyDevice k (·.elapse time) := by
  rw [advance, run, hstep]
  exact if_pos hlt

/-- A longer one is cut at the expiry. -/
theorem advance_of_le {k : Nat} {step time : Duration} (hstep : s.remaining? k = some step)
    (hpos : 0 < step.nanos) (hle : step.nanos ≤ time.nanos) (h : Handler κ) :
    s.advance h k time = ((s.modifyDevice k (·.elapse step)).expire h k).advance h k
      ⟨time.nanos - step.nanos⟩ := by
  rw [advance, run, hstep]
  exact (if_neg (Nat.not_lt.mpr hle)).trans (dif_pos hpos)

/-! ## Requests -/

/-- A request to a watchdog that is not busy, over a device that fires nothing in the
middle of it: the device and the slot are exchanged. -/
structure Served (s : System κ) (w : Watchdog) (slot : Slot) (served : Device.Served)
    (s' : System κ) : Prop where
  devices : ∀ j, s'.device? j =
    if slot.device = j then (s.device? j).map fun _ => served.device else s.device? j
  current : s'.current = s.current
  slots : (s'.registry w.registry).slots =
    (s.registry w.registry).slots.map fun slot =>
      if slot.id = w.id then { slot with driver := served.driver, busy := false } else slot
  expiry : ∀ g, (s'.registry g).expiry = (s.registry g).expiry
  called : s'.called = s.called

/-- Such a request is served in the same way whatever handles callbacks. -/
theorem serve_of_quiet (hslot : s.slot? w = some slot) (hidle : slot.busy = false)
    (hdevice : s.device? slot.device = some device) {q : Request}
    (hq : (device.serve q slot.driver).raised = []) :
    ∃ s', (∀ h, s.serve h w q = ((device.serve q slot.driver).result, s')) ∧
      s.Served w slot (device.serve q slot.driver) s' := by
  have hlt := lt_size_of_slot? hslot
  unfold serve
  simp only [hslot, hidle, hdevice, hq, List.foldl_nil, Bool.false_eq_true, if_false]
  refine ⟨_, fun _ => rfl, ⟨fun j => ?_, ?_, ?_, fun g => ?_, rfl⟩⟩
  · simp only [device?_modifySlot, device?_append, device?_putDevice]
  · simp only [modifySlot, current_modifyRegistry, current_append, current_putDevice]
  · rw [slots_modifySlot (by simpa [modifySlot, modifyRegistry, append, putDevice] using hlt),
      registry_append, slots_modifySlot (by simpa [putDevice] using hlt),
      registry_putDevice, List.map_map]
    apply List.map_congr_left
    intro slot _
    by_cases hid : slot.id = w.id <;> simp [hid]
  · rw [expiry_modifySlot, registry_append, expiry_modifySlot, registry_putDevice]

/-- Nothing else of any slot is touched. -/
theorem Served.map_slots {served : Device.Served} (h : s.Served w slot served s')
    {α : Type} {f : Slot → α}
    (hf : ∀ slot : Slot, f { slot with driver := served.driver, busy := false } = f slot) :
    (s'.registry w.registry).slots.map f = (s.registry w.registry).slots.map f := by
  rw [h.slots, List.map_map]
  refine List.map_congr_left fun old _ => ?_
  by_cases ho : old.id = w.id
  · simp only [Function.comp_apply, if_pos ho, hf]
  · simp only [Function.comp_apply, if_neg ho]

theorem Served.slot? {served : Device.Served} (h : s.Served w slot served s')
    (hslot : s.slot? w = some slot) :
    s'.slot? w = some { slot with driver := served.driver, busy := false } := by
  have hfind : ((s.registry w.registry).slots.find? (·.id = w.id)) = some slot := hslot
  have hid := (slot?_eq_some hslot).2
  have hcomp : (fun slot : Slot => decide (slot.id = w.id)) ∘ (fun slot : Slot =>
      if slot.id = w.id then { slot with driver := served.driver, busy := false } else slot) =
      fun slot => decide (slot.id = w.id) := by
    funext other
    by_cases ho : other.id = w.id <;> simp [ho]
  unfold System.slot? Registry.slot?
  rw [h.slots, List.find?_map, hcomp, hfind, Option.map_some, if_pos hid]

theorem onExpired_frame (s : System κ) (w : Watchdog) (callback : κ) :
    (∀ j, (s.onExpired w callback).2.device? j = s.device? j) ∧
      (s.onExpired w callback).2.current = s.current ∧
      ∀ g, ((s.onExpired w callback).2.registry g).slots = (s.registry g).slots := by
  unfold onExpired
  repeat' split
  all_goals first
    | exact ⟨fun _ => rfl, rfl, fun _ => rfl⟩
    | exact ⟨fun _ => rfl, by simp, slots_modifyRegistry s _ fun _ => rfl⟩

/-! ## Building -/

/-- A new driver over the device as it is. -/
structure Adopted (s : System κ) (slot : Slot) : Prop where
  idle : slot.busy = false
  driver : ∃ device, s.device? slot.device = some device ∧ slot.driver = device.adopt.1

/-- Gathering only logs, also where it fails. -/
theorem gather_frame (pairs : List (UInt8 × Nat)) (slots : List Slot) (s : System κ) :
    (s.gather pairs slots).2.devices = s.devices ∧
      (s.gather pairs slots).2.registries = s.registries := by
  induction pairs generalizing slots s with
  | nil => exact ⟨rfl, rfl⟩
  | cons pair rest ih =>
      obtain ⟨id, k⟩ := pair
      rw [gather]
      split
      · exact ⟨rfl, rfl⟩
      · exact ⟨rfl, rfl⟩
      · dsimp only
        split
        · exact ⟨rfl, rfl⟩
        · exact ih _ _

theorem Registry.gather_ok {slots slots' : List Slot} {slot : Slot}
    (h : Registry.gather slots slot = .ok slots') :
    slots' = slots ++ [slot] ∧ slot.id ∉ slots.map (·.id) := by
  unfold Registry.gather at h
  split at h
  · cases h
  · next hn =>
      cases h
      refine ⟨rfl, fun hmem => hn ?_⟩
      obtain ⟨other, hother, hid⟩ := List.mem_map.mp hmem
      simp only [Bool.or_eq_true, List.any_eq_true, decide_eq_true_eq]
      exact .inl ⟨other, hother, hid⟩

/-- What is gathered: the slots there were, and an adopted one for each pair, no two of
them under one instance. -/
theorem gather_ok {pairs : List (UInt8 × Nat)} {slots slots' : List Slot}
    (h : s.gather pairs slots = (.ok slots', s')) (hids : (slots.map (·.id)).Nodup) :
    (slots'.map (·.id)).Nodup ∧
      slots'.map (·.device) = slots.map (·.device) ++ pairs.map (·.2) ∧
      ∀ slot ∈ slots', slot ∈ slots ∨ s.Adopted slot := by
  induction pairs generalizing slots s with
  | nil =>
      cases h
      exact ⟨hids, by simp, fun _ => .inl⟩
  | cons pair rest ih =>
      obtain ⟨id, k⟩ := pair
      rw [gather] at h
      split at h
      · cases h
      · cases h
      · next id device _ hdevice =>
          dsimp only at h
          split at h
          · cases h
          · next slots₁ hgather =>
              obtain ⟨rfl, hnew⟩ := Registry.gather_ok hgather
              obtain ⟨hids', hdevices, hslots⟩ := ih h (by
                rw [List.map_append]
                refine List.nodup_append.mpr ⟨hids, by simp, ?_⟩
                rintro a ha _ hb rfl
                rw [List.mem_singleton.mp hb] at ha
                exact hnew ha)
              refine ⟨hids', by simpa using hdevices, fun slot hslot => ?_⟩
              rcases hslots slot hslot with hold | hadopted
              · rcases List.mem_append.mp hold with hold | hlast
                · exact .inl hold
                · rw [List.mem_singleton.mp hlast]
                  exact .inr ⟨rfl, device, hdevice, rfl⟩
              · exact .inr ⟨hadopted.idle, hadopted.driver⟩

theorem build_error {e : Error} {pairs : List (UInt8 × Nat)}
    (h : s.build pairs = (.error e, s')) :
    s'.devices = s.devices ∧ s'.registries = s.registries := by
  have hframe := gather_frame pairs [] s
  unfold build at h
  cases hgather : s.gather pairs [] with
  | mk result t =>
      rw [hgather] at h hframe
      cases result with
      | error e => cases h; exact hframe
      | ok slots => cases h

/-- A build that succeeds makes a registry of adopted drivers current. -/
theorem build_ok {pairs : List (UInt8 × Nat)} (h : s.build pairs = (.ok (), s')) :
    s'.devices = s.devices ∧ s'.current = s.registries.size ∧ ∃ slots : List Slot,
      (s'.registry s'.current).slots = slots.map (Registry.bind s.registries.size) ∧
        (slots.map (·.id)).Nodup ∧ slots.map (·.device) = pairs.map (·.2) ∧
        ∀ slot ∈ slots, s.Adopted slot := by
  have hframe := gather_frame pairs [] s
  unfold build at h
  cases hgather : s.gather pairs [] with
  | mk result t =>
      rw [hgather] at h hframe
      cases result with
      | error e => cases h
      | ok slots =>
          cases h
          obtain ⟨hdev, hreg⟩ : t.devices = s.devices ∧ t.registries = s.registries :=
            hframe
          obtain ⟨hids, hdevices, hslots⟩ := gather_ok hgather List.nodup_nil
          refine ⟨hdev, ?_, slots, ?_, hids, hdevices, fun slot hslot => ?_⟩
          · simp [current, append, hreg]
          · simp [registry, current, append, Registry.assemble, ← hreg]
          · exact (hslots slot hslot).resolve_left List.not_mem_nil

/-- A new registry has no callbacks and has counted nothing, like one that there is not
yet. -/
theorem expiry_build {pairs : List (UInt8 × Nat)} (h : s.build pairs = (.ok (), s'))
    (g : Nat) : (s'.registry g).expiry = (s.registry g).expiry := by
  have hframe := gather_frame pairs [] s
  unfold build at h
  cases hgather : s.gather pairs [] with
  | mk result t =>
      rw [hgather] at h hframe
      cases result with
      | error e => cases h
      | ok slots =>
          cases h
          have hreg : t.registries = s.registries := hframe.2
          simp only [registry, append, hreg, Array.getD_eq_getD_getElem?, Array.getElem?_push]
          split
          · next hg =>
              rw [hg, Array.getElem?_eq_none (Nat.le_refl _)]
              rfl
          · rfl

/-- A slot after a build was there before, or it is new in the new registry. -/
theorem slot?_build {pairs : List (UInt8 × Nat)} (h : (s.build pairs).2.slot? w = some slot) :
    s.slot? w = some slot ∨ w.registry = s.registries.size ∧
      ∃ old, s.Adopted old ∧ Registry.bind s.registries.size old = slot := by
  have hframe := (gather_frame pairs [] s).2
  unfold build at h
  cases hgather : s.gather pairs [] with
  | mk result t =>
      rw [hgather] at hframe h
      have hkept : ∀ w, t.slot? w = s.slot? w := slot?_of_registries hframe
      have hsize : t.registries.size = s.registries.size := congrArg Array.size hframe
      cases result with
      | error e => exact .inl ((hkept w).symm.trans h)
      | ok slots =>
          simp only [slot?, registry, append, Array.getD_eq_getD_getElem?,
            Array.getElem?_push] at h
          split at h
          · next hnew =>
              unfold Registry.slot? at h
              obtain ⟨old, hold, hbind⟩ := List.mem_map.mp (List.mem_of_find?_eq_some h)
              have hadopted := (gather_ok hgather List.nodup_nil).2.2 old hold
              rw [hsize] at hnew hbind
              exact .inr ⟨hnew, old, hadopted.resolve_left List.not_mem_nil, hbind⟩
          · rw [← Array.getD_eq_getD_getElem?] at h
            exact .inl ((hkept w).symm.trans h)

theorem callback?_build {pairs : List (UInt8 × Nat)} (h : s.build pairs = (.ok (), s'))
    (line : Interrupt.Line) : s'.callback? line = s.callback? line := by
  rw [callback?, expiry_build h, callback?]

end System

end TwoTierWatchdog
