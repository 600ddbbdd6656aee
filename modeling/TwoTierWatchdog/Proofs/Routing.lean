import Mathlib.Data.Fintype.Card
import TwoTierWatchdog.Proofs.System

/-!
# Where an interrupt leads

A slot has a place in its registry, an instance, and an entry of the expiry table. A slot
is found by its instance, and its line leads to the entry of that instance, in whatever
order the slots were added.

What happens to expiry tables is a history of fires and of callbacks that were accepted or
turned away, whatever else goes on in between. A callback runs after its fire is counted,
and what it does is the next part of the history.
-/

namespace TwoTierWatchdog

/-! ## Adding slots -/

namespace Registry

variable {κ : Type} {calls slots : List Slot}

/-- An instance that is there already is the only reason to turn a slot away: there is
room for every other. -/
theorem gather_of_nodup (hids : (slots.map (·.id)).Nodup) (slot : Slot) :
    gather slots slot =
      if slot.id ∈ slots.map (·.id) then .error .invalidArgument else .ok (slots ++ [slot]) := by
  have hany : slots.any (·.id = slot.id) = decide (slot.id ∈ slots.map (·.id)) := by
    rw [Bool.eq_iff_iff, decide_eq_true_eq, List.any_eq_true, List.mem_map]
    simp only [decide_eq_true_eq]
  by_cases hmem : slot.id ∈ slots.map (·.id)
  · rw [if_pos hmem, gather, hany, decide_eq_true hmem]
    rfl
  · have hroom : slots.length < maxInstances := by
      have hcard := List.Nodup.length_le_card (List.nodup_cons.mpr ⟨hmem, hids⟩)
      rw [List.length_cons, List.length_map, Fintype.card_fin] at hcard
      exact hcard
    rw [if_neg hmem, gather, hany, decide_eq_false hmem, Bool.false_or,
      if_neg (by simpa using hroom)]

/-- What was added, when every call so far succeeded. -/
theorem foldlM_gather (h : calls.foldlM gather [] = .ok slots) :
    slots = calls ∧ (calls.map (·.id)).Nodup := by
  suffices hfrom : ∀ (rest before : List Slot), (before.map (·.id)).Nodup →
      rest.foldlM gather before = .ok slots →
      slots = before ++ rest ∧ (slots.map (·.id)).Nodup by
    obtain ⟨rfl, hids⟩ := hfrom calls [] List.nodup_nil h
    exact ⟨rfl, hids⟩
  intro rest
  induction rest with
  | nil =>
      intro before hids h
      cases h
      exact ⟨(List.append_nil _).symm, hids⟩
  | cons slot rest ih =>
      intro before hids h
      rw [List.foldlM_cons, gather_of_nodup hids] at h
      split at h
      · cases h
      · next hnew =>
          have hids' : ((before ++ [slot]).map (·.id)).Nodup := by
            rw [List.map_append]
            exact List.nodup_append.mpr ⟨hids, by simp, by
              rintro a ha _ hb rfl
              rw [List.mem_singleton.mp hb] at ha
              exact hnew ha⟩
          obtain ⟨hslots, hnodup⟩ := ih _ hids' h
          exact ⟨hslots.trans (List.append_assoc ..), hnodup⟩

theorem instances_assemble (table : Nat) (slots : List Slot) :
    (assemble table slots : Registry κ).instances = slots.map (·.id) := by
  simp only [instances, assemble, List.map_map]
  rfl

/-- A lookup reaches what was added under the instance, with its line bound. -/
theorem slot?_assemble (table : Nat) (hids : (slots.map (·.id)).Nodup) {slot : Slot}
    (hslot : slot ∈ slots) :
    (assemble table slots : Registry κ).slot? slot.id = some (bind table slot) := by
  have hfound : slots.find? (·.id = slot.id) = some slot := by
    induction slots with
    | nil => cases hslot
    | cons first rest ih =>
        rw [List.map_cons, List.nodup_cons] at hids
        rcases List.mem_cons.mp hslot with rfl | hrest
        · simp
        · have hne : first.id ≠ slot.id := fun heq =>
            hids.1 (heq ▸ List.mem_map_of_mem hrest)
          rw [List.find?_cons_of_neg (by simpa using hne)]
          exact ih hids.2 hrest
  unfold slot? assemble
  rw [List.find?_map]
  show (slots.find? (·.id = slot.id)).map (bind table) = _
  rw [hfound, Option.map_some]

end Registry

/-! ## Histories -/

/-- What may happen to an expiry table. -/
inductive Event (κ : Type) where
  | fired (line : Interrupt.Line)
  | accepted (w : Watchdog) (callback : κ)
  | rejected (w : Watchdog) (callback : κ) (e : Error)

namespace Event

variable {κ : Type}

/-- The line was fired. -/
def fires (line : Interrupt.Line) : Event κ → Bool
  | fired other => other = line
  | accepted .. | rejected .. => false

/-- The callback that was accepted for a line. -/
def stores? (line : Interrupt.Line) : Event κ → Option κ
  | accepted w callback => if line = ⟨w.registry, w.id⟩ then some callback else none
  | fired _ | rejected .. => none

end Event

namespace System

variable {κ : Type} {s t u : System κ} {es es' : List (Event κ)} {w : Watchdog}
  {line : Interrupt.Line} {callback : κ}

/-- What happened to the expiry tables on the way from one system to another, oldest event
first. Whatever else happens leaves them alone. -/
inductive History (s : System κ) : List (Event κ) → System κ → Prop
  | start : History s [] s
  | fire {es : List (Event κ)} {t : System κ} (sofar : History s es t)
      (line : Interrupt.Line) : History s (es ++ [.fired line]) (t.count line)
  | accept {es : List (Event κ)} {t t' : System κ} {w : Watchdog} {callback : κ}
      (sofar : History s es t) (stored : t.onExpired w callback = (.ok (), t')) :
      History s (es ++ [.accepted w callback]) t'
  | reject {es : List (Event κ)} {t t' : System κ} {w : Watchdog} {callback : κ} {e : Error}
      (sofar : History s es t) (refused : t.onExpired w callback = (.error e, t')) :
      History s (es ++ [.rejected w callback e]) t'
  | elsewhere {es : List (Event κ)} {t t' : System κ} (sofar : History s es t)
      (tables : ∀ g, (t'.registry g).expiry = (t.registry g).expiry)
      (made : t.registries.size ≤ t'.registries.size) : History s es t'

/-- A line counts its fires, and keeps the first callback that was accepted for it. -/
structure Routed (es : List (Event κ)) (line : Interrupt.Line) (t : System κ) : Prop where
  made : line.table < t.registries.size
  count : t.expirations line = UInt32.ofNat (es.countP (·.fires line))
  callback : t.callback? line = es.findSome? (·.stores? line)

theorem size_count (s : System κ) (line : Interrupt.Line) :
    (s.count line).registries.size = s.registries.size :=
  Array.size_modify

theorem expirations_count_eq (t : System κ) (other : Interrupt.Line)
    (hmade : line.table < t.registries.size) :
    (t.count other).expirations line =
      if other = line then t.expirations line + 1 else t.expirations line := by
  split
  · next ho =>
      subst ho
      exact expirations_count other hmade
  · next ho => exact expirations_count_of_ne ho

theorem Routed.fire (h : Routed es line t) (other : Interrupt.Line) :
    Routed (es ++ [.fired other]) line (t.count other) := by
  refine ⟨by rw [size_count]; exact h.made, ?_, ?_⟩
  · rw [expirations_count_eq t other h.made, h.count, List.countP_append,
      List.countP_singleton]
    by_cases ho : other = line
    · simp [Event.fires, ho]
    · simp [Event.fires, ho]
  · rw [callback?_count, h.callback]
    simp [List.findSome?_append, Event.stores?]

theorem Routed.attempt (h : Routed es line t) {event : Event κ} (hf : event.fires line = false)
    {t' : System κ} (hsize : t'.registries.size = t.registries.size)
    (hcount : t'.expirations line = t.expirations line)
    (hcallback : t'.callback? line = (t.callback? line).or (event.stores? line)) :
    Routed (es ++ [event]) line t' := by
  refine ⟨hsize ▸ h.made, ?_, ?_⟩
  · rw [hcount, h.count]
    simp [List.countP_append, hf]
  · rw [hcallback, h.callback, List.findSome?_append]
    cases hs : event.stores? line <;> simp [hs]

/-- By induction on the history. -/
theorem History.routed (h : History s es t) (hs : Routed [] line s) : Routed es line t := by
  induction h with
  | start => exact hs
  | fire _ other ih => exact ih.fire other
  | @accept es t t' w callback _ stored ih =>
      rcases onExpired_cases t w callback with ⟨e, he⟩ | ⟨s', hs', hr⟩
      · cases he.symm.trans stored
      · obtain rfl := congrArg Prod.snd (hs'.symm.trans stored)
        refine ih.attempt rfl hr.made (hr.expirations line) ?_
        rw [hr.callbacks, Event.stores?]
        split
        · next hline => rw [hline, hr.vacant, Option.none_or]
        · rw [Option.or_none]
  | @reject es t t' w callback e _ refused ih =>
      rcases onExpired_cases t w callback with ⟨e, he⟩ | ⟨s', hs', -⟩
      · obtain rfl := congrArg Prod.snd (he.symm.trans refused)
        exact ih.attempt rfl rfl rfl (by rw [Event.stores?, Option.or_none])
      · cases hs'.symm.trans refused
  | elsewhere _ tables made ih =>
      refine ⟨Nat.lt_of_lt_of_le ih.made made, ?_, ?_⟩
      · rw [expirations, Registry.expirations, tables]
        exact ih.count
      · rw [callback?, tables]
        exact ih.callback

/-- How an attempt to store a callback ends. One that is turned away changes nothing. -/
structure Admission (s : System κ) (w : Watchdog) (callback : κ) : Prop where
  absent : s.slot? w = none → s.onExpired w callback = (.error .notFound, s)
  busy : ∀ slot, s.slot? w = some slot → slot.busy = true →
    s.onExpired w callback = (.error .invalidState, s)
  unable : ∀ slot device, s.slot? w = some slot → slot.busy = false →
    s.device? slot.device = some device →
    device.profile.capabilities.contains .interrupt = false →
    s.onExpired w callback = (.error .notSupported, s)
  second : ∀ slot device, s.slot? w = some slot → slot.busy = false →
    s.device? slot.device = some device →
    device.profile.capabilities.contains .interrupt = true →
    (s.callback? ⟨w.registry, w.id⟩).isSome →
    s.onExpired w callback = (.error .invalidState, s)
  first : ∀ slot device, s.slot? w = some slot → slot.busy = false →
    s.device? slot.device = some device →
    device.profile.capabilities.contains .interrupt = true →
    s.callback? ⟨w.registry, w.id⟩ = none →
    ∃ s', s.onExpired w callback = (.ok (), s') ∧ s.Registered w callback s'

theorem admission (s : System κ) (w : Watchdog) (callback : κ) : s.Admission w callback := by
  have hcases := onExpired_cases s w callback
  have hrefused : ∀ {e}, (s.onExpired w callback).1 = .error e →
      s.onExpired w callback = (.error e, s) := by
    intro e he
    rcases hcases with ⟨e', he'⟩ | ⟨s', hs', -⟩
    · rw [he'] at he ⊢
      exact Prod.ext he rfl
    · cases he.symm.trans (congrArg Prod.fst hs')
  refine ⟨fun hslot => ?_, fun slot hslot hbusy => ?_,
    fun slot device hslot hidle hdevice hno => ?_,
    fun slot device hslot hidle hdevice hyes hsome => ?_,
    fun slot device hslot hidle hdevice hyes hnone => ?_⟩
  · simp only [onExpired, hslot]
  · simp only [onExpired, hslot, hbusy, if_true]
  · refine hrefused ?_
    rw [onExpired_of_idle hslot hidle hdevice, Capabilities.require, if_neg (by simp [hno])]
    rfl
  · refine hrefused ?_
    rw [onExpired_of_idle hslot hidle hdevice, Capabilities.require, if_pos hyes]
    exact if_pos hsome
  · have hok : (s.onExpired w callback).1 = .ok () := by
      rw [onExpired_of_idle hslot hidle hdevice, Capabilities.require, if_pos hyes, hnone]
      rfl
    rcases hcases with ⟨e, he⟩ | hstored
    · cases hok.symm.trans (congrArg Prod.fst he)
    · exact hstored

/-! ## What is built -/

theorem gather_eq_foldlM {pairs : List (UInt8 × Nat)} {before slots : List Slot}
    (h : s.gather pairs before = (.ok slots, t)) :
    ∃ added : List Slot, added.foldlM Registry.gather before = .ok slots ∧
      added.map (fun slot => (Except.ok (ε := Error) slot.id, slot.device)) =
        pairs.map (fun pair => (Instance.ofNumber pair.1, pair.2)) := by
  induction pairs generalizing before s with
  | nil =>
      cases h
      exact ⟨[], rfl, rfl⟩
  | cons pair rest ih =>
      obtain ⟨id, k⟩ := pair
      rw [gather] at h
      split at h
      · cases h
      · cases h
      · next i device hi _ =>
          dsimp only at h
          split at h
          · cases h
          · next slots₁ hgather =>
              obtain ⟨added, hadded, hpairs⟩ := ih h
              refine ⟨{ id := i, device := k, driver := device.adopt.1 } :: added, ?_, ?_⟩
              · rw [List.foldlM_cons, hgather]
                exact hadded
              · rw [List.map_cons, List.map_cons, hpairs, hi]

/-- A registry that is built is the slots of its pairs, added one after the other. -/
theorem build_assembles {pairs : List (UInt8 × Nat)} (h : s.build pairs = (.ok (), t)) :
    ∃ calls slots : List Slot, calls.foldlM Registry.gather [] = .ok slots ∧
      calls.map (fun slot => (Except.ok (ε := Error) slot.id, slot.device)) =
        pairs.map (fun pair => (Instance.ofNumber pair.1, pair.2)) ∧
      t.current < t.registries.size ∧ t.registry t.current = .assemble t.current slots := by
  unfold build at h
  cases hgather : s.gather pairs [] with
  | mk result u =>
      rw [hgather] at h
      cases result with
      | error e => cases h
      | ok slots =>
          cases h
          obtain ⟨calls, hcalls, hpairs⟩ := gather_eq_foldlM hgather
          refine ⟨calls, slots, hcalls, hpairs, ?_, ?_⟩
          · simp [current, append]
          · simp [registry, current, append]

/-! ## Every history -/

/-- Slots that were added one after the other make a registry: no instance twice, listed in
the order in which they were added, each found by its instance and by no other, over its
own device and with its own line. From then on, whatever is fired and registered and in
whatever order: the line of an instance counts its fires; the callback of an instance is
the first that was accepted for it; a fire of its line is counted and then runs that
callback and nothing else; and what is turned away is not stored. -/
theorem fires_reach_first_callback {calls slots : List Slot}
    (hcalls : calls.foldlM Registry.gather [] = .ok slots) {g : Nat} {s : System κ}
    (hmade : g < s.registries.size) (hbuilt : s.registry g = .assemble g slots) :
    (∀ next : Slot, Registry.gather slots next =
        if next.id ∈ calls.map (·.id) then .error .invalidArgument
        else .ok (calls ++ [next])) ∧
      (s.registry g).instances = calls.map (·.id) ∧
      (∀ slot ∈ calls, s.slot? ⟨g, slot.id⟩ =
        some { slot with driver := { slot.driver with line := some ⟨g, slot.id⟩ } }) ∧
      (∀ i : Instance, i ∉ calls.map (·.id) → s.slot? ⟨g, i⟩ = none) ∧
      ∀ (es : List (Event κ)) (t : System κ), History s es t → ∀ i : Instance,
        let line : Interrupt.Line := ⟨g, i⟩
        t.expirations line = UInt32.ofNat (es.countP (·.fires line)) ∧
          (t.count line).expirations line = t.expirations line + 1 ∧
          t.callback? line = es.findSome? (·.stores? line) ∧
          (∀ h : Handler κ, t.fire h line =
            (es.findSome? (·.stores? line)).elim (t.count line) fun callback =>
              h callback (t.count line)) ∧
          ∀ callback, t.Admission ⟨g, i⟩ callback := by
  obtain ⟨rfl, hids⟩ := Registry.foldlM_gather hcalls
  refine ⟨Registry.gather_of_nodup hids, ?_, fun slot hslot => ?_, fun i hi => ?_,
    fun es t ht i => ?_⟩
  · rw [hbuilt, Registry.instances_assemble]
  · rw [System.slot?, hbuilt]
    exact Registry.slot?_assemble g hids hslot
  · cases hslot : s.slot? ⟨g, i⟩ with
    | none => rfl
    | some slot =>
        obtain ⟨hmem, hid⟩ := slot?_eq_some hslot
        refine absurd ?_ hi
        rw [← Registry.instances_assemble (κ := κ) g slots, ← hbuilt]
        exact List.mem_map.mpr ⟨slot, hmem, hid⟩
  · have hnew : Routed [] ⟨g, i⟩ s := by
      refine ⟨hmade, ?_, ?_⟩
      · rw [expirations, Registry.expirations, hbuilt]
        exact congrArg Interrupt.Entry.expirations (Interrupt.Table.get_empty i)
      · rw [callback?, hbuilt]
        exact congrArg Interrupt.Entry.callback (Interrupt.Table.get_empty i)
    have hrouted := ht.routed hnew
    refine ⟨hrouted.count, ?_, hrouted.callback, fun h => ?_, admission t ⟨g, i⟩⟩
    · rw [expirations_count_eq t ⟨g, i⟩ hrouted.made, if_pos rfl]
    · rw [← hrouted.callback]
      exact t.fire_eq ⟨g, i⟩ h

/-- Two watchdogs whose instances are neither in order nor in the places of their devices.
The line of the first is fired before it has a callback, a second callback is turned away,
and a fire of the other line is nothing to it. -/
theorem first_callback_is_run :
    let i : Instance := ⟨2, by decide⟩
    let j : Instance := ⟨0, by decide⟩
    let w : Watchdog := ⟨1, i⟩
    let s : System Nat := (build [(2, 0), (0, 1)]
      { devices := [{ device := .nrf52 {} }, { device := .rtl872x {} }] }).2
    ∃ t, History s [.fired ⟨1, i⟩, .accepted w 7, .rejected w 8 .invalidState, .fired ⟨1, j⟩,
        .fired ⟨1, i⟩] t ∧
      t.expirations ⟨1, i⟩ = 2 ∧ t.callback? ⟨1, i⟩ = some 7 ∧
      ∀ h : Handler Nat, t.fire h ⟨1, i⟩ = h 7 (t.count ⟨1, i⟩) := by
  intro i j w s
  have hbuild : build [(2, 0), (0, 1)]
      { devices := [{ device := .nrf52 {} }, { device := .rtl872x {} }] } =
        (.ok (), s) := Prod.ext (by decide +kernel) rfl
  obtain ⟨calls, slots, hcalls, -, hmade, hregistry⟩ := build_assembles hbuild
  rw [show s.current = 1 by decide +kernel] at hmade hregistry
  let t₁ := s.count ⟨1, i⟩
  let t₂ := (t₁.onExpired w 7).2
  have hfirst : t₁.onExpired w 7 = (.ok (), t₂) := Prod.ext (by decide +kernel) rfl
  let t₃ := (t₂.onExpired w 8).2
  have hsecond : t₂.onExpired w 8 = (.error .invalidState, t₃) :=
    Prod.ext (by decide +kernel) rfl
  have ht : History s _ _ :=
    ((((History.start.fire ⟨1, i⟩).accept hfirst).reject hsecond).fire ⟨1, j⟩).fire ⟨1, i⟩
  obtain ⟨hcount, -, hcallback, hfire, -⟩ :=
    (fires_reach_first_callback hcalls hmade hregistry).2.2.2.2 _ _ ht i
  exact ⟨_, ht, hcount.trans (by decide), hcallback.trans (by decide), fun h => (hfire h).trans rfl⟩

end System

end TwoTierWatchdog
