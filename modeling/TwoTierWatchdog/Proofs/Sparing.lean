import Mathlib.Data.List.Nodup
import TwoTierWatchdog.Proofs.System

/-!
# What callbacks spare

A peripheral may fire its line in the middle of a request. The callback then finds the
watchdog busy. What it does is up to its handler, as long as it makes no more than calls
to watchdogs of the same registry: whoever was busy when it began is busy when it ends,
with the driver, the device and the callback it had, and nobody else is. So a request that
is served ends as if nothing had come in between, and is itself such a call.
-/

namespace TwoTierWatchdog

namespace System

variable {κ : Type} {s s' s'' : System κ} {P : κ → Prop} {h : Handler κ} {i : Instance}
  {slot : Slot} {device : Device}

/-- The slot of an instance in the current registry. -/
def seat? (s : System κ) (i : Instance) : Option Slot :=
  s.slot? ⟨s.current, i⟩

/-- No two watchdogs of the current registry share a device, and none lacks one. -/
structure Ordered (s : System κ) : Prop where
  distinct : ∀ i j slot slot', s.seat? i = some slot → s.seat? j = some slot' →
    slot.device = slot'.device → i = j
  mounted : ∀ i slot, s.seat? i = some slot → (s.device? slot.device).isSome

/-- Something holds of every callback that is stored anywhere. -/
def Stored (P : κ → Prop) (s : System κ) : Prop :=
  ∀ line callback, s.callback? line = some callback → P callback

/-- Whoever is busy in one system is busy in the other, and as it was. -/
structure Spares (s s' : System κ) : Prop where
  current : s'.current = s.current
  seats : ∀ i, (s'.seat? i).map (fun slot => (slot.device, slot.busy)) =
    (s.seat? i).map fun slot => (slot.device, slot.busy)
  mounts : ∀ k, (s'.device? k).isSome = (s.device? k).isSome
  held : ∀ i slot, s.seat? i = some slot → slot.busy = true →
    s'.seat? i = some slot ∧ s'.device? slot.device = s.device? slot.device ∧
      s'.callback? ⟨s.current, i⟩ = s.callback? ⟨s.current, i⟩

namespace Spares

theorem of_eq (hcurrent : s'.current = s.current) (hseats : ∀ i, s'.seat? i = s.seat? i)
    (hdevices : ∀ k, s'.device? k = s.device? k)
    (hcallbacks : ∀ i slot, s.seat? i = some slot → slot.busy = true →
      s'.callback? ⟨s.current, i⟩ = s.callback? ⟨s.current, i⟩) : Spares s s' :=
  ⟨hcurrent, fun i => by rw [hseats], fun k => by rw [hdevices], fun i slot hslot hbusy =>
    ⟨(hseats i).trans hslot, hdevices _, hcallbacks i slot hslot hbusy⟩⟩

theorem refl (s : System κ) : Spares s s :=
  of_eq rfl (fun _ => rfl) (fun _ => rfl) fun _ _ _ _ => rfl

theorem trans (h : Spares s s') (h' : Spares s' s'') : Spares s s'' := by
  refine ⟨h'.current.trans h.current, fun i => (h'.seats i).trans (h.seats i),
    fun k => (h'.mounts k).trans (h.mounts k), fun i slot hslot hbusy => ?_⟩
  obtain ⟨hslot', hdevice, hcallback⟩ := h.held i slot hslot hbusy
  obtain ⟨hslot'', hdevice', hcallback'⟩ := h'.held i slot hslot' hbusy
  rw [h.current] at hcallback'
  exact ⟨hslot'', hdevice'.trans hdevice, hcallback'.trans hcallback⟩

/-- A watchdog that is in one system is in the other, over the same device. -/
theorem seat (h : Spares s s') (hslot : s'.seat? i = some slot) :
    ∃ old, s.seat? i = some old ∧ old.device = slot.device ∧ old.busy = slot.busy := by
  have hseat := h.seats i
  rw [hslot] at hseat
  obtain ⟨old, hold, heq⟩ := Option.map_eq_some_iff.mp hseat.symm
  exact ⟨old, hold, congrArg Prod.fst heq, congrArg Prod.snd heq⟩

theorem ordered (h : Spares s s') (ho : s.Ordered) : s'.Ordered := by
  refine ⟨fun i j slot slot' hi hj hsame => ?_, fun i slot hi => ?_⟩
  · obtain ⟨old, hold, hdevice, -⟩ := h.seat hi
    obtain ⟨old', hold', hdevice', -⟩ := h.seat hj
    exact ho.distinct i j old old' hold hold' (hdevice.trans (hsame.trans hdevice'.symm))
  · obtain ⟨old, hold, hdevice, -⟩ := h.seat hi
    rw [h.mounts, ← hdevice]
    exact ho.mounted i old hold

end Spares

/-- A step of a callback: it spares who is busy, and stores no other kind of callback. -/
structure Minds (P : κ → Prop) (s s' : System κ) : Prop extends Spares s s' where
  stored : s.Stored P → s'.Stored P

namespace Minds

theorem of_callbacks (h : Spares s s') (hc : ∀ line, s'.callback? line = s.callback? line) :
    Minds P s s' :=
  ⟨h, fun hs line callback hline => hs line callback ((hc line).symm.trans hline)⟩

theorem refl (s : System κ) : Minds P s s :=
  of_callbacks (.refl s) fun _ => rfl

theorem trans (h : Minds P s s') (h' : Minds P s' s'') : Minds P s s'' :=
  ⟨h.toSpares.trans h'.toSpares, fun hs => h'.stored (h.stored hs)⟩

end Minds

/-- Every callback of some kind keeps to what callbacks may do. -/
def Decent (P : κ → Prop) (h : Handler κ) : Prop :=
  ∀ callback (s : System κ), P callback → s.Ordered → s.Stored P → Minds P s (h callback s)

/-! ## Lines that are fired -/

theorem minds_count (s : System κ) (line : Interrupt.Line) : Minds P s (s.count line) := by
  refine .of_callbacks (.of_eq (current_count s line) (fun i => ?_) (fun _ => rfl)
    fun _ _ _ _ => callback?_count s line _) (callback?_count s line)
  rw [seat?, current_count, slot?_count, seat?]

theorem minds_fire (hh : Decent P h) (ho : s.Ordered) (hs : s.Stored P)
    (line : Interrupt.Line) : Minds P s (s.fire h line) := by
  have hcount : Minds P s (s.count line) := minds_count s line
  cases hc : s.callback? line with
  | none => exact fire_of_none hc h ▸ hcount
  | some callback =>
      rw [fire_of_some hc]
      exact hcount.trans
        (hh callback _ (hs line callback hc) (hcount.ordered ho) (hcount.stored hs))

/-- Fires lines, one after the other. -/
def deliver (h : Handler κ) (lines : List Interrupt.Line) (s : System κ) : System κ :=
  lines.foldl (fun s line => s.fire h line) s

theorem minds_deliver (hh : Decent P h) (ho : s.Ordered) (hs : s.Stored P)
    (lines : List Interrupt.Line) : Minds P s (s.deliver h lines) := by
  induction lines generalizing s with
  | nil => exact .refl s
  | cons line rest ih =>
      have hfire := minds_fire hh ho hs line
      exact hfire.trans (ih (hfire.ordered ho) (hfire.stored hs))

/-! ## A request that is served -/

/-- The request is done on the device, and the watchdog is busy until the lines that were
fired have been delivered. -/
def undertake (w : Watchdog) (slot : Slot) (served : Device.Served) (s : System κ) :
    System κ :=
  ((s.putDevice slot.device served.device served.calls).modifySlot w fun slot =>
    { slot with driver := served.driver, busy := true }).append served.log

def release (w : Watchdog) (s : System κ) : System κ :=
  s.modifySlot w fun slot => { slot with busy := false }

theorem serve_of_idle {w : Watchdog} {q : Request} (hslot : s.slot? w = some slot)
    (hidle : slot.busy = false) (hdevice : s.device? slot.device = some device) :
    s.serve h w q = ((device.serve q slot.driver).result,
      ((s.undertake w slot (device.serve q slot.driver)).deliver h
        (device.serve q slot.driver).raised).release w) := by
  unfold serve
  simp only [hslot, hidle, hdevice, Bool.false_eq_true, if_false]
  rfl

theorem seat?_modifySlot (s : System κ) (i : Instance) {f : Slot → Slot}
    (hf : ∀ slot, (f slot).id = slot.id) (j : Instance) :
    (s.modifySlot ⟨s.current, i⟩ f).seat? j =
      if j = i then (s.seat? i).map f else s.seat? j := by
  have hcurrent : (s.modifySlot ⟨s.current, i⟩ f).current = s.current :=
    current_modifyRegistry ..
  rw [seat?, hcurrent, slot?_modifySlot s _ hf]
  by_cases hj : j = i
  · rw [if_pos (congrArg _ hj), if_pos hj, seat?]
  · rw [if_neg fun h => hj (congrArg Watchdog.id h), if_neg hj, seat?]

theorem current_undertake (s : System κ) (w : Watchdog) (slot : Slot)
    (served : Device.Served) : (s.undertake w slot served).current = s.current :=
  current_modifyRegistry ..

theorem seat?_undertake (s : System κ) (i : Instance) (slot : Slot)
    (served : Device.Served) (j : Instance) :
    (s.undertake ⟨s.current, i⟩ slot served).seat? j =
      if j = i then
        (s.seat? i).map fun slot => { slot with driver := served.driver, busy := true }
      else
        s.seat? j :=
  seat?_modifySlot (s.putDevice slot.device served.device served.calls) i
    (by exact fun _ => rfl) j

theorem device?_undertake (s : System κ) (w : Watchdog) (slot : Slot)
    (served : Device.Served) (k : Nat) :
    (s.undertake w slot served).device? k =
      if slot.device = k then (s.device? k).map fun _ => served.device else s.device? k :=
  device?_putDevice s slot.device served.device served.calls k

theorem callback?_undertake (s : System κ) (w : Watchdog) (slot : Slot)
    (served : Device.Served) (line : Interrupt.Line) :
    (s.undertake w slot served).callback? line = s.callback? line :=
  callback?_modifySlot _ w _ line

/-- A request that is served in a system, with what became of it. -/
structure Completed (s : System κ) (i : Instance) (slot : Slot) (served : Device.Served)
    (s' : System κ) : Prop where
  seat : s'.seat? i = some { slot with driver := served.driver, busy := false }
  device : s'.device? slot.device = some served.device

section

variable (ho : s.Ordered) (hslot : s.seat? i = some slot) (hidle : slot.busy = false)

include ho hslot hidle

/-- With a request under way its watchdog is busy besides those that were, and the
system in as good an order. -/
theorem undertaken (served : Device.Served) (hdevice : s.device? slot.device = some device) :
    let t := s.undertake ⟨s.current, i⟩ slot served
    t.Ordered ∧ t.seat? i = some { slot with driver := served.driver, busy := true } ∧
      t.device? slot.device = some served.device ∧
      ∀ j other, s.seat? j = some other → other.busy = true →
        t.seat? j = some other ∧ t.device? other.device = s.device? other.device := by
  intro t
  have hseats : ∀ j, (t.seat? j).map (·.device) = (s.seat? j).map (·.device) := by
    intro j
    rw [seat?_undertake]
    split
    · next hj =>
        rw [hj, Option.map_map]
        rfl
    · rfl
  have hseat : ∀ {j other}, t.seat? j = some other →
      ∃ old, s.seat? j = some old ∧ old.device = other.device := by
    intro j other hj
    have hsame := hseats j
    rw [hj] at hsame
    exact Option.map_eq_some_iff.mp hsame.symm
  refine ⟨⟨fun j j' other other' hj hj' hsame => ?_, fun j other hj => ?_⟩, ?_, ?_, ?_⟩
  · obtain ⟨old, hold, hd⟩ := hseat hj
    obtain ⟨old', hold', hd'⟩ := hseat hj'
    exact ho.distinct j j' old old' hold hold' (hd.trans (hsame.trans hd'.symm))
  · obtain ⟨old, hold, hd⟩ := hseat hj
    have hmounted := ho.mounted j old hold
    rw [device?_undertake, ← hd]
    split
    · rw [Option.isSome_map]
      exact hmounted
    · exact hmounted
  · rw [seat?_undertake, if_pos rfl, hslot, Option.map_some]
  · rw [device?_undertake, if_pos rfl, hdevice, Option.map_some]
  · intro j other hj hbusy
    have hne : j ≠ i := by
      rintro rfl
      obtain rfl := Option.some.inj (hslot.symm.trans hj)
      exact absurd (hidle.symm.trans hbusy) (by simp)
    refine ⟨by rw [seat?_undertake, if_neg hne, hj], ?_⟩
    rw [device?_undertake, if_neg fun heq => hne (ho.distinct i j slot other hslot hj heq).symm]

/-- A request to a watchdog that is not busy ends in the same way whatever the callbacks
in the midst of it do, and those that are busy are as they were. -/
theorem completed_serve (hs : s.Stored P) (hh : Decent P h)
    (hdevice : s.device? slot.device = some device) (q : Request) :
    let served := device.serve q slot.driver
    (s.serve h ⟨s.current, i⟩ q).1 = served.result ∧
      Completed s i slot served (s.serve h ⟨s.current, i⟩ q).2 ∧
      Minds P s (s.serve h ⟨s.current, i⟩ q).2 := by
  intro served
  rw [serve_of_idle hslot hidle hdevice]
  refine ⟨rfl, ?_⟩
  obtain ⟨hto, htseat, htdevice, htheld⟩ := undertaken ho hslot hidle served hdevice
  have hcallbacks := callback?_undertake s ⟨s.current, i⟩ slot served
  have htcurrent := current_undertake s ⟨s.current, i⟩ slot served
  have htseats := seat?_undertake s i slot served
  have htdevices := device?_undertake s ⟨s.current, i⟩ slot served
  show Completed s i slot served (((s.undertake ⟨s.current, i⟩ slot served).deliver h
      served.raised).release ⟨s.current, i⟩) ∧
    Minds P s (((s.undertake ⟨s.current, i⟩ slot served).deliver h
      served.raised).release ⟨s.current, i⟩)
  generalize s.undertake ⟨s.current, i⟩ slot served = t at *
  have hts : t.Stored P := fun line callback hc =>
    hs line callback ((hcallbacks line).symm.trans hc)
  have hd := minds_deliver hh hto hts served.raised
  generalize t.deliver h served.raised = u at *
  have hcurrent : u.current = s.current := hd.current.trans htcurrent
  obtain ⟨huseat, hudevice, hucallback⟩ := hd.held i _ htseat rfl
  have hrelease : ∀ j, (u.release ⟨s.current, i⟩).seat? j =
      if j = i then (u.seat? i).map fun slot => { slot with busy := false } else u.seat? j := by
    intro j
    rw [← hcurrent]
    exact seat?_modifySlot u i (by exact fun _ => rfl) j
  refine ⟨⟨?_, hudevice.trans htdevice⟩, ⟨⟨?_, fun j => ?_, fun k => ?_, ?_⟩, fun _ => ?_⟩⟩
  · rw [hrelease, if_pos rfl, huseat, Option.map_some]
  · exact (current_modifyRegistry ..).trans hcurrent
  · rw [hrelease]
    split
    · next hj => rw [hj, huseat, hslot, Option.map_some, Option.map_some, Option.map_some, hidle]
    · next hj => rw [hd.seats, htseats, if_neg hj]
  · refine (hd.mounts k).trans ?_
    rw [htdevices]
    split
    · rw [Option.isSome_map]
    · rfl
  · intro j other hj hbusy
    obtain ⟨htj, htdev⟩ := htheld j other hj hbusy
    obtain ⟨huj, hudev, hucb⟩ := hd.held j other htj hbusy
    have hne : j ≠ i := by
      rintro rfl
      obtain rfl := Option.some.inj (hslot.symm.trans hj)
      exact absurd (hidle.symm.trans hbusy) (by simp)
    refine ⟨by rw [hrelease, if_neg hne, huj], hudev.trans htdev, ?_⟩
    rw [release, callback?_modifySlot, ← htcurrent, hucb, hcallbacks]
  · exact fun line callback hc =>
      hd.stored hts line callback ((callback?_modifySlot u _ _ line).symm.trans hc)

end

/-- A call on a watchdog that is busy is refused, and changes nothing but the log. -/
structure Refused (h : Handler κ) (w : Watchdog) (s : System κ) : Prop where
  request : ∀ q, (s.serve h w q).1 = .error .invalidState ∧
    (s.serve h w q).2.devices = s.devices ∧ (s.serve h w q).2.registries = s.registries
  info : s.info w = .error .invalidState
  writeInfo : ∀ buffer, s.writeInfo w buffer = .error .invalidState
  started : s.started w = false
  onExpired : ∀ callback, s.onExpired w callback = (.error .invalidState, s)

theorem refused_of_busy {w : Watchdog} (hslot : s.slot? w = some slot)
    (hbusy : slot.busy = true) (h : Handler κ) : Refused h w s := by
  have hinfo : s.info w = .error .invalidState := by
    simp only [info, hslot, hbusy, if_true]
  refine ⟨fun q => ?_, hinfo, fun buffer => ?_, ?_, fun callback => ?_⟩
  · simp only [serve, hslot, hbusy, if_true]
    exact ⟨rfl, rfl, rfl⟩
  · rw [writeInfo, hinfo]
    rfl
  · rw [started, hinfo]
  · simp only [onExpired, hslot, hbusy, if_true]

theorem minds_serve (ho : s.Ordered) (hs : s.Stored P) (hh : Decent P h) (i : Instance)
    (q : Request) : Minds P s (s.serve h ⟨s.current, i⟩ q).2 := by
  cases hslot : s.slot? ⟨s.current, i⟩ with
  | none =>
      simp only [serve, hslot]
      exact .refl s
  | some slot =>
      cases hbusy : slot.busy with
      | true =>
          simp only [serve, hslot, hbusy, if_true]
          exact .of_callbacks (.of_eq rfl (fun _ => rfl) (fun _ => rfl) fun _ _ _ _ => rfl)
            fun _ => rfl
      | false =>
          obtain ⟨device, hdevice⟩ := Option.isSome_iff_exists.mp (ho.mounted i slot hslot)
          exact (completed_serve ho hslot hbusy hs hh hdevice q).2.2

/-- To store a callback is nothing to anybody else. -/
theorem minds_onExpired {callback : κ} (hP : P callback) (s : System κ) (i : Instance) :
    Minds P s (s.onExpired ⟨s.current, i⟩ callback).2 := by
  obtain ⟨hdevices, hcurrent, hslots⟩ := onExpired_frame s ⟨s.current, i⟩ callback
  have hseats : ∀ j, (s.onExpired ⟨s.current, i⟩ callback).2.seat? j = s.seat? j := by
    intro j
    unfold seat? slot? Registry.slot?
    rw [hcurrent, hslots]
  rcases onExpired_cases s ⟨s.current, i⟩ callback with ⟨e, he⟩ | ⟨s', hs', hr⟩
  · rw [he]
    exact .refl s
  · rw [hs'] at hdevices hcurrent hseats ⊢
    refine ⟨.of_eq hcurrent hseats hdevices fun j slot hj hbusy => ?_, fun hs line stored hc => ?_⟩
    · rw [hr.callbacks]
      split
      · next hline =>
          obtain ⟨own, -, hown, hidle, -⟩ := hr.able
          rw [seat?, show j = i from congrArg Interrupt.Line.entry hline, hown] at hj
          obtain rfl := Option.some.inj hj
          exact absurd (hidle.symm.trans hbusy) (by simp)
      · rfl
    · rw [hr.callbacks] at hc
      split at hc
      · exact Option.some.inj hc ▸ hP
      · exact hs line stored hc

/-! ## A registry that was just built -/

theorem ordered_build {pairs : List (UInt8 × Nat)} (hbuild : s.build pairs = (.ok (), s'))
    (hdistinct : (pairs.map (·.2)).Nodup) :
    s'.Ordered ∧ ∀ i slot, s'.seat? i = some slot → slot.busy = false := by
  obtain ⟨hdevices, -, made, hslots, -, hpairs, hadopted⟩ := build_ok hbuild
  have hmade : ∀ {i slot}, s'.seat? i = some slot →
      slot.id = i ∧ ∃ old ∈ made, old.device = slot.device ∧ slot ∈ (s'.registry s'.current).slots ∧
        slot.busy = false := by
    intro i slot hslot
    obtain ⟨hmem, hid⟩ := slot?_eq_some hslot
    refine ⟨hid, ?_⟩
    have hbound := hmem
    rw [hslots] at hbound
    obtain ⟨old, hold, rfl⟩ := List.mem_map.mp hbound
    exact ⟨old, hold, rfl, hmem, (hadopted old hold).idle⟩
  have hnodup : ((s'.registry s'.current).slots.map (·.device)).Nodup := by
    rw [hslots, List.map_map]
    show (made.map (·.device)).Nodup
    rw [hpairs]
    exact hdistinct
  refine ⟨⟨fun i j slot slot' hi hj hsame => ?_, fun i slot hi => ?_⟩, fun i slot hi => ?_⟩
  · obtain ⟨hid, -, -, -, hmem, -⟩ := hmade hi
    obtain ⟨hid', -, -, -, hmem', -⟩ := hmade hj
    rw [← hid, ← hid', List.inj_on_of_nodup_map hnodup hmem hmem' hsame]
  · obtain ⟨-, old, hold, hdevice, -⟩ := hmade hi
    obtain ⟨device, hfound, -⟩ := (hadopted old hold).driver
    rw [device?, hdevices, ← hdevice]
    exact Option.isSome_iff_exists.mpr ⟨device, hfound⟩
  · obtain ⟨-, -, -, -, -, hidle⟩ := hmade hi
    exact hidle

end System

end TwoTierWatchdog
