import TwoTierWatchdog.Proofs.Sparing
import TwoTierWatchdog.Proofs.Winding

/-!
# Systems in operation

Whatever is done to a system through its registries, and by a test bench that leaves the
registers to the drivers, its counters stay wound up. That needs no order: drivers of
several registries may work on one device, drivers may outlive the registry that was made
current after theirs, and a power cycle may come at any time.

In the middle of an expiry a device is struck, and callbacks are run over it. So what is
kept is stated with the devices that are struck at the moment, and a callback keeps it if
it is itself made of nothing but operations, whatever expiries it may cause in turn.
-/

namespace TwoTierWatchdog

namespace System

variable {κ : Type} {s t : System κ} {w : Watchdog} {slot : Slot} {device device' : Device}
  {struck struck' : Nat → Prop} {k : Nat}

/-! ## Time that passes -/

theorem device?_elapse (hk : s.device? k = some device) (time : Duration) (j : Nat) :
    (s.modifyDevice k (·.elapse time)).device? j =
      if k = j then some (device.elapse time) else s.device? j := by
  rw [device?_modifyDevice]
  split
  · next hj => rw [← hj, hk, Option.map_some]
  · rfl

theorem elapse_zero (s : System κ) (k : Nat) : s.modifyDevice k (·.elapse .zero) = s := by
  have hdevice : (fun m : Mounted => { m with device := m.device.elapse .zero }) = id := by
    funext m
    exact congrArg (Mounted.mk · m.calls) m.device.elapse_zero
  unfold modifyDevice
  rw [hdevice, List.modify_id]

/-! ## What is kept -/

/-- Every counter is wound up, as far as a device that is struck can be, and every driver
past its first state has programmed its device. -/
structure Wound (struck : Nat → Prop) (s : System κ) : Prop where
  devices : ∀ j device, s.device? j = some device → device.Wound (¬ struck j)
  drivers : ∀ w slot device, s.slot? w = some slot → s.device? slot.device = some device →
    device.Primed slot.driver

namespace Wound

theorem of_eq (h : s.Wound struck) (hdevices : ∀ j, t.device? j = s.device? j)
    (hslots : ∀ w, t.slot? w = s.slot? w) : t.Wound struck :=
  ⟨fun j device hj => h.devices j device ((hdevices j).symm.trans hj),
    fun w slot device hslot hk => h.drivers w slot device ((hslots w).symm.trans hslot)
      ((hdevices _).symm.trans hk)⟩

/-- One device is exchanged for another, and no device that is struck settles by itself. -/
theorem exchange (h : s.Wound struck) (hk : s.device? k = some device)
    (hwound : device'.Wound (¬ struck' k)) (hprogrammed : device.Programmed → device'.Programmed)
    (hstruck : ∀ j, j ≠ k → struck j → struck' j)
    (hdevices : ∀ j, t.device? j = if k = j then some device' else s.device? j)
    (hslots : ∀ w, t.slot? w = s.slot? w) : t.Wound struck' := by
  refine ⟨fun j other hj => ?_, fun w slot other hslot hj => ?_⟩
  · rw [hdevices] at hj
    split at hj
    · next hjk =>
        obtain rfl := Option.some.inj hj
        exact hjk ▸ hwound
    · next hjk =>
        exact (h.devices j other hj).mono fun hsettled hs =>
          hsettled (hstruck j (Ne.symm hjk) hs)
  · rw [hslots] at hslot
    rw [hdevices] at hj
    split at hj
    · next hjk =>
        obtain rfl := Option.some.inj hj
        exact fun hs => hprogrammed (h.drivers w slot device hslot (hjk ▸ hk) hs)
    · exact h.drivers w slot other hslot hj

theorem putDevice (h : s.Wound struck) (hk : s.device? k = some device)
    (hwound : device'.Wound (¬ struck' k)) (hprogrammed : device.Programmed → device'.Programmed)
    (hstruck : ∀ j, j ≠ k → struck j → struck' j) (calls : List Device.Call) :
    (s.putDevice k device' calls).Wound struck' := by
  refine h.exchange hk hwound hprogrammed hstruck (fun j => ?_) fun _ => rfl
  rw [device?_putDevice]
  split
  · next hjk => rw [← hjk, hk, Option.map_some]
  · rfl

/-- Time that does not use up what a counter has left. -/
theorem elapse (h : s.Wound struck) {step : Duration} (hstep : s.remaining? k = some step)
    {time : Duration} (hlt : time.nanos < step.nanos) :
    (s.modifyDevice k (·.elapse time)).Wound struck := by
  obtain ⟨device, hk, hleft⟩ := Option.bind_eq_some_iff.mp hstep
  exact h.exchange hk ((h.devices k device hk).elapse hleft hlt) (fun hp => hp.elapse time)
    (fun _ _ hj => hj) (device?_elapse hk time) fun _ => rfl

/-! ### The two halves of an expiry -/

/-- A device is struck, after whatever time. -/
theorem strike (h : s.Wound struck) (hk : s.device? k = some device) (time : Duration) :
    ((s.modifyDevice k (·.elapse time)).strike k).2.Wound fun j => struck j ∨ j = k := by
  have htk : (s.modifyDevice k (·.elapse time)).device? k = some (device.elapse time) := by
    rw [device?_elapse hk, if_pos rfl]
  rw [strike_of_some htk]
  refine h.exchange hk (((h.devices k device hk).strike_elapse time).mono fun hsettled =>
    hsettled (.inr rfl)) (fun hp => (hp.elapse time).strike) (fun _ _ => .inl) (fun j => ?_)
    fun _ => rfl
  rw [device?_append, device?_putDevice, device?_elapse hk]
  split
  · rfl
  · rfl

/-- What was struck before stays so. -/
theorem recover (h : s.Wound fun j => struck j ∨ j = k) : (s.recover k).Wound struck := by
  have hstruck : ∀ j, j ≠ k → struck j ∨ j = k → struck j :=
    fun j hj hor => hor.resolve_right hj
  cases hk : s.device? k with
  | none =>
      rw [System.recover, hk]
      refine ⟨fun j device hj => (h.devices j device hj).mono fun hsettled => ?_, h.drivers⟩
      have hne : j ≠ k := by
        rintro rfl
        cases hk.symm.trans hj
      exact fun hor => hsettled (hstruck j hne hor)
  | some device =>
      rw [recover_of_some hk]
      exact (h.putDevice hk ((h.devices k device hk).recover _) (fun hp => hp.recover)
        hstruck []).of_eq (fun _ => rfl) fun _ => rfl

/-- A counter that runs has some time left, unless its device is struck. -/
theorem remaining_pos (h : s.Wound struck) (hk : ¬ struck k) {step : Duration}
    (hstep : s.remaining? k = some step) : 0 < step.nanos := by
  obtain ⟨device, hdevice, hleft⟩ := Option.bind_eq_some_iff.mp hstep
  exact (h.devices k device hdevice).remaining_pos hk hleft

/-! ### Requests -/

/-- A driver does a request on its device. -/
theorem undertake (h : s.Wound struck) (hslot : s.slot? w = some slot)
    (hk : s.device? slot.device = some device) (q : Request) :
    (s.undertake w slot (device.serve q slot.driver)).Wound struck := by
  have hprimed := h.drivers w slot device hslot hk
  obtain ⟨hwound, hprimed'⟩ := (h.devices _ device hk).serve hprimed q
  have hput := h.putDevice hk hwound (fun hp => hp.serve slot.driver q) (fun _ _ hs => hs)
    (device.serve q slot.driver).calls
  refine ⟨hput.devices, fun w' slot' other hslot' hother => ?_⟩
  have hslots : (s.undertake w slot (device.serve q slot.driver)).slot? w' = _ :=
    slot?_modifySlot (s.putDevice slot.device (device.serve q slot.driver).device _) w
      (by exact fun _ => rfl) w'
  rw [hslots] at hslot'
  split at hslot'
  · obtain ⟨old, hold, rfl⟩ := Option.map_eq_some_iff.mp hslot'
    obtain rfl := Option.some.inj (hslot.symm.trans hold)
    rw [device?_undertake, if_pos rfl, hk, Option.map_some] at hother
    obtain rfl := Option.some.inj hother
    exact hprimed'
  · exact hput.drivers w' slot' other hslot' hother

theorem release (h : s.Wound struck) (w : Watchdog) : (s.release w).Wound struck := by
  refine ⟨h.devices, fun w' slot device hslot hk => ?_⟩
  rw [System.release, slot?_modifySlot s w (by exact fun _ => rfl)] at hslot
  split at hslot
  · obtain ⟨old, hold, rfl⟩ := Option.map_eq_some_iff.mp hslot
    exact h.drivers w old device hold hk
  · exact h.drivers w' slot device hslot hk

theorem count (h : s.Wound struck) (line : Interrupt.Line) : (s.count line).Wound struck :=
  h.of_eq (fun _ => rfl) (slot?_count s line)

theorem onExpired (h : s.Wound struck) (w : Watchdog) (callback : κ) :
    (s.onExpired w callback).2.Wound struck := by
  obtain ⟨hdevices, -, hslots⟩ := onExpired_frame s w callback
  refine h.of_eq hdevices fun w' => ?_
  unfold System.slot? Registry.slot?
  rw [hslots]

theorem build (h : s.Wound struck) (pairs : List (UInt8 × Nat)) :
    (s.build pairs).2.Wound struck := by
  have hdevices : (s.build pairs).2.devices = s.devices := by
    cases hbuild : s.build pairs with
    | mk result t =>
        cases result with
        | error e => exact (build_error hbuild).1
        | ok => exact (build_ok hbuild).1
  have hdevice : ∀ j, (s.build pairs).2.device? j = s.device? j := fun j => by
    rw [device?, device?, hdevices]
  refine ⟨fun j device hj => h.devices j device ((hdevice j).symm.trans hj),
    fun w slot device hslot hk => ?_⟩
  rw [hdevice] at hk
  obtain hkept | ⟨-, old, hadopted, rfl⟩ := slot?_build hslot
  · exact h.drivers w slot device hkept hk
  · obtain ⟨found, hfound, hdriver⟩ := hadopted.driver
    obtain rfl := Option.some.inj (hk.symm.trans hfound)
    show old.driver.state ≠ .uninitialized → _
    rw [hdriver]
    exact (h.devices _ device hk).primed_adopt

end Wound

/-! ## Callbacks -/

/-- Callbacks that keep counters wound up, whatever is struck. -/
def Keeping (h : Handler κ) : Prop :=
  ∀ callback (struck : Nat → Prop) (s : System κ), s.Wound struck → (h callback s).Wound struck

section

variable {h : Handler κ} (hh : Keeping h)

include hh

theorem Wound.fire (hs : s.Wound struck) (line : Interrupt.Line) :
    (s.fire h line).Wound struck := by
  have hcount := hs.count line
  cases hc : s.callback? line with
  | none => exact fire_of_none hc h ▸ hcount
  | some callback =>
      rw [fire_of_some hc]
      exact hh callback struck _ hcount

theorem Wound.deliver (hs : s.Wound struck) (lines : List Interrupt.Line) :
    (s.deliver h lines).Wound struck := by
  induction lines generalizing s with
  | nil => exact hs
  | cons line rest ih => exact ih (hs.fire hh line)

theorem Wound.serve (hs : s.Wound struck) (w : Watchdog) (q : Request) :
    (s.serve h w q).2.Wound struck := by
  cases hslot : s.slot? w with
  | none =>
      simp only [System.serve, hslot]
      exact hs
  | some slot =>
      cases hidle : slot.busy with
      | true =>
          simp only [System.serve, hslot, hidle, if_true]
          exact hs.of_eq (fun _ => rfl) fun _ => rfl
      | false =>
          cases hk : s.device? slot.device with
          | none =>
              simp only [System.serve, hslot, hidle, hk, Bool.false_eq_true, if_false]
              exact hs
          | some device =>
              rw [serve_of_idle hslot hidle hk]
              exact ((hs.undertake hslot hk q).deliver hh _).release w

/-! ## Time -/

/-- A device expires after any length of time: it is struck, its line is delivered, and it
recovers. -/
theorem Wound.expire_elapse (hs : s.Wound struck) {step : Duration}
    (hstep : s.remaining? k = some step) (time : Duration) :
    ((s.modifyDevice k (·.elapse time)).expire h k).Wound struck := by
  obtain ⟨device, hk, hleft⟩ := Option.bind_eq_some_iff.mp hstep
  have hstrike := hs.strike hk time
  have hruns : (s.modifyDevice k (·.elapse time)).remaining? k =
      some ⟨step.nanos - time.nanos⟩ := by
    rw [System.remaining?, device?_elapse hk, if_pos rfl, Option.bind_some,
      Device.remaining?_elapse, hleft, Option.map_some]
  simp only [System.expire, hruns]
  split
  · next line u hu =>
      rw [hu] at hstrike
      exact (Wound.fire hh hstrike line).recover
  · next u hu =>
      rw [hu] at hstrike
      exact hstrike.recover

/-- By the recursion of `run`. -/
theorem Wound.advance (hs : s.Wound struck) (k : Nat) (time : Duration) :
    (s.advance h k time).Wound struck := by
  unfold System.advance
  generalize time.nanos = left, idleExpiries = idle
  induction left, idle, s using System.run.induct (h := h) (k := k) with
  | case1 left idle s hnone =>
      rw [System.run, hnone]
      exact hs
  | case2 left idle s step hstep hlt =>
      rw [System.run, hstep]
      simp only [if_pos hlt]
      exact hs.elapse hstep hlt
  | case3 left idle s step hstep hge s' hpos ih =>
      rw [System.run, hstep]
      simp only [if_neg hge, dif_pos hpos]
      exact ih (hs.expire_elapse hh hstep step)
  | case4 left s step hstep hge hzero =>
      rw [System.run, hstep]
      simp only [if_neg hge, dif_neg hzero]
      exact hs.expire_elapse hh hstep step
  | case5 left s step hstep hge s' hzero idle ih =>
      rw [System.run, hstep]
      simp only [if_neg hge, dif_neg hzero]
      exact ih (hs.expire_elapse hh hstep step)

theorem Wound.stimulate (hs : s.Wound struck) (k : Nat) {what : Device.Stimulus}
    (hcall : ∀ c, what ≠ .call c) : (s.stimulate h k what).2.Wound struck := by
  unfold System.stimulate
  split
  · exact hs
  · next device hk =>
      split
      · split
        · exact hs.advance hh k _
        · exact hs
      · split
        · cases hleft : s.remaining? k with
          | none =>
              rw [System.expire, hleft]
              exact hs
          | some left =>
              have hexpire := hs.expire_elapse hh hleft .zero
              rwa [elapse_zero] at hexpire
        · exact hs
      · split
        · exact hs.fire hh _
        · exact hs
      · split
        · next hpoke =>
            obtain ⟨hwound, hprogrammed⟩ :=
              Device.wound_poke hcall hpoke (hs.devices k device hk)
            exact hs.putDevice hk hwound hprogrammed (fun _ _ hj => hj) []
        · exact hs

end

/-! ## Everything that is done -/

/-- A system comes from another by operations: requests, callbacks that are stored,
registries that are built, time that passes, expiries, losses of power and faults. No one
writes to a register past its driver, and whatever else happens leaves devices and
registries alone. -/
inductive Operated (h : Handler κ) (s : System κ) : System κ → Prop
  | start : Operated h s s
  | serve {t : System κ} (sofar : Operated h s t) (w : Watchdog) (q : Request) :
      Operated h s (t.serve h w q).2
  | onExpired {t : System κ} (sofar : Operated h s t) (w : Watchdog) (callback : κ) :
      Operated h s (t.onExpired w callback).2
  | build {t : System κ} (sofar : Operated h s t) (pairs : List (UInt8 × Nat)) :
      Operated h s (t.build pairs).2
  | stimulate {t : System κ} (sofar : Operated h s t) (k : Nat) {what : Device.Stimulus}
      (past : ∀ c, what ≠ .call c) : Operated h s (t.stimulate h k what).2
  | elsewhere {t t' : System κ} (sofar : Operated h s t)
      (devices : ∀ j, t'.device? j = t.device? j) (registries : t'.registries = t.registries) :
      Operated h s t'

/-- Callbacks that do nothing but operate the system. The expiries that they cause in turn
run callbacks of this kind as well, and so on to a depth at which nothing is done any
more. -/
inductive Operates : Handler κ → Prop
  | idle {h : Handler κ} (devices : ∀ callback s j, (h callback s).device? j = s.device? j)
      (registries : ∀ callback s, (h callback s).registries = s.registries) : Operates h
  | nest {h : Handler κ} (inner : κ → System κ → Handler κ)
      (operates : ∀ callback s, Operates (inner callback s))
      (operated : ∀ callback s, Operated (inner callback s) s (h callback s)) : Operates h

/-- New peripherals, devices without a clock in any state, and the empty registry. -/
structure New (s : System κ) : Prop where
  devices : ∀ k device, s.device? k = some device →
    (∃ sim : Sim, device = sim.fresh) ∨ device.hasClock = false
  registries : s.registries = #[{}]

theorem New.wound (hs : s.New) (struck : Nat → Prop) : s.Wound struck := by
  refine ⟨fun k device hk => ?_, fun w slot device hslot _ => ?_⟩
  · obtain ⟨sim, rfl⟩ | hclock := hs.devices k device hk
    · exact Device.wound_fresh sim _
    · exact Device.wound_of_no_clock hclock _
  · have hmem := (slot?_eq_some hslot).1
    have hlt := lt_size_of_slot? hslot
    unfold registry at hmem
    rw [hs.registries] at hmem hlt
    rw [Nat.lt_one_iff.mp hlt] at hmem
    cases hmem

/-- By induction on what is done. -/
theorem Operated.wound {h : Handler κ} (ho : Operated h s t) (hh : Keeping h)
    (hs : s.Wound struck) : t.Wound struck := by
  induction ho with
  | start => exact hs
  | serve _ w q ih => exact ih.serve hh w q
  | onExpired _ w callback ih => exact ih.onExpired w callback
  | build _ pairs ih => exact ih.build pairs
  | stimulate _ k past ih => exact ih.stimulate hh k past
  | elsewhere _ devices registries ih => exact ih.of_eq devices (slot?_of_registries registries)

/-- By induction on how deep callbacks are nested. -/
theorem Operates.keeping {h : Handler κ} (hh : Operates h) : Keeping h := by
  induction hh with
  | idle devices registries =>
      intro callback struck s hs
      exact hs.of_eq (devices callback s) (slot?_of_registries (registries callback s))
  | nest inner _ operated ih =>
      intro callback struck s hs
      exact (operated callback s).wound (ih callback s) hs

end System

end TwoTierWatchdog
