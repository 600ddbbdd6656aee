import TwoTierWatchdog.Proofs.Course
import TwoTierWatchdog.Proofs.Immutable
import TwoTierWatchdog.Proofs.Nrf52.Conversion
import TwoTierWatchdog.Proofs.Rtl872x.Search

/-!
# What is turned away

A configuration goes through four checks before the hardware is told anything. A driver
has two more reasons of its own to turn one away, a period that does not convert and an
interrupt without a line, and neither of them ever comes true: what passes the bounds
converts, and every driver in a registry has the line under its own instance. So the four
checks decide alone, and whatever comes after them is either a success or a failure of the
hardware.
-/

namespace TwoTierWatchdog

/-! ## The checks -/

/-- The hardware was told something: what can go wrong now is that it does not do it. -/
def Rig.Undertaken {π κ : Type} (s : Served π κ) : Prop :=
  s.1 = .ok () ∨ s.1 = .error .internal

/-! ## The nRF52840 -/

namespace Nrf52

variable {π : Type} [Interface π] {r : Rig π Command} {c : Record.Config}
  {line : Interrupt.Line}

theorem init_of_none (hpass : (profile r.hardware).refusal? r.driver.state c = none)
    (hline : r.driver.line = some line) : (init c r).1 = .ok () := by
  obtain ⟨crv, hcrv⟩ := Option.isSome_iff_exists.mp
    (crvForMillis?_isSome_iff.mpr (Profile.bounds_of_refusal? hpass))
  obtain ⟨_, hinit⟩ := init_eq hpass hcrv (Driver.lineFor?_of_bound hline c)
  rw [hinit]
  rfl

end Nrf52

/-! ## The RTL872x -/

namespace Rtl872x

theorem reconfigurable : profile.capabilities.contains .reconfigurable = true := by
  decide

variable {π : Type} [Interface π] {r : Rig π Command} {c : Record.Config}
  {line : Interrupt.Line} {next : Rig π Command → Served π Command}

theorem undertaken_confirm {want : Bool} (hn : ∀ r, Rig.Undertaken (next r)) :
    Rig.Undertaken (confirm want r next) := by
  cases confirm_ways want r next with
  | agrees _ eq => exact eq ▸ hn r
  | differs _ eq => exact eq ▸ .inr rfl

theorem undertaken_commit (divider : Divider) (live : Bool) :
    Rig.Undertaken (commit c divider live r) := by
  unfold commit
  dsimp only
  split
  · exact undertaken_confirm fun _ => .inl rfl
  · exact .inl rfl

theorem undertaken_init (hpass : profile.refusal? r.driver.state c = none)
    (hline : r.driver.line = some line) : Rig.Undertaken (init c r) := by
  obtain ⟨divider, hdivider⟩ := Option.isSome_iff_exists.mp (forMillis?_of_refusal? hpass)
  obtain ⟨bound, hbound⟩ : ∃ bound, r.driver.lineFor? c = some bound :=
    ⟨_, Driver.lineFor?_of_bound hline c⟩
  rw [init_eq hpass hdivider hbound]
  dsimp only
  split
  · exact undertaken_commit divider _
  · exact .inr (restore_failed ..)

end Rtl872x

/-! ## The task watchdog -/

namespace Twdt

theorem reconfigurable : profile.capabilities.contains .reconfigurable = true := by
  decide

variable {π : Type} [Interface π] {r : Rig π Command} {c : Record.Config}
  {line : Interrupt.Line} {next : Rig π Command → Served π Command}

theorem undertaken_write {name : String} {command : Command}
    (hn : ∀ r, Rig.Undertaken (next r)) : Rig.Undertaken (write name command r next) := by
  cases write_ways name command r next with
  | succeeds _ eq => exact eq ▸ hn _
  | fails _ eq => exact eq ▸ .inr rfl

theorem undertaken_confirm {want : Bool} (hn : ∀ r, Rig.Undertaken (next r)) :
    Rig.Undertaken (confirm want r next) := by
  cases confirm_ways want r next with
  | agrees _ eq => exact eq ▸ hn r
  | differs _ eq => exact eq ▸ .inr rfl

theorem undertaken_commit (r : Rig π Command) : Rig.Undertaken (commit c r) := by
  unfold commit
  dsimp only
  split
  · exact undertaken_write fun _ => undertaken_confirm fun _ => .inl rfl
  · exact .inl rfl

theorem undertaken_init (hpass : profile.refusal? r.driver.state c = none)
    (hline : r.driver.line = some line) : Rig.Undertaken (init c r) := by
  have hprogram : ∀ r : Rig π Command, Rig.Undertaken (reconfigure c r) :=
    fun _ => undertaken_write undertaken_commit
  rw [init_eq hpass (Driver.lineFor?_of_bound hline c)]
  unfold attach
  split
  · exact undertaken_write hprogram
  · exact hprogram r

end Twdt

/-! ## Any device -/

namespace Device

variable {device : Device} {driver : Driver} {c : Record.Config} {line : Interrupt.Line}

/-- The error with which a configuration is turned away, if it is: that of the first check
which it does not pass. -/
def verdict (device : Device) (state : Lifecycle) (c : Record.Config) : Option Error :=
  if c.size.toNat < 4 ∨ c.version = 0 ∨ c.timeoutMs = 0 then
    some .invalidArgument
  else if state ≠ .uninitialized ∧
      device.profile.capabilities.contains .reconfigurable = false then
    some .invalidState
  else if c.timeoutMs < device.profile.minTimeoutMs ∨
      device.profile.maxTimeoutMs < c.timeoutMs then
    some .invalidArgument
  else if c.hardReset = false ∧ device.profile.capabilities.contains .interrupt = false then
    some .notSupported
  else
    none

theorem verdict_eq (device : Device) (state : Lifecycle) (c : Record.Config) :
    device.verdict state c = (device.profile.refusal? state c).map (·.cause) := by
  unfold verdict Profile.refusal?
  simp only [apply_ite (Option.map Refusal.cause), Option.map_some, Option.map_none]
  rfl

/-- The period is one that the hardware has numbers for. Those of the task watchdog are
microseconds, in 32 bits. -/
def Counts (ms : UInt32) : Device → Prop
  | nrf52 _ | eager _ => (Nrf52.crvForMillis? ms).isSome
  | rtl872x _ => (Rtl872x.Divider.forMillis? ms).isSome
  | twdt _ | unfaithful _ => ms.toNat * 1000 < 2 ^ 32

theorem counts_of_bounds {ms : UInt32} (h : device.profile.minTimeoutMs ≤ ms)
    (h' : ms ≤ device.profile.maxTimeoutMs) : device.Counts ms := by
  have hmicros : ms ≤ Twdt.maxTimeoutMs → ms.toNat * 1000 < 2 ^ 32 := fun hle => by
    have hmax : Twdt.maxTimeoutMs.toNat = 4294967 := by decide
    have := UInt32.le_iff_toNat_le.mp hle
    omega
  cases device with
  | nrf52 | eager => exact Nrf52.crvForMillis?_isSome_iff.mpr ⟨h, h'⟩
  | rtl872x => exact Rtl872x.Divider.forMillis?_isSome_iff.mpr ⟨h, h'⟩
  | twdt | unfaithful => exact hmicros h'

/-- What configures is an `init`, with its own configuration or with the last one. -/
theorem serve_of_config? {q : Request} (hq : q.config? driver = some c) (device : Device) :
    device.serve q driver = device.serve (.init c) driver := by
  cases q with
  | start | stop | refresh => cases hq
  | init => cases hq; rfl
  | setTimeout => cases hq; cases device <;> rfl

/-- What passes is programmed. It fails only where there is a readback to fail. -/
theorem init_of_none (hpass : device.profile.refusal? driver.state c = none)
    (hline : driver.line = some line) :
    (device.serve (.init c) driver).result = .ok () ∨
      device.profile.capabilities.contains .reconfigurable = true ∧
        (device.serve (.init c) driver).result = .error .internal := by
  cases device with
  | nrf52 p => exact .inl (Nrf52.init_of_none (r := { driver, hardware := p }) hpass hline)
  | eager p => exact .inl (Nrf52.init_of_none (r := { driver, hardware := p }) hpass hline)
  | rtl872x p =>
      exact (Rtl872x.undertaken_init (r := { driver, hardware := p }) hpass hline).imp_right
        fun hfailed => ⟨Rtl872x.reconfigurable, hfailed⟩
  | twdt p =>
      exact (Twdt.undertaken_init (r := { driver, hardware := p }) hpass hline).imp_right
        fun hfailed => ⟨Twdt.reconfigurable, hfailed⟩
  | unfaithful p =>
      exact (Twdt.undertaken_init (r := { driver, hardware := p }) hpass hline).imp_right
        fun hfailed => ⟨Twdt.reconfigurable, hfailed⟩

end Device

/-! ## Lines -/

namespace System

variable {κ : Type} {s t : System κ} {w : Watchdog} {slot : Slot} {device : Device}

/-- Every driver has the line under its own instance. -/
def Bound (s : System κ) : Prop :=
  ∀ w slot, s.slot? w = some slot → slot.driver.line = some ⟨w.registry, w.id⟩

theorem Bound.of_slots (hs : s.Bound) (h : ∀ w, t.slot? w = s.slot? w) : t.Bound :=
  fun w slot hslot => hs w slot ((h w).symm.trans hslot)

theorem Bound.modifySlot (hs : s.Bound) (w : Watchdog) {f : Slot → Slot}
    (hid : ∀ slot, (f slot).id = slot.id)
    (hline : ∀ slot, s.slot? w = some slot → (f slot).driver.line = slot.driver.line) :
    (s.modifySlot w f).Bound := by
  intro w' slot' hslot'
  rw [slot?_modifySlot s w hid] at hslot'
  split at hslot'
  · next hw =>
      obtain ⟨slot, hslot, rfl⟩ := Option.map_eq_some_iff.mp hslot'
      rw [hline slot hslot, hw]
      exact hs w slot hslot
  · exact hs w' slot' hslot'

theorem Bound.build (hs : s.Bound) (pairs : List (UInt8 × Nat)) : (s.build pairs).2.Bound := by
  intro w slot hslot
  obtain hkept | ⟨hnew, old, -, rfl⟩ := slot?_build hslot
  · exact hs w slot hkept
  · show some (Interrupt.Line.mk s.registries.size old.id) = _
    rw [show old.id = w.id from (slot?_eq_some hslot).2, hnew]

/-- By induction on the course: a driver never lets go of its line. -/
theorem Course.bound (h : Course s t) (hs : s.Bound) : t.Bound := by
  induction h with
  | start => exact hs
  | @undertake t w slot device _ found _ _ q ih =>
      have hput : (t.putDevice slot.device (device.serve q slot.driver).device
        (device.serve q slot.driver).calls).Bound := ih.of_slots fun _ => rfl
      refine (hput.modifySlot w (by exact fun _ => rfl) fun old hold => ?_).of_slots
        fun _ => rfl
      obtain rfl := Option.some.inj (found.symm.trans hold)
      exact Device.line_serve device slot.driver q
  | release _ w ih => exact ih.modifySlot w (by exact fun _ => rfl) fun _ _ => rfl
  | count _ line ih => exact ih.of_slots (slot?_count _ line)
  | @onExpired t _ w callback ih =>
      refine ih.of_slots fun w' => ?_
      unfold slot? Registry.slot?
      rw [(onExpired_frame t w callback).2.2]
  | build _ pairs ih => exact ih.build pairs
  | elsewhere _ kept ih => exact ih.of_slots (slot?_of_registries kept)

theorem bound_of_new (h : s.registries = #[{}]) : s.Bound := by
  intro w slot hslot
  have hempty : s.slot? w = none := by
    unfold slot? registry
    rw [h, Array.getD_eq_getD_getElem?]
    cases w.registry <;> rfl
  exact absurd (hempty.symm.trans hslot) nofun

/-! ## Requests that configure -/

/-- A watchdog of any registry, not busy, at any moment after the first registry was built,
in the midst of a callback included. A configuration is turned away exactly by the four
checks, and then no call was made and the books are as they were. Any other is for a period
that the hardware has numbers for. Hardware that can be configured only once takes it; the
rest takes it or fails. -/
theorem configuring_is_screened {s₀ : System κ} (h₀ : s₀.registries = #[{}])
    (hs : Course s₀ s) (hslot : s.slot? w = some slot) (hidle : slot.busy = false)
    (hk : s.device? slot.device = some device) {q : Request} {c : Record.Config}
    (hq : q.config? slot.driver = some c) (h : Handler κ) :
    let verdict := device.verdict slot.driver.state c
    let served := s.serve h w q
    (∀ e, e ≠ .internal → (served.1 = .error e ↔ verdict = some e)) ∧
      (∀ e, verdict = some e →
        served.2.devices = s.devices ∧ served.2.slot? w = some slot) ∧
      (verdict = none → device.Counts c.timeoutMs ∧
        (served.1 = .ok () ∨
          device.profile.capabilities.contains .reconfigurable = true ∧
            served.1 = .error .internal)) := by
  have hne : q ≠ .refresh := by rintro rfl; cases hq
  obtain ⟨hresult, hex⟩ := answered hslot hidle hk hne h
  rw [Device.serve_of_config? hq] at hresult hex
  dsimp only
  rw [hresult, Device.verdict_eq]
  cases hwhy : device.profile.refusal? slot.driver.state c with
  | some why =>
      have hinit := Device.init_of_refusal hwhy
      refine ⟨fun e _ => ?_, fun e _ => ⟨?_, ?_⟩, nofun⟩
      · rw [hinit, Option.map_some]
        exact ⟨fun he => congrArg some (Except.error.inj he),
          fun he => congrArg Except.error (Option.some.inj he)⟩
      · rw [← Device.serve_of_config? hq] at hinit
        exact devices_serve hslot hidle hk (by rw [hinit]) (by rw [hinit]) (by rw [hinit]) h
      · rw [hex.slot_of_idle hidle, hinit]
  | none =>
      have hline := hs.bound (bound_of_new h₀) w slot hslot
      have hends := Device.init_of_none hwhy hline
      refine ⟨fun e he => ⟨fun herror => ?_, nofun⟩, nofun, fun _ => ⟨?_, hends⟩⟩
      · rcases hends with hok | ⟨-, hfailed⟩
        · exact nomatch hok.symm.trans herror
        · exact absurd (Except.error.inj (herror.symm.trans hfailed)) he
      · obtain ⟨hlow, hhigh⟩ := Profile.bounds_of_refusal? hwhy
        exact Device.counts_of_bounds hlow hhigh

/-- An RTL872x that runs, configured anew by a callback in the midst of another watchdog's
refresh, is asked for more than it can count: nothing is written. -/
theorem overlong_period_is_turned_away :
    let i : Instance := ⟨0, by decide⟩
    let soft : Record.Config := { timeoutMs := 1000, hardReset := false }
    let s := (Scenario.runAll (Scenario.handler 3)
      [.build [(0, 0), (1, 1)], .request 0 (.init soft), .request 0 .start,
        .onExpired 1 "again" [.request 0 (.init { soft with timeoutMs := 2000 })],
        .request 1 (.init soft), .request 1 .start, .request 1 .refresh] #[]
      (Scenario.initial [.rtl872x {}, .eager {}])).2
    let served := s.serve (Scenario.handler 3) ⟨1, i⟩ (.setTimeout ⟨9000000000000⟩)
    served.1 = .error .invalidArgument ∧ served.2.devices = s.devices ∧
      ∃ slot, served.2.slot? ⟨1, i⟩ = some slot ∧ slot.driver.state = .running ∧
        slot.driver.timeoutMs = 2000 := by
  intro i soft s served
  have hs : Course (Scenario.initial [.rtl872x {}, .eager {}]) s :=
    Scenario.course_scenario 3 _ _ _
  have hslot : s.slot? ⟨1, i⟩ = some
      { id := i, device := 0
        driver := {
          state := .running, config := some { soft with timeoutMs := 2000 }
          timeoutMs := 2000, line := some ⟨1, i⟩ } } := by
    decide +kernel
  have hprofile : (s.device? 0).map (·.profile) = some Rtl872x.profile := by decide +kernel
  -- what the run leads to is not to be computed again
  clear_value s
  obtain ⟨device, hk, hfamily⟩ := Option.map_eq_some_iff.mp hprofile
  obtain ⟨hiff, hkept, -⟩ := configuring_is_screened rfl hs hslot rfl hk
    (q := .setTimeout ⟨9000000000000⟩) rfl (Scenario.handler 3)
  dsimp only at hiff hkept
  generalize hconfig : Driver.withTimeout _ _ = c at hiff hkept
  have hverdict : device.verdict .running c = some .invalidArgument := by
    rw [Device.verdict, hfamily, ← hconfig]
    decide
  obtain ⟨hdevices, hafter⟩ := hkept _ hverdict
  exact ⟨(hiff _ (by decide)).mpr hverdict, hdevices, _, hafter, rfl, rfl⟩

end System

end TwoTierWatchdog
