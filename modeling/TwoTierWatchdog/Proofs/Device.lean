import TwoTierWatchdog.Deployment
import TwoTierWatchdog.Proofs.Nrf52.Books
import TwoTierWatchdog.Proofs.Rtl872x.Books
import TwoTierWatchdog.Proofs.Trace
import TwoTierWatchdog.Proofs.Twdt.Books

/-!
# The books on a device

The three families side by side. What is proved of each of them is stated here once for
a device, so that nothing that follows looks at a family again. A device without a clock
is no simulated peripheral, and counts as unsound.
-/

namespace TwoTierWatchdog.Device

/-- The registers are sound in themselves. -/
def Sound : Device → Prop
  | nrf52 p => p.Sound
  | rtl872x p => p.Sound
  | twdt p => p.Sound
  | eager _ | unfaithful _ => False

/-- The books of a driver agree with the registers. -/
def Books (powered : Bool) (d : Driver) : Device → Prop
  | nrf52 p => Nrf52.Books powered d p
  | rtl872x p => Rtl872x.Books d p
  | twdt p => Twdt.Books d p
  | eager _ | unfaithful _ => False

/-- The period that the registers hold, in milliseconds. -/
def heldMs? : Device → Option UInt32
  | nrf52 p => some (Nrf52.millisForCrv p.crv)
  | rtl872x p => some p.divider.timeoutMs
  | twdt p => p.timeoutMs
  | eager _ | unfaithful _ => none

/-- The period that the registers hold, as the counter counts it. -/
def heldPeriod? : Device → Option Duration
  | nrf52 p => some (Nrf52.Peripheral.periodOf p.crv)
  | rtl872x p => some (Rtl872x.Peripheral.periodOf p.divider)
  | twdt p => p.timeoutMs.map fun ms => .ofMillis ms.toNat
  | eager _ | unfaithful _ => none

variable {device device' : Device} {d d' : Driver} {powered : Bool}

theorem sound_fresh (sim : Sim) : sim.fresh.Sound := by
  cases sim with
  | nrf52 vectorClaimed => exact Nrf52.sound_fresh vectorClaimed
  | rtl872x => exact Rtl872x.sound_fresh
  | twdt => exact Twdt.sound_fresh

/-- The books are about state and period. -/
theorem Books.of_eq (h : device.Books powered d) (hs : d'.state = d.state)
    (ht : d'.timeoutMs = d.timeoutMs) : device.Books powered d' := by
  cases device with
  | nrf52 p =>
      exact ⟨fun hr => hs.trans (h.running hr), fun hr => ht.trans (h.reported hr),
        fun hp hu => ht ▸ h.configured hp (hs ▸ hu)⟩
  | rtl872x p =>
      exact ⟨fun hr => hs.trans (h.running hr), fun hu => ht ▸ h.configured (hs ▸ hu)⟩
  | twdt p =>
      exact ⟨fun hr => hs.trans (h.running hr), fun hu => ht ▸ h.configured (hs ▸ hu)⟩
  | eager p | unfaithful p => exact h

theorem books_adopt (h : device.Sound) : device.Books true device.adopt.1 := by
  cases device with
  | nrf52 p => exact Nrf52.books_adopt p h
  | rtl872x p => exact Rtl872x.books_adopt h
  | twdt p => exact Twdt.books_adopt h
  | eager p | unfaithful p => exact h

/-- A new driver has taken no configuration, also over a device that runs. -/
theorem config_adopt (device : Device) : device.adopt.1.config = none := by
  cases device with
  | nrf52 p | eager p =>
      show (Nrf52.adopt p).1.config = none
      unfold Nrf52.adopt
      split <;> rfl
  | rtl872x p =>
      show (Rtl872x.adopt p).1.config = none
      unfold Rtl872x.adopt
      split <;> rfl
  | twdt p | unfaithful p =>
      show (Twdt.adopt p).1.config = none
      unfold Twdt.adopt
      split <;> rfl

/-! ## Requests -/

/-- No simulated peripheral fires its line in the middle of a call. -/
theorem Sound.raised_serve (hs : device.Sound) (d : Driver) (q : Request) :
    (device.serve q d).raised = [] := by
  refine Device.raised_serve d fun _ p hp => ?_
  subst hp
  exact hs

theorem settled_serve (hs : device.Sound) (hb : device.Books true d) (q : Request) :
    (device.serve q d).device.Sound ∧
      (device.serve q d).device.Books true (device.serve q d).driver := by
  cases device with
  | nrf52 p =>
      have h := Nrf52.settled_serve (r := { driver := d, hardware := p }) ⟨hs, hb, rfl⟩ q
      exact ⟨h.sound, h.books⟩
  | rtl872x p =>
      have h := Rtl872x.settled_serve (r := { driver := d, hardware := p }) ⟨hs, hb, rfl⟩ q
      exact ⟨h.sound, h.books⟩
  | twdt p =>
      have h := Twdt.settled_serve (r := { driver := d, hardware := p }) ⟨hs, hb, rfl⟩ q
      exact ⟨h.sound, h.books⟩
  | eager p | unfaithful p => exact hs.elim

/-- The driver of a device that runs knows so, and knows its period. -/
theorem Books.of_running (hs : device.Sound) (hb : device.Books powered d)
    (hr : device.isRunning = true) :
    d.state = .running ∧ device.heldMs? = some d.timeoutMs := by
  cases device with
  | nrf52 p => exact ⟨hb.running hr, by rw [heldMs?, ← hb.reported hr]⟩
  | rtl872x p =>
      have hd : d.state = .running := hb.running hr
      exact ⟨hd, by rw [heldMs?, ← (hb.configured (by simp [hd])).1]⟩
  | twdt p =>
      have hd : d.state = .running := hb.running hr
      exact ⟨hd, hb.configured (by simp [hd])⟩
  | eager p | unfaithful p => exact hs.elim

/-- A device that runs is fed, unless it is a task watchdog with a fault due. -/
theorem Books.refresh (hs : device.Sound) (hb : device.Books powered d)
    (hr : device.isRunning = true) :
    (device.serve .refresh d).raised = [] ∧
      ((device.serve .refresh d).result = .ok () ∧ (∃ period,
        device.heldPeriod? = some period ∧
          (device.serve .refresh d).device.remaining? = some period) ∨
      (device.serve .refresh d).result = .error .internal ∧
        ∃ p e, device = twdt p ∧ p.takeFailure.1 = some e) := by
  refine ⟨hs.raised_serve d .refresh, ?_⟩
  cases device with
  | nrf52 p =>
      obtain ⟨hserve, hw⟩ := Nrf52.refresh_of_running hs hb hr
      refine .inl ⟨?_, _, rfl, ?_⟩
      · show (Nrf52.serve _ _).1 = .ok ()
        rw [hserve]
      · show Nrf52.Peripheral.remaining? (Nrf52.serve _ _).2.hardware = _
        rw [hserve, hw]
        exact if_pos hr
  | rtl872x p =>
      obtain ⟨hserve, hw⟩ := Rtl872x.refresh_of_enabled hs hb hr
      refine .inl ⟨?_, _, rfl, ?_⟩
      · show (Rtl872x.serve _ _).1 = .ok ()
        rw [hserve]
      · show Rtl872x.Peripheral.remaining? (Rtl872x.serve _ _).2.hardware = _
        rw [hserve]
        exact (if_pos hr).trans (congrArg (some ∘ Countdown.remaining) hw)
  | twdt p =>
      rcases Twdt.refresh_of_subscribed hb hr with ⟨he, e, hdue⟩ | ⟨hok, hrem⟩
      · exact .inr ⟨he, p, e, rfl, hdue⟩
      · obtain ⟨t, ht⟩ := Option.ne_none_iff_exists'.mp (hs.programmed hr)
        refine .inl ⟨hok, _, ?_, hrem⟩
        rw [heldPeriod?, ht, hs.timed t ht]
        rfl
  | eager p | unfaithful p => exact hs.elim

/-! ## What happens to a device without its driver -/

/-- What was true of registers and books before is true after. -/
structure Follows (powered powered' : Bool) (device device' : Device) : Prop where
  sound : device.Sound → device'.Sound
  books : ∀ d, device.Books powered d → device'.Books powered' d

/-- Once the power was lost less is claimed, and of the same registers. -/
theorem follows_refl {powered' : Bool} (hp : powered' = true → powered = true)
    (device : Device) : Follows powered powered' device device := by
  refine ⟨id, fun d h => ?_⟩
  cases device with
  | nrf52 p => exact ⟨h.running, h.reported, fun hp' => h.configured (hp hp')⟩
  | rtl872x p | twdt p | eager p | unfaithful p => exact h

theorem follows_elapse (powered : Bool) (device : Device) (time : Duration) :
    Follows powered powered device (device.elapse time) := by
  cases device with
  | nrf52 p =>
      exact ⟨fun h => Nrf52.sound_elapse h time,
        fun d h => ⟨h.running, h.reported, h.configured⟩⟩
  | rtl872x p =>
      exact ⟨fun h => Rtl872x.sound_elapse h time, fun d h => ⟨h.running, h.configured⟩⟩
  | twdt p =>
      exact ⟨fun h => Twdt.sound_elapse h time, fun d h => ⟨h.running, h.configured⟩⟩
  | eager p | unfaithful p => exact ⟨id, fun _ => id⟩

theorem follows_strike (powered : Bool) (device : Device) :
    Follows powered powered device device.strike.1 := by
  cases device with
  | rtl872x p => exact ⟨Rtl872x.sound_expire, fun _ => Rtl872x.books_expire⟩
  | twdt p => exact ⟨Twdt.sound_expire, fun _ => Twdt.books_expire⟩
  | nrf52 p | eager p | unfaithful p => exact ⟨id, fun _ => id⟩

theorem follows_recover (powered : Bool) (device : Device) :
    Follows powered powered device device.recover.1 := by
  cases device with
  | nrf52 p =>
      exact ⟨Nrf52.sound_reset, fun d h => ⟨h.running, h.reported, h.configured⟩⟩
  | rtl872x p | twdt p | eager p | unfaithful p => exact ⟨id, fun _ => id⟩

/-! ## What a test bench does -/

/-- What a test bench makes of a device, a call of its own apart. -/
inductive Poked : Stimulus → Device → Device → Prop
  | powerCycle (p : Nrf52.Peripheral) : Poked .powerCycle (nrf52 p) (nrf52 p.powerCycle)
  | ignoreStart (on : Bool) (p : Nrf52.Peripheral) :
      Poked (.ignoreStart on) (nrf52 p) (nrf52 { p with startIgnored := on })
  | vectorAvailable (p : Nrf52.Peripheral) : Poked .vectorAvailable (nrf52 p) (nrf52 p)
  | stickEnable (on : Bool) (p : Rtl872x.Peripheral) :
      Poked (.stickEnable on) (rtl872x p) (rtl872x { p with enableStuck := on })
  | lockDivider (on : Bool) (p : Rtl872x.Peripheral) :
      Poked (.lockDivider on) (rtl872x p) (rtl872x { p with dividerLocked := on })
  | failAfter (calls : Nat) (e : Twdt.VendorError) (p : Twdt.Peripheral) :
      Poked (.failAfter calls e) (twdt p)
        (twdt { p with failure := some e, failureSkip := calls })
  | setRunning (on : Bool) (p : Nrf52.Eager) :
      Poked (.setRunning on) (eager p) (eager { p with running := on })
  | setSubscribed (on : Bool) (p : Twdt.Unfaithful) :
      Poked (.setSubscribed on) (unfaithful p) (unfaithful { p with subscribed := on })

theorem poked_of_poke {what : Stimulus} {reply : Reply} (hcall : ∀ c, what ≠ .call c)
    (h : device.poke what = some (reply, device')) : Poked what device device' := by
  cases what with
  | call c => exact absurd rfl (hcall c)
  | _ => cases device <;> cases h <;> constructor

/-- Faults change no register that the books are about. Only a power cycle does, and
what it leaves behind is claimed only once the registry is built anew. -/
theorem follows_poke {what : Stimulus} {reply : Reply}
    (hc : ∀ c, what ≠ .call c) (h : device.poke what = some (reply, device')) :
    Follows powered (powered && what != .powerCycle) device device' := by
  cases poked_of_poke hc h with
  | powerCycle p =>
      refine ⟨fun _ => Nrf52.sound_powerCycle p, fun d h => ⟨nofun, nofun, ?_⟩⟩
      simp
  | ignoreStart on p =>
      exact ⟨fun h => ⟨h.fed, h.period⟩, fun d h =>
        ⟨h.running, h.reported, fun hp => h.configured (Bool.and_eq_true_iff.mp hp).1⟩⟩
  | vectorAvailable p =>
      exact ⟨id, fun d h =>
        ⟨h.running, h.reported, fun hp => h.configured (Bool.and_eq_true_iff.mp hp).1⟩⟩
  | stickEnable on p | lockDivider on p =>
      exact ⟨fun h => ⟨h.enabled, h.written⟩, fun d h => ⟨h.running, h.configured⟩⟩
  | failAfter calls e p =>
      exact ⟨fun h => ⟨h.timed, h.programmed⟩, fun d h => ⟨h.running, h.configured⟩⟩
  | setRunning on p | setSubscribed on p => exact ⟨False.elim, fun _ => False.elim⟩

end TwoTierWatchdog.Device
