import TwoTierWatchdog.Proofs.Device
import TwoTierWatchdog.Proofs.Rtl872x.Search

/-!
# Counters that are wound up

A counter that runs has a period, and something left of it, which is no more than the
period. That is so of every simulated peripheral as long as it is told what to do by
drivers alone, and it is what makes time pass: a counter with nothing left would expire
over and over at the same moment.

An expiry is the one time at which nothing is left. The RTL872x and the task watchdog
reload or stop before their interrupt is delivered, so that a callback finds them wound
up or at rest. The nRF52840 reloads only afterwards: while its interrupt is being
delivered it still has its period, and that is all a feed or the reset to come needs.

The period itself comes from three places. An nRF52840 takes it from its reload value at
the start, and there is none too small. A task watchdog takes it with its configuration,
and the driver lets no empty one through. An RTL872x takes it when its divider is written,
and has none before that; what keeps its driver from enabling it too early is the driver's
own state.
-/

namespace TwoTierWatchdog

/-- There is a period, and no more left than that. Nothing may be left where nothing has
settled yet. -/
structure Countdown.Wound (settled : Prop) (c : Countdown) : Prop where
  period : 0 < c.period.nanos
  within : c.remaining.nanos ≤ c.period.nanos
  left : settled → 0 < c.remaining.nanos

namespace Countdown

variable {settled : Prop} {c : Countdown} {time : Duration}

theorem wound_reload (h : 0 < c.period.nanos) : c.reload.Wound settled :=
  ⟨h, Nat.le_refl _, fun _ => h⟩

theorem wound_ofPeriod (h : 0 < time.nanos) : (ofPeriod time).Wound settled :=
  ⟨h, Nat.le_refl _, fun _ => h⟩

theorem Wound.elapse (h : c.Wound settled) (hlt : settled → time.nanos < c.remaining.nanos) :
    (c.elapse time).Wound settled :=
  ⟨h.period, Nat.le_trans (Nat.sub_le ..) h.within, fun hs => Nat.sub_pos_of_lt (hlt hs)⟩

theorem Wound.mono {settled' : Prop} (h : c.Wound settled) (hs : settled' → settled) :
    c.Wound settled' :=
  ⟨h.period, h.within, fun hs' => h.left (hs hs')⟩

end Countdown

/-! ## The nRF52840 -/

namespace Nrf52.Peripheral

variable {settled : Prop} {p : Peripheral}

/-- Even the smallest reload value is a tick. -/
theorem periodOf_pos (crv : UInt32) : 0 < (periodOf crv).nanos := by
  have hcrv := crv.toNat_lt
  have hticks : (ticks crv).toNat = crv.toNat + 1 := by
    rw [ticks, UInt64.toNat_add, UInt32.toNat_toUInt64, UInt64.toNat_one,
      Nat.mod_eq_of_lt (by omega)]
  have hhz : clockHz.toNat = 32768 := rfl
  show 0 < (ticks crv).toNat * 1000000000 / clockHz.toNat
  rw [hticks, hhz]
  omega

def Wound (settled : Prop) (p : Peripheral) : Prop :=
  p.running = true → p.countdown.Wound settled

/-- Whatever is written: a start sets the counter to a period, and a feed puts it back. -/
theorem Wound.write (c : Command) (h : p.Wound settled) : (p.write c).Wound settled := by
  cases c with
  | setReloadValue crv =>
      simp only [Peripheral.write]
      split
      · exact h
      · exact h
  | setBehaviour | enableReloadChannel | enableTimeoutInterrupt => exact h
  | start =>
      simp only [Peripheral.write]
      split
      · exact h
      · exact fun _ => Countdown.wound_ofPeriod (periodOf_pos p.crv)
  | feed channel =>
      simp only [Peripheral.write]
      split
      · exact fun hr => Countdown.wound_reload (h hr).period
      · exact h

end Nrf52.Peripheral

/-! ## The RTL872x -/

namespace Rtl872x

namespace Peripheral

variable {p : Peripheral}

/-- Every span counts something, whatever its selector. -/
theorem periodOf_pos (d : Divider) : 0 < (periodOf d).nanos := by
  obtain ⟨hpos, hle⟩ := d.count_bounds
  have hticks : 0 < d.ticks.toNat := by
    rw [Divider.toNat_ticks hle]
    exact Nat.mul_pos (Nat.succ_pos _) hpos
  have hhz : clockHz.toNat = 32768 := rfl
  show 0 < d.ticks.toNat * 1000000000 / clockHz.toNat
  rw [hhz]
  omega

/-- The divider was written, so that there is a period. -/
def Programmed (p : Peripheral) : Prop :=
  0 < p.countdown.period.nanos

structure Wound (p : Peripheral) : Prop where
  /-- The prescaler of the reset value is zero, and no driver writes it. -/
  written : p.divider.divFac ≠ 0 → p.Programmed
  enabled : p.enabled = true → p.countdown.Wound True

theorem Programmed.write (c : Command) (h : p.Programmed) : (p.write c).Programmed := by
  cases c with
  | configure divider early =>
      simp only [Peripheral.write]
      split
      · exact h
      · exact periodOf_pos divider
  | attachInterrupt line => exact h
  | setEnabled on =>
      simp only [Peripheral.write]
      split
      · exact h
      · split
        · exact h
        · exact h
  | refresh => exact h

/-- Only a counter without a period must not be enabled. -/
theorem Wound.write (c : Command) (h : p.Wound) (hc : c = .setEnabled true → p.Programmed) :
    (p.write c).Wound := by
  cases c with
  | configure divider early =>
      simp only [Peripheral.write]
      split
      · exact h
      · exact ⟨fun _ => periodOf_pos divider,
          fun _ => Countdown.wound_ofPeriod (periodOf_pos divider)⟩
  | attachInterrupt line => exact ⟨h.written, h.enabled⟩
  | setEnabled on =>
      simp only [Peripheral.write]
      split
      · exact h
      · split
        · next hon =>
            obtain ⟨rfl, -⟩ := Bool.and_eq_true_iff.mp hon
            exact ⟨h.written, fun _ => Countdown.wound_reload (hc rfl)⟩
        · next hon =>
            refine ⟨h.written, fun he => h.enabled ?_⟩
            obtain rfl : on = true := he
            simpa using hon
  | refresh => exact ⟨h.written, fun he => Countdown.wound_reload (h.enabled he).period⟩

/-- Time may take all that is left: an expiry that follows reloads the counter or stops
it. -/
theorem Wound.expire_elapse (h : p.Wound) (time : Duration) :
    (p.elapse time).expire.1.Wound := by
  unfold expire
  split
  · exact ⟨h.written, fun he => Countdown.wound_reload (h.enabled he).period⟩
  · exact ⟨h.written, nofun⟩

end Peripheral

/-! ### The driver -/

/-- The counter is wound up, and a driver that may enable it has given it a period. -/
structure Wound (r : Rig Peripheral Command) : Prop where
  hardware : r.hardware.Wound
  programmed : r.driver.state ≠ .uninitialized → r.hardware.Programmed

namespace Wound

variable {r : Rig Peripheral Command} {next : Rig Peripheral Command → Served Peripheral Command}

theorem write (h : Wound r) (c : Command)
    (hc : c = .setEnabled true → r.driver.state ≠ .uninitialized) :
    Wound (Rtl872x.write c r) :=
  ⟨h.hardware.write c fun hon => h.programmed (hc hon), fun hs => (h.programmed hs).write c⟩

theorem note (h : Wound r) (level : Log.Level) (text : String) : Wound (r.note level text) :=
  ⟨h.hardware, h.programmed⟩

theorem enter (h : Wound r) {f : Driver → Driver}
    (hf : (f r.driver).state ≠ .uninitialized → r.driver.state ≠ .uninitialized) :
    Wound (r.enter f) :=
  ⟨h.hardware, fun hs => h.programmed (hf hs)⟩

theorem confirm (h : Wound r) (want : Bool) (hn : Wound (next r).2) :
    Wound (Rtl872x.confirm want r next).2 := by
  cases confirm_ways want r next with
  | agrees _ eq => exact eq ▸ hn
  | differs _ eq => exact eq ▸ h.note _ _

theorem resume (h : Wound r) (hs : r.driver.state ≠ .uninitialized)
    (hn : ∀ {r' : Rig Peripheral Command}, Wound r' → Wound (next r').2) :
    Wound (Rtl872x.resume r next).2 := by
  have hw := (h.write (.setEnabled true) fun _ => hs).write .refresh nofun
  exact hw.confirm true (hn hw)

theorem program (h : Wound r) (divider : Divider) (line : Option Interrupt.Line)
    (live : Bool) : Wound (Rtl872x.program divider line live r) := by
  have hoff : Wound (if live then Rtl872x.write (.setEnabled false) r else r) := by
    cases live with
    | false => exact h
    | true => exact h.write (.setEnabled false) nofun
  have hdivider := hoff.write (.configure divider line.isSome) nofun
  unfold Rtl872x.program
  cases line with
  | none => exact hdivider
  | some line => exact hdivider.write (.attachInterrupt line) nofun

theorem restore (h : Wound r) (divider : Divider) (early : Bool) {live : Bool}
    (hlive : live = true → r.driver.state ≠ .uninitialized) :
    Wound (Rtl872x.restore divider early live r).2 := by
  have hw := (h.note .error
    "wdt(rtl872x): divider readback mismatch, restoring previous period").write
      (.configure divider early) nofun
  unfold Rtl872x.restore
  dsimp only
  split
  · next hl => exact hw.resume (hlive hl) fun h => h
  · exact hw

theorem commit (h : Wound r) (c : Record.Config) (divider : Divider) {live : Bool}
    (hp : r.hardware.Programmed) (hlive : live = true → r.driver.state ≠ .uninitialized) :
    Wound (Rtl872x.commit c divider live r).2 := by
  unfold Rtl872x.commit
  dsimp only
  split
  · next hl => exact (h.enter fun hs => hs).resume (hlive hl) fun h => h.note _ _
  · exact ⟨h.hardware, fun _ => hp⟩

theorem init (h : Wound r) (c : Record.Config) : Wound (Rtl872x.init c r).2 := by
  have hlive : ∀ divider line, decide (r.driver.state = .running) = true →
      (Rtl872x.program divider line (decide (r.driver.state = .running)) r).driver.state ≠
        .uninitialized := by
    intro divider line hl
    rw [driver_program, of_decide_eq_true hl]
    decide
  cases init_ways c r with
  | turnedAway away =>
      refine ⟨?_, ?_⟩
      · rw [away.hardware]
        exact h.hardware
      · rw [away.driver, away.hardware]
        exact h.programmed
  | @takes divider line _ found _ reads eq =>
      have hprogram := h.program divider line (r.driver.state = .running)
      refine eq ▸ hprogram.commit c divider (hprogram.hardware.written ?_) (hlive divider line)
      rw [show (Rtl872x.program divider line _ r).hardware.divider = divider from reads]
      exact (Divider.forMillis?_sound found).1
  | differs _ _ _ _ eq => exact eq ▸ (h.program _ _ _).restore _ _ (hlive _ _)

theorem launch (h : Wound r) (hs : r.driver.state ≠ .uninitialized) :
    Wound (Rtl872x.launch r).2 := by
  have hw := h.write (.setEnabled true) fun _ => hs
  exact hw.confirm true ((hw.enter fun _ => hs).note _ _)

theorem start (h : Wound r) : Wound (Rtl872x.start r).2 := by
  cases start_ways r with
  | unready _ eq => exact eq ▸ h
  | runs _ _ eq => exact eq ▸ h
  | launches past _ eq => exact eq ▸ h.launch past

theorem settle (h : Wound r) : Wound (Rtl872x.settle r).2 := by
  unfold Rtl872x.settle
  split
  · next hs => exact ⟨h.hardware, fun _ => h.programmed (by rw [hs]; decide)⟩
  · exact h

theorem stop (h : Wound r) : Wound (Rtl872x.stop r).2 := by
  unfold Rtl872x.stop
  split
  · have hw := h.write (.setEnabled false) nofun
    exact hw.confirm false (hw.note _ _).settle
  · exact h.settle

theorem serve (h : Wound r) (q : Request) : Wound (Rtl872x.serve r q).2 := by
  cases q with
  | init c => exact h.init c
  | setTimeout timeout => exact h.init _
  | start => exact h.start
  | stop => exact h.stop
  | refresh =>
      show Wound (Rtl872x.refresh r).2
      unfold Rtl872x.refresh
      split
      · exact h.write .refresh nofun
      · exact h

end Wound

end Rtl872x

/-! ## The task watchdog -/

namespace Twdt

namespace Peripheral

variable {p : Peripheral}

structure Wound (p : Peripheral) : Prop where
  programmed : p.timeoutMs.isNone = false → 0 < p.countdown.period.nanos
  subscribed : p.subscribed = true → p.countdown.Wound True

theorem Wound.takeFailure (h : p.Wound) : p.takeFailure.2.Wound := by
  unfold Peripheral.takeFailure
  split <;> exact ⟨h.programmed, h.subscribed⟩

/-- A period is empty only if it is given as such. -/
theorem Wound.act (c : Command) (h : p.Wound)
    (hc : ∀ panic, c ≠ .reconfigure 0 panic) : (p.act c).2.Wound := by
  cases c with
  | reconfigure ms panic =>
      have hms : ms.toNat ≠ 0 := fun hzero =>
        hc panic (congrArg (Command.reconfigure · panic) (UInt32.toNat_inj.mp hzero))
      have hperiod : 0 < (Duration.ofMillis ms.toNat).nanos :=
        Nat.mul_pos (Nat.pos_of_ne_zero hms) (by decide)
      exact ⟨fun _ => hperiod, fun _ => Countdown.wound_ofPeriod hperiod⟩
  | subscribe =>
      simp only [Peripheral.act]
      split
      · exact h
      · next hsome =>
          split
          · exact h
          · exact ⟨h.programmed, fun _ =>
              Countdown.wound_reload (h.programmed (Bool.eq_false_iff.mpr hsome))⟩
  | unsubscribe =>
      simp only [Peripheral.act]
      split
      · refine ⟨h.programmed, fun hs => ?_⟩
        cases hs
      · exact h
  | reset =>
      simp only [Peripheral.act]
      split
      · exact ⟨h.programmed, fun hs => Countdown.wound_reload (h.subscribed hs).period⟩
      · exact h
  | attachInterrupt line => exact ⟨h.programmed, h.subscribed⟩

theorem Wound.write (c : Command) (h : p.Wound)
    (hc : ∀ panic, c ≠ .reconfigure 0 panic) : (p.write c).2.Wound := by
  have htaken := h.takeFailure
  unfold Peripheral.write
  split
  · exact h.act _ hc
  · split
    · next ht =>
        rw [ht] at htaken
        exact htaken
    · next ht =>
        rw [ht] at htaken
        exact htaken.act _ hc

theorem Wound.expire_elapse (h : p.Wound) (time : Duration) :
    (p.elapse time).expire.1.Wound := by
  unfold expire
  split
  · exact ⟨h.programmed, nofun⟩
  · exact ⟨h.programmed, fun hs => Countdown.wound_reload (h.subscribed hs).period⟩

end Peripheral

/-! ### The driver -/

variable {r : Rig Peripheral Command} {next : Rig Peripheral Command → Served Peripheral Command}

theorem wound_write (h : r.hardware.Wound) {name : String} (c : Command)
    (hc : ∀ panic, c ≠ .reconfigure 0 panic)
    (hn : ∀ {r' : Rig Peripheral Command}, r'.hardware.Wound → (next r').2.hardware.Wound) :
    (write name c r next).2.hardware.Wound := by
  have hw : (Interface.write c r.hardware).2.Wound := h.write c hc
  cases write_ways name c r next with
  | succeeds acts eq =>
      rw [acts] at hw
      exact eq ▸ hn hw
  | fails acts eq =>
      rw [acts] at hw
      exact eq ▸ hw

theorem wound_confirm (h : r.hardware.Wound) {want : Bool} (hn : (next r).2.hardware.Wound) :
    (confirm want r next).2.hardware.Wound := by
  cases confirm_ways want r next with
  | agrees _ eq => exact eq ▸ hn
  | differs _ eq => exact eq ▸ h

theorem wound_commit (h : r.hardware.Wound) (c : Record.Config) :
    (commit c r).2.hardware.Wound := by
  unfold commit
  dsimp only
  split
  · refine wound_write (r := r.enter _) h .reset nofun fun h => wound_confirm h ?_
    exact h
  · exact h

theorem wound_reconfigure (h : r.hardware.Wound) {c : Record.Config} (hms : c.timeoutMs ≠ 0) :
    (reconfigure c r).2.hardware.Wound :=
  wound_write h _ (fun _ hzero => hms (Command.reconfigure.inj hzero).1) fun h =>
    wound_commit h c

/-- No configuration without a period passes the checks. -/
theorem wound_init (h : r.hardware.Wound) (c : Record.Config) :
    (init c r).2.hardware.Wound := by
  have hms : profile.refusal? r.driver.state c = none → c.timeoutMs ≠ 0 := by
    intro hpass hzero
    unfold Profile.refusal? at hpass
    rw [if_pos (.inr (.inr hzero))] at hpass
    cases hpass
  cases init_ways c r with
  | turnedAway away =>
      rw [away.hardware]
      exact h
  | plain pass _ eq => exact eq ▸ wound_reconfigure h (hms pass)
  | attaches pass _ eq =>
      exact eq ▸ wound_write h _ nofun fun h => wound_reconfigure h (hms pass)

theorem wound_launch (h : r.hardware.Wound) : (launch r).2.hardware.Wound := by
  unfold launch
  split
  · exact wound_confirm h h
  · exact wound_write h .subscribe nofun fun h => wound_confirm h h

theorem wound_start (h : r.hardware.Wound) : (start r).2.hardware.Wound := by
  cases start_ways r with
  | unready _ eq => exact eq ▸ h
  | runs _ _ eq => exact eq ▸ h
  | launches _ _ eq => exact eq ▸ wound_launch h

theorem wound_settle (h : r.hardware.Wound) : (settle r).2.hardware.Wound := by
  unfold settle
  split
  · exact h
  · exact h

theorem wound_stop (h : r.hardware.Wound) : (stop r).2.hardware.Wound := by
  unfold stop
  split
  · refine wound_write h .unsubscribe nofun fun h => wound_confirm h ?_
    exact wound_settle (r := Rig.note _ _ _) h
  · exact wound_settle h

theorem wound_serve (h : r.hardware.Wound) (q : Request) : (serve r q).2.hardware.Wound := by
  cases q with
  | init c => exact wound_init h c
  | setTimeout timeout => exact wound_init h _
  | start => exact wound_start h
  | stop => exact wound_stop h
  | refresh =>
      show (refresh r).2.hardware.Wound
      unfold refresh
      split
      · exact wound_write h .reset nofun fun h => h
      · exact h

end Twdt

/-! ## Any device -/

namespace Device

variable {settled : Prop} {device : Device} {driver : Driver} {time : Duration}

/-- A counter that runs is wound up. Of an nRF52840 whose interrupt is being delivered only
the period is known. -/
def Wound (settled : Prop) : Device → Prop
  | nrf52 p => p.Wound settled
  | rtl872x p => p.Wound
  | twdt p => p.Wound
  | eager _ | unfaithful _ => True

/-- What it takes of the device for a driver to enable the counter without more ado. -/
def Programmed : Device → Prop
  | rtl872x p => p.Programmed
  | nrf52 _ | eager _ | twdt _ | unfaithful _ => True

/-- A driver past its first state has programmed the device. -/
def Primed (driver : Driver) (device : Device) : Prop :=
  driver.state ≠ .uninitialized → device.Programmed

theorem wound_fresh (sim : Sim) (settled : Prop) : sim.fresh.Wound settled := by
  cases sim with
  | nrf52 vectorClaimed => exact nofun
  | rtl872x => exact ⟨fun h => absurd rfl h, nofun⟩
  | twdt => exact ⟨nofun, nofun⟩

theorem wound_of_no_clock (h : device.hasClock = false) (settled : Prop) :
    device.Wound settled := by
  cases device with
  | nrf52 | rtl872x | twdt => cases h
  | eager | unfaithful => trivial

theorem Wound.mono {settled' : Prop} (h : device.Wound settled) (hs : settled' → settled) :
    device.Wound settled' := by
  cases device with
  | nrf52 p => exact fun hr => (h hr).mono hs
  | eager | rtl872x | twdt | unfaithful => exact h

/-- The countdown of a counter that runs. -/
def countdown? : Device → Option Countdown
  | nrf52 p => if p.running then some p.countdown else none
  | rtl872x p => if p.enabled then some p.countdown else none
  | twdt p => if p.subscribed then some p.countdown else none
  | eager _ | unfaithful _ => none

theorem remaining?_eq (device : Device) :
    device.remaining? = device.countdown?.map (·.remaining) := by
  have hif : ∀ (on : Bool) (c : Countdown), (if on then some c.remaining else none) =
      (if on then some c else none).map (·.remaining) := by
    intro on c
    cases on <;> rfl
  cases device with
  | nrf52 p => exact hif p.running p.countdown
  | rtl872x p => exact hif p.enabled p.countdown
  | twdt p => exact hif p.subscribed p.countdown
  | eager | unfaithful => rfl

theorem Wound.countdown (h : device.Wound settled) {c : Countdown}
    (hc : device.countdown? = some c) : c.Wound settled := by
  cases device with
  | nrf52 p =>
      obtain ⟨hr, hc⟩ := Option.ite_none_right_eq_some.mp hc
      exact Option.some.inj hc ▸ h hr
  | rtl872x p =>
      obtain ⟨he, hc⟩ := Option.ite_none_right_eq_some.mp hc
      exact Option.some.inj hc ▸ (h.enabled he).mono fun _ => trivial
  | twdt p =>
      obtain ⟨hs, hc⟩ := Option.ite_none_right_eq_some.mp hc
      exact Option.some.inj hc ▸ (h.subscribed hs).mono fun _ => trivial
  | eager | unfaithful => cases hc

/-- A counter that runs has some time left. -/
theorem Wound.remaining_pos (h : device.Wound settled) (hs : settled) {step : Duration}
    (hstep : device.remaining? = some step) : 0 < step.nanos := by
  rw [remaining?_eq] at hstep
  obtain ⟨c, hc, rfl⟩ := Option.map_eq_some_iff.mp hstep
  exact (h.countdown hc).left hs

/-! ### Requests -/

/-- A driver that takes over a counter finds it running. -/
theorem Wound.primed_adopt (h : device.Wound settled) : device.Primed device.adopt.1 := by
  cases device with
  | rtl872x p =>
      intro hs
      change (Rtl872x.adopt p).1.state ≠ .uninitialized at hs
      refine (h.enabled ?_).period
      unfold Rtl872x.adopt at hs
      split at hs
      · next he => exact he
      · exact absurd rfl hs
  | nrf52 | eager | twdt | unfaithful => exact fun _ => trivial

theorem Programmed.serve (h : device.Programmed) (driver : Driver) (q : Request) :
    (device.serve q driver).device.Programmed := by
  cases device with
  | rtl872x p =>
      exact (Rtl872x.traced_serve { driver, hardware := p } q).keeps
        (P := Rtl872x.Peripheral.Programmed) (fun c _ h => h.write c) h
  | nrf52 | eager | twdt | unfaithful => trivial

theorem Wound.serve (h : device.Wound settled) (hp : device.Primed driver) (q : Request) :
    (device.serve q driver).device.Wound settled ∧
      (device.serve q driver).device.Primed (device.serve q driver).driver := by
  cases device with
  | nrf52 p =>
      exact ⟨(Nrf52.traced_serve { driver, hardware := p } q).keeps
        (P := Nrf52.Peripheral.Wound settled) (fun c _ h => h.write c) h, fun _ => trivial⟩
  | rtl872x p =>
      have hw := Rtl872x.Wound.serve (r := { driver, hardware := p }) ⟨h, hp⟩ q
      exact ⟨hw.hardware, hw.programmed⟩
  | twdt p =>
      exact ⟨Twdt.wound_serve (r := { driver, hardware := p }) h q, fun _ => trivial⟩
  | eager | unfaithful => exact ⟨trivial, fun _ => trivial⟩

/-! ### Time -/

theorem remaining?_elapse (device : Device) (time : Duration) :
    (device.elapse time).remaining? =
      device.remaining?.map fun left => ⟨left.nanos - time.nanos⟩ := by
  cases device with
  | nrf52 p => cases hr : p.running <;> simp [elapse, remaining?, Nrf52.Peripheral.remaining?,
      Nrf52.Peripheral.elapse, Countdown.elapse, hr]
  | rtl872x p => cases he : p.enabled <;> simp [elapse, remaining?, Rtl872x.Peripheral.remaining?,
      Rtl872x.Peripheral.elapse, Countdown.elapse, he]
  | twdt p => cases hs : p.subscribed <;> simp [elapse, remaining?, Twdt.Peripheral.remaining?,
      Twdt.Peripheral.elapse, Countdown.elapse, hs]
  | eager | unfaithful => rfl

theorem elapse_elapse (device : Device) (a b : Duration) :
    (device.elapse a).elapse b = device.elapse ⟨a.nanos + b.nanos⟩ := by
  have hcountdown : ∀ c : Countdown, (c.elapse a).elapse b = c.elapse ⟨a.nanos + b.nanos⟩ := by
    intro c
    rw [Countdown.elapse, Countdown.elapse, Countdown.elapse, Nat.sub_sub]
  cases device with
  | nrf52 p => exact congrArg (fun c => nrf52 { p with countdown := c }) (hcountdown p.countdown)
  | rtl872x p =>
      exact congrArg (fun c => rtl872x { p with countdown := c }) (hcountdown p.countdown)
  | twdt p => exact congrArg (fun c => twdt { p with countdown := c }) (hcountdown p.countdown)
  | eager | unfaithful => rfl

theorem elapse_zero (device : Device) : device.elapse .zero = device := by
  cases device <;> rfl

/-- Time that does not use up what is left. -/
theorem Wound.elapse (h : device.Wound settled) {step : Duration}
    (hstep : device.remaining? = some step) (hlt : time.nanos < step.nanos) :
    (device.elapse time).Wound settled := by
  cases device with
  | nrf52 p =>
      obtain ⟨-, hstep⟩ := Option.ite_none_right_eq_some.mp hstep
      obtain rfl := Option.some.inj hstep
      exact fun hr => (h hr).elapse fun _ => hlt
  | rtl872x p =>
      obtain ⟨-, hstep⟩ := Option.ite_none_right_eq_some.mp hstep
      obtain rfl := Option.some.inj hstep
      exact ⟨h.written, fun he => (h.enabled he).elapse fun _ => hlt⟩
  | twdt p =>
      obtain ⟨-, hstep⟩ := Option.ite_none_right_eq_some.mp hstep
      obtain rfl := Option.some.inj hstep
      exact ⟨h.programmed, fun hs => (h.subscribed hs).elapse fun _ => hlt⟩
  | eager | unfaithful => trivial

/-- Time that may use up all that is left, and the first half of an expiry. -/
theorem Wound.strike_elapse (h : device.Wound settled) (time : Duration) :
    (device.elapse time).strike.1.Wound False := by
  cases device with
  | nrf52 p => exact fun hr => ((h hr).mono nofun).elapse nofun
  | rtl872x p => exact Rtl872x.Peripheral.Wound.expire_elapse h time
  | twdt p => exact Twdt.Peripheral.Wound.expire_elapse h time
  | eager | unfaithful => trivial

/-- The second half of an expiry. -/
theorem Wound.recover (h : device.Wound settled) (settled' : Prop) :
    device.recover.1.Wound settled' := by
  cases device with
  | nrf52 p => exact fun hr => Countdown.wound_reload (h hr).period
  | eager | rtl872x | twdt | unfaithful => exact h

theorem Programmed.elapse (h : device.Programmed) (time : Duration) :
    (device.elapse time).Programmed := by
  cases device <;> exact h

theorem Programmed.strike (h : device.Programmed) : device.strike.1.Programmed := by
  cases device with
  | rtl872x p =>
      show p.expire.1.Programmed
      unfold Rtl872x.Peripheral.expire
      split
      · exact h
      · exact h
  | nrf52 | eager | twdt | unfaithful => trivial

theorem Programmed.recover (h : device.Programmed) : device.recover.1.Programmed := by
  cases device <;> exact h

/-! ### A test bench that leaves the registers to the drivers -/

theorem wound_poke {what : Stimulus} (hcall : ∀ c, what ≠ .call c) {reply : Reply}
    {device' : Device} (hpoke : device.poke what = some (reply, device'))
    (h : device.Wound settled) :
    device'.Wound settled ∧ (device.Programmed → device'.Programmed) := by
  cases poked_of_poke hcall hpoke with
  | powerCycle p => exact ⟨nofun, id⟩
  | ignoreStart | vectorAvailable => exact ⟨h, id⟩
  | stickEnable | lockDivider => exact ⟨⟨h.written, h.enabled⟩, id⟩
  | failAfter => exact ⟨⟨h.programmed, h.subscribed⟩, id⟩
  | setRunning | setSubscribed => exact ⟨trivial, id⟩

end Device

end TwoTierWatchdog
