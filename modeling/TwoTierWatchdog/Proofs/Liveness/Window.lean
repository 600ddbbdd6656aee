import TwoTierWatchdog.Liveness.Process
import TwoTierWatchdog.Proofs.Checks
import TwoTierWatchdog.Proofs.Liveness.Clock

/-!
# The time that a monitor allows

A monitor is asked for a time that may pass between two checkins. It counts in whole
milliseconds, of which there is a largest number, and goes by microseconds. The time is
rounded up to milliseconds, so what is asked for is allowed, and less than a millisecond
more; but it is cut to the largest number, silently, so a time beyond it is not
(`Spec.window`).

What is allowed is then safe from being reported, as far as the watcher can see. It
compares the stamp it has read with a clock that it reads afterwards. A checkin may come in
between, just in time; the watcher does not see it, and fires
(`requested_time_can_be_reported`). So what matters is the stamp that it holds when it reads
the clock. As long as that one is recent enough it does not fire, and if it fires while the
last one is, then a checkin has come in between.
-/

namespace TwoTierWatchdog.Liveness

/-- What the monitor allows of the time that was asked for. -/
def Spec.window (s : Spec) : Duration :=
  ⟨min s.timeout.nanos (0xFFFFFFFF * 1000000)⟩

/-- The timeout in force covers it, by less than a millisecond. -/
theorem Spec.window_le (s : Spec) :
    s.window.nanos ≤ s.timeoutUs.toNat * 1000 ∧
      s.timeoutUs.toNat * 1000 < s.window.nanos + 1000000 := by
  rw [toNat_timeoutUs, timeoutMs, Duration.toNat_millisCeil]
  simp only [window]
  omega

theorem elapsed_le_of_recent {made now time : Nat} {stamp : UInt64}
    (h : uptime made (now - time) ≤ stamp) :
    (elapsed (uptime made now) stamp).toNat ≤ (time + 999) / 1000 := by
  rw [UInt64.le_iff_toNat_le, toNat_uptime] at h
  rw [toNat_elapsed, toNat_uptime]
  omega

namespace Threads

/-- No more than a given time ago the clock showed the last stamp, or less. -/
def Recent (time : Duration) (t : Threads) : Prop :=
  uptime t.monitor.made (t.now - time.nanos) ≤ t.stamp

/-- No more than a given time ago the clock showed the stamp that the watcher holds, or
less. -/
def HoldsRecent (time : Duration) (t : Threads) : Watcher → Prop
  | .haveStamp _ stamp => uptime t.monitor.made (t.now - time.nanos) ≤ stamp
  | .top | .haveTimeout _ | .late | .stalled | .parked _ | .ended => True

/-- Before each move, and after the last one. -/
def Throughout (p : Threads → Prop) : Threads → List Move → Prop
  | t, [] => p t
  | t, m :: rest => p t ∧ Throughout p (t.step m) rest

/-- Before each step of the watcher, provided that the monitor still runs. -/
def WhenWatched (p : Threads → Prop) : Threads → List Move → Prop
  | _, [] => True
  | t, m :: rest => (m = .watch → t.state = .running → p t) ∧ WhenWatched p (t.step m) rest

instance (time : Duration) (t : Threads) : Decidable (t.Recent time) :=
  inferInstanceAs (Decidable (_ ≤ _))

instance (time : Duration) (t : Threads) : (w : Watcher) → Decidable (t.HoldsRecent time w)
  | .haveStamp _ _ => inferInstanceAs (Decidable (_ ≤ _))
  | .top | .haveTimeout _ | .late | .stalled | .parked _ | .ended => .isTrue trivial

instance decidableThroughout (p : Threads → Prop) [DecidablePred p] :
    (t : Threads) → (schedule : List Move) → Decidable (Throughout p t schedule)
  | t, [] => inferInstanceAs (Decidable (p t))
  | t, m :: rest =>
    have := decidableThroughout p (t.step m) rest
    inferInstanceAs (Decidable (p t ∧ _))

instance decidableWhenWatched (p : Threads → Prop) [DecidablePred p] :
    (t : Threads) → (schedule : List Move) → Decidable (WhenWatched p t schedule)
  | _, [] => .isTrue trivial
  | t, m :: rest =>
    have := decidableWhenWatched p (t.step m) rest
    inferInstanceAs (Decidable ((m = .watch → t.state = .running → p t) ∧ _))

theorem WhenWatched.of_append {p : Threads → Prop} {t : Threads} {before rest : List Move}
    (h : WhenWatched p t (before ++ .watch :: rest)) :
    (t.run before).state = .running → p (t.run before) := by
  induction before generalizing t with
  | nil => exact h.1 rfl
  | cons m before ih => exact ih h.2

/-- What holds between any two moves as long as the watcher has found nothing late. -/
structure Spared (spec : Spec) (t : Threads) : Prop where
  consistent : Consistent spec t
  unfired : t.state ≠ .fired
  lost : t.monitor.watcher = .late → t.state ≠ .running

theorem spared_spawned (spec : Spec) (made now : Nat) :
    Spared spec (spawned spec made now) where
  consistent := consistent_spawned spec made now
  unfired := nofun
  lost := nofun

theorem Spared.step {spec : Spec} {t : Threads} (h : Spared spec t) {m : Move}
    (hm : m = .watch → t.state = .running → t.watch.monitor.watcher ≠ .late) :
    Spared spec (t.step m) := by
  refine ⟨h.consistent.step m, ?_, ?_⟩
  · rcases state_step t m with heq | ⟨hrunning, ⟨-, hw, -⟩ | ⟨-, -, -, hdisposed⟩⟩
    · exact heq ▸ h.unfired
    · exact absurd hrunning (h.lost hw)
    · rw [hdisposed]
      decide
  · intro hlate hrunning
    have hrunning' : t.state = .running := by
      rcases state_step t m with heq | ⟨hrunning, -⟩
      · exact heq.symm.trans hrunning
      · exact hrunning
    by_cases hwatch : m = .watch
    · subst hwatch
      exact hm rfl hrunning' hlate
    · rw [(seen_step t hwatch).1] at hlate
      exact h.lost hlate hrunning'

theorem late_watch {t : Threads} (h : t.watch.monitor.watcher = .late) :
    ∃ timeout stamp, t.monitor.watcher = .haveStamp timeout stamp ∧
      timeout < elapsed (t.monitor.clock t.now) stamp := by
  rw [monitor_watch] at h
  cases hat : t.monitor.watcher with
  | haveStamp timeout stamp =>
      simp only [Monitor.step, hat] at h
      split at h
      · next hlt => exact ⟨timeout, stamp, rfl, hlt⟩
      · cases h
  | top | haveTimeout | stalled | parked => simp only [Monitor.step, hat] at h; cases h
  | late => simp only [Monitor.step, hat] at h; split at h <;> cases h
  | ended => simp only [Monitor.step, hat, reduceCtorEq] at h

/-- The watcher fires only after it has compared, while the monitor was running, a stamp
that is too old for the original timeout. -/
theorem Spared.compared {spec : Spec} {t : Threads} (h : Spared spec t)
    {schedule : List Move} (hfired : (t.run schedule).state = .fired) :
    ∃ before rest stamp, schedule = before ++ .watch :: rest ∧
      let t := t.run before
      t.state = .running ∧ t.monitor.watcher = .haveStamp spec.timeoutUs stamp ∧
        spec.timeoutUs < elapsed (t.monitor.clock t.now) stamp := by
  induction schedule generalizing t with
  | nil => exact absurd hfired h.unfired
  | cons m later ih =>
      by_cases hfound : m = .watch ∧ t.state = .running ∧ t.watch.monitor.watcher = .late
      · obtain ⟨rfl, hrunning, hlate⟩ := hfound
        obtain ⟨timeout, stamp, hw, hlt⟩ := late_watch hlate
        have ha := h.consistent.agrees
        rw [hw] at ha
        obtain rfl : timeout = spec.timeoutUs := ha.2.2 hrunning
        exact ⟨[], later, stamp, rfl, hrunning, hw, hlt⟩
      · obtain ⟨before, rest, stamp, rfl, hcompared⟩ :=
          ih (h.step fun hm hrunning hlate => hfound ⟨hm, hrunning, hlate⟩) hfired
        exact ⟨m :: before, rest, stamp, rfl, hcompared⟩

/-- Such a stamp is older than what the monitor allows. -/
theorem lt_of_timeoutUs_lt {spec : Spec} {made now : Nat} {stamp : UInt64}
    (h : spec.timeoutUs < elapsed (uptime made now) stamp) :
    stamp < uptime made (now - spec.window.nanos) := by
  refine UInt64.not_le.mp fun hrecent => ?_
  have helapsed := elapsed_le_of_recent hrecent
  have hwindow := spec.window_le
  have hlt := UInt64.lt_iff_toNat_lt.mp h
  omega

end Threads

/-! ## What a spawned monitor allows -/

theorem Spec.timeout_monitor (s : Spec) (now : Nat) :
    (s.monitor now).cell.timeout = s.timeoutUs := by
  have hturn := Monitor.turn_of_step (f := (·.cell.timeout))
    (fun m => m.timeout_step now) (s.spawned now)
  exact hturn

open Threads in
/-- A monitor is rejected as invalid exactly if no time was asked for; if some was, and
there is a thread to be had, it is spawned. The microseconds it then goes by are those of
its milliseconds, computed without a carry. They cover the time that was asked for, and
less than a millisecond more, up to the largest number of milliseconds there is, and are
that number beyond it. Whatever the schedule: as long as the stamp that the watcher has
read, whenever it comes to compare it, is no older than the time that is allowed, the
monitor does not fire. It fires only after a comparison, by the original timeout, with one
that is older; and if the last stamp then is not, it was stored after the watcher had read
the other. -/
theorem requested_time_is_allowed (spec : Spec) :
    (∀ b : Bank,
      ((b.spawn spec).1 = .error .invalidArgument ↔ spec.timeout.nanos = 0) ∧
      (spec.timeout.nanos ≠ 0 → b.threadFailure = none →
        (b.spawn spec).1 = .ok b.nextId) ∧
      ∀ id, (b.spawn spec).1 = .ok id → ∃ m,
        (b.step (.spawn spec)).monitors[id]? = some m ∧
        m.cell.timeout.toNat = spec.timeoutMs.toNat * 1000 ∧
        (spec.timeout.nanos ≤ 0xFFFFFFFF * 1000000 →
          spec.timeout.nanos ≤ m.timeout.nanos ∧
            m.timeout.nanos < spec.timeout.nanos + 1000000) ∧
        (0xFFFFFFFF * 1000000 < spec.timeout.nanos →
          m.timeout.nanos = 0xFFFFFFFF * 1000000)) ∧
    ∀ made now schedule,
      let start := spawned spec made now
      (WhenWatched (fun t => t.HoldsRecent spec.window t.monitor.watcher) start schedule →
        (start.run schedule).state ≠ .fired) ∧
      ((start.run schedule).state = .fired →
        ∃ before rest stamp, schedule = before ++ .watch :: rest ∧
          let t := start.run before
          t.state = .running ∧ t.monitor.watcher = .haveStamp spec.timeoutUs stamp ∧
            spec.timeoutUs < elapsed (t.monitor.clock t.now) stamp ∧
            (t.Recent spec.window → stamp < t.stamp)) := by
  constructor
  · intro b
    have hzero : spec.timeoutMs = 0 ↔ spec.timeout.nanos = 0 :=
      Duration.millisCeil_eq_zero_iff
    rw [ne_eq, ← hzero]
    rcases b.spawn_cases spec with ⟨h0, hr, -⟩ | ⟨h0, hfailure, hr, -⟩ | ⟨h0, -, hr, hb⟩
    · rw [hr]
      exact ⟨⟨fun _ => h0, fun _ => rfl⟩, fun hne => absurd h0 hne, nofun⟩
    · rw [hr]
      exact ⟨⟨nofun, fun h => absurd h h0⟩, fun _ h => absurd h hfailure, nofun⟩
    · rw [hr]
      refine ⟨⟨nofun, fun h => absurd h h0⟩, fun _ _ => rfl, ?_⟩
      rintro _ ⟨⟩
      have htimeout := spec.timeout_monitor b.now
      have hus := spec.toNat_timeoutUs
      have hms := spec.timeout.toNat_millisCeil
      refine ⟨spec.monitor b.now, ?_, htimeout ▸ hus, ?_, ?_⟩
      · rw [Bank.step, hb]
        exact List.getElem?_concat_length
      · intro hle
        simp only [Monitor.timeout, Duration.ofMicros, htimeout, hus, Spec.timeoutMs, hms]
        omega
      · intro hlt
        simp only [Monitor.timeout, Duration.ofMicros, htimeout, hus, Spec.timeoutMs, hms]
        omega
  · intro made now schedule start
    have h : Spared spec start := spared_spawned spec made now
    refine ⟨fun hall hfired => ?_, fun hfired => ?_⟩
    · obtain ⟨before, rest, stamp, rfl, hrunning, hw, hlt⟩ := h.compared hfired
      have hrecent := hall.of_append hrunning
      rw [hw] at hrecent
      exact UInt64.not_lt.mpr hrecent (lt_of_timeoutUs_lt hlt)
    · obtain ⟨before, rest, stamp, hsplit, hrunning, hw, hlt⟩ := h.compared hfired
      exact ⟨before, rest, stamp, hsplit, hrunning, hw, hlt, fun hrecent =>
        UInt64.lt_of_lt_of_le (lt_of_timeoutUs_lt hlt) hrecent⟩

open Threads in
/-- A millisecond and a half was asked for, and two milliseconds are in force. Checkins
come a millisecond and a half apart. The watcher looks at once, and again when the first
one has come; the second one comes before it reads the clock, and makes no difference. -/
theorem requested_time_is_allowed_between_checkins :
    let spec : Spec := { timeout := ⟨1500000⟩ }
    let schedule : List Move :=
      [.watch, .watch, .watch, .pass ⟨1500000⟩, .checkin, .proceed 0, .proceed 0, .watch,
        .watch, .watch, .pass ⟨1500000⟩, .checkin, .proceed 1, .proceed 1, .watch, .watch]
    let t := (spawned spec 0 0).run schedule
    (({} : Bank).spawn spec).1 = .ok 0 ∧
      t.monitor.cell = ⟨3000, 2000, .running⟩ ∧ t.state ≠ .fired := by
  intro spec schedule t
  obtain ⟨hspawn, hspared⟩ := requested_time_is_allowed spec
  exact ⟨(hspawn {}).2.1 (by decide) rfl, by decide,
    (hspared 0 0 schedule).1 (by decide)⟩

open Threads in
/-- Two ways in which the time that was asked for is not allowed. It may be longer than
the largest number of milliseconds. Or the watcher has read the stamp when a checkin
stores another, a millisecond after the first as was asked for, and reads the clock a
microsecond after that: it fires. -/
theorem requested_time_can_be_reported :
    (¬ ∀ (b : Bank) (spec : Spec) (id : Nat) (m : Monitor),
      (b.spawn spec).1 = .ok id → (b.step (.spawn spec)).monitors[id]? = some m →
        spec.timeout.nanos ≤ m.timeout.nanos) ∧
    (¬ ∀ (spec : Spec) (made now : Nat) (schedule : List Move),
      spec.timeout.nanos ≤ 0xFFFFFFFF * 1000000 →
        Throughout (Recent spec.timeout) (spawned spec made now) schedule →
          ((spawned spec made now).run schedule).state ≠ .fired) := by
  constructor
  · intro h
    let spec : Spec := { timeout := ⟨0x100000000 * 1000000⟩ }
    rcases Bank.spawn_cases {} spec with ⟨hzero, -⟩ | ⟨-, hfailure, -⟩ | ⟨-, -, hr, -⟩
    · exact absurd hzero (by decide)
    · exact absurd rfl hfailure
    · exact absurd (h {} spec 0 (spec.monitor 0) hr (by decide)) (by decide)
  · intro h
    exact h { timeout := ⟨1000000⟩ } 0 0
      [.watch, .watch, .pass ⟨1000000⟩, .checkin, .proceed 0, .proceed 0, .pass ⟨1000⟩,
        .watch, .watch]
      (by decide) (by decide) (by decide)

end TwoTierWatchdog.Liveness
