import TwoTierWatchdog.Proofs.Liveness.Stamp

/-!
# What a floored clock tells

A clock shows whole microseconds, and both ends of an interval are floored before they
are compared. So the difference of two stamps may be larger or smaller than the time
between them, by less than a microsecond. That is why the watcher judges by a strict
comparison, which a difference of exactly the timeout does not meet, and why it sleeps a
microsecond longer than the difference leaves. Below are the two halves of it: more than
the timeout has passed when the comparison is met (`lt_sub_of_lt_elapsed`), and it is met
after the sleep (`lt_elapsed_of_slept`).

`Genuine` says for every schedule of `Threads` that the words which the watcher compares
are what they are taken for: stamps were shown by the clock, and timeouts are the one
that the monitor was made with, or zero.
-/

namespace TwoTierWatchdog.Liveness

theorem toNat_elapsed (clock stamp : UInt64) :
    (elapsed clock stamp).toNat = clock.toNat - stamp.toNat := by
  unfold elapsed
  split
  · next h => exact UInt64.toNat_sub_of_le _ _ h
  · next h =>
      rw [UInt64.le_iff_toNat_le] at h
      simp only [UInt64.reduceToNat]
      omega

/-- The clock has not come to the largest number that it can show, so it shows the
floor. -/
def Floors (made now : Nat) : Prop :=
  (uptime made now).toNat = (now - made) / 1000

instance (made now : Nat) : Decidable (Floors made now) :=
  inferInstanceAs (Decidable (_ = _))

theorem Floors.of_le {made now later : Nat} (h : Floors made later) (hle : now ≤ later) :
    Floors made now := by
  have hdiv : (now - made) / 1000 ≤ (later - made) / 1000 :=
    Nat.div_le_div_right (Nat.sub_le_sub_right hle made)
  unfold Floors at h ⊢
  rw [toNat_uptime] at h ⊢
  omega

/-- A difference of stamps larger than the timeout proves that the full timeout has
passed. -/
theorem lt_sub_of_lt_elapsed {made before now : Nat} {timeout : UInt64}
    (h : timeout < elapsed (uptime made now) (uptime made before)) :
    timeout.toNat * 1000 < now - before := by
  rw [UInt64.lt_iff_toNat_lt, toNat_elapsed, toNat_uptime, toNat_uptime] at h
  omega

/-- What the watcher is to sleep for after it has judged. -/
theorem toNat_sleep {timeout time : UInt64} (hle : ¬ timeout < time)
    (hmax : timeout.toNat + 1 < 0x10000000000000000) :
    (timeout - time + 1).toNat = timeout.toNat - time.toNat + 1 := by
  rw [UInt64.not_lt] at hle
  rw [UInt64.toNat_add, UInt64.toNat_sub_of_le _ _ hle]
  simp only [UInt64.reduceToNat]
  omega

/-- After that sleep the difference of stamps is larger than the timeout. -/
theorem lt_elapsed_of_slept {made now later : Nat} {timeout stamp : UInt64}
    (hmade : made ≤ now) (hstamp : stamp ≤ uptime made now)
    (hle : ¬ timeout < elapsed (uptime made now) stamp) (hfloor : Floors made later)
    (hslept : now + (timeout.toNat - (elapsed (uptime made now) stamp).toNat + 1) * 1000 ≤
      later) :
    timeout < elapsed (uptime made later) stamp := by
  have hnow : Floors made now := hfloor.of_le (by omega)
  unfold Floors at hfloor hnow
  rw [UInt64.le_iff_toNat_le] at hstamp
  rw [UInt64.lt_iff_toNat_lt, toNat_elapsed] at hle ⊢
  rw [toNat_elapsed] at hslept
  rw [hnow] at hstamp hle hslept
  rw [hfloor]
  omega

/-- The watcher never changes the timeout. -/
theorem Monitor.timeout_step (m : Monitor) (now : Nat) :
    (m.step now).cell.timeout = m.cell.timeout := by
  cases hw : m.watcher <;> simp only [Monitor.step, hw]
  case late => unfold Cell.leaveRunning; split <;> rfl

theorem elapsed_mono {clock later : UInt64} (stamp : UInt64) (h : clock ≤ later) :
    elapsed clock stamp ≤ elapsed later stamp := by
  rw [UInt64.le_iff_toNat_le] at h ⊢
  rw [toNat_elapsed, toNat_elapsed]
  omega

namespace Threads

/-! ## What a move does to the timeout, and the watcher to the rest -/

theorem timeout_watch (t : Threads) :
    t.watch.monitor.cell.timeout = t.monitor.cell.timeout := by
  rw [monitor_watch]
  exact t.monitor.timeout_step t.now

/-- The timeout changes by the store of a call that gives the monitor up, to zero. -/
theorem timeout_step (t : Threads) (m : Move) :
    (t.step m).monitor.cell.timeout = t.monitor.cell.timeout ∨
      (t.step m).monitor.cell.timeout = 0 := by
  cases m with
  | pass | checkin | dispose => exact .inl rfl
  | watch => exact .inl (timeout_watch t)
  | proceed i =>
      simp only [step, proceed]
      split
      · exact .inl rfl
      · next call _ =>
          cases call with
          | checkin | haveClock | checkedIn | haveZeroed | disposed => exact .inl rfl
          | haveLeft => exact .inr rfl
          | dispose =>
              left
              simp only [Call.proceed, Cell.leaveRunning]
              split <;> rfl

theorem calls_watch (t : Threads) : t.watch.calls = t.calls := by
  unfold watch
  dsimp only
  split <;> rfl

/-! ## The words are what they are taken for -/

/-- The clock showed a stamp at an instant that has come. -/
def Shown (t : Threads) (v : UInt64) : Prop :=
  ∃ a, t.monitor.made ≤ a ∧ a ≤ t.now ∧ v = uptime t.monitor.made a

theorem Shown.le_clock {t : Threads} {v : UInt64} (h : t.Shown v) : v ≤ t.clock := by
  obtain ⟨a, -, ha, rfl⟩ := h
  exact uptime_mono _ ha

theorem Shown.step {t : Threads} {v : UInt64} (h : t.Shown v) (m : Move) :
    (t.step m).Shown v := by
  obtain ⟨a, hmade, ha, hv⟩ := h
  unfold Shown
  rw [made_step]
  exact ⟨a, hmade, Nat.le_trans ha (now_step t m), hv⟩

/-- A timeout that may be in force: zero, if the monitor was given up. -/
def InForce (spec : Spec) (timeout : UInt64) : Prop :=
  timeout = 0 ∨ timeout = spec.timeoutUs

theorem InForce.lt {spec : Spec} {timeout : UInt64} (h : InForce spec timeout) :
    timeout.toNat + 1 < 0x10000000000000000 := by
  have := spec.timeoutMs.toNat_lt
  rcases h with rfl | rfl
  · decide
  · rw [spec.toNat_timeoutUs]
    omega

/-- What the watcher holds at a given place. Its copy of the timeout is the one in the
cell unless the monitor was given up since. -/
def Holds (spec : Spec) (t : Threads) : Watcher → Prop
  | .haveTimeout timeout =>
    InForce spec timeout ∧
      (t.monitor.cell.timeout = timeout ∨ t.monitor.cell.timeout = 0)
  | .haveStamp timeout stamp =>
    InForce spec timeout ∧
      (t.monitor.cell.timeout = timeout ∨ t.monitor.cell.timeout = 0) ∧ t.Shown stamp
  | .top | .late | .stalled | .parked _ | .ended => True

structure Genuine (spec : Spec) (t : Threads) : Prop where
  made : t.monitor.made ≤ t.now
  reading : ∀ v, Call.haveClock v ∈ t.calls → t.Shown v
  stamp : t.Shown t.stamp
  timeout : InForce spec t.monitor.cell.timeout
  holds : t.Holds spec t.monitor.watcher

theorem genuine_spawned (spec : Spec) {made now : Nat} (h : made ≤ now) :
    Genuine spec (spawned spec made now) where
  made := h
  reading _ h := absurd h List.not_mem_nil
  stamp := ⟨now, h, Nat.le_refl now, rfl⟩
  timeout := .inr rfl
  holds := trivial

/-- A copy of the timeout stays one: the cell's changes to zero only. -/
theorem copy_step {t : Threads} {timeout : UInt64}
    (h : t.monitor.cell.timeout = timeout ∨ t.monitor.cell.timeout = 0) (m : Move) :
    (t.step m).monitor.cell.timeout = timeout ∨ (t.step m).monitor.cell.timeout = 0 := by
  rcases timeout_step t m with heq | hz
  · rwa [heq]
  · exact .inr hz

theorem Holds.step {spec : Spec} {t : Threads} {w : Watcher} (h : t.Holds spec w)
    (m : Move) : (t.step m).Holds spec w := by
  cases w with
  | top | late | stalled | parked | ended => trivial
  | haveTimeout timeout => exact ⟨h.1, copy_step h.2 m⟩
  | haveStamp timeout stamp => exact ⟨h.1, copy_step h.2.1 m, h.2.2.step m⟩

theorem Genuine.step {spec : Spec} {t : Threads} (h : Genuine spec t) (m : Move) :
    Genuine spec (t.step m) where
  made := made_step t m ▸ Nat.le_trans h.made (now_step t m)
  reading v hv := by
    rcases reading_step hv with hv | rfl
    · exact (h.reading v hv).step m
    · exact Shown.step ⟨t.now, h.made, Nat.le_refl _, rfl⟩ m
  stamp := by
    rcases stamp_step t m with heq | ⟨i, v, -, hi, heq⟩
    · exact heq ▸ h.stamp.step m
    · exact heq ▸ (h.reading v (List.mem_of_getElem? hi)).step m
  timeout := by
    rcases timeout_step t m with heq | hz
    · exact heq ▸ h.timeout
    · exact .inl hz
  holds := by
    by_cases hm : m = .watch
    · subst hm
      have hw := h.holds
      simp only [Threads.step, monitor_watch]
      cases hat : t.monitor.watcher with
      | top =>
          simp only [Monitor.step, hat]
          exact ⟨h.timeout, .inl (timeout_watch t)⟩
      | haveTimeout timeout =>
          rw [hat] at hw
          simp only [Monitor.step, hat]
          exact ⟨hw.1, copy_step hw.2 .watch, h.stamp.step .watch⟩
      | haveStamp timeout stamp => simp only [Monitor.step, hat]; split <;> trivial
      | late => simp only [Monitor.step, hat]; split <;> trivial
      | stalled | parked | ended => simp only [Monitor.step, hat]; trivial
    · rw [(seen_step t hm).1]
      exact h.holds.step m

theorem Genuine.run {spec : Spec} {t : Threads} (h : Genuine spec t)
    (schedule : List Move) : Genuine spec (t.run schedule) :=
  run_keeps Genuine.step h schedule

end Threads

end TwoTierWatchdog.Liveness
