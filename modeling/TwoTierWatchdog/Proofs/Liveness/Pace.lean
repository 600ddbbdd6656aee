import TwoTierWatchdog.Liveness.Parking
import TwoTierWatchdog.Proofs.Liveness.Clock

/-!
# How often the watcher looks

A watcher that sleeps out its time, with no checkin in between, finds the deadline missed
when it looks again: its sleep is as long as that takes and no shorter (`Bound`). So every
judgement after the first that does not find it missed is owed to something that happened
since the one before: a checkin was stored, or the watcher was woken early. `Ahead` counts
how many judgements are still to come if nothing happens, and `Paced` keeps account: what
was judged and what is ahead are covered by what happened, and two.
-/

namespace TwoTierWatchdog.Liveness

/-! ## Counting calls -/

theorem countP_set_getElem? {α : Type} (p : α → Bool) {l : List α} {i : Nat} {a : α}
    (h : l[i]? = some a) (b : α) :
    (l.set i b).countP p + (if p a then 1 else 0) = l.countP p + (if p b then 1 else 0) := by
  obtain ⟨hi, rfl⟩ := List.getElem?_eq_some_iff.mp h
  rw [List.countP_set hi]
  have : (if p l[i] then 1 else 0) ≤ l.countP p := by
    split
    · next hp => exact List.countP_pos_iff.mpr ⟨l[i], List.getElem_mem hi, hp⟩
    · exact Nat.zero_le _
  omega

namespace Threads

theorem countP_proceed (p : Call → Bool) {t : Threads} {i : Nat} {call : Call}
    (h : t.calls[i]? = some call) :
    (t.proceed i).calls.countP p + (if p call then 1 else 0) =
      t.calls.countP p + (if p (call.proceed t.now t.monitor).1 then 1 else 0) := by
  simp only [proceed, h]
  exact countP_set_getElem? p h _

theorem clock_watch (t : Threads) : t.watch.clock = t.clock := by
  have hmade : t.watch.monitor.made = t.monitor.made := made_step t .watch
  simp only [clock, Monitor.clock, hmade, now_watch]

theorem checkins_watch (t : Threads) : t.watch.checkins = t.checkins := by
  rw [checkins, checkins, calls_watch]

theorem disposals_watch (t : Threads) : t.watch.disposals = t.disposals := by
  rw [disposals, disposals, calls_watch]

/-- A checkin is over when it has stored its stamp; nothing else changes the stamp. -/
theorem checkins_step (t : Threads) (m : Move) :
    (t.step m).checkins = t.checkins ∧ (t.step m).stamp = t.stamp ∨
      (t.step m).checkins = t.checkins + 1 ∧ m ≠ .watch := by
  cases m with
  | pass => exact .inl ⟨rfl, rfl⟩
  | checkin | dispose => exact .inl ⟨by simp [step, checkins, Call.isCheckedIn], rfl⟩
  | watch => exact .inl ⟨checkins_watch t, stamp_watch t⟩
  | proceed i =>
      show (t.proceed i).checkins = _ ∧ (t.proceed i).stamp = _ ∨ _
      cases hi : t.calls[i]? with
      | none => simp [proceed, hi]
      | some call =>
          have hcount := countP_proceed Call.isCheckedIn hi
          have hstamp : (t.proceed i).stamp =
              (call.proceed t.now t.monitor).2.cell.lastCheckin := by
            simp [proceed, hi, stamp]
          rw [hstamp]
          cases call with
          | haveClock => exact .inr ⟨hcount, by simp⟩
          | checkedIn => exact .inl ⟨Nat.succ.inj hcount, rfl⟩
          | checkin | haveLeft | haveZeroed | disposed => exact .inl ⟨hcount, rfl⟩
          | dispose =>
              refine .inl ⟨hcount, ?_⟩
              simp only [Call.proceed, Cell.leaveRunning, stamp]
              split <;> rfl

/-- The token is left by a call that gives the monitor up, as its last step. -/
theorem token_step {t : Threads} {m : Move} (hm : m ≠ .watch) :
    (t.step m).monitor.token.toNat + t.disposals ≤
      t.monitor.token.toNat + (t.step m).disposals := by
  cases m with
  | pass => exact Nat.le_refl _
  | checkin | dispose => simp [step, disposals, Call.isDisposed]
  | watch => exact absurd rfl hm
  | proceed i =>
      show (t.proceed i).monitor.token.toNat + _ ≤ _ + (t.proceed i).disposals
      cases hi : t.calls[i]? with
      | none => simp [proceed, hi]
      | some call =>
          have hcount := countP_proceed Call.isDisposed hi
          have htoken : (t.proceed i).monitor.token =
              (call.proceed t.now t.monitor).2.token := by
            simp [proceed, hi]
          rw [htoken]
          cases call with
          | haveZeroed =>
              have : (t.proceed i).disposals = t.disposals + 1 := hcount
              have := Bool.toNat_le t.monitor.token
              simp only [Call.proceed, Bool.toNat_true]
              omega
          | disposed =>
              have : (t.proceed i).disposals = t.disposals := Nat.succ.inj hcount
              simp [Call.proceed, this]
          | checkin | haveClock | checkedIn | haveLeft | dispose =>
              have : (t.proceed i).disposals = t.disposals := hcount
              simp [Call.proceed, this]

theorem token_watch_le (t : Threads) :
    t.watch.monitor.token.toNat ≤ t.monitor.token.toNat := by
  rw [monitor_watch]
  cases hw : t.monitor.watcher <;> simp [Monitor.step, hw]

end Threads

namespace Parking

open Threads (Genuine)

theorem genuine_step {spec : Spec} {p : Parking} (h : Genuine spec p.toThreads)
    (a : Act) : Genuine spec (p.step a).toThreads :=
  step_of_moves h h.step a

theorem now_step (p : Parking) (a : Act) : p.now ≤ (p.step a).now :=
  step_of_moves (P := (p.now ≤ ·.now)) (Nat.le_refl _) (Threads.now_step _) a

theorem now_run (p : Parking) (schedule : List Act) : p.now ≤ (p.run schedule).now :=
  le_run now_step p schedule

theorem made_step (p : Parking) (a : Act) :
    (p.step a).monitor.made = p.monitor.made :=
  step_of_moves (P := (·.monitor.made = p.monitor.made)) rfl (Threads.made_step _) a

theorem made_run (p : Parking) (schedule : List Act) :
    (p.run schedule).monitor.made = p.monitor.made := by
  induction schedule generalizing p with
  | nil => rfl
  | cons a rest ih => exact (ih (p.step a)).trans (made_step p a)

/-! ## A judgement that is bound to find the deadline missed -/

/-- At a given place of the watcher: what it compares next is past the deadline already,
or will be when its sleep is over. -/
def BoundAt (p : Parking) : Watcher → Prop
  | .top => p.monitor.cell.timeout < elapsed p.clock p.stamp
  | .haveTimeout timeout => timeout < elapsed p.clock p.stamp
  | .haveStamp timeout stamp => timeout < elapsed p.clock stamp
  | .parked length =>
    ∀ later, p.since.getD p.now + length.toNat * 1000 ≤ later →
      Floors p.monitor.made later →
        p.monitor.cell.timeout < elapsed (uptime p.monitor.made later) p.stamp
  | .late | .stalled | .ended => True

def Bound (p : Parking) : Prop :=
  p.BoundAt p.monitor.watcher

/-- Nothing that others do undoes it, except that a new stamp is stored before the
watcher has read its own. -/
theorem BoundAt.move {p : Parking} {w : Watcher} (h : p.BoundAt w) {m : Move}
    (hm : m ≠ .watch) (hstamp : (∀ timeout stamp, w ≠ .haveStamp timeout stamp) →
      (p.toThreads.step m).stamp = p.stamp) :
    (p.step (.move m)).BoundAt w := by
  rw [step_of_ne hm]
  have hclock := Threads.clock_step p.toThreads m
  have htimeout : (p.toThreads.step m).monitor.cell.timeout ≤ p.monitor.cell.timeout := by
    rcases Threads.timeout_step p.toThreads m with heq | hz
    · rw [heq]; exact UInt64.le_refl _
    · rw [hz]; exact UInt64.zero_le
  have hmade := Threads.made_step p.toThreads m
  have hnow := Threads.now_step p.toThreads m
  cases w with
  | top =>
      refine UInt64.lt_of_le_of_lt htimeout (UInt64.lt_of_lt_of_le h ?_)
      exact hstamp nofun ▸ elapsed_mono _ hclock
  | haveTimeout timeout =>
      exact UInt64.lt_of_lt_of_le h (hstamp nofun ▸ elapsed_mono _ hclock)
  | haveStamp timeout stamp => exact UInt64.lt_of_lt_of_le h (elapsed_mono _ hclock)
  | parked length =>
      intro later hlater hfloor
      simp only [hmade, hstamp nofun] at hlater hfloor ⊢
      refine UInt64.lt_of_le_of_lt htimeout (h later ?_ hfloor)
      cases hs : p.since with
      | none => simp only [hs, Option.getD_none] at hlater ⊢; omega
      | some since => simpa only [hs, Option.getD_some] using hlater
  | late | stalled | ended => trivial

/-- When its sleep is over, the watcher starts anew, past the deadline. -/
theorem Bound.wake {p : Parking} (h : p.Bound) {length : UInt64} {since : Nat}
    (hw : p.monitor.watcher = .parked length) (hs : p.since = some since)
    (hover : since + length.toNat * 1000 ≤ p.now) (hfloor : Floors p.monitor.made p.now) :
    p.advance.Bound := by
  rw [Bound, hw] at h
  have hlt := h p.now (by rw [hs]; exact hover) hfloor
  have hat : p.advance.monitor.watcher = .top := by
    simp only [advance, Threads.monitor_watch, Monitor.step, hw]
  rw [Bound, hat]
  show p.watch.monitor.cell.timeout < elapsed p.watch.clock p.watch.stamp
  rw [Threads.timeout_watch, Threads.clock_watch, Threads.stamp_watch]
  exact hlt

theorem Bound.turn_parked {p : Parking} (h : p.Bound) {length : UInt64}
    (hw : p.monitor.watcher = .parked length) (hfloor : Floors p.monitor.made p.now)
    (hroused : p.turn.roused = p.roused) : p.turn.Bound := by
  simp only [Parking.turn, hw] at hroused ⊢
  split at hroused
  · exact absurd hroused (Nat.succ_ne_self _)
  · next htoken =>
      rw [if_neg htoken]
      split
      · next hs =>
          rw [Bound, hw] at h ⊢
          intro later hlater
          exact h later (by rw [hs]; exact hlater)
      · next since hs =>
          split
          · next hover => exact h.wake hw hs hover hfloor
          · exact h

/-- The watcher's turns keep it, unless it is woken early. -/
theorem Bound.turn {p : Parking} (h : p.Bound) (hfloor : Floors p.monitor.made p.now)
    (hroused : p.turn.roused = p.roused) : p.turn.Bound := by
  cases hw : p.monitor.watcher with
  | parked length => exact h.turn_parked hw hfloor hroused
  | top =>
      rw [Bound, hw] at h
      simp only [Bound, Parking.turn, hw, advance, Threads.monitor_watch, Monitor.step]
      show p.monitor.cell.timeout < elapsed p.watch.clock p.watch.stamp
      rw [Threads.clock_watch, Threads.stamp_watch]
      exact h
  | haveTimeout timeout =>
      rw [Bound, hw] at h
      simp only [Bound, Parking.turn, hw, advance, Threads.monitor_watch, Monitor.step]
      show timeout < elapsed p.watch.clock p.stamp
      rw [Threads.clock_watch]
      exact h
  | haveStamp timeout stamp =>
      rw [Bound, hw] at h
      have hlate : timeout < elapsed (p.monitor.clock p.now) stamp := h
      simp only [Bound, Parking.turn, hw, advance, Threads.monitor_watch, Monitor.step,
        if_pos hlate]
      trivial
  | late =>
      simp only [Bound, Parking.turn, hw, advance, Threads.monitor_watch, Monitor.step]
      split <;> trivial
  | stalled | ended =>
      simp only [Bound, Parking.turn, hw, advance, Threads.monitor_watch, Monitor.step]
      trivial

theorem Bound.step {p : Parking} (h : p.Bound) (a : Act)
    (hfloor : Floors p.monitor.made (p.step a).now)
    (hcheckins : (p.step a).checkins = p.checkins)
    (hroused : (p.step a).roused = p.roused) : (p.step a).Bound := by
  cases a with
  | stir =>
      simp only [Parking.step, stir] at hroused ⊢
      split at hroused
      · exact absurd hroused (Nat.succ_ne_self _)
      · exact h
  | move m =>
      by_cases hm : m = .watch
      · subst hm
        exact h.turn (hfloor.of_le (now_step p (.move .watch))) hroused
      · have hw : (p.step (.move m)).monitor.watcher = p.monitor.watcher := by
          rw [step_of_ne hm]
          exact (Threads.seen_step _ hm).1
        rw [step_of_ne hm] at hcheckins
        have hstamp : (p.toThreads.step m).stamp = p.stamp := by
          rcases Threads.checkins_step p.toThreads m with ⟨-, heq⟩ | ⟨hone, -⟩
          · exact heq
          · exact absurd (hone.symm.trans hcheckins) (Nat.succ_ne_self _)
        rw [Bound, hw]
        exact BoundAt.move h hm fun _ => hstamp

theorem checkins_le_step (p : Parking) (a : Act) : p.checkins ≤ (p.step a).checkins := by
  refine step_of_moves (P := (p.checkins ≤ ·.checkins)) (Nat.le_refl _) (fun m => ?_) a
  rcases Threads.checkins_step p.toThreads m with ⟨hc, -⟩ | ⟨hc, -⟩ <;> omega

theorem roused_le_step (p : Parking) (a : Act) : p.roused ≤ (p.step a).roused := by
  rcases step_cases p a with heq | ⟨_, -, -, heq⟩ | ⟨_, roused, -, hle, heq⟩ | ⟨_, -, heq⟩
  · exact Nat.le_of_eq (by rw [heq])
  · exact Nat.le_of_eq (by rw [heq])
  · rw [heq]
    exact hle
  · exact Nat.le_of_eq (by rw [heq])

theorem checkins_le_run (p : Parking) (schedule : List Act) :
    p.checkins ≤ (p.run schedule).checkins :=
  le_run (f := (·.checkins)) checkins_le_step p schedule

theorem roused_le_run (p : Parking) (schedule : List Act) :
    p.roused ≤ (p.run schedule).roused :=
  le_run roused_le_step p schedule

theorem Bound.run {p : Parking} (h : p.Bound) (schedule : List Act)
    (hfloor : Floors p.monitor.made (p.run schedule).now)
    (hcheckins : (p.run schedule).checkins = p.checkins)
    (hroused : (p.run schedule).roused = p.roused) : (p.run schedule).Bound := by
  induction schedule generalizing p with
  | nil => exact h
  | cons a rest ih =>
      have hc := checkins_le_step p a
      have hr := roused_le_step p a
      have hc' := checkins_le_run (p.step a) rest
      have hr' := roused_le_run (p.step a) rest
      have hcheckins : ((p.step a).run rest).checkins = p.checkins := hcheckins
      have hroused : ((p.step a).run rest).roused = p.roused := hroused
      refine ih (h.step a (hfloor.of_le (now_run (p.step a) rest)) ?_ ?_) ?_ ?_ ?_
      · omega
      · omega
      · rw [made_step]; exact hfloor
      · omega
      · omega

theorem watcher_of_judged {p : Parking} {timeout stamp : UInt64}
    (hw : p.monitor.watcher = .haveStamp timeout stamp) :
    p.turn.monitor.watcher =
      if timeout < elapsed p.clock stamp then .late
      else .parked (timeout - elapsed p.clock stamp + 1) := by
  simp only [turn, hw, advance, Threads.monitor_watch, Monitor.step]
  rfl

theorem Bound.late {p : Parking} (h : p.Bound) {timeout stamp : UInt64}
    (hw : p.monitor.watcher = .haveStamp timeout stamp) :
    p.turn.monitor.watcher = .late := by
  rw [Bound, hw] at h
  rw [watcher_of_judged hw]
  exact if_pos h

/-- The watcher has judged, by the stamp that is still the last one stored. Either it
found the deadline missed, or it will the next time. -/
theorem bound_of_judged {spec : Spec} {p : Parking} (h : Genuine spec p.toThreads)
    {timeout : UInt64} (hw : p.monitor.watcher = .haveStamp timeout p.stamp) :
    p.turn.Bound := by
  have hholds := h.holds
  rw [hw] at hholds
  obtain ⟨hforce, hcopy, hshown⟩ := hholds
  simp only [Bound, turn, hw, advance, Threads.monitor_watch, Monitor.step]
  by_cases hlate : timeout < elapsed (p.monitor.clock p.now) p.stamp
  · rw [if_pos hlate]
    trivial
  · rw [if_neg hlate]
    intro later hslept hfloor
    have hmade : p.watch.monitor.made = p.monitor.made :=
      Threads.made_step p.toThreads .watch
    simp only [Option.getD_none, Threads.now_watch, hmade] at hslept hfloor
    show p.watch.monitor.cell.timeout <
      elapsed (uptime p.watch.monitor.made later) p.watch.stamp
    rw [Threads.timeout_watch, Threads.stamp_watch, hmade]
    rw [toNat_sleep hlate hforce.lt] at hslept
    refine UInt64.lt_of_le_of_lt ?_
      (lt_elapsed_of_slept h.made hshown.le_clock hlate hfloor hslept)
    rcases hcopy with heq | hz
    · rw [heq]; exact UInt64.le_refl _
    · rw [hz]; exact UInt64.zero_le

/-! ## How many judgements are ahead -/

/-- The watcher has made its last judgement. -/
def IsOver : Watcher → Prop
  | .late | .stalled | .ended => True
  | .top | .haveTimeout _ | .haveStamp _ _ | .parked _ => False

/-- If no stamp is stored from now on, and the watcher is not woken early, it judges at
most so many times more. A watcher that goes by a stamp which is no longer the last one
stored may have to judge three times. -/
def Ahead (p : Parking) : Nat → Prop
  | 0 => IsOver p.monitor.watcher
  | 1 => p.Bound
  | 2 => ∀ timeout stamp, p.monitor.watcher = .haveStamp timeout stamp → stamp = p.stamp
  | _ => True

/-- What was judged and what is ahead are covered by what happened, and two. -/
def Paced (p : Parking) : Prop :=
  ∃ ahead, p.Ahead ahead ∧ p.judged + ahead ≤ p.checkins + p.roused + 2

/-- The watcher comes to hold a stamp by a turn in which it reads the stored one. -/
theorem haveTimeout_of_turn {p : Parking} {timeout stamp : UInt64}
    (h : p.turn.monitor.watcher = .haveStamp timeout stamp) :
    p.monitor.watcher = .haveTimeout timeout ∧ stamp = p.stamp := by
  rcases toThreads_turn p with ⟨⟨length, hw⟩, heq⟩ | heq
  · rw [heq, hw] at h
    cases h
  · rw [heq] at h
    obtain ⟨hw, hread, -⟩ := Threads.haveTimeout_of_watch h
    exact ⟨hw, hread⟩

theorem ahead_two {p : Parking}
    (h : ∀ timeout stamp, p.monitor.watcher ≠ .haveStamp timeout stamp) : p.Ahead 2 :=
  fun timeout stamp hw => absurd hw (h timeout stamp)

theorem paced_spawned (spec : Spec) (made now : Nat) : Paced (spawned spec made now) :=
  ⟨2, ahead_two nofun, Nat.le_refl 2⟩

/-- A stamp that is stored puts the watcher back by one judgement at most. -/
theorem Ahead.move {p : Parking} {ahead : Nat} (h : p.Ahead ahead) {m : Move}
    (hm : m ≠ .watch) :
    ∃ next, (p.step (.move m)).Ahead next ∧
      next + p.checkins ≤ ahead + (p.step (.move m)).checkins := by
  have hw : (p.step (.move m)).monitor.watcher = p.monitor.watcher := by
    rw [step_of_ne hm]
    exact (Threads.seen_step _ hm).1
  have hstep : (p.step (.move m)).toThreads = p.toThreads.step m := by
    rw [step_of_ne hm]
  have hle := checkins_le_step p (.move m)
  match ahead with
  | 0 => exact ⟨0, by rw [Ahead, hw]; exact h, by omega⟩
  | n + 3 => exact ⟨n + 3, trivial, by omega⟩
  | 1 =>
      rcases Threads.checkins_step p.toThreads m with ⟨-, hstamp⟩ | ⟨hone, -⟩
      · refine ⟨1, ?_, by omega⟩
        rw [Ahead, Bound, hw]
        exact BoundAt.move h hm fun _ => hstamp
      · by_cases hat : ∀ timeout stamp, p.monitor.watcher ≠ .haveStamp timeout stamp
        · refine ⟨2, ahead_two (hw ▸ hat), ?_⟩
          rw [hstep, hone]
          omega
        · refine ⟨1, ?_, by omega⟩
          rw [Ahead, Bound, hw]
          exact BoundAt.move h hm fun hne => absurd hne hat
  | 2 =>
      rcases Threads.checkins_step p.toThreads m with ⟨-, hstamp⟩ | ⟨hone, -⟩
      · refine ⟨2, ?_, by omega⟩
        intro timeout stamp hat
        rw [hstep, hstamp]
        exact h timeout stamp (hw ▸ hat)
      · refine ⟨3, trivial, ?_⟩
        rw [hstep, hone]
        omega

/-- A judgement is one of those that were ahead. -/
theorem Ahead.judge {spec : Spec} {p : Parking} (hp : Genuine spec p.toThreads)
    {ahead : Nat} (h : p.Ahead ahead) {timeout stamp : UInt64}
    (hw : p.monitor.watcher = .haveStamp timeout stamp) :
    ∃ next, p.turn.Ahead next ∧ next + 1 ≤ ahead := by
  have hne : ∀ timeout stamp, p.turn.monitor.watcher ≠ .haveStamp timeout stamp := by
    intro timeout stamp heq
    exact nomatch hw.symm.trans (haveTimeout_of_turn heq).1
  match ahead with
  | 0 => rw [Ahead, hw] at h; exact h.elim
  | 1 =>
      refine ⟨0, ?_, Nat.le_refl _⟩
      rw [Ahead, Bound.late h hw]
      trivial
  | 2 =>
      have hstamp := h timeout stamp hw
      exact ⟨1, bound_of_judged hp (hstamp ▸ hw), Nat.le_refl _⟩
  | n + 3 => exact ⟨2, ahead_two hne, by omega⟩

/-- A turn leaves as many ahead, unless the watcher is woken early. -/
theorem Ahead.turn {p : Parking} {ahead : Nat} (h : p.Ahead ahead)
    (hfloor : Floors p.monitor.made p.now) (hroused : p.turn.roused = p.roused) :
    p.turn.Ahead ahead := by
  match ahead with
  | n + 3 => trivial
  | 1 => exact Bound.turn h hfloor hroused
  | 0 =>
      cases hat : p.monitor.watcher with
      | top | haveTimeout | haveStamp | parked => rw [Ahead, hat] at h; exact h.elim
      | late =>
          simp only [Ahead, Parking.turn, hat, advance, Threads.monitor_watch, Monitor.step]
          split <;> trivial
      | stalled | ended =>
          simp only [Ahead, Parking.turn, hat, advance, Threads.monitor_watch, Monitor.step]
          trivial
  | 2 =>
      intro timeout stamp heq
      have hat := haveTimeout_of_turn heq
      simp only [Parking.turn, hat.1, advance]
      exact hat.2.trans (Threads.stamp_watch _).symm

/-- When it is woken early instead, that is something that happened. -/
theorem Paced.rouse {p : Parking} (h : p.Paced) {length : UInt64}
    (hw : p.monitor.watcher = .parked length) :
    Paced { p.advance with roused := p.roused + 1 } := by
  obtain ⟨ahead, hahead, hle⟩ := h
  have hpos : 1 ≤ ahead := by
    cases ahead with
    | zero => rw [Ahead, hw] at hahead; exact hahead.elim
    | succ n => exact Nat.le_add_left 1 n
  refine ⟨2, ahead_two ?_, ?_⟩
  · intro timeout stamp heq
    simp only [advance, Threads.monitor_watch, Monitor.step, hw] at heq
    cases heq
  · have hcheckins : p.watch.checkins = p.checkins := Threads.checkins_watch _
    simp only [advance, hcheckins]
    omega

/-- What a turn does to the account. -/
theorem turn_cases (p : Parking) :
    (∃ timeout stamp, p.monitor.watcher = .haveStamp timeout stamp ∧
      p.turn.judged = p.judged + 1 ∧ p.turn.roused = p.roused) ∨
    (∃ length, p.monitor.watcher = .parked length ∧ p.monitor.token = true ∧
      p.turn = { p.advance with roused := p.roused + 1 }) ∨
    p.turn.judged = p.judged ∧ p.turn.roused = p.roused := by
  cases hw : p.monitor.watcher with
  | haveStamp timeout stamp =>
      refine .inl ⟨timeout, stamp, rfl, ?_⟩
      simp only [turn, hw, advance, and_self]
  | parked length =>
      simp only [turn, hw]
      split
      · next htoken => exact .inr (.inl ⟨length, rfl, htoken, rfl⟩)
      · split
        · exact .inr (.inr ⟨rfl, rfl⟩)
        · split <;> exact .inr (.inr ⟨rfl, rfl⟩)
  | top | haveTimeout | late | stalled | ended =>
      simp only [turn, hw, advance, and_self, or_true]

theorem Paced.turn {spec : Spec} {p : Parking} (hp : Genuine spec p.toThreads)
    (h : p.Paced) (hfloor : Floors p.monitor.made p.now) : p.turn.Paced := by
  obtain ⟨ahead, hahead, hle⟩ := h
  have hcheckins := checkins_le_step p (.move .watch)
  simp only [Parking.step] at hcheckins
  rcases turn_cases p with
    ⟨timeout, stamp, hw, hj, hr⟩ | ⟨length, hw, -, heq⟩ | ⟨hj, hr⟩
  · obtain ⟨next, hnext, hless⟩ := hahead.judge hp hw
    exact ⟨next, hnext, by omega⟩
  · exact heq ▸ Paced.rouse ⟨ahead, hahead, hle⟩ hw
  · exact ⟨ahead, hahead.turn hfloor hr, by omega⟩

theorem Paced.step {spec : Spec} {p : Parking} (hp : Genuine spec p.toThreads)
    (h : p.Paced) (a : Act) (hfloor : Floors p.monitor.made (p.step a).now) :
    (p.step a).Paced := by
  cases a with
  | stir =>
      simp only [Parking.step, stir]
      split
      · next hw _ => exact h.rouse hw
      · exact h
  | move m =>
      by_cases hm : m = .watch
      · subst hm
        exact h.turn hp (hfloor.of_le (now_step p _))
      · obtain ⟨ahead, hahead, hle⟩ := h
        obtain ⟨next, hnext, hcover⟩ := hahead.move hm
        have hrecords : (p.step (.move m)).judged = p.judged ∧
            (p.step (.move m)).roused = p.roused := by
          rw [step_of_ne hm]
          exact ⟨rfl, rfl⟩
        exact ⟨next, hnext, by omega⟩

theorem Paced.run {spec : Spec} {p : Parking} (hp : Genuine spec p.toThreads)
    (h : p.Paced) (schedule : List Act)
    (hfloor : Floors p.monitor.made (p.run schedule).now) : (p.run schedule).Paced := by
  induction schedule generalizing p with
  | nil => exact h
  | cons a rest ih =>
      refine ih (genuine_step hp a) (h.step hp a ?_) ?_
      · exact hfloor.of_le (now_run (p.step a) rest)
      · rw [made_step]; exact hfloor

/-! ## What wakes a watcher early -/

/-- A turn in which the watcher takes the token wakes it early; no turn leaves one. -/
theorem roused_turn (p : Parking) :
    p.turn.roused + p.turn.monitor.token.toNat ≤ p.roused + p.monitor.token.toNat := by
  have htoken : p.turn.monitor.token.toNat ≤ p.monitor.token.toNat := by
    rcases toThreads_turn p with ⟨-, heq⟩ | heq
    · exact Nat.le_of_eq (by rw [heq])
    · rw [heq]; exact Threads.token_watch_le _
  rcases turn_cases p with ⟨timeout, stamp, -, -, hr⟩ | ⟨length, hw, ht, heq⟩ | ⟨-, hr⟩
  · omega
  · rw [heq, ht]
    simp [advance, Threads.monitor_watch, Monitor.step, hw]
  · omega

/-- Every early waking has a call that left the token for it, or had no reason. -/
theorem roused_step (p : Parking) (a : Act) :
    (p.step a).roused + (p.step a).monitor.token.toNat + p.disposals ≤
      p.roused + p.monitor.token.toNat + (p.step a).disposals +
        [a].count .stir := by
  cases a with
  | stir =>
      have hcount : [Act.stir].count .stir = 1 := rfl
      have hdisposals : p.watch.disposals = p.disposals := Threads.disposals_watch _
      simp only [step, stir]
      split
      · next hw _ =>
          simp only [advance, Threads.monitor_watch, Monitor.step, hw, hdisposals, hcount,
            Bool.toNat_false]
          omega
      · omega
  | move m =>
      have hcount : [Act.move m].count .stir = 0 := List.count_eq_zero.mpr (by simp)
      by_cases hm : m = .watch
      · subst hm
        have hturn := roused_turn p
        have hdisposals : p.turn.disposals = p.disposals := by
          rcases toThreads_turn p with ⟨-, heq⟩ | heq
          · rw [heq]
          · rw [heq]; exact Threads.disposals_watch _
        show p.turn.roused + p.turn.monitor.token.toNat + _ ≤ _ + p.turn.disposals + _
        omega
      · have htoken := Threads.token_step (t := p.toThreads) hm
        rw [step_of_ne hm]
        show p.roused + (p.toThreads.step m).monitor.token.toNat + _ ≤
          _ + (p.toThreads.step m).disposals + _
        omega

theorem roused_run (p : Parking) (schedule : List Act) :
    (p.run schedule).roused + (p.run schedule).monitor.token.toNat + p.disposals ≤
      p.roused + p.monitor.token.toNat + (p.run schedule).disposals +
        schedule.count .stir := by
  induction schedule generalizing p with
  | nil => exact Nat.le_refl _
  | cons a rest ih =>
      have hstep := roused_step p a
      have hrest := ih (p.step a)
      have hcount : (a :: rest).count .stir = [a].count .stir + rest.count .stir := by
        rw [← List.count_append]
        rfl
      show ((p.step a).run rest).roused + ((p.step a).run rest).monitor.token.toNat + _ ≤
        _ + ((p.step a).run rest).disposals + _
      omega

/-! ## What every judgement comes to -/

theorem genuine_run {spec : Spec} {made now : Nat} (h : made ≤ now)
    (schedule : List Act) :
    Genuine spec ((spawned spec made now).run schedule).toThreads := by
  obtain ⟨moves, heq⟩ := toThreads_run (spawned spec made now) schedule
  rw [heq]
  exact (Threads.genuine_spawned spec h).run moves

/-- Whatever the schedule: when the watcher judges, it goes by a timeout that may be in
force and by a stamp that its clock has shown. It finds the deadline missed only if more
than the timeout has passed since the instant of the stamp. If it does not, the length of
its sleep is computed without a borrow or a carry; and if no checkin is stored and nothing
wakes the watcher early, its next judgement finds the deadline missed. So it judges twice,
and once more at most for each checkin that is over, for each call that gave the monitor
up, and for each time it woke for no reason. The last two statements are about clocks that
have not come to the end of their range. -/
theorem deadline_is_judged_exactly (spec : Spec) (made now : Nat) (hmade : made ≤ now)
    (schedule : List Act) :
    let p := (spawned spec made now).run schedule
    (∀ timeout stamp, p.monitor.watcher = .haveStamp timeout stamp →
      Threads.InForce spec timeout ∧ p.Shown stamp ∧
      (p.turn.monitor.watcher = .late → ∀ before, stamp = uptime made before →
        timeout.toNat * 1000 < p.now - before) ∧
      (∀ length, p.turn.monitor.watcher = .parked length →
        elapsed p.clock stamp ≤ timeout ∧
        length.toNat = timeout.toNat - (elapsed p.clock stamp).toNat + 1 ∧
        (stamp = p.stamp → ∀ later,
          let q := p.turn.run later
          Floors made q.now → q.checkins = p.checkins → q.roused = p.roused →
            ∀ timeout stamp, q.monitor.watcher = .haveStamp timeout stamp →
              q.turn.monitor.watcher = .late))) ∧
    (Floors made p.now →
      p.judged ≤ p.checkins + 2 + p.disposals + schedule.count .stir) := by
  intro p
  have hp : Genuine spec p.toThreads := genuine_run hmade schedule
  have hclock : p.monitor.made = made := made_run _ schedule
  refine ⟨?_, ?_⟩
  · intro timeout stamp hw
    have hholds := hp.holds
    rw [hw] at hholds
    obtain ⟨hforce, -, hshown⟩ := hholds
    rw [watcher_of_judged hw]
    refine ⟨hforce, hshown, ?_, ?_⟩
    · intro hlate before hbefore
      split at hlate
      · next hlt =>
          rw [hbefore, Threads.clock, Monitor.clock, hclock] at hlt
          exact lt_sub_of_lt_elapsed hlt
      · cases hlate
    · intro length hpark
      split at hpark
      · cases hpark
      · next hle =>
          cases hpark
          refine ⟨UInt64.not_lt.mp hle, toNat_sleep hle hforce.lt, ?_⟩
          intro hstamp later q hfloor hcheckins hroused timeout' stamp' hw'
          have hrecords : p.turn.checkins = p.checkins ∧ p.turn.roused = p.roused := by
            simp only [turn, hw, advance]
            exact ⟨Threads.checkins_watch _, trivial⟩
          have hmade' : p.turn.monitor.made = made :=
            (made_step p (.move .watch)).trans hclock
          have hbound : q.Bound := by
            refine (bound_of_judged hp (hstamp ▸ hw)).run later ?_ ?_ ?_
            · rw [hmade']; exact hfloor
            · exact hcheckins.trans hrecords.1.symm
            · exact hroused.trans hrecords.2.symm
          exact hbound.late hw'
  · intro hfloor
    obtain ⟨ahead, -, hle⟩ : p.Paced :=
      Paced.run (Threads.genuine_spawned spec hmade) (paced_spawned spec made now)
        schedule hfloor
    have hroused : p.roused + p.monitor.token.toNat ≤
        0 + p.disposals + schedule.count .stir :=
      roused_run (spawned spec made now) schedule
    omega

/-- A checkin half a millisecond after the first one keeps the monitor for a while. The
watcher looks three times, and not once too often: before the checkin; after it, when
half of the timeout is left; and a microsecond past the deadline. -/
theorem deadline_is_judged_exactly_after_checkin :
    let spec : Spec := { timeout := ⟨1000000⟩ }
    let first : List Act :=
      [.move .watch, .move .watch, .move .watch, .move .watch, .move (.pass ⟨500000⟩),
        .move .checkin, .move (.proceed 0), .move (.proceed 0),
        .move (.pass ⟨501000⟩), .move .watch, .move .watch, .move .watch]
    let second : List Act :=
      [.move .watch, .move (.pass ⟨500000⟩), .move .watch, .move .watch, .move .watch]
    let all := first ++ [.move .watch] ++ second ++ [.move .watch]
    let p := (spawned spec 0 0).run first
    let q := (spawned spec 0 0).run all
    p.monitor.watcher = .haveStamp 1000 500 ∧ p.turn.monitor.watcher = .parked 500 ∧
      (p.turn.run second).turn.monitor.watcher = .late ∧
      q.judged = 3 ∧ q.judged ≤ q.checkins + 2 + q.disposals + all.count .stir := by
  intro spec first second all p q
  have hw : p.monitor.watcher = .haveStamp 1000 500 := by decide
  have hpark : p.turn.monitor.watcher = .parked 500 := by decide
  obtain ⟨-, -, hsleep⟩ := ((deadline_is_judged_exactly spec 0 0 (Nat.le_refl 0) first).1
    1000 500 hw).2.2.2 500 hpark
  have hlate : (p.turn.run second).turn.monitor.watcher = .late :=
    hsleep (by decide) second (by decide) (by decide) (by decide) 1000 500 (by decide)
  have hcount : q.judged ≤ q.checkins + 2 + q.disposals + all.count .stir :=
    (deadline_is_judged_exactly spec 0 0 (Nat.le_refl 0) all).2 (by decide)
  exact ⟨hw, hpark, hlate, by decide, hcount⟩

end Parking

end TwoTierWatchdog.Liveness
