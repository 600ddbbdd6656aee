import TwoTierWatchdog.Proofs.Liveness.Pace

/-!
# Giving up wakes the watcher

Giving a monitor up clears the timeout and then wakes the watcher, in that order. The
watcher may be anywhere meanwhile, also between its reading of the old timeout and the
sleep that it computes from it. But the token waits for it there: when the call is over,
either the token is still to be taken, or the watcher took it since and has come back to
the top of its loop, where it reads zero. `Woken` says so for each place the watcher can
be at.

From then on it ends soon. A sleep from a timeout of zero is one microsecond long, and
`rank` bounds the turns that are left to the watcher as long as no checkin comes.
-/

namespace TwoTierWatchdog.Liveness

/-- Giving up has come past clearing the timeout. -/
def Call.hasZeroed : Call → Prop
  | .haveZeroed | .disposed => True
  | .checkin | .haveClock _ | .checkedIn _ | .dispose | .haveLeft => False

namespace Threads

/-- At a given place the watcher goes by a timeout of zero, or is to read one, or has no
use for one any more. -/
def Aware (t : Threads) : Watcher → Prop
  | .haveTimeout timeout | .haveStamp timeout _ => timeout = 0
  | .parked length => length = 1 ∧ ∃ j, t.judgement = some j ∧ j.timeout = 0
  | .top | .late | .stalled | .ended => True

/-- What holds between any two moves of the calls that have cleared the timeout. -/
structure Woken (t : Threads) : Prop where
  zeroed : ∀ c ∈ t.calls, c.hasZeroed → t.monitor.cell.timeout = 0
  woken : .disposed ∈ t.calls → t.monitor.token = true ∨ t.Aware t.monitor.watcher

theorem woken_spawned (spec : Spec) (made now : Nat) : Woken (spawned spec made now) where
  zeroed _ h := absurd h List.not_mem_nil
  woken h := absurd h List.not_mem_nil

/-- A new call has cleared nothing. -/
theorem Woken.enter {t : Threads} (h : Woken t) {c : Call} (hc : ¬ c.hasZeroed) :
    Woken { t with calls := t.calls ++ [c] } where
  zeroed d hd hz := by
    rcases List.mem_append.mp hd with hd | hd
    · exact h.zeroed d hd hz
    · exact absurd (List.mem_singleton.mp hd ▸ hz) hc
  woken hd := by
    rcases List.mem_append.mp hd with hd | hd
    · exact h.woken hd
    · exact absurd (List.mem_singleton.mp hd ▸ trivial) hc

/-- A call that is not about to clear the timeout, or to wake the watcher, changes neither
the one nor the other. -/
theorem Woken.replace {t : Threads} (h : Woken t) {monitor : Monitor} {i : Nat} {c : Call}
    (hc : ¬ c.hasZeroed) (htimeout : monitor.cell.timeout = t.monitor.cell.timeout)
    (htoken : monitor.token = t.monitor.token)
    (hwatcher : monitor.watcher = t.monitor.watcher) :
    Woken { t with monitor, calls := t.calls.set i c } where
  zeroed d hd hz := by
    rcases List.mem_or_eq_of_mem_set hd with hd | rfl
    · exact htimeout.trans (h.zeroed d hd hz)
    · exact absurd hz hc
  woken hd := by
    rcases List.mem_or_eq_of_mem_set hd with hd | rfl
    · show monitor.token = true ∨ Aware _ monitor.watcher
      rw [htoken, hwatcher]
      exact h.woken hd
    · exact absurd trivial hc

theorem Woken.proceed {t : Threads} (h : Woken t) (i : Nat) : Woken (t.proceed i) := by
  unfold Threads.proceed
  split
  · exact h
  · next call hcall =>
      have hmem := List.mem_of_getElem? hcall
      cases call with
      | checkin | haveClock | checkedIn => exact h.replace id rfl rfl rfl
      | dispose =>
          refine h.replace id ?_ rfl rfl
          simp only [Cell.leaveRunning]
          split <;> rfl
      | haveLeft =>
          refine ⟨fun _ _ _ => rfl, fun hd => ?_⟩
          rcases List.mem_or_eq_of_mem_set hd with hd | hd
          · exact h.woken hd
          · cases hd
      | haveZeroed =>
          have hzero := h.zeroed _ hmem trivial
          exact ⟨fun _ _ _ => hzero, fun _ => .inl rfl⟩
      | disposed =>
          have hzero := h.zeroed _ hmem trivial
          exact ⟨fun _ _ _ => hzero, fun _ => h.woken hmem⟩

/-- The watcher loses the token only when it goes back to the top. -/
theorem Woken.watch {t : Threads} (h : Woken t) : Woken t.watch where
  zeroed c hc hz := (timeout_watch t).trans (h.zeroed c (calls_watch t ▸ hc) hz)
  woken hd := by
    rw [calls_watch] at hd
    have hzero := h.zeroed _ hd trivial
    have hw := h.woken hd
    rw [monitor_watch]
    cases hat : t.monitor.watcher with
    | top =>
        simp only [Monitor.step, hat]
        exact .inr hzero
    | haveTimeout timeout =>
        rw [hat] at hw
        simp only [Monitor.step, hat]
        exact hw
    | haveStamp timeout stamp =>
        rw [hat] at hw
        simp only [Monitor.step, hat]
        refine hw.imp_right ?_
        rintro (rfl : timeout = 0)
        split
        · trivial
        · next hle =>
            -- A timeout of zero that is not exceeded: the clock still shows the stamp.
            have htime : elapsed (t.monitor.clock t.now) stamp = 0 :=
              UInt64.le_antisymm (UInt64.not_lt.mp hle) UInt64.zero_le
            refine ⟨by rw [htime]; rfl, ?_⟩
            simp only [Threads.watch, hat, Option.some.injEq, exists_eq_left']
    | late =>
        simp only [Monitor.step, hat]
        exact .inr (by split <;> trivial)
    | stalled | parked | ended =>
        simp only [Monitor.step, hat]
        exact .inr trivial

theorem Woken.step {t : Threads} (h : Woken t) (m : Move) : Woken (t.step m) := by
  cases m with
  | pass => exact ⟨h.zeroed, h.woken⟩
  | checkin | dispose => exact h.enter id
  | proceed i => exact h.proceed i
  | watch => exact h.watch

theorem disposed_step {t : Threads} (h : .disposed ∈ t.calls) (m : Move) :
    .disposed ∈ (t.step m).calls := by
  obtain ⟨i, hi⟩ := List.mem_iff_getElem?.mp h
  exact List.mem_of_getElem? (getElem?_step_of_over (fun _ _ => rfl) hi m)

theorem disposed_run {t : Threads} (h : .disposed ∈ t.calls) (schedule : List Move) :
    .disposed ∈ (t.run schedule).calls :=
  run_keeps (P := (.disposed ∈ ·.calls)) disposed_step h schedule

theorem Woken.run {t : Threads} (h : Woken t) (schedule : List Move) :
    Woken (t.run schedule) :=
  run_keeps Woken.step h schedule

end Threads

namespace Parking

open Threads (Woken Consistent)

theorem timeout_of_zero {p : Parking} (h : p.monitor.cell.timeout = 0) (a : Act) :
    (p.step a).monitor.cell.timeout = 0 := by
  refine step_of_moves (P := (·.monitor.cell.timeout = 0)) h (fun m => ?_) a
  rcases Threads.timeout_step p.toThreads m with hsame | hz
  · exact hsame.trans h
  · exact hz

theorem clock_le_step (p : Parking) (a : Act) : p.clock ≤ (p.step a).clock :=
  step_of_moves (P := (p.clock ≤ ·.clock)) (UInt64.le_refl _) (Threads.clock_step _) a

theorem stamp_of_checkins {p : Parking} {a : Act}
    (h : (p.step a).checkins = p.checkins) : (p.step a).stamp = p.stamp := by
  rcases toThreads_step p a with heq | ⟨m, heq⟩
  · rw [heq]
  · rw [heq] at h ⊢
    rcases Threads.checkins_step p.toThreads m with ⟨-, hsame⟩ | ⟨hone, -⟩
    · exact hsame
    · omega

/-! ## How many turns are left -/

/-- The turns that the watcher of a monitor with a timeout of zero takes until it ends,
at most, if the last stamp is older than the clock. One that holds a timeout other than
zero, or a stamp that is not older, may go round once more. -/
def rankAt (p : Parking) : Watcher → Nat
  | .ended => 0
  | .stalled => 1
  | .late => 2
  | .haveStamp timeout stamp => if timeout = 0 ∧ stamp < p.clock then 3 else 8
  | .haveTimeout timeout => if timeout = 0 then 4 else 9
  | .top => 5
  | .parked _ => if p.since.isSome then 6 else 7

def rank (p : Parking) : Nat :=
  p.rankAt p.monitor.watcher

theorem rank_le_nine (p : Parking) : p.rank ≤ 9 := by
  unfold rank
  cases p.monitor.watcher <;> simp only [rankAt] <;> first | omega | (split <;> omega)

theorem ended_of_rank {p : Parking} (h : p.rank = 0) : p.monitor.watcher = .ended := by
  unfold rank at h
  cases hw : p.monitor.watcher with
  | ended => rfl
  | stalled | late | top => rw [hw] at h; cases h
  | haveStamp | haveTimeout | parked =>
      rw [hw] at h
      simp only [rankAt] at h
      split at h <;> cases h

/-- The watcher is past its last look at the stamp, or the last stamp is older than the
clock. -/
def Near (p : Parking) : Prop :=
  p.rank ≤ 3 ∨ p.stamp < p.clock

theorem rank_move {m : Move} (hm : m ≠ .watch) (p : Parking) :
    rank { p with toThreads := p.toThreads.step m } ≤ p.rank := by
  have hclock := Threads.clock_step p.toThreads m
  rw [rank, rank, show _ = p.monitor.watcher from (Threads.seen_step _ hm).1]
  cases p.monitor.watcher with
  | ended | stalled | late | top | haveTimeout | parked => exact Nat.le_refl _
  | haveStamp timeout stamp =>
      simp only [rankAt]
      by_cases hold : timeout = 0 ∧ stamp < p.clock
      · have hlater := UInt64.lt_of_lt_of_le hold.2 hclock
        exact Nat.le_of_eq ((if_pos ⟨hold.1, hlater⟩).trans (if_pos hold).symm)
      · rw [if_neg hold]
        split <;> omega

theorem elapsed_pos {clock stamp : UInt64} (h : stamp < clock) :
    0 < elapsed clock stamp := by
  rw [UInt64.lt_iff_toNat_lt] at h ⊢
  rw [toNat_elapsed]
  simp only [UInt64.reduceToNat]
  omega

/-- A step of the watcher brings the end nearer. -/
theorem rank_advance {p : Parking} (hzero : p.monitor.cell.timeout = 0)
    (hnear : p.Near) : p.advance.rank ≤ p.rank - 1 := by
  unfold Near rank at hnear
  rw [rank, rank, show p.advance.monitor = p.monitor.step p.now from p.monitor_watch]
  cases hat : p.monitor.watcher with
  | ended => simp only [Monitor.step, hat, rankAt]; decide
  | stalled => simp only [Monitor.step, hat, rankAt]; decide
  | late => simp only [Monitor.step, hat]; split <;> simp only [rankAt] <;> decide
  | top => simp only [Monitor.step, hat, rankAt, if_pos hzero]; decide
  | parked length => simp only [Monitor.step, hat, rankAt]; split <;> decide
  | haveTimeout timeout =>
      -- It is still to look at the stamp, so the last one is older.
      rw [hat] at hnear
      have hstamp : p.stamp < p.advance.clock := by
        rw [show p.advance.clock = p.clock from Threads.clock_watch _]
        refine hnear.resolve_left ?_
        simp only [rankAt]
        split <;> decide
      simp only [Monitor.step, hat, rankAt]
      by_cases hheld : timeout = 0
      · exact Nat.le_of_eq (by rw [if_pos hheld, if_pos ⟨hheld, hstamp⟩])
      · rw [if_neg hheld]
        split <;> decide
  | haveStamp timeout stamp =>
      by_cases hold : timeout = 0 ∧ stamp < p.clock
      · obtain ⟨rfl, hlt⟩ := hold
        have hnow : p.rankAt (.haveStamp 0 stamp) = 3 := if_pos ⟨rfl, hlt⟩
        rw [hnow]
        simp only [Monitor.step, hat]
        rw [if_pos (show 0 < elapsed (p.monitor.clock p.now) stamp from elapsed_pos hlt)]
        simp only [rankAt]
        decide
      · have hnow : p.rankAt (.haveStamp timeout stamp) = 8 := if_neg hold
        rw [hnow]
        simp only [Monitor.step, hat]
        split <;> simp only [rankAt]
        · decide
        · split <;> decide

/-- Every turn that the watcher does not sleep through brings the end nearer, and nothing
that others do puts it off. -/
theorem rank_step {p : Parking} (hzero : p.monitor.cell.timeout = 0) (hnear : p.Near)
    (a : Act) :
    p.turns ≤ (p.step a).turns ∧
      (p.step a).rank ≤ p.rank - ((p.step a).turns - p.turns) := by
  rcases step_cases p a with heq | ⟨length, hw, hs, heq⟩ | ⟨judged, roused, -, -, heq⟩ |
    ⟨m, hm, heq⟩ <;> rw [heq]
  · omega
  · have hawake : p.rank = 7 := by simp only [rank, hw, rankAt, hs]; rfl
    have hasleep : rank { p with since := some p.now, turns := p.turns + 1 } = 6 := by
      simp only [rank, hw, rankAt]
      rfl
    rw [hawake, hasleep]
    show p.turns ≤ p.turns + 1 ∧ 6 ≤ 7 - (p.turns + 1 - p.turns)
    omega
  · have hrank : rank { p.advance with judged, roused } ≤ p.rank - 1 :=
      rank_advance hzero hnear
    show p.turns ≤ p.turns + 1 ∧ _ ≤ p.rank - (p.turns + 1 - p.turns)
    omega
  · have hrank := rank_move hm p
    show p.turns ≤ p.turns ∧ _ ≤ p.rank - (p.turns - p.turns)
    omega

theorem Near.step {p : Parking} (hzero : p.monitor.cell.timeout = 0) (h : p.Near)
    (a : Act) (hcheckins : p.rank ≤ 3 ∨ (p.step a).checkins = p.checkins) :
    (p.step a).Near := by
  have hrank := (rank_step hzero h a).2
  rcases hcheckins with hle | hcheckins
  · exact .inl (by omega)
  · refine h.imp (fun hle => by omega) fun hlt => ?_
    rw [stamp_of_checkins hcheckins]
    exact UInt64.lt_of_lt_of_le hlt (clock_le_step p a)

theorem rank_run {p : Parking} (hzero : p.monitor.cell.timeout = 0) (hnear : p.Near)
    (schedule : List Act)
    (hcheckins : p.rank ≤ 3 ∨ (p.run schedule).checkins = p.checkins) :
    p.turns ≤ (p.run schedule).turns ∧
      (p.run schedule).rank ≤ p.rank - ((p.run schedule).turns - p.turns) := by
  induction schedule generalizing p with
  | nil => exact ⟨Nat.le_refl _, by show p.rank ≤ _; simp [run]⟩
  | cons a rest ih =>
      obtain ⟨hturns, hrank⟩ := rank_step hzero hnear a
      have hboth : p.rank ≤ 3 ∨ (p.step a).checkins = p.checkins ∧
          ((p.step a).run rest).checkins = (p.step a).checkins := by
        refine hcheckins.imp_right fun hsame => ?_
        have hsame : ((p.step a).run rest).checkins = p.checkins := hsame
        have := checkins_le_step p a
        have := checkins_le_run (p.step a) rest
        omega
      obtain ⟨hturns', hrank'⟩ := ih (timeout_of_zero hzero a)
        (hnear.step hzero a (hboth.imp_right And.left))
        (hboth.imp (fun hle => by omega) And.right)
      show p.turns ≤ ((p.step a).run rest).turns ∧
        ((p.step a).run rest).rank ≤ p.rank - (((p.step a).run rest).turns - p.turns)
      omega

/-! ## What giving up comes to -/

/-- A watcher that sleeps fell asleep at an instant that has come. -/
theorem since_step {p : Parking} (h : ∀ since, p.since = some since → since ≤ p.now)
    (a : Act) : ∀ since, (p.step a).since = some since → since ≤ (p.step a).now := by
  rcases step_cases p a with heq | ⟨_, -, -, heq⟩ | ⟨_, _, -, -, heq⟩ | ⟨m, -, heq⟩ <;>
    rw [heq]
  · exact h
  · rintro since ⟨⟩
    exact Nat.le_refl p.now
  · rintro since ⟨⟩
  · exact fun since hs => Nat.le_trans (h since hs) (Threads.now_step _ m)

theorem since_run {p : Parking} (h : ∀ since, p.since = some since → since ≤ p.now)
    (schedule : List Act) :
    ∀ since, (p.run schedule).since = some since → since ≤ (p.run schedule).now := by
  induction schedule generalizing p with
  | nil => exact h
  | cons a rest ih => exact ih (since_step h a)

/-- Whatever the schedule: once a call that gives the monitor up is over, the state stays
as it is from then on. If the watcher sleeps without a token, then on a timeout of zero,
and a microsecond later it does not. A round that it begins goes by a timeout of zero.
It ends in the first such round that reads the clock past the stamp: within three steps
of that reading, whatever else happens, and within nine of any time at which the last
stamp is past, if no other is stored. -/
theorem wakeup_is_never_lost (spec : Spec) (made now : Nat) (schedule : List Act) :
    let p := (spawned spec made now).run schedule
    .disposed ∈ p.calls → ∀ later,
      let q := p.run later
      (q.state = p.state ∧ q.state ≠ .running) ∧
      (q.Blocked → (∃ j, q.judgement = some j ∧ j.timeout = 0) ∧
        ∀ time, 1000 ≤ time.nanos → ¬ (q.step (.move (.pass time))).Blocked) ∧
      (q.monitor.watcher = .top → q.turn.monitor.watcher = .haveTimeout 0) ∧
      (∀ stamp, q.monitor.watcher = .haveStamp 0 stamp → stamp < q.clock →
        q.turn.monitor.watcher = .late ∧
        ∀ rest, q.turns + 3 ≤ (q.run rest).turns →
          (q.run rest).monitor.watcher = .ended) ∧
      (q.stamp < q.clock → ∀ rest, (q.run rest).checkins = q.checkins →
        q.turns + 9 ≤ (q.run rest).turns → (q.run rest).monitor.watcher = .ended) := by
  intro p hover later q
  obtain ⟨before, hp⟩ := toThreads_run (spawned spec made now) schedule
  obtain ⟨after, hq⟩ := toThreads_run p later
  have hconsistent : Consistent spec p.toThreads :=
    hp ▸ (Threads.consistent_spawned spec made now).run before
  have hwoken : Woken p.toThreads :=
    hp ▸ (Threads.woken_spawned spec made now).run before
  have hwoken' : Woken q.toThreads := hq ▸ hwoken.run after
  have hsince : ∀ since, q.since = some since → since ≤ q.now :=
    since_run (since_run (p := spawned spec made now) nofun schedule) later
  have hover' : .disposed ∈ q.calls := hq ▸ Threads.disposed_run hover after
  have hzero : q.monitor.cell.timeout = 0 := hwoken'.zeroed _ hover' trivial
  have hleft : p.state ≠ .running := hconsistent.left _ hover trivial
  have hstate : q.state = p.state := hq ▸ Threads.state_run_of_left hleft after
  refine ⟨⟨hstate, hstate ▸ hleft⟩, ?_, ?_, ?_, ?_⟩
  · -- No token is left for it, so it took one since, and is aware.
    rintro ⟨length, since, hw, hs, htoken, hlt⟩
    have haware := (hwoken'.woken hover').resolve_left (by rw [htoken]; decide)
    rw [hw] at haware
    obtain ⟨rfl, hjudged⟩ := haware
    refine ⟨hjudged, ?_⟩
    rintro time htime ⟨length, since', hw', hs', -, hlt'⟩
    cases hw.symm.trans hw'
    cases hs.symm.trans hs'
    have hle := hsince since hs
    have hlt' : q.now + time.nanos < since + 1000 := hlt'
    omega
  · intro hw
    simp only [turn, hw, advance, Threads.monitor_watch, Monitor.step, hzero]
  · intro stamp hw hlt
    have hrank : q.rank = 3 := by rw [rank, hw]; exact if_pos ⟨rfl, hlt⟩
    refine ⟨?_, ?_⟩
    · rw [watcher_of_judged hw]
      exact if_pos (elapsed_pos hlt)
    · intro rest hturns
      have hrest := rank_run hzero (.inl (Nat.le_of_eq hrank)) rest
        (.inl (Nat.le_of_eq hrank))
      exact ended_of_rank (by omega)
  · intro hlt rest hcheckins hturns
    have hrank := q.rank_le_nine
    have hrest := rank_run hzero (.inr hlt) rest (.inr hcheckins)
    exact ended_of_rank (by omega)

/-- The watcher has read the timeout of thirty seconds and is about to read the stamp
when the monitor is given up. It still computes a sleep of half a minute, but it does not
sleep: the token sends it round again, and nine steps later it has ended, at the same
instant. -/
theorem wakeup_is_never_lost_before_sleep :
    let spec : Spec := { timeout := ⟨30000000000⟩ }
    let schedule : List Act :=
      [.move .watch, .move .dispose, .move (.proceed 0), .move (.proceed 0),
        .move (.proceed 0)]
    let p := (spawned spec 0 0).run schedule
    let q := p.run [.move (.pass ⟨5000⟩), .move .watch, .move .watch]
    let r := q.run (List.replicate 9 (.move .watch))
    .disposed ∈ p.calls ∧ q.monitor.watcher = .parked 29999996 ∧
      r.monitor.watcher = .ended ∧ r.state = .disposed ∧ r.now = q.now := by
  intro spec schedule p q r
  have hover : .disposed ∈ p.calls := by decide
  obtain ⟨-, -, -, -, hends⟩ := wakeup_is_never_lost spec 0 0 schedule hover
    [.move (.pass ⟨5000⟩), .move .watch, .move .watch]
  have hended := hends (by decide) (List.replicate 9 (.move .watch)) (by decide) (by decide)
  exact ⟨hover, by decide, hended, by decide, by decide⟩

end Parking

end TwoTierWatchdog.Liveness
