import TwoTierWatchdog.Liveness.Threads

/-!
# The callback agrees with the final state

A monitor leaves `running` through one exchange, and three parties race for it: the
watcher, whoever gives the monitor up, and whoever gives it up again. This file follows
the race through every schedule of `Threads`.

What decides it is the order in which giving up writes: the state first, the timeout
after it. As long as the state is `running` the timeout is therefore the one that the
monitor was made with, and so is every copy of it that the watcher holds and could
still win with. `Consistent` says so for each place the watcher can be at, and `step`
keeps it move by move; the statements about whole schedules are read off it at the end.
-/

namespace TwoTierWatchdog.Liveness

/-- How often the callback has run once the watcher has ended, by where the monitor then
stands. -/
def Spec.hitsAt (spec : Spec) : State → Nat
  | .running => 0
  | .fired => 1
  | .disposed => if spec.policy = .fire then 1 else 0

theorem Spec.hitsAt_le_one (spec : Spec) (s : State) : spec.hitsAt s ≤ 1 := by
  cases s with
  | running => exact Nat.zero_le 1
  | fired => exact Nat.le_refl 1
  | disposed => rw [Spec.hitsAt]; split <;> omega

/-- Giving up has come past its exchange. -/
def Call.hasLeft : Call → Prop
  | .haveLeft | .haveZeroed | .disposed => True
  | .checkin | .haveClock _ | .checkedIn _ | .dispose => False

namespace Threads

/-- The watcher's last judgement found the original timeout exceeded. -/
def JudgedLate (spec : Spec) (t : Threads) : Prop :=
  ∃ j, t.judgement = some j ∧ j.timeout = spec.timeoutUs ∧
    j.timeout < elapsed j.clock j.stamp

/-- What holds while the watcher is at a given place. Before its exchange the callback
has not run and nobody has fired; a timeout that it holds is the original one, or the
exchange is lost already. -/
def Agrees (spec : Spec) (t : Threads) : Watcher → Prop
  | .top | .parked _ => t.monitor.hits = 0 ∧ t.state ≠ .fired
  | .haveTimeout timeout | .haveStamp timeout _ =>
    t.monitor.hits = 0 ∧ t.state ≠ .fired ∧
      (t.state = .running → timeout = spec.timeoutUs)
  | .late =>
    t.monitor.hits = 0 ∧ t.state ≠ .fired ∧ (t.state = .running → t.JudgedLate spec)
  | .stalled =>
    t.monitor.hits = 0 ∧ t.state ≠ .running ∧ (t.state = .disposed → spec.policy = .fire)
  | .ended => t.state ≠ .running ∧ t.monitor.hits = spec.hitsAt t.state

/-- What holds between any two moves, for a monitor made from `spec`. -/
structure Consistent (spec : Spec) (t : Threads) : Prop where
  policy : t.monitor.policy = spec.policy
  armed : t.state = .running → t.monitor.cell.timeout = spec.timeoutUs
  left : ∀ c ∈ t.calls, c.hasLeft → t.state ≠ .running
  agrees : t.Agrees spec t.monitor.watcher

theorem consistent_spawned (spec : Spec) (made now : Nat) :
    Consistent spec (spawned spec made now) where
  policy := rfl
  armed _ := rfl
  left _ h := absurd h List.not_mem_nil
  agrees := ⟨rfl, nofun⟩

/-! ## One move -/

/-- A call takes the place of another: what is known of the calls past their exchange is
known still, provided it is known of the new one. -/
theorem hasLeft_set {calls : List Call} {i : Nat} {c : Call} {p : Prop}
    (h : ∀ d ∈ calls, d.hasLeft → p) (hc : c.hasLeft → p) :
    ∀ d ∈ calls.set i c, d.hasLeft → p := by
  intro d hd hl
  rcases List.mem_or_eq_of_mem_set hd with hd | rfl
  · exact h d hd hl
  · exact hc hl

/-- The exchange of a call that gives the monitor up. If it wins, the watcher is not past
its own exchange, for by then it would have left `running` or found it left. -/
theorem Consistent.leave {spec : Spec} {t : Threads} (h : Consistent spec t) (i : Nat) :
    Consistent spec { t with
      monitor := { t.monitor with cell := (t.monitor.cell.leaveRunning .disposed).2 }
      calls := t.calls.set i .haveLeft } := by
  have ha := h.agrees
  by_cases hs : t.state = .running
  · simp only [Cell.leaveRunning, if_pos (show t.monitor.cell.state = _ from hs)]
    refine ⟨h.policy, nofun, fun _ _ _ => nofun, ?_⟩
    show Agrees spec _ t.monitor.watcher
    revert ha
    cases t.monitor.watcher with
    | top | parked => exact fun ha => ⟨ha.1, nofun⟩
    | haveTimeout | haveStamp | late => exact fun ha => ⟨ha.1, nofun, nofun⟩
    | stalled => exact fun ha => absurd hs ha.2.1
    | ended => exact fun ha => absurd hs ha.1
  · simp only [Cell.leaveRunning, if_neg (show ¬ t.monitor.cell.state = _ from hs)]
    exact ⟨h.policy, h.armed, hasLeft_set h.left fun _ => hs, ha⟩

theorem Consistent.proceed {spec : Spec} {t : Threads} (h : Consistent spec t)
    (i : Nat) : Consistent spec (t.proceed i) := by
  unfold Threads.proceed
  split
  · exact h
  · next call hcall =>
      have hleft : call.hasLeft → t.state ≠ .running :=
        h.left call (List.mem_of_getElem? hcall)
      cases call with
      | checkin | haveClock | checkedIn =>
          exact ⟨h.policy, h.armed, hasLeft_set h.left False.elim, h.agrees⟩
      | dispose => exact h.leave i
      | haveLeft =>
          have hs := hleft trivial
          exact ⟨h.policy, fun hr => absurd hr hs, hasLeft_set h.left fun _ => hs,
            h.agrees⟩
      | haveZeroed | disposed =>
          exact ⟨h.policy, h.armed, hasLeft_set h.left fun _ => hleft trivial,
            h.agrees⟩

/-- The watcher's exchange. It wins on a judgement by the original timeout; if it loses,
the monitor was given up, and the policy says whether the callback is still to run. -/
theorem Consistent.exchange {spec : Spec} {t : Threads} (h : Consistent spec t)
    (hw : t.monitor.watcher = .late) :
    Consistent spec { t with monitor := t.monitor.step t.now } := by
  have ha := h.agrees
  rw [hw] at ha
  obtain ⟨hits, hf, -⟩ := ha
  by_cases hs : t.state = .running
  · simp only [Monitor.step, hw, Cell.leaveRunning,
      if_pos (show t.monitor.cell.state = _ from hs), Bool.true_or, if_true]
    exact ⟨h.policy, nofun, fun _ _ _ => nofun, hits, nofun, nofun⟩
  · simp only [Monitor.step, hw, Cell.leaveRunning,
      if_neg (show ¬ t.monitor.cell.state = _ from hs), Bool.false_or, beq_iff_eq]
    refine ⟨h.policy, h.armed, h.left, ?_⟩
    have hd : t.state = .disposed := by
      cases hst : t.state with
      | running => exact absurd hst hs
      | fired => exact absurd hst hf
      | disposed => rfl
    show Agrees spec _ (if t.monitor.policy = .fire then Watcher.stalled else .ended)
    rw [h.policy]
    split
    · next hp => exact ⟨hits, hs, fun _ => hp⟩
    · next hp =>
        refine ⟨hs, ?_⟩
        show t.monitor.hits = spec.hitsAt t.state
        rw [hits, hd, Spec.hitsAt, if_neg hp]

theorem Consistent.watch {spec : Spec} {t : Threads} (h : Consistent spec t) :
    Consistent spec t.watch := by
  have ha := h.agrees
  unfold Threads.watch
  cases hw : t.monitor.watcher with
  | top =>
      rw [hw] at ha
      simp only [Monitor.step, hw]
      exact ⟨h.policy, h.armed, h.left, ha.1, ha.2, h.armed⟩
  | haveTimeout timeout =>
      rw [hw] at ha
      simp only [Monitor.step, hw]
      exact ⟨h.policy, h.armed, h.left, ha⟩
  | haveStamp timeout stamp =>
      rw [hw] at ha
      obtain ⟨hits, hf, ht⟩ := ha
      simp only [Monitor.step, hw]
      refine ⟨h.policy, h.armed, h.left, ?_⟩
      by_cases hlt : timeout < elapsed (t.monitor.clock t.now) stamp
      · rw [if_pos hlt]
        exact ⟨hits, hf, fun hs => ⟨_, rfl, ht hs, hlt⟩⟩
      · rw [if_neg hlt]
        exact ⟨hits, hf⟩
  | late => exact h.exchange hw
  | stalled =>
      rw [hw] at ha
      obtain ⟨hits, hs, hd⟩ := ha
      simp only [Monitor.step, hw]
      refine ⟨h.policy, h.armed, h.left, hs, ?_⟩
      show t.monitor.hits + 1 = spec.hitsAt t.state
      rw [hits]
      cases hst : t.state with
      | running => exact absurd hst hs
      | fired => rfl
      | disposed => rw [Spec.hitsAt, if_pos (hd hst)]
  | parked length =>
      rw [hw] at ha
      simp only [Monitor.step, hw]
      exact ⟨h.policy, h.armed, h.left, ha⟩
  | ended =>
      rw [hw] at ha
      simp only [Monitor.step, hw]
      exact ⟨h.policy, h.armed, h.left, hw ▸ ha⟩

theorem Consistent.step {spec : Spec} {t : Threads} (h : Consistent spec t)
    (m : Move) : Consistent spec (t.step m) := by
  cases m with
  | pass time => exact ⟨h.policy, h.armed, h.left, h.agrees⟩
  | checkin | dispose =>
      refine ⟨h.policy, h.armed, ?_, h.agrees⟩
      intro c hc hl
      rcases List.mem_append.mp hc with hc | hc
      · exact h.left c hc hl
      · rw [List.mem_singleton.mp hc] at hl
        exact hl.elim
  | proceed i => exact h.proceed i
  | watch => exact h.watch

theorem Consistent.run {spec : Spec} {t : Threads} (h : Consistent spec t)
    (schedule : List Move) : Consistent spec (t.run schedule) :=
  run_keeps Consistent.step h schedule

/-! ## Where the state can go

The inversion of a move by what it does to the state, free of any invariant: only two
moves touch the state at all, and both only move it away from `running`. -/

theorem state_watch (t : Threads) :
    t.watch.state = t.state ∨
      t.state = .running ∧ t.monitor.watcher = .late ∧ t.watch.state = .fired := by
  unfold Threads.watch state
  cases hw : t.monitor.watcher <;> simp only [Monitor.step, hw, true_or]
  case late =>
    by_cases hs : t.monitor.cell.state = .running
    · simp [Cell.leaveRunning, hs]
    · simp [Cell.leaveRunning, hs]

theorem state_proceed (t : Threads) (i : Nat) :
    (t.proceed i).state = t.state ∨
      t.state = .running ∧ t.calls[i]? = some .dispose ∧
        (t.proceed i).state = .disposed := by
  unfold Threads.proceed state
  split
  · exact .inl rfl
  · next call hcall =>
      cases call with
      | checkin | haveClock | checkedIn | haveLeft | haveZeroed | disposed =>
          exact .inl rfl
      | dispose =>
          by_cases hs : t.monitor.cell.state = .running
          · simp [Call.proceed, Cell.leaveRunning, hs, hcall]
          · simp [Call.proceed, Cell.leaveRunning, hs]

theorem state_step (t : Threads) (m : Move) :
    (t.step m).state = t.state ∨ t.state = .running ∧
      (m = .watch ∧ t.monitor.watcher = .late ∧ (t.step m).state = .fired ∨
        ∃ i, m = .proceed i ∧ t.calls[i]? = some .dispose ∧
          (t.step m).state = .disposed) := by
  cases m with
  | pass | checkin | dispose => exact .inl rfl
  | proceed i =>
      exact (state_proceed t i).imp_right fun ⟨hs, hc, hd⟩ => ⟨hs, .inr ⟨i, rfl, hc, hd⟩⟩
  | watch =>
      exact (state_watch t).imp_right fun ⟨hs, hw, hf⟩ => ⟨hs, .inl ⟨rfl, hw, hf⟩⟩

theorem state_run_of_left {t : Threads} (hs : t.state ≠ .running)
    (schedule : List Move) : (t.run schedule).state = t.state := by
  induction schedule generalizing t with
  | nil => rfl
  | cons m rest ih =>
      have hm : (t.step m).state = t.state :=
        (state_step t m).resolve_right fun h => hs h.1
      exact (ih (hm ▸ hs)).trans hm

/-! ## What every schedule comes to -/

/-- The callback has run at most once, and before the watcher has ended not at all. -/
theorem Consistent.hits_eq {spec : Spec} {t : Threads} (h : Consistent spec t) :
    t.monitor.hits = 0 ∨
      t.monitor.watcher = .ended ∧ t.monitor.hits = spec.hitsAt t.state := by
  have ha := h.agrees
  cases hw : t.monitor.watcher with
  | ended => rw [hw] at ha; exact .inr ⟨rfl, ha.2⟩
  | _ => rw [hw] at ha; exact .inl ha.1

/-- Whatever the schedule: the state leaves `running` once, for `fired` by the watcher
or for `disposed` by giving up, and then stays. The watcher wins only on a judgement
that found the timeout the monitor was made with exceeded, so giving up alone never
fires. The callback runs at most once; once the watcher has ended, it has run if the
monitor fired, and if it was given up then exactly under the policy that says so. -/
theorem callback_agrees_with_state (spec : Spec) (made now : Nat)
    (hz : spec.timeoutMs ≠ 0) (schedule : List Move) :
    let t := (spawned spec made now).run schedule
    (∀ later, t.state ≠ .running → (t.run later).state = t.state) ∧
    (∀ m, t.state = .running → (t.step m).state ≠ .running →
      (m = .watch ∧ (t.step m).state = .fired ∧
        ∃ j, t.judgement = some j ∧ j.timeout = spec.timeoutUs ∧ j.timeout ≠ 0 ∧
          j.timeout < elapsed j.clock j.stamp) ∨
      (∃ i, m = .proceed i ∧ t.calls[i]? = some .dispose ∧
        (t.step m).state = .disposed)) ∧
    t.monitor.hits ≤ 1 ∧
    (spec.policy = .silent → t.monitor.hits ≠ 0 → t.state = .fired) ∧
    (t.monitor.watcher = .ended → t.state ≠ .running ∧
      (t.state = .fired → t.monitor.hits = 1) ∧
      (t.state = .disposed → t.monitor.hits = if spec.policy = .fire then 1 else 0)) := by
  intro t
  have h : Consistent spec t := (consistent_spawned spec made now).run schedule
  have hpos : spec.timeoutUs ≠ 0 := by
    intro h0
    have := spec.toNat_timeoutUs
    rw [h0] at this
    exact hz (UInt32.toNat_inj.mp (by simp at this ⊢; omega))
  refine ⟨fun later hs => state_run_of_left hs later, ?_, ?_, ?_, ?_⟩
  · intro m hr hne
    rcases state_step t m with heq | ⟨-, ⟨rfl, hw, hf⟩ | hd⟩
    · exact absurd (heq.trans hr) hne
    · have ha := h.agrees
      rw [hw] at ha
      obtain ⟨j, hj, ht, hlt⟩ := ha.2.2 hr
      exact .inl ⟨rfl, hf, j, hj, ht, ht ▸ hpos, hlt⟩
    · exact .inr hd
  · rcases h.hits_eq with h0 | ⟨-, heq⟩
    · omega
    · exact heq ▸ spec.hitsAt_le_one t.state
  · intro hp hn
    rcases h.hits_eq with h0 | ⟨-, heq⟩
    · exact absurd h0 hn
    · cases hst : t.state with
      | fired => rfl
      | running => rw [heq, hst] at hn; exact absurd rfl hn
      | disposed => rw [heq, hst, Spec.hitsAt, hp] at hn; exact absurd rfl hn
  · intro hw
    have ha := h.agrees
    rw [hw] at ha
    exact ⟨ha.1, fun hf => by rw [ha.2, hf]; rfl, fun hd => by rw [ha.2, hd]; rfl⟩

/-- The monitor is given up after the watcher has found a deadline of one millisecond
missed, and before its exchange. The exchange is lost, and the callback runs all the
same, once, because the policy asks for it. -/
theorem callback_agrees_when_given_up_late :
    let spec : Spec := { timeout := ⟨1000000⟩, policy := .fire }
    let t := (spawned spec 0 0).run
      [.pass ⟨1002000⟩, .watch, .watch, .watch, .dispose, .proceed 0, .proceed 0,
        .watch, .watch]
    spec.timeoutMs ≠ 0 ∧ t.monitor.watcher = .ended ∧ t.state = .disposed ∧
      t.monitor.hits = 1 := by
  intro spec t
  have hz : spec.timeoutMs ≠ 0 := by decide
  have hw : t.monitor.watcher = .ended := by decide
  have hd : t.state = .disposed := by decide
  exact ⟨hz, hw, hd,
    ((callback_agrees_with_state spec 0 0 hz _).2.2.2.2 hw).2.2 hd⟩

end Threads

end TwoTierWatchdog.Liveness
