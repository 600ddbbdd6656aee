import Mathlib.Data.List.Induction
import TwoTierWatchdog.Proofs.Liveness.Verdict

/-!
# What a checkin is worth

A checkin reads the clock and stores what it read, and nothing keeps other checkins from
coming in between. The store is plain: the last one to arrive stays, whether or not it
holds the latest reading. So a checkin that read the clock, was held up, and stores when
a later one is already over takes the stamp back, and the watcher may then report a
stall within the timeout of the later checkin (`late_store_undoes_checkin`).

That is the only way in which a checkin is lost. Whatever stamp the watcher goes by, a
checkin that was over when it read the stamp either has an earlier reading, or was undone
by a late store, and the stamp is what that one stored: `Kept` is this remark as an
invariant, and names the store in the schedule. That a late store is only to be expected of
a call that holds an older reading at the time is the other half, `Floor`.
-/

namespace TwoTierWatchdog.Liveness

theorem uptime_mono (made : Nat) {now later : Nat} (h : now ≤ later) :
    uptime made now ≤ uptime made later := by
  have hdiv : (now - made) / 1000 ≤ (later - made) / 1000 :=
    Nat.div_le_div_right (Nat.sub_le_sub_right h made)
  rw [UInt64.le_iff_toNat_le, toNat_uptime, toNat_uptime]
  omega

/-- A judgement that found the timeout exceeded went by a clock that showed more than
the stamp and the timeout together. -/
theorem lt_clock_of_lt_elapsed {timeout clock stamp : UInt64}
    (h : timeout < elapsed clock stamp) :
    stamp.toNat + timeout.toNat < clock.toNat := by
  unfold elapsed at h
  split at h
  · next hle =>
      rw [UInt64.lt_iff_toNat_lt, UInt64.toNat_sub_of_le _ _ hle] at h
      omega
  · next hgt => exact absurd h (by simp [UInt64.lt_iff_toNat_lt])

namespace Threads

def stamp (t : Threads) : UInt64 :=
  t.monitor.cell.lastCheckin

def clock (t : Threads) : UInt64 :=
  t.monitor.clock t.now

/-- Among some calls, the one with a given number is a checkin that has read `v` and is
over. -/
def CheckedIn (calls : List Call) (i : Nat) (v : UInt64) : Prop :=
  calls[i]? = some (.checkedIn v)

/-! ## What a move does to the clock, the readings and the stamp -/

theorem made_step (t : Threads) (m : Move) :
    (t.step m).monitor.made = t.monitor.made := by
  cases m with
  | pass | checkin | dispose => rfl
  | proceed i =>
      simp only [step, proceed]
      split
      · rfl
      · next call _ => cases call <;> rfl
  | watch =>
      simp only [step, watch]
      cases hw : t.monitor.watcher <;> simp only [Monitor.step, hw]

theorem now_step (t : Threads) (m : Move) : t.now ≤ (t.step m).now := by
  cases m with
  | pass => exact Nat.le_add_right ..
  | checkin | dispose => exact Nat.le_refl _
  | proceed i => simp only [step, proceed]; split <;> exact Nat.le_refl _
  | watch => simp only [step, watch]; split <;> exact Nat.le_refl _

theorem clock_step (t : Threads) (m : Move) : t.clock ≤ (t.step m).clock := by
  simp only [clock, Monitor.clock, made_step]
  exact uptime_mono _ (now_step t m)

theorem stamp_watch (t : Threads) : t.watch.stamp = t.stamp := by
  unfold watch stamp
  cases hw : t.monitor.watcher <;> simp only [Monitor.step, hw]
  case late => unfold Cell.leaveRunning; split <;> rfl

/-- The stamp changes by the store of a checkin, to what that checkin has read. -/
theorem stamp_step (t : Threads) (m : Move) :
    (t.step m).stamp = t.stamp ∨
      ∃ i v, m = .proceed i ∧ t.calls[i]? = some (.haveClock v) ∧
        (t.step m).stamp = v := by
  cases m with
  | pass | checkin | dispose => exact .inl rfl
  | watch => exact .inl (stamp_watch t)
  | proceed i =>
      simp only [step, proceed]
      cases hc : t.calls[i]? with
      | none => exact .inl rfl
      | some call =>
          cases call with
          | haveClock v => exact .inr ⟨i, v, rfl, hc, rfl⟩
          | checkin | checkedIn | haveLeft | haveZeroed | disposed => exact .inl rfl
          | dispose => left; simp only [Call.proceed, Cell.leaveRunning, stamp]; split <;> rfl

/-- A call is where it was, or has just been entered, or has just taken a step. -/
theorem getElem?_step {t : Threads} {m : Move} {k : Nat} {call : Call}
    (h : (t.step m).calls[k]? = some call) :
    t.calls[k]? = some call ∨ (call = .checkin ∨ call = .dispose) ∨
      m = .proceed k ∧
        ∃ before, t.calls[k]? = some before ∧ (before.proceed t.now t.monitor).1 = call := by
  have entered : ∀ {new : Call}, (t.calls ++ [new])[k]? = some call →
      t.calls[k]? = some call ∨ call = new := by
    intro new h
    rcases Nat.lt_or_ge k t.calls.length with hk | hk
    · exact .inl ((List.getElem?_append_left hk).symm.trans h)
    · rw [List.getElem?_append_right hk] at h
      exact .inr (List.mem_singleton.mp (List.mem_of_getElem? h))
  cases m with
  | pass => exact .inl h
  | checkin => exact (entered h).imp_right fun hnew => .inl (.inl hnew)
  | dispose => exact (entered h).imp_right fun hnew => .inl (.inr hnew)
  | watch =>
      simp only [step, watch] at h
      split at h <;> exact .inl h
  | proceed i =>
      simp only [step, proceed] at h
      cases hc : t.calls[i]? with
      | none => rw [hc] at h; exact .inl h
      | some before =>
          rw [hc] at h
          by_cases hik : i = k
          · subst hik
            rw [List.getElem?_set_self (List.getElem?_eq_some_iff.mp hc).1] at h
            exact .inr (.inr ⟨rfl, before, hc, Option.some.inj h⟩)
          · exact .inl ((List.getElem?_set_ne hik).symm.trans h)

/-- What a call holds it held before, or has just read off the clock. -/
theorem holding_step {t : Threads} {m : Move} {k : Nat} {v : UInt64}
    (h : (t.step m).calls[k]? = some (.haveClock v)) :
    t.calls[k]? = some (.haveClock v) ∨ v = t.clock := by
  rcases getElem?_step h with h | (h | h) | ⟨-, before, -, h⟩
  · exact .inl h
  · cases h
  · cases h
  · cases before with
    | checkin => cases h; exact .inr rfl
    | haveClock | checkedIn | dispose | haveLeft | haveZeroed | disposed => cases h

theorem reading_step {t : Threads} {m : Move} {v : UInt64}
    (h : Call.haveClock v ∈ (t.step m).calls) :
    Call.haveClock v ∈ t.calls ∨ v = t.clock := by
  obtain ⟨k, hk⟩ := List.mem_iff_getElem?.mp h
  exact (holding_step hk).imp_left List.mem_of_getElem?

/-- What a call holds at the end of a schedule it held at the beginning, or the clock has
come to show it since. -/
theorem holding_run {t : Threads} {schedule : List Move} {k : Nat} {v : UInt64}
    (h : (t.run schedule).calls[k]? = some (.haveClock v)) :
    t.calls[k]? = some (.haveClock v) ∨ t.clock ≤ v := by
  induction schedule generalizing t with
  | nil => exact .inl h
  | cons m rest ih =>
      rcases ih h with hk | hlater
      · rcases holding_step hk with hk | rfl
        · exact .inl hk
        · exact .inr (UInt64.le_refl _)
      · exact .inr (UInt64.le_trans (clock_step t m) hlater)

/-- A call that takes no step any more keeps its place for good. -/
theorem getElem?_step_of_over {t : Threads} {i : Nat} {call : Call}
    (hover : ∀ now m, (call.proceed now m).1 = call) (h : t.calls[i]? = some call)
    (m : Move) : (t.step m).calls[i]? = some call := by
  cases m with
  | pass => exact h
  | checkin | dispose =>
      have hi := (List.getElem?_eq_some_iff.mp h).1
      exact (List.getElem?_append_left hi).trans h
  | watch => simp only [Threads.step, watch]; split <;> exact h
  | proceed k =>
      simp only [Threads.step, proceed]
      cases hk : t.calls[k]? with
      | none => exact h
      | some other =>
          by_cases hki : k = i
          · subst hki
            rw [h] at hk
            cases hk
            show (t.calls.set k (call.proceed t.now t.monitor).1)[k]? = some call
            rw [hover]
            exact List.getElem?_set_self (List.getElem?_eq_some_iff.mp h).1
          · exact (List.getElem?_set_ne hki).trans h

theorem CheckedIn.step {t : Threads} {i : Nat} {v : UInt64}
    (h : CheckedIn t.calls i v) (m : Move) : CheckedIn (t.step m).calls i v :=
  getElem?_step_of_over (fun _ _ => rfl) h m

/-- A call stores what it holds, and is over. -/
theorem stored_proceed {t : Threads} {i : Nat} {u : UInt64}
    (h : t.calls[i]? = some (.haveClock u)) :
    (t.step (.proceed i)).stamp = u ∧ CheckedIn (t.step (.proceed i)).calls i u := by
  simp only [step, proceed, h]
  exact ⟨rfl, List.getElem?_set_self (List.getElem?_eq_some_iff.mp h).1⟩

/-- A checkin that is over was over before, or has just stored. -/
theorem CheckedIn.of_step {t : Threads} {m : Move} {i : Nat} {u : UInt64}
    (h : CheckedIn (t.step m).calls i u) :
    CheckedIn t.calls i u ∨ m = .proceed i ∧ t.calls[i]? = some (.haveClock u) := by
  rcases getElem?_step h with h | (h | h) | ⟨hm, before, hbefore, h⟩
  · exact .inl h
  · cases h
  · cases h
  · cases before with
    | haveClock => cases h; exact .inr ⟨hm, hbefore⟩
    | checkedIn => cases h; exact .inl hbefore
    | checkin | dispose | haveLeft | haveZeroed | disposed => cases h

/-- Only the watcher's own moves change what it holds and what is recorded of it. -/
theorem seen_step (t : Threads) {m : Move} (hm : m ≠ .watch) :
    (t.step m).monitor.watcher = t.monitor.watcher ∧
      (t.step m).glimpse = t.glimpse ∧ (t.step m).judgement = t.judgement := by
  cases m with
  | pass | checkin | dispose => exact ⟨rfl, rfl, rfl⟩
  | watch => exact absurd rfl hm
  | proceed i =>
      simp only [step, proceed]
      split
      · exact ⟨rfl, rfl, rfl⟩
      · next call _ => cases call <;> exact ⟨rfl, rfl, rfl⟩

/-- The watcher comes to hold a stamp by reading the cell, and by that step alone. -/
theorem haveTimeout_of_watch {t : Threads} {timeout read : UInt64}
    (h : t.watch.monitor.watcher = .haveStamp timeout read) :
    t.monitor.watcher = .haveTimeout timeout ∧ read = t.stamp ∧
      t.watch.glimpse = t.calls := by
  rw [monitor_watch] at h
  cases hat : t.monitor.watcher with
  | haveTimeout timeout =>
      simp only [Monitor.step, hat] at h
      cases h
      exact ⟨rfl, rfl, by simp only [watch, hat]⟩
  | top | stalled | parked | ended => simp only [Monitor.step, hat] at h; cases h
  | haveStamp | late => simp only [Monitor.step, hat] at h; split at h <;> cases h

/-- A new judgement is by the stamp that the watcher holds. -/
theorem judgement_watch {t : Threads} {j : Judgement}
    (h : t.watch.judgement = some j) :
    t.judgement = some j ∨
      t.monitor.watcher = .haveStamp j.timeout j.stamp ∧ j.calls = t.glimpse := by
  unfold watch at h
  split at h
  · exact .inl h
  · next timeout read hw =>
      cases h
      exact .inr ⟨hw, rfl⟩
  · exact .inl h

/-! ## Readings and the clock -/

/-- No reading that a call holds is ahead of the clock. -/
def Past (t : Threads) : Prop :=
  ∀ v, Call.haveClock v ∈ t.calls → v ≤ t.clock

theorem past_of_new {t : Threads} (hnew : t.calls = []) : Past t := by
  intro v hv
  rw [hnew] at hv
  exact absurd hv List.not_mem_nil

theorem Past.step {t : Threads} (h : Past t) (m : Move) : Past (t.step m) := by
  intro v hv
  refine UInt64.le_trans ?_ (clock_step t m)
  rcases reading_step hv with hv | rfl
  · exact h v hv
  · exact UInt64.le_refl _

theorem Past.run {t : Threads} (h : Past t) (schedule : List Move) :
    Past (t.run schedule) :=
  run_keeps Past.step h schedule

/-! ## Late stores

A checkin that is over has a place in the schedule at which it stored, unless it was there
before. A call that stores an older reading after that held this reading then already: one
that read the clock later holds what the clock had come to by then. -/

theorem run_append (t : Threads) (schedule later : List Move) :
    t.run (schedule ++ later) = (t.run schedule).run later :=
  List.foldl_append

theorem run_concat (t : Threads) (schedule : List Move) (m : Move) :
    t.run (schedule ++ [m]) = (t.run schedule).step m :=
  run_append t schedule [m]

theorem CheckedIn.stored {t : Threads} {schedule : List Move} {i : Nat} {u : UInt64}
    (hnot : ¬ CheckedIn t.calls i u) (h : CheckedIn (t.run schedule).calls i u) :
    ∃ before rest, schedule = before ++ .proceed i :: rest ∧
      (t.run before).calls[i]? = some (.haveClock u) := by
  induction schedule generalizing t with
  | nil => exact absurd h hnot
  | cons m later ih =>
      by_cases hover : CheckedIn (t.step m).calls i u
      · obtain ⟨rfl, hi⟩ := (CheckedIn.of_step hover).resolve_left hnot
        exact ⟨[], later, rfl, hi⟩
      · obtain ⟨before, rest, rfl, hi⟩ := ih hover h
        exact ⟨m :: before, rest, rfl, hi⟩

/-- In the course of a schedule the call with number `i` stores its reading `u` while the
call with number `k` holds the reading `v`, and that one stores as well, after it. -/
def UndoneBy (t : Threads) (schedule : List Move) (i : Nat) (u : UInt64) (k : Nat)
    (v : UInt64) : Prop :=
  ∃ before between rest,
    schedule = before ++ .proceed i :: (between ++ .proceed k :: rest) ∧
      (t.run before).calls[i]? = some (.haveClock u) ∧
      (t.run before).calls[k]? = some (.haveClock v) ∧
      (t.run (before ++ .proceed i :: between)).calls[k]? = some (.haveClock v)

variable {t : Threads} {schedule : List Move} {i k : Nat} {u v : UInt64}

theorem UndoneBy.concat (h : t.UndoneBy schedule i u k v) (m : Move) :
    t.UndoneBy (schedule ++ [m]) i u k v := by
  obtain ⟨before, between, rest, rfl, hi, hk, hlater⟩ := h
  exact ⟨before, between, rest ++ [m], by simp, hi, hk, hlater⟩

theorem not_checkedIn_of_new (hnew : t.calls = []) : ¬ CheckedIn t.calls i u := by
  intro h
  rw [hnew] at h
  cases h

/-- A store of what is older than a checkin that is over. -/
theorem undoneBy_of_store (hnew : t.calls = []) (hi : CheckedIn (t.run schedule).calls i u)
    (hk : (t.run schedule).calls[k]? = some (.haveClock v)) (hlt : v < u) :
    t.UndoneBy (schedule ++ [.proceed k]) i u k v := by
  obtain ⟨before, between, rfl, hstores⟩ := hi.stored (not_checkedIn_of_new hnew)
  refine ⟨before, between, [], by simp, hstores, ?_, hk⟩
  rw [run_append] at hk
  refine (holding_run hk).resolve_right fun hlater => ?_
  have hle : u ≤ (t.run before).clock :=
    (past_of_new hnew).run before u (List.mem_of_getElem? hstores)
  exact UInt64.not_lt.mpr (UInt64.le_trans hle hlater) hlt

/-- Of the checkins that are over among some calls, a stamp is older than those only that
were undone by the call that stored it, which is over, too. -/
def Accounts (t : Threads) (schedule : List Move) (calls : List Call) (stamp : UInt64) :
    Prop :=
  ∀ i u, CheckedIn calls i u → stamp < u →
    ∃ k, CheckedIn calls k stamp ∧ t.UndoneBy schedule i u k stamp

theorem Accounts.concat {calls : List Call} {stamp : UInt64}
    (h : t.Accounts schedule calls stamp) (m : Move) :
    t.Accounts (schedule ++ [m]) calls stamp := by
  intro i u hi hlt
  obtain ⟨k, hk, hundone⟩ := h i u hi hlt
  exact ⟨k, hk, hundone.concat m⟩

theorem Accounts.step (hnew : t.calls = [])
    (h : t.Accounts schedule (t.run schedule).calls (t.run schedule).stamp) (m : Move) :
    t.Accounts (schedule ++ [m]) ((t.run schedule).step m).calls
      ((t.run schedule).step m).stamp := by
  intro i u hover hlt
  rcases hover.of_step with hi | ⟨rfl, hstores⟩
  · rcases stamp_step (t.run schedule) m with heq | ⟨k, v, rfl, hk, heq⟩
    · rw [heq] at hlt ⊢
      obtain ⟨k, hk, hundone⟩ := h i u hi hlt
      exact ⟨k, hk.step m, hundone.concat m⟩
    · rw [heq] at hlt ⊢
      exact ⟨k, (stored_proceed hk).2, undoneBy_of_store hnew hi hk hlt⟩
  · rw [(stored_proceed hstores).1] at hlt
    exact absurd hlt (UInt64.lt_irrefl u)

/-- What holds after a schedule: of the stamp, of the copy that the watcher holds, and of
the one that it last went by, each with the calls beside it when it was read. -/
structure Kept (t : Threads) (schedule : List Move) : Prop where
  stamp : t.Accounts schedule (t.run schedule).calls (t.run schedule).stamp
  held : ∀ timeout stamp, (t.run schedule).monitor.watcher = .haveStamp timeout stamp →
    t.Accounts schedule (t.run schedule).glimpse stamp
  judged : ∀ j, (t.run schedule).judgement = some j → t.Accounts schedule j.calls j.stamp

theorem Kept.concat (hnew : t.calls = []) (h : Kept t schedule) (m : Move) :
    Kept t (schedule ++ [m]) where
  stamp := run_concat t _ _ ▸ h.stamp.step hnew m
  held := by
    intro timeout read hread
    rw [run_concat] at hread ⊢
    by_cases hm : m = .watch
    · subst hm
      obtain ⟨-, rfl, hglimpse⟩ := haveTimeout_of_watch hread
      exact hglimpse ▸ h.stamp.concat .watch
    · obtain ⟨hw, hglimpse, -⟩ := seen_step (t.run schedule) hm
      exact hglimpse ▸ (h.held timeout read (hw ▸ hread)).concat m
  judged := by
    intro j hj
    rw [run_concat] at hj
    by_cases hm : m = .watch
    · subst hm
      rcases judgement_watch hj with hj | ⟨hw, hcalls⟩
      · exact (h.judged j hj).concat .watch
      · exact hcalls ▸ (h.held j.timeout j.stamp hw).concat .watch
    · obtain ⟨-, -, hjudged⟩ := seen_step (t.run schedule) hm
      exact (h.judged j (hjudged ▸ hj)).concat m

theorem kept_spawned (spec : Spec) (made now : Nat) (schedule : List Move) :
    Kept (spawned spec made now) schedule := by
  induction schedule using List.reverseRecOn with
  | nil => exact ⟨fun _ _ h => absurd h (not_checkedIn_of_new rfl), nofun, nofun⟩
  | append_singleton schedule m ih => exact ih.concat rfl m

/-! ## A floor under the stamp

When a checkin stores and no call in progress holds an older reading, its own reading is a
floor under everything that is still to be stored. -/

/-- No call in progress holds a reading older than `u`. -/
def NoneOlder (t : Threads) (u : UInt64) : Prop :=
  ∀ v, Call.haveClock v ∈ t.calls → u ≤ v

/-- The reading `u` is such a floor. -/
structure Floor (u : UInt64) (t : Threads) : Prop where
  stamp : u ≤ t.stamp
  clock : u ≤ t.clock
  reading : t.NoneOlder u

theorem Floor.step (h : Floor u t) (m : Move) : Floor u (t.step m) where
  stamp := by
    rcases stamp_step t m with heq | ⟨k, v, -, hk, heq⟩
    · exact heq ▸ h.stamp
    · exact heq ▸ h.reading v (List.mem_of_getElem? hk)
  clock := UInt64.le_trans h.clock (clock_step t m)
  reading := by
    intro v hv
    rcases reading_step hv with hv | rfl
    · exact h.reading v hv
    · exact h.clock

theorem Floor.run (h : Floor u t) (schedule : List Move) : Floor u (t.run schedule) :=
  run_keeps Floor.step h schedule

/-- The stamp stays at a reading or later for good exactly if no call in progress holds an
older one when it is stored: any other call that does may store it next. -/
theorem kept_iff_noneOlder (hpast : Past t) (hi : t.calls[i]? = some (.haveClock u)) :
    (∀ later, u ≤ ((t.step (.proceed i)).run later).stamp) ↔ t.NoneOlder u := by
  obtain ⟨hstored, -⟩ := stored_proceed hi
  constructor
  · intro kept v hv
    obtain ⟨k, hk⟩ := List.mem_iff_getElem?.mp hv
    by_cases hki : k = i
    · subst hki
      rw [hi] at hk
      cases hk
      exact UInt64.le_refl u
    · have hk' : (t.step (.proceed i)).calls[k]? = some (.haveClock v) := by
        simp only [step, proceed, hi]
        exact (List.getElem?_set_ne (Ne.symm hki)).trans hk
      exact (stored_proceed hk').1 ▸ kept [.proceed k]
  · intro hold later
    have hclock : u ≤ t.clock := hpast u (List.mem_of_getElem? hi)
    have floor : Floor u (t.step (.proceed i)) := by
      refine ⟨hstored ▸ UInt64.le_refl _, UInt64.le_trans hclock (clock_step t _), ?_⟩
      intro v hv
      rcases reading_step hv with hv | rfl
      · exact hold v hv
      · exact hclock
    exact (floor.run later).stamp

/-! ## What a checkin is good for -/

/-- A checkin that is over can be lost. The first one reads the clock and is held up; a
second one, a millisecond and a half later, reads the clock, stores and is over; then
the first one stores. The watcher, whose timeout is a millisecond, finds the first
reading and fires at the very instant of the second. -/
theorem late_store_undoes_checkin :
    ¬ ∀ (spec : Spec) (made now : Nat) (schedule : List Move), spec.timeoutMs ≠ 0 →
      let t := (spawned spec made now).run schedule
      t.state = .running → t.watch.state = .fired →
        ∀ j, t.judgement = some j → ∀ i u, CheckedIn j.calls i u →
          u.toNat + j.timeout.toNat < j.clock.toNat := by
  intro h
  have held_up := h { timeout := ⟨1000000⟩ } 0 0
    [.checkin, .proceed 0, .pass ⟨1500000⟩, .checkin, .proceed 1, .proceed 1, .proceed 0,
      .watch, .watch, .watch]
    (by decide) (by decide) (by decide)
    ⟨1000, 0, 1500, [.checkedIn 0, .checkedIn 1500]⟩ (by decide) 1 1500 (by rfl)
  exact absurd held_up (by decide)

/-- What a checkin is good for, whatever the schedule, after all of it. If the watcher then
moves the monitor to `fired`, it has judged by the original timeout; and a checkin that was
over when it read its stamp, and whose reading and the timeout together its clock did not
exceed, was undone: by a call that was over by then as well, that held an older reading
when the checkin stored, and that stored it after that, and it is the stamp that the
watcher went by. In the same way a stamp that is older than a checkin that is over was
stored by a call that undid the checkin. The one move that takes the stamp back is the store
of a call that holds an older reading. And a reading that is stored stays under the stamp
for good exactly if no call in progress holds an older one. -/
theorem checkin_lost_only_to_late_store (spec : Spec) (made now : Nat)
    (schedule : List Move) :
    let start := spawned spec made now
    let t := start.run schedule
    (∀ m, t.state = .running → (t.step m).state = .fired →
      ∃ j, t.judgement = some j ∧ j.timeout = spec.timeoutUs ∧
        ∀ i u, CheckedIn j.calls i u → j.clock.toNat ≤ u.toNat + j.timeout.toNat →
          j.stamp < u ∧
            ∃ k, CheckedIn j.calls k j.stamp ∧ start.UndoneBy schedule i u k j.stamp) ∧
    (∀ i u, CheckedIn t.calls i u → t.stamp < u →
      ∃ k, CheckedIn t.calls k t.stamp ∧ start.UndoneBy schedule i u k t.stamp) ∧
    (∀ m, (t.step m).stamp < t.stamp →
      ∃ k, m = .proceed k ∧ t.calls[k]? = some (.haveClock (t.step m).stamp)) ∧
    (∀ i u, t.calls[i]? = some (.haveClock u) →
      ((∀ later, u ≤ ((t.step (.proceed i)).run later).stamp) ↔ t.NoneOlder u)) := by
  intro start t
  have sound : Consistent spec t := (consistent_spawned spec made now).run schedule
  have kept : Kept start schedule := kept_spawned spec made now schedule
  refine ⟨?_, kept.stamp, ?_, ?_⟩
  · intro m hr hf
    rcases state_step t m with heq | ⟨-, ⟨-, hw, -⟩ | ⟨-, -, -, hd⟩⟩
    · rw [hf, hr] at heq
      cases heq
    · have ha := sound.agrees
      rw [hw] at ha
      obtain ⟨j, hj, htime, hlt⟩ := ha.2.2 hr
      refine ⟨j, hj, htime, fun i u hi hle => ?_⟩
      have hexceeded := lt_clock_of_lt_elapsed hlt
      have holder : j.stamp < u := UInt64.lt_iff_toNat_lt.mpr (by omega)
      exact ⟨holder, kept.judged j hj i u hi holder⟩
    · rw [hf] at hd
      cases hd
  · intro m hlt
    rcases stamp_step t m with heq | ⟨k, v, hm, hk, heq⟩
    · exact absurd (heq ▸ hlt) (UInt64.lt_irrefl _)
    · exact ⟨k, hm, heq ▸ hk⟩
  · intro i u hi
    exact kept_iff_noneOlder ((past_of_new rfl).run schedule) hi

/-- The checkin that `late_store_undoes_checkin` loses: the watcher fires on the first
reading, and a call has stored that one late. -/
theorem fired_by_late_store :
    let start := spawned { timeout := ⟨1000000⟩ } 0 0
    let schedule : List Move :=
      [.checkin, .proceed 0, .pass ⟨1500000⟩, .checkin, .proceed 1, .proceed 1, .proceed 0,
        .watch, .watch, .watch]
    let t := start.run schedule
    t.state = .running ∧ (t.step .watch).state = .fired ∧
      ∃ k, CheckedIn [.checkedIn 0, .checkedIn 1500] k 0 ∧
        start.UndoneBy schedule 1 1500 k 0 := by
  intro start schedule t
  have hr : t.state = .running := by decide
  have hf : (t.step .watch).state = .fired := by decide
  obtain ⟨j, hj, -, hundone⟩ :=
    (checkin_lost_only_to_late_store { timeout := ⟨1000000⟩ } 0 0 schedule).1 .watch hr hf
  have hjudged : t.judgement =
      some ⟨1000, 0, 1500, [.checkedIn 0, .checkedIn 1500]⟩ := by decide
  obtain rfl := Option.some.inj (hjudged.symm.trans hj)
  exact ⟨hr, hf, (hundone 1 1500 rfl (by decide)).2⟩

end Threads

end TwoTierWatchdog.Liveness
