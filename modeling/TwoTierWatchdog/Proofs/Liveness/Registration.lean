import TwoTierWatchdog.Liveness.Process

/-!
# The monitor that checkins without a handle reach

The bank keeps one slot for it. Spawning replaces what is in the slot, and giving a
monitor up empties the slot if it is that monitor's. So the slot tells the past of the
process: it holds the last monitor that was spawned process-wide, unless that one was
given up since (`Told`). `Registered` says this of the events alone, without
the slot, and `registered_append` is how it changes with one more event, which is how the
slot changes, too.

The slot never names a monitor that was dropped. Dropping has no effect on one that was
dropped before, so this invariant, `Tended`, is what makes every drop clear it.
-/

namespace TwoTierWatchdog.Liveness

namespace Monitor

theorem dropped_step (m : Monitor) (now : Nat) : (m.step now).dropped = m.dropped := by
  unfold step
  split <;> rfl

theorem dropped_turn (m : Monitor) (now : Nat) : (m.turn now).dropped = m.dropped :=
  turn_of_step (fun m => m.dropped_step now) m

end Monitor

namespace Bank

/-! ## The past of a process -/

/-- No event spawns a monitor process-wide. -/
def Quiet : Bank → List Event → Prop
  | _, [] => True
  | b, e :: rest => b.enrols? e = none ∧ Quiet (b.step e) rest

/-- The monitor with this number is the last that the events spawned process-wide, and
it was not given up since. -/
def Registered (b : Bank) (events : List Event) (id : Nat) : Prop :=
  ∃ before e after, events = before ++ e :: after ∧
    (b.run before).enrols? e = some id ∧ Quiet ((b.run before).step e) after ∧
    ∀ d ∈ after, d.givesUp? ≠ some id

theorem run_append (b : Bank) (before after : List Event) :
    b.run (before ++ after) = (b.run before).run after :=
  List.foldl_append

theorem quiet_append {b : Bank} {events : List Event} {e : Event} :
    Quiet b (events ++ [e]) ↔ Quiet b events ∧ (b.run events).enrols? e = none := by
  induction events generalizing b with
  | nil => exact ⟨fun h => ⟨trivial, h.1⟩, fun h => ⟨h.2, trivial⟩⟩
  | cons f rest ih =>
      constructor
      · rintro ⟨hf, hrest⟩
        obtain ⟨hquiet, he⟩ := ih.mp hrest
        exact ⟨⟨hf, hquiet⟩, he⟩
      · rintro ⟨⟨hf, hquiet⟩, he⟩
        exact ⟨hf, ih.mpr ⟨hquiet, he⟩⟩

/-- One more event: it spawns a monitor process-wide, or leaves things as they were for
all monitors but the one that it gives up. -/
theorem registered_append {b : Bank} {events : List Event} {e : Event} {id : Nat} :
    b.Registered (events ++ [e]) id ↔
      (b.run events).enrols? e = some id ∨
        (b.run events).enrols? e = none ∧ b.Registered events id ∧
          e.givesUp? ≠ some id := by
  constructor
  · rintro ⟨before, f, after, heq, hf, hquiet, hkept⟩
    rcases List.eq_nil_or_concat after with rfl | ⟨after, g, rfl⟩
    · obtain ⟨rfl, hlast⟩ := List.append_inj' heq rfl
      cases hlast
      exact .inl hf
    · have heq : events ++ [e] = (before ++ f :: after) ++ [g] := by
        rw [heq, List.concat_eq_append, List.append_assoc, List.cons_append]
      obtain ⟨rfl, hlast⟩ := List.append_inj' heq rfl
      cases hlast
      rw [List.concat_eq_append] at hquiet hkept
      obtain ⟨hquiet, he⟩ := quiet_append.mp hquiet
      have hrun : (((b.run before).step f).run after) = b.run (before ++ f :: after) :=
        (run_append b before (f :: after)).symm
      refine .inr ⟨hrun ▸ he, ⟨before, f, after, rfl, hf, hquiet, ?_⟩, ?_⟩
      · exact fun d hd => hkept d (List.mem_append_left _ hd)
      · exact hkept e (List.mem_append_right _ (List.mem_singleton.mpr rfl))
  · rintro (he | ⟨he, ⟨before, f, after, rfl, hf, hquiet, hkept⟩, hnot⟩)
    · exact ⟨events, e, [], rfl, he, trivial, nofun⟩
    · rw [run_append] at he
      refine ⟨before, f, after ++ [e], by simp, hf, quiet_append.mpr ⟨hquiet, he⟩, ?_⟩
      intro d hd
      rcases List.mem_append.mp hd with hd | hd
      · exact hkept d hd
      · exact List.mem_singleton.mp hd ▸ hnot

/-! ## No event but a drop takes a monitor away -/

/-- There is a monitor with this number, and it was not dropped. -/
def Standing (b : Bank) (id : Nat) : Prop :=
  ∃ m, b.monitors[id]? = some m ∧ m.dropped = false

theorem Standing.modify {b : Bank} {id other : Nat} (h : b.Standing id)
    {f : Monitor → Monitor} (hf : ∀ m, (f m).dropped = m.dropped) :
    Standing { b with monitors := b.monitors.modify other f } id := by
  obtain ⟨m, hm, hd⟩ := h
  by_cases heq : other = id
  · exact ⟨f m, by simp [heq, hm], (hf m).trans hd⟩
  · exact ⟨m, by simp [heq, hm], hd⟩

theorem Standing.passUntil {b : Bank} {id : Nat} (h : b.Standing id) (instant : Nat) :
    (b.passUntil instant).Standing id := by
  obtain ⟨m, hm, hd⟩ := h
  refine ⟨m.turn (max b.now instant), ?_, (m.dropped_turn _).trans hd⟩
  simp [Bank.passUntil, hm, hd]

/-- Another monitor is replaced, and what is in the slot does not matter. -/
theorem Standing.unregister {b : Bank} {id other : Nat} (h : b.Standing id)
    (hne : other ≠ id) (m : Monitor) :
    (unregister other { b with monitors := b.monitors.set other m }).Standing id := by
  obtain ⟨m', hm, hd⟩ := h
  refine ⟨m', ?_, hd⟩
  unfold Bank.unregister
  split <;> exact (List.getElem?_set_ne hne).trans hm

theorem Standing.step {b : Bank} {id : Nat} (h : b.Standing id) {e : Event}
    (he : e.givesUp? ≠ some id) : (b.step e).Standing id := by
  cases e with
  | spawn spec =>
      obtain ⟨m, hm, hd⟩ := h
      have hid := (List.getElem?_eq_some_iff.mp hm).1
      refine ⟨m, ?_, hd⟩
      rw [Bank.step]
      rcases b.spawn_cases spec with ⟨-, -, hb⟩ | ⟨-, -, -, hb⟩ | ⟨-, -, -, hb⟩ <;> rw [hb]
      · exact hm
      · exact hm
      · exact (List.getElem?_append_left hid).trans hm
  | threads => exact h
  | sleep =>
      simp only [Bank.step, sleep]
      split
      · exact h
      · exact h.passUntil _
  | await =>
      simp only [Bank.step, await]
      split
      · exact h
      · split
        · exact h
        · exact h.passUntil _
  | watch => exact h.modify fun m => m.dropped_step _
  | checkin => exact h.modify fun _ => rfl
  | checkinProcessWide =>
      simp only [Bank.step, checkinProcessWide]
      split
      · exact h.modify fun _ => rfl
      · exact h
  | dispose other =>
      have hne : other ≠ id := fun heq => he (congrArg some heq)
      simp only [Bank.step, dispose]
      split
      · exact h
      · exact h.unregister hne _
  | drop other =>
      have hne : other ≠ id := fun heq => he (congrArg some heq)
      simp only [Bank.step, drop]
      split
      · exact h
      · split
        · exact h
        · exact h.unregister hne _

/-! ## What an event does to the slot -/

/-- The monitor in the slot was not dropped. -/
def Tended (b : Bank) : Prop :=
  ∀ id, b.processWide = some id → b.Standing id

theorem processWide_unregister {b : Bank} {id other : Nat} :
    (unregister other b).processWide = some id ↔
      b.processWide = some id ∧ other ≠ id := by
  unfold unregister
  split
  · next heq =>
      refine ⟨nofun, fun ⟨hid, hne⟩ => absurd ?_ hne⟩
      exact Option.some.inj (heq.symm.trans hid)
  · next hne =>
      refine ⟨fun hid => ⟨hid, ?_⟩, And.left⟩
      rintro rfl
      exact hne hid

/-- Spawning rejects a monitor, or enters it and puts it into the slot if that was asked
for. -/
theorem processWide_spawn (b : Bank) (spec : Spec) :
    (b.step (.spawn spec)).processWide =
      (b.enrols? (.spawn spec)).or b.processWide := by
  rw [step, enrols?]
  rcases b.spawn_cases spec with ⟨-, hr, hb⟩ | ⟨-, -, hr, hb⟩ | ⟨-, -, hr, hb⟩ <;>
    rw [hr, hb]
  · split <;> rfl
  · split <;> rfl
  · rw [add]
    split <;> rfl

theorem processWide_of_mild (b : Bank) {e : Event} (hspawn : ∀ spec, e ≠ .spawn spec)
    (hkept : e.givesUp? = none) : (b.step e).processWide = b.processWide := by
  cases e with
  | spawn spec => exact absurd rfl (hspawn spec)
  | threads | watch | checkin => rfl
  | sleep => simp only [step, sleep]; split <;> rfl
  | checkinProcessWide => simp only [step, checkinProcessWide]; split <;> rfl
  | await =>
      simp only [step, await]
      split
      · rfl
      · split <;> rfl
  | dispose | drop => cases hkept

/-- The monitor in the slot is there to be given up. -/
theorem Tended.unset {b : Bank} (hb : b.Tended) {id other : Nat}
    (h : ¬ b.Standing other) : b.processWide = some id ↔
      b.processWide = some id ∧ other ≠ id := by
  refine ⟨fun hid => ⟨hid, ?_⟩, And.left⟩
  rintro rfl
  exact h (hb _ hid)

theorem processWide_of_givesUp {b : Bank} (hb : b.Tended) {e : Event} {id other : Nat}
    (h : e.givesUp? = some other) :
    (b.step e).processWide = some id ↔ b.processWide = some id ∧ other ≠ id := by
  cases e with
  | spawn | threads | sleep | await | watch | checkin | checkinProcessWide => cases h
  | dispose other =>
      cases h
      simp only [step, dispose]
      split
      · next hnone =>
          exact hb.unset fun ⟨m, hm, _⟩ => nomatch hnone.symm.trans hm
      · exact processWide_unregister
  | drop other =>
      cases h
      simp only [step, drop]
      split
      · next hnone =>
          exact hb.unset fun ⟨m, hm, _⟩ => nomatch hnone.symm.trans hm
      · next m hm =>
          split
          · next hdropped =>
              -- The drop does nothing, and the slot is not the monitor's.
              refine hb.unset fun ⟨m', hm', hd⟩ => ?_
              cases hm.symm.trans hm'
              exact Bool.noConfusion (hd.symm.trans hdropped)
          · exact processWide_unregister

/-- The slot names the monitor that the event puts there; or if it puts none, the one
that was there and that the event does not give up. -/
theorem processWide_step {b : Bank} (hb : b.Tended) {e : Event} {id : Nat} :
    (b.step e).processWide = some id ↔
      b.enrols? e = some id ∨
        b.enrols? e = none ∧ b.processWide = some id ∧ e.givesUp? ≠ some id := by
  cases e with
  | spawn spec =>
      rw [processWide_spawn]
      cases b.enrols? (.spawn spec) with
      | none => simp [Event.givesUp?]
      | some other => simp
  | threads | sleep | await | watch | checkin | checkinProcessWide =>
      rw [processWide_of_mild b (by simp) rfl]
      simp [enrols?, Event.givesUp?]
  | dispose other | drop other =>
      rw [processWide_of_givesUp hb rfl]
      simp [enrols?, Event.givesUp?]

/-- A monitor that is spawned is there, with its number. -/
theorem standing_of_enrols {b : Bank} {e : Event} {id : Nat} (h : b.enrols? e = some id) :
    (b.step e).Standing id := by
  cases e with
  | threads | sleep | await | watch | checkin | checkinProcessWide | dispose | drop =>
      cases h
  | spawn spec =>
      rw [enrols?] at h
      rw [step]
      rcases b.spawn_cases spec with ⟨-, hr, -⟩ | ⟨-, -, hr, -⟩ | ⟨-, -, hr, hb⟩ <;>
        rw [hr] at h
      · split at h <;> cases h
      · split at h <;> cases h
      · split at h
        · cases h
          rw [hb]
          exact ⟨spec.monitor b.now, List.getElem?_concat_length, Monitor.dropped_turn _ _⟩
        · cases h

theorem Tended.step {b : Bank} (hb : b.Tended) (e : Event) : (b.step e).Tended := by
  intro id hid
  rcases (processWide_step hb).mp hid with henrols | ⟨-, hid, hkept⟩
  · exact standing_of_enrols henrols
  · exact (hb id hid).step hkept

/-! ## The slot tells the past -/

/-- What holds between any two events. -/
structure Told (start : Bank) (events : List Event) : Prop where
  tended : (start.run events).Tended
  slot : ∀ id, (start.run events).processWide = some id ↔ start.Registered events id

theorem told_nil {start : Bank} (h : start.processWide = none) : Told start [] where
  tended id hid := nomatch h.symm.trans hid
  slot id := by
    constructor
    · intro hid
      cases h.symm.trans hid
    · rintro ⟨before, e, after, heq, -⟩
      simp at heq

theorem Told.step {start : Bank} {events : List Event} (h : Told start events)
    (e : Event) : Told start (events ++ [e]) := by
  have hrun : start.run (events ++ [e]) = (start.run events).step e := run_append ..
  refine ⟨hrun ▸ h.tended.step e, fun id => ?_⟩
  rw [hrun, processWide_step h.tended, registered_append, h.slot]

theorem Told.append {start : Bank} {events : List Event} (h : Told start events)
    (rest : List Event) : Told start (events ++ rest) := by
  induction rest generalizing events with
  | nil => exact (List.append_nil events).symm ▸ h
  | cons e rest ih =>
      rw [List.append_cons]
      exact ih (h.step e)

/-! ## What a checkin without a handle comes to -/

theorem checkinProcessWide_eq_true {b : Bank} :
    b.checkinProcessWide.1 = true ↔ ∃ id, b.processWide = some id := by
  unfold checkinProcessWide
  cases b.processWide <;> simp

theorem checkinProcessWide_of_some {b : Bank} {id : Nat} {m : Monitor}
    (hid : b.processWide = some id) (hm : b.monitors[id]? = some m) :
    b.checkinProcessWide =
      (true, { b with monitors := b.monitors.set id { m with cell :=
        { m.cell with lastCheckin := uptime m.made b.now } } }) := by
  have hmodify : b.monitors.modify id (Monitor.checkin b.now) =
      b.monitors.set id (m.checkin b.now) := by
    refine List.ext_getElem? fun i => ?_
    by_cases heq : id = i
    · subst heq
      have hlt := (List.getElem?_eq_some_iff.mp hm).1
      rw [List.getElem?_modify_eq, List.getElem?_set_self hlt, hm]
      rfl
    · rw [List.getElem?_modify_ne _ _ heq, List.getElem?_set_ne heq]
  simp only [checkinProcessWide, hid, checkin, hmodify]
  rfl

theorem run_of_others {b : Bank} (hb : b.Tended) {id : Nat} (hid : b.processWide = some id)
    {rest : List Event}
    (h : ∀ e ∈ rest, ∃ other, e.givesUp? = some other ∧ other ≠ id) :
    (b.run rest).processWide = some id := by
  induction rest generalizing b with
  | nil => exact hid
  | cons e rest ih =>
      obtain ⟨other, he, hne⟩ := h e List.mem_cons_self
      exact ih (hb.step e) ((processWide_of_givesUp hb he).mpr ⟨hid, hne⟩)
        fun f hf => h f (List.mem_cons_of_mem _ hf)

theorem run_of_quiet {b : Bank} (hb : b.Tended) (hnone : ∀ id, b.processWide ≠ some id)
    {rest : List Event} (h : Quiet b rest) (id : Nat) :
    (b.run rest).processWide ≠ some id := by
  induction rest generalizing b with
  | nil => exact hnone id
  | cons e rest ih =>
      refine ih (hb.step e) (fun other hother => ?_) h.2
      rcases (processWide_step hb).mp hother with henrols | ⟨-, hold, -⟩
      · exact nomatch h.1.symm.trans henrols
      · exact hnone other hold

/-- Whatever happened to the monitors of a process: a checkin without a handle says that
there is a monitor for it exactly if the last one that was spawned process-wide was not
given up since. It then stores the time in that monitor and changes nothing else, also if
the monitor has fired; and otherwise it changes nothing at all. Giving up other monitors,
any number of times, takes nothing from it; and when it is given up itself, there is none
until the next one is spawned process-wide. -/
theorem checkin_reaches_registered (now : Nat) (threadFailure : Option String)
    (events : List Event) :
    let start : Bank := { now, threadFailure }
    let b := start.run events
    (b.checkinProcessWide.1 = true ↔ ∃ id, start.Registered events id) ∧
    (b.checkinProcessWide.1 = false → b.checkinProcessWide.2 = b) ∧
    ∀ id, start.Registered events id →
      (∃ m, b.monitors[id]? = some m ∧ m.dropped = false ∧
        b.checkinProcessWide =
          (true, { b with monitors := b.monitors.set id { m with cell :=
            { m.cell with lastCheckin := uptime m.made b.now } } })) ∧
      (∀ rest, (∀ e ∈ rest, ∃ other, e.givesUp? = some other ∧ other ≠ id) →
        (b.run rest).processWide = some id) ∧
      (∀ e, e.givesUp? = some id → ∀ rest, Quiet (b.step e) rest →
        ((b.step e).run rest).checkinProcessWide.1 = false) := by
  intro start b
  have h : Told start events := (told_nil rfl).append events
  refine ⟨?_, ?_, ?_⟩
  · rw [checkinProcessWide_eq_true]
    exact exists_congr h.slot
  · intro hfalse
    unfold checkinProcessWide at hfalse ⊢
    split at hfalse
    · cases hfalse
    · rfl
  · intro id hregistered
    have hid : b.processWide = some id := (h.slot id).mpr hregistered
    obtain ⟨m, hm, hd⟩ := h.tended id hid
    refine ⟨⟨m, hm, hd, checkinProcessWide_of_some hid hm⟩, ?_, ?_⟩
    · intro rest hrest
      exact run_of_others h.tended hid hrest
    · intro e he rest hquiet
      have hnone : ∀ other, (b.step e).processWide ≠ some other := by
        intro other hother
        obtain ⟨hold, hne⟩ := (processWide_of_givesUp h.tended he).mp hother
        exact hne (Option.some.inj (hid.symm.trans hold))
      refine Bool.eq_false_iff.mpr fun htrue => ?_
      obtain ⟨other, hother⟩ := checkinProcessWide_eq_true.mp htrue
      exact run_of_quiet (h.tended.step e) hnone hquiet other hother

/-- The second process-wide monitor replaces the first, which is then dropped; a third
one is given up twice, another is rejected, and the second misses its deadline of a
millisecond and fires. A checkin without a handle still reaches it, and until another is
spawned none is reached once it is given up, too. -/
theorem checkin_reaches_registered_after_replacement :
    let events : List Event :=
      [.spawn { timeout := ⟨1000000⟩, processWide := true },
        .spawn { timeout := ⟨1000000⟩, processWide := true }, .drop 0,
        .spawn { timeout := ⟨1000000⟩ }, .dispose 2, .dispose 2,
        .spawn { timeout := ⟨0⟩, processWide := true }, .sleep ⟨5000000⟩]
    let start : Bank := { now := 0, threadFailure := none }
    let b := start.run events
    start.Registered events 1 ∧
      b.monitors[1]?.map (·.cell) = some ⟨0, 1000, .fired⟩ ∧
      b.checkinProcessWide.1 = true ∧
      b.checkinProcessWide.2.monitors[1]?.map (·.cell) = some ⟨5000, 1000, .fired⟩ ∧
      ((b.step (.dispose 1)).run [.checkin 0, .dispose 0]).checkinProcessWide.1 = false := by
  intro events start b
  have hregistered : start.Registered events 1 := by
    refine ⟨events.take 1, .spawn { timeout := ⟨1000000⟩, processWide := true },
      events.drop 2, rfl, by decide, ?_, by decide⟩
    simp only [events, List.drop, Quiet]
    decide
  obtain ⟨hreached, -, hthen⟩ := checkin_reaches_registered 0 none events
  obtain ⟨-, -, hgone⟩ := hthen 1 hregistered
  refine ⟨hregistered, by decide, hreached.mpr ⟨1, hregistered⟩, by decide, ?_⟩
  exact hgone (.dispose 1) rfl [.checkin 0, .dispose 0] (by simp only [Quiet]; decide)

end Bank

end TwoTierWatchdog.Liveness
