import TwoTierWatchdog.Proofs.Settled
import TwoTierWatchdog.Twdt.Driver
import TwoTierWatchdog.Twdt.Peripheral

/-!
# The books on a task watchdog

What a driver's books and the watchdog say about each other, and that every request
keeps it so.

Any call but the attaching of the interrupt may fail halfway through a request. A call
that fails changes nothing but the fault that made it fail, and the driver makes no
entry before a call has succeeded: `settled_write` says so once for all calls.
-/

namespace TwoTierWatchdog.Twdt

/-- The counter has the programmed period, and counts only with one. -/
structure Peripheral.Sound (p : Peripheral) : Prop where
  timed : ∀ t, p.timeoutMs = some t → p.countdown.period = .ofMillis t.toNat
  programmed : p.subscribed = true → p.timeoutMs ≠ none

/-- The books agree with the watchdog. -/
structure Books (d : Driver) (p : Peripheral) : Prop where
  running : p.subscribed = true → d.state = .running
  configured : d.state ≠ .uninitialized → p.timeoutMs = some d.timeoutMs

/-- A rig of this family between two requests. -/
abbrev Settled (r : Rig Peripheral Command) : Prop :=
  r.Settled Peripheral.Sound Books

/-! ## The watchdog on its own -/

theorem sound_fresh : Peripheral.Sound {} :=
  ⟨nofun, nofun⟩

theorem sound_elapse {p : Peripheral} (h : p.Sound) (time : Duration) :
    (p.elapse time).Sound :=
  ⟨h.timed, h.programmed⟩

theorem sound_expire {p : Peripheral} (h : p.Sound) : p.expire.1.Sound := by
  unfold Peripheral.expire
  split
  · exact ⟨h.timed, nofun⟩
  · exact ⟨h.timed, h.programmed⟩

theorem books_expire {d : Driver} {p : Peripheral} (h : Books d p) :
    Books d p.expire.1 := by
  unfold Peripheral.expire
  split
  · exact ⟨nofun, h.configured⟩
  · exact ⟨h.running, h.configured⟩

/-! ## A new driver -/

theorem books_adopt {p : Peripheral} (h : p.Sound) : Books (adopt p).1 p := by
  unfold adopt
  split
  · next hs =>
      refine ⟨fun _ => rfl, fun _ => ?_⟩
      obtain ⟨t, ht⟩ := Option.ne_none_iff_exists'.mp (h.programmed hs)
      show p.timeoutMs = some (p.timeoutMs.getD 0)
      rw [ht]
      rfl
  · next hs => exact ⟨fun h => absurd h hs, fun h => absurd rfl h⟩

/-! ## Single calls -/

/-- Everything but the injected fault is as it was. -/
def Faulted (p q : Peripheral) : Prop :=
  ∃ failure failureSkip, q = { p with failure, failureSkip }

theorem faulted_takeFailure (p : Peripheral) : Faulted p p.takeFailure.2 := by
  unfold Peripheral.takeFailure
  split <;> exact ⟨_, _, rfl⟩

theorem interface_write_of_none {c : Command} {p q : Peripheral}
    (hc : ∀ line, c ≠ .attachInterrupt line) (ht : p.takeFailure = (none, q)) :
    Interface.write c p = q.act c := by
  cases c with
  | attachInterrupt line => exact absurd rfl (hc line)
  | _ => simp only [Interface.write, Peripheral.write, ht]

theorem interface_write_of_some {c : Command} {p q : Peripheral} {e : VendorError}
    (hc : ∀ line, c ≠ .attachInterrupt line) (ht : p.takeFailure = (some e, q)) :
    Interface.write c p = (.error e, q) := by
  cases c with
  | attachInterrupt line => exact absurd rfl (hc line)
  | _ => simp only [Interface.write, Peripheral.write, ht]

/-- To attach a line never fails. -/
theorem write_attach (name : String) (line : Interrupt.Line) (r : Rig Peripheral Command)
    (next : Rig Peripheral Command → Served Peripheral Command) :
    write name (.attachInterrupt line) r next = next { r with
      hardware := { r.hardware with line := some line }
      calls := r.calls ++ [.attachInterrupt line] } :=
  rfl

theorem act_error {c : Command} {p q : Peripheral} {e : VendorError}
    (h : p.act c = (.error e, q)) : q = p := by
  cases c with
  | reconfigure | attachInterrupt => cases h
  | subscribe =>
      simp only [Peripheral.act] at h
      split at h
      · exact (congrArg Prod.snd h).symm
      · split at h <;> cases h
  | unsubscribe | reset =>
      simp only [Peripheral.act] at h
      split at h
      · cases h
      · exact (congrArg Prod.snd h).symm

theorem write_of_act {r : Rig Peripheral Command} {c : Command} {p q : Peripheral}
    (hc : ∀ line, c ≠ .attachInterrupt line) (ht : r.hardware.takeFailure = (none, p))
    (ha : p.act c = (.ok (), q)) (name : String)
    (next : Rig Peripheral Command → Served Peripheral Command) :
    write name c r next = next { r with hardware := q, calls := r.calls ++ [c] } := by
  unfold write
  rw [interface_write_of_none hc ht, ha]

theorem write_of_due {r : Rig Peripheral Command} {c : Command} {p : Peripheral}
    {e : VendorError} (hc : ∀ line, c ≠ .attachInterrupt line)
    (ht : r.hardware.takeFailure = (some e, p)) (name : String)
    (next : Rig Peripheral Command → Served Peripheral Command) :
    write name c r next =
      (({ r with hardware := p, calls := r.calls ++ [c] } : Rig _ _).note .error
        s!"wdt(twdt): {name} failed: {e.message}").fail .internal := by
  unfold write
  rw [interface_write_of_some hc ht]

/-- A call that may fail keeps the books if what comes after its success does. -/
theorem settled_write {r : Rig Peripheral Command} (h : Settled r) {c : Command}
    (hc : ∀ line, c ≠ .attachInterrupt line) (name : String)
    {next : Rig Peripheral Command → Served Peripheral Command}
    (hn : ∀ p q, Faulted r.hardware p → p.act c = (.ok (), q) →
      Settled (next { r with hardware := q, calls := r.calls ++ [c] }).2) :
    Settled (write name c r next).2 := by
  have hfail : ∀ p, Faulted r.hardware p → ∀ calls,
      Settled { r with hardware := p, calls } := by
    rintro p ⟨_, _, rfl⟩ calls
    exact ⟨⟨h.sound.timed, h.sound.programmed⟩, ⟨h.books.running, h.books.configured⟩,
      h.quiet⟩
  have hf := faulted_takeFailure r.hardware
  cases htake : r.hardware.takeFailure with
  | mk due p =>
      rw [htake] at hf
      cases due with
      | some e =>
          rw [write_of_due hc htake]
          exact (hfail p hf _).note _ _
      | none =>
          cases hact : p.act c with
          | mk result q =>
              cases result with
              | ok =>
                  rw [write_of_act hc htake hact]
                  exact hn p q hf hact
              | error e =>
                  unfold write
                  rw [interface_write_of_none hc htake, hact, act_error hact]
                  exact (hfail p hf _).note _ _

/-! ## Starting, stopping, feeding -/

/-- Starting what runs already does nothing. -/
theorem start_of_subscribed {π : Type} [Interface π] {p : π} {driver : Driver}
    (hs : driver.state = .running) (hr : Interface.isSubscribed p = true) :
    start { driver, hardware := p } = (.ok (), { driver, hardware := p }) :=
  (start_ways _).eq_done hs hr

theorem settled_feed {r : Rig Peripheral Command} (h : Settled r)
    {next : Rig Peripheral Command → Served Peripheral Command}
    (hn : ∀ r', Settled r' → Settled (next r').2) :
    Settled (write "reset" .reset r next).2 := by
  refine settled_write h (by nofun) _ ?_
  rintro _ q ⟨_, _, rfl⟩ hact
  simp only [Peripheral.act] at hact
  split at hact
  · obtain rfl := (congrArg Prod.snd hact).symm
    exact hn _ ⟨⟨h.sound.timed, h.sound.programmed⟩,
      ⟨h.books.running, h.books.configured⟩, h.quiet⟩
  · cases hact

theorem settled_refresh {r : Rig Peripheral Command} (h : Settled r) :
    Settled (refresh r).2 := by
  unfold refresh
  split
  · exact settled_feed h fun _ h => h
  · exact h

/-- Once the subscription reads back, the books may say that the watchdog runs. -/
theorem settled_launched {r : Rig Peripheral Command} (hp : r.hardware.Sound)
    (ht : r.hardware.timeoutMs = some r.driver.timeoutMs) (hq : r.raised = []) :
    Settled (launched r).2 := by
  cases launched_ways r with
  | starts _ eq => exact eq ▸ ⟨hp, ⟨fun _ => rfl, fun _ => ht⟩, hq⟩
  | fails reads eq =>
      exact eq ▸ ⟨hp, ⟨fun hs => absurd (reads.symm.trans hs) nofun, fun _ => ht⟩, hq⟩

theorem settled_launch {r : Rig Peripheral Command} (h : Settled r)
    (hs : r.driver.state ≠ .uninitialized) : Settled (launch r).2 := by
  have ht := h.books.configured hs
  unfold launch
  split
  · exact settled_launched h.sound ht h.quiet
  · refine settled_write h (by nofun) _ ?_
    rintro _ q ⟨_, _, rfl⟩ hact
    simp only [Peripheral.act] at hact
    split at hact
    · cases hact
    · split at hact
      · obtain rfl := (congrArg Prod.snd hact).symm
        exact settled_launched ⟨h.sound.timed, h.sound.programmed⟩ ht h.quiet
      · obtain rfl := (congrArg Prod.snd hact).symm
        exact settled_launched ⟨h.sound.timed, fun _ => by simp [ht]⟩ ht h.quiet

theorem settled_start {r : Rig Peripheral Command} (h : Settled r) :
    Settled (start r).2 := by
  cases start_ways r with
  | unready _ eq => exact eq ▸ h
  | runs _ _ eq => exact eq ▸ h
  | launches past _ eq => exact eq ▸ settled_launch h past

/-- A watchdog that reads unsubscribed may be entered as stopped. -/
theorem settled_settle {r : Rig Peripheral Command} (h : Settled r)
    (hs : r.hardware.subscribed = false) : Settled (settle r).2 := by
  unfold settle
  split
  · next hd =>
      refine ⟨h.sound, ⟨fun hr => ?_, fun _ => ?_⟩, h.quiet⟩
      · exact absurd (hs.symm.trans hr) nofun
      · exact h.books.configured (by simp [hd])
  · exact h

theorem settled_stop {r : Rig Peripheral Command} (h : Settled r) :
    Settled (stop r).2 := by
  unfold stop
  split
  · refine settled_write h (by nofun) _ ?_
    rintro _ q ⟨_, _, rfl⟩ hact
    simp only [Peripheral.act] at hact
    split at hact
    · obtain rfl := (congrArg Prod.snd hact).symm
      exact settled_settle ⟨⟨h.sound.timed, nofun⟩, ⟨nofun, h.books.configured⟩, h.quiet⟩
        rfl
    · cases hact
  · next hs => exact settled_settle h (Bool.eq_false_iff.mpr hs)

/-! ## Programming -/

/-- The new period is programmed, and the books have yet to say so. -/
theorem settled_commit {r : Rig Peripheral Command} {c : Record.Config}
    (hp : r.hardware.Sound) (hs : r.hardware.subscribed = true → r.driver.state = .running)
    (ht : r.hardware.timeoutMs = some c.timeoutMs) (hq : r.raised = []) :
    Settled (commit c r).2 := by
  unfold commit
  dsimp only
  split
  · next hr =>
      have h : Settled (r.enter fun d =>
          { d with config := some c, timeoutMs := c.timeoutMs }) :=
        ⟨hp, ⟨hs, fun _ => ht⟩, hq⟩
      refine settled_feed h fun r' h' => ?_
      cases confirm_ways true r' _ with
      | agrees _ eq => exact eq ▸ h'.note _ _
      | differs _ eq => exact eq ▸ h'.note _ _
  · next hr =>
      exact ⟨hp, ⟨fun h => absurd (hs h) hr, fun _ => ht⟩, hq⟩

theorem settled_reconfigure {r : Rig Peripheral Command} (h : Settled r) (c : Record.Config) :
    Settled (reconfigure c r).2 := by
  refine settled_write h (by nofun) _ ?_
  rintro _ q ⟨_, _, rfl⟩ hact
  obtain rfl := (congrArg Prod.snd hact).symm
  refine settled_commit ⟨fun t ht => ?_, nofun⟩ h.books.running rfl h.quiet
  rw [← Option.some.inj ht]
  rfl

theorem settled_init {r : Rig Peripheral Command} (h : Settled r) (c : Record.Config) :
    Settled (init c r).2 := by
  cases init_ways c r with
  | turnedAway away => exact h.turnedAway away
  | plain _ _ eq => exact eq ▸ settled_reconfigure h c
  | attaches _ _ eq =>
      rw [eq, write_attach]
      refine settled_reconfigure ?_ c
      exact ⟨⟨h.sound.timed, h.sound.programmed⟩, ⟨h.books.running, h.books.configured⟩,
        h.quiet⟩

theorem settled_serve {r : Rig Peripheral Command} (h : Settled r) (q : Request) :
    Settled (serve r q).2 := by
  cases q with
  | init c => exact settled_init h c
  | setTimeout timeout => exact settled_init h _
  | start => exact settled_start h
  | stop => exact settled_stop h
  | refresh => exact settled_refresh h

/-- A counter that runs takes the feed, unless a fault is due for the call. -/
theorem refresh_of_subscribed {d : Driver} {p : Peripheral} (h : Books d p)
    (hs : p.subscribed = true) :
    let served := serve { driver := d, hardware := p } .refresh
    (served.1 = .error .internal ∧ ∃ e, p.takeFailure.1 = some e) ∨
      (served.1 = .ok () ∧ served.2.hardware.remaining? = some p.countdown.period) := by
  intro served
  have hserved : served = write "reset" .reset { driver := d, hardware := p } Rig.done :=
    if_pos (h.running hs)
  have hf := faulted_takeFailure p
  cases htake : p.takeFailure with
  | mk due q =>
      rw [htake] at hf
      cases due with
      | some e =>
          rw [hserved, write_of_due (by nofun) htake]
          exact .inl ⟨rfl, e, rfl⟩
      | none =>
          obtain ⟨failure, failureSkip, hq⟩ : Faulted p q := hf
          have hact : q.act .reset = (.ok (),
              { q with countdown := q.countdown.reload, feeds := q.feeds + 1 }) :=
            if_pos (by rw [hq]; exact hs)
          rw [hserved, write_of_act (by nofun) htake hact, hq]
          exact .inr ⟨rfl, if_pos hs⟩

end TwoTierWatchdog.Twdt
