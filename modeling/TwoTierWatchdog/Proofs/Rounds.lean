import TwoTierWatchdog.Proofs.Passage

/-!
# Time that ends

It is the counters that make time end. One with nothing left would expire over and over at
the same moment; only what it has left makes the time that is still to pass shorter from
one round of the loop to the next. Between expiries every counter that runs has something
left, whatever drivers, callbacks and faults have done to it, and so each round takes some
of the time and the loop never comes to its bound.

Moments are those between two operations, inside callbacks as well. A callback runs while
the expiry of its device is being delivered, and it may cause other expiries, so that
several devices can be in the middle of one. All others are wound up at that moment, and a
length of time that begins there for one of them comes to its end.
-/

namespace TwoTierWatchdog

/-- How often a counter comes to its end in a length of time, if it is reloaded each
time. -/
def Countdown.expiries (c : Countdown) (time : Duration) : Nat :=
  if time.nanos < c.remaining.nanos then 0
  else 1 + (time.nanos - c.remaining.nanos) / c.period.nanos

/-- The first expiry takes what is left, and those that follow take the period. -/
theorem Countdown.expiries_of_le {c : Countdown} {time : Duration} (hpos : 0 < c.period.nanos)
    (hle : c.remaining.nanos ≤ time.nanos) :
    c.expiries time = 1 + c.reload.expiries ⟨time.nanos - c.remaining.nanos⟩ := by
  rw [expiries, if_neg (Nat.not_lt.mpr hle)]
  show 1 + (time.nanos - c.remaining.nanos) / c.period.nanos =
    1 + if time.nanos - c.remaining.nanos < c.period.nanos then 0
      else 1 + (time.nanos - c.remaining.nanos - c.period.nanos) / c.period.nanos
  split
  · next hlt => rw [Nat.div_eq_of_lt hlt]
  · next hge => rw [Nat.div_eq_sub_div hpos (Nat.not_lt.mp hge), Nat.add_comm 1 (_ / _)]

namespace System

variable {κ : Type} {h : Handler κ} {k left : Nat} {s t : System κ} {struck : Nat → Prop}

/-- The countdown of a device that runs. -/
def countdown? (s : System κ) (k : Nat) : Option Countdown :=
  (s.device? k).bind (·.countdown?)

/-! ## Moments -/

/-- What new peripherals have come to at some moment, while the expiries of some devices are
being delivered. -/
inductive Reached : (Nat → Prop) → System κ → Prop
  | new {s : System κ} (hs : s.New) : Reached (fun _ => False) s
  | operated {struck : Nat → Prop} {h : Handler κ} {s t : System κ} (sofar : Reached struck s)
      (operates : Operates h) (operated : Operated h s t) : Reached struck t
  /-- A device expires, after some time or at the end of all that it has left, and the
  callback of its line is about to be run. -/
  | delivering {struck : Nat → Prop} {s : System κ} {k : Nat} {step time : Duration}
      {line : Interrupt.Line} (sofar : Reached struck s) (runs : s.remaining? k = some step)
      (le : time.nanos ≤ step.nanos)
      (fires : ((s.modifyDevice k (·.elapse time)).strike k).1 = some line) :
      Reached (fun j => struck j ∨ j = k)
        (((s.modifyDevice k (·.elapse time)).strike k).2.count line)

/-- By induction on what leads to the moment. -/
theorem Reached.wound (hs : Reached struck s) : s.Wound struck := by
  induction hs with
  | new hs => exact hs.wound _
  | operated _ operates operated ih => exact operated.wound operates.keeping ih
  | delivering _ runs _ _ ih =>
      obtain ⟨device, hk, -⟩ := Option.bind_eq_some_iff.mp runs
      exact (ih.strike hk _).count _

theorem Reached.advance (hs : Reached struck s) (hh : Operates h) (k : Nat) (time : Duration) :
    Reached struck (s.advance h k time) := by
  cases hstep : s.remaining? k with
  | none =>
      rw [System.advance, run, hstep]
      exact hs
  | some step =>
      obtain ⟨device, hk, hleft⟩ := Option.bind_eq_some_iff.mp hstep
      have hclock : device.hasClock = true := by
        cases device with
        | nrf52 | rtl872x | twdt => rfl
        | eager | unfaithful => cases hleft
      have hadvance : (s.stimulate h k (.advance time)).2 = s.advance h k time := by
        simp only [stimulate, hk, hclock, if_true]
      have hpast : ∀ c, Device.Stimulus.advance time ≠ .call c := by
        intro c hc
        cases hc
      exact hadvance ▸ hs.operated hh (.stimulate .start k hpast)

/-! ## Rounds -/

/-- The loop that lets time pass comes to its head, with so much left to pass and in such a
system: a round goes on to the next expiry, if what is left covers it. -/
inductive Rounds (h : Handler κ) (k left : Nat) (s : System κ) : Nat → System κ → Prop
  | start : Rounds h k left s left s
  | next {rest : Nat} {t : System κ} {step : Duration} (sofar : Rounds h k left s rest t)
      (runs : t.remaining? k = some step) (le : step.nanos ≤ rest) :
      Rounds h k left s (rest - step.nanos) ((t.modifyDevice k (·.elapse step)).expire h k)

/-- Once no time is left there is nothing to deliver, because counters have some left. -/
theorem Wound.passage_zero (hs : s.Wound struck) (hk : ¬ struck k) : Passage h k 0 s [] s := by
  cases hstep : s.remaining? k with
  | none => exact .stopped hstep
  | some step =>
      have hshort := Passage.short (h := h) hstep (hs.remaining_pos hk hstep)
      rwa [show (⟨0⟩ : Duration) = .zero from rfl, elapse_zero] at hshort

/-- The head of a round is where time that is cut there ends. -/
theorem Rounds.passage {rest : Nat} (hr : Rounds h k left s rest t) (hh : Keeping h)
    (hs : s.Wound struck) (hk : ¬ struck k) :
    rest ≤ left ∧ t.Wound struck ∧ ∃ es, Passage h k (left - rest) s es t := by
  induction hr with
  | start =>
      refine ⟨Nat.le_refl _, hs, [], ?_⟩
      rw [Nat.sub_self]
      exact hs.passage_zero hk
  | @next rest t step _ runs le ih =>
      obtain ⟨hle, ht, es, hp⟩ := ih
      have hnext := ht.expire_elapse hh runs step
      have hround := hp.join (.expires runs (Nat.le_refl _)
        ((Nat.sub_self step.nanos).symm ▸ hnext.passage_zero hk))
      rw [show left - rest + step.nanos = left - (rest - step.nanos) by omega] at hround
      exact ⟨Nat.le_trans (Nat.sub_le ..) hle, hnext, _, hround⟩

theorem Rounds.eq_advance {rest : Nat} {time : Duration} (hr : Rounds h k time.nanos s rest t)
    (hh : Keeping h) (hs : s.Wound struck) (hk : ¬ struck k) :
    t = s.advance h k ⟨time.nanos - rest⟩ := by
  obtain ⟨-, -, es, hp⟩ := hr.passage hh hs hk
  obtain ⟨es', hp', -⟩ := hs.passage hh hk (time.nanos - rest) idleExpiries
  exact (hp.unique hp').2

/-! ## An nRF52840 without a callback -/

/-- Its expiry is a reset and nothing else, and it goes on with a full period. -/
theorem expire_of_silent {p : Nrf52.Peripheral} (hk : s.device? k = some (.nrf52 p))
    (hr : p.running = true)
    (hsilent : ∀ line, p.line = some line → s.callback? line = none) (h : Handler κ) :
    (s.expire h k).device? k = some (.nrf52 p.reset.1) ∧
      ∀ line, (s.expire h k).callback? line = s.callback? line := by
  have hrecover : ∀ {t : System κ}, t.device? k = some (.nrf52 p) →
      (∀ line, t.callback? line = s.callback? line) →
      (t.recover k).device? k = some (.nrf52 p.reset.1) ∧
        ∀ line, (t.recover k).callback? line = s.callback? line := by
    intro t htk hcallbacks
    rw [recover_of_some htk]
    refine ⟨?_, hcallbacks⟩
    rw [device?_append, device?_putDevice, if_pos rfl, htk]
    rfl
  have hstruck : (s.struck k (.nrf52 p)).device? k = some (.nrf52 p) := device?_struck hk
  have hexpire := expire_of_running hk (if_pos hr) h
  cases hline : p.line with
  | none =>
      rw [hexpire, show (Device.nrf52 p).strike.2.1 = none from hline]
      exact hrecover hstruck fun _ => rfl
  | some line =>
      have hnone : (s.struck k (.nrf52 p)).callback? line = none := hsilent line hline
      rw [hexpire, show (Device.nrf52 p).strike.2.1 = some line from hline]
      dsimp only
      rw [fire_of_none hnone]
      exact hrecover hstruck (callback?_count _ line)

/-- By strong induction on the time: what is left after an expiry is less of it. -/
theorem resets_of_advance {p : Nrf52.Peripheral} (hk : s.device? k = some (.nrf52 p))
    (hr : p.running = true) (hsilent : ∀ line, p.line = some line → s.callback? line = none)
    (hw : p.countdown.Wound True) (h : Handler κ) (time : Duration) :
    ∃ p', (s.advance h k time).device? k = some (.nrf52 p') ∧
      p'.resets = p.resets + p.countdown.expiries time := by
  obtain ⟨n⟩ := time
  induction n using Nat.strong_induction_on generalizing s p with
  | _ n ih =>
      have hstep : s.remaining? k = some p.countdown.remaining := by
        rw [remaining?, hk]
        exact if_pos hr
      by_cases hlt : n < p.countdown.remaining.nanos
      · refine ⟨p.elapse ⟨n⟩, ?_, ?_⟩
        · rw [advance_of_lt hstep hlt, device?_elapse hk, if_pos rfl]
          rfl
        · rw [Countdown.expiries, if_pos hlt]
          rfl
      · have hle : p.countdown.remaining.nanos ≤ n := Nat.not_lt.mp hlt
        have hpos := hw.left trivial
        have hk' : (s.modifyDevice k (·.elapse p.countdown.remaining)).device? k =
            some (.nrf52 (p.elapse p.countdown.remaining)) := by
          rw [device?_elapse hk, if_pos rfl]
          rfl
        obtain ⟨hdevice, hcallbacks⟩ := expire_of_silent hk' hr hsilent h
        obtain ⟨p', hp', hresets⟩ := ih (n - p.countdown.remaining.nanos) (by omega) hdevice hr
          (fun line hline => (hcallbacks line).trans (hsilent line hline))
          (Countdown.wound_reload hw.period)
        rw [advance_of_le hstep hpos hle]
        refine ⟨p', hp', ?_⟩
        rw [hresets, Countdown.expiries_of_le hw.period hle]
        exact Nat.add_assoc ..

/-! ## The end of time -/

/-- At every moment that drivers, time, faults, losses of power and new registries lead to,
every counter that runs has something left of its period, as long as its expiry is not
being delivered, and no more than that. So whatever callbacks do, any length of time comes
to its end, after no more expiries than it has nanoseconds, and the bound on those that
take no time makes no difference. Each round begins at such a moment, with exactly the time
that has not passed yet, and takes some of it. An nRF52840 that runs without a callback is
reset as often as its countdown comes to its end. -/
theorem time_ends (hs : Reached struck s) :
    (∀ k c, ¬ struck k → s.countdown? k = some c →
      0 < c.remaining.nanos ∧ c.remaining.nanos ≤ c.period.nanos) ∧
    (∀ (h : Handler κ) (k : Nat) (time : Duration), Operates h → ¬ struck k →
      (∃ es, Passage h k time.nanos s es (s.advance h k time) ∧ es.length ≤ time.nanos) ∧
      (∀ idle, s.run h k time.nanos idle = s.advance h k time) ∧
      ∀ rest t, Rounds h k time.nanos s rest t →
        Reached struck t ∧ rest ≤ time.nanos ∧ t = s.advance h k ⟨time.nanos - rest⟩ ∧
          ∀ step, t.remaining? k = some step → 0 < step.nanos) ∧
    ∀ (h : Handler κ) (k : Nat) (p : Nrf52.Peripheral) (time : Duration), ¬ struck k →
      s.device? k = some (.nrf52 p) → p.running = true →
      (∀ line, p.line = some line → s.callback? line = none) →
      ∃ p', (s.advance h k time).device? k = some (.nrf52 p') ∧
        p'.resets = p.resets + p.countdown.expiries time := by
  have hwound := hs.wound
  refine ⟨fun k c hk hc => ?_, fun h k time hh hk => ⟨?_, fun idle => ?_, fun rest t hr => ?_⟩,
    fun h k p time hk hdevice hr hsilent => ?_⟩
  · obtain ⟨device, hdevice, hc⟩ := Option.bind_eq_some_iff.mp hc
    have hcount := (hwound.devices k device hdevice).countdown hc
    exact ⟨hcount.left hk, hcount.within⟩
  · exact hwound.passage hh.keeping hk time.nanos idleExpiries
  · obtain ⟨es, hp, -⟩ := hwound.passage hh.keeping hk time.nanos idle
    obtain ⟨es', hp', -⟩ := hwound.passage hh.keeping hk time.nanos idleExpiries
    exact (hp.unique hp').2
  · have hcut := hr.eq_advance hh.keeping hwound hk
    obtain ⟨hle, ht, -⟩ := hr.passage hh.keeping hwound hk
    exact ⟨hcut ▸ hs.advance hh k _, hle, hcut, fun step hstep => ht.remaining_pos hk hstep⟩
  · have hcount := (hwound.devices k _ hdevice) hr
    exact resets_of_advance hdevice hr hsilent (hcount.mono fun _ => hk) h time

/-- A second passes for an nRF52840 that has a line and no callback, from inside the
callback of an RTL872x whose interrupt is being delivered. -/
theorem time_ends_inside_callback :
    let w : Watchdog := ⟨1, ⟨0, by decide⟩⟩
    let w' : Watchdog := ⟨1, ⟨1, by decide⟩⟩
    let fresh : System (Watchdog × List Request) :=
      { devices := [{ device := Sim.rtl872x.fresh }, { device := (Sim.nrf52 false).fresh }] }
    let built := (fresh.build [(0, 0), (1, 1)]).2
    let configured := (built.serve requesting w (.init { timeoutMs := 1000, hardReset := false })).2
    let listening := (configured.onExpired w (w, [.refresh])).2
    let ticking := (listening.serve requesting w .start).2
    let both := (ticking.serve requesting w' (.init { timeoutMs := 300, hardReset := false })).2
    let s := (both.serve requesting w' .start).2
    let second : Duration := .ofMillis 1000
    let inside := ((s.modifyDevice 0 (·.elapse second)).strike 0).2.count ⟨1, ⟨0, by decide⟩⟩
    let full : Countdown := .ofPeriod ⟨300018310⟩
    Reached (fun j => False ∨ j = 0) inside ∧ inside.countdown? 1 = some full ∧
      (0 < full.remaining.nanos ∧ full.remaining.nanos ≤ full.period.nanos) ∧
      (∃ es, Passage requesting 1 second.nanos inside es (inside.advance requesting 1 second) ∧
        es.length ≤ second.nanos) ∧
      ∃ p', (inside.advance requesting 1 second).device? 1 = some (.nrf52 p') ∧ p'.resets = 3 := by
  intro w w' fresh built configured listening ticking both s second inside full
  have hnew : fresh.New := by
    refine ⟨fun k device hk => .inl ?_, rfl⟩
    match k with
    | 0 => exact ⟨.rtl872x, (Option.some.inj hk).symm⟩
    | 1 => exact ⟨.nrf52 false, (Option.some.inj hk).symm⟩
    | _ + 2 => cases hk
  have hs : Operated requesting fresh s :=
    ((((((Operated.start.build _).serve w _).onExpired w _).serve w .start).serve w' _).serve w' _)
  let p : Nrf52.Peripheral :=
    { crv := 9830, runInSleep := true, channels := 1, line := some ⟨1, ⟨1, by decide⟩⟩
      running := true, countdown := full }
  have hleft : s.remaining? 0 = some second := by decide +kernel
  have hfires : ((s.modifyDevice 0 (·.elapse second)).strike 0).1 =
      some ⟨1, ⟨0, by decide⟩⟩ := by decide +kernel
  have hp : inside.device? 1 = some (.nrf52 p) := by decide +kernel
  have hcallback : (inside.callback? ⟨1, ⟨1, by decide⟩⟩).isNone = true := by decide +kernel
  have hcount : inside.countdown? 1 = some full := by rw [countdown?, hp]; rfl
  have hreached : Reached (fun j => False ∨ j = 0) inside :=
    ((Reached.new hnew).operated operates_requesting hs).delivering hleft (Nat.le_refl _) hfires
  have hother : ¬ (False ∨ 1 = 0) := by decide
  -- what the run leads to is not to be computed again
  clear_value inside
  have hsilent : ∀ line, p.line = some line → inside.callback? line = none := by
    intro line hline
    rw [← Option.some.inj hline]
    exact Option.isNone_iff_eq_none.mp hcallback
  obtain ⟨hwithin, hends, hresets⟩ := time_ends hreached
  obtain ⟨p', hp', hadded⟩ := hresets requesting 1 p second hother hp rfl hsilent
  have hthree : p.resets + p.countdown.expiries second = 3 := by decide
  exact ⟨hreached, hcount, hwithin 1 full hother hcount,
    (hends requesting 1 second operates_requesting hother).1, p', hp', hadded.trans hthree⟩

end System

end TwoTierWatchdog
