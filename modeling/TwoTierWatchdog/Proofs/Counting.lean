import TwoTierWatchdog.Proofs.Stepping

/-!
# A watchdog that counts can be fed

In whatever state a run leaves a system: a watchdog whose counter runs has a driver that
says so, reports the period that the registers hold, and can feed it.

The invariant is that every slot of the current registry is in order on its own: its
books agree with its device. It carries through a run because no two slots share a
device, so a request to one watchdog is nothing to the others, and because whatever
else happens to a device is nothing to the books.
-/

namespace TwoTierWatchdog.Deployment

open Device (Follows)

variable {κ : Type} {d d' : Deployment κ}

/-- What holds between any two moves. -/
structure InOrder (d : Deployment κ) : Prop where
  sound : ∀ j device, d.system.device? j = some device → device.Sound
  idle : ∀ slot ∈ d.slots, slot.busy = false
  ids : (d.slots.map (·.id)).Nodup
  devices : (d.slots.map (·.device)).Nodup
  books : ∀ slot ∈ d.slots, ∀ device, d.system.device? slot.device = some device →
    device.Books d.powered slot.driver

theorem inOrder_fresh (sims : List Sim) : InOrder (fresh sims : Deployment κ) where
  sound j device h := by
    rw [device?_fresh] at h
    obtain ⟨sim, -, rfl⟩ := Option.map_eq_some_iff.mp h
    exact Device.sound_fresh sim
  idle _ h := absurd h List.not_mem_nil
  ids := List.nodup_nil
  devices := List.nodup_nil
  books _ h := absurd h List.not_mem_nil

/-! ## Runs -/

/-- A device that is touched follows from what it was, or the power is lost. -/
theorem Touch.follows {m : Move κ} {k : Nat} {device device' : Device} (powered : Bool)
    (h : Touch m k device device') : Follows powered (powered && !m.cuts) device device' := by
  have hon : (powered && !false) = powered := Bool.and_true powered
  cases h with
  | elapse => exact hon.symm ▸ Device.follows_elapse powered device _
  | strike => exact hon.symm ▸ Device.follows_strike powered device
  | recover => exact hon.symm ▸ Device.follows_recover powered device
  | poke lawful poked => exact Device.follows_poke lawful poked

theorem InOrder.touched (h : InOrder d) {m : Move κ} {k : Nat} {device device' : Device}
    (ht : Touched d m k device device' d') : InOrder d' := by
  have hf : Follows d.powered d'.powered device device' := ht.powered ▸ ht.touch.follows _
  have hp : d'.powered = true → d.powered = true := fun hp =>
    (Bool.and_eq_true_iff.mp (ht.powered ▸ hp)).1
  refine ⟨fun j found hj => ?_, ?_, ?_, ?_, ?_⟩
  · rw [ht.devices] at hj
    split at hj
    · obtain ⟨_, -, rfl⟩ := Option.map_eq_some_iff.mp hj
      exact hf.sound (h.sound k device ht.before)
    · exact h.sound j found hj
  · rw [ht.slots]; exact h.idle
  · rw [ht.slots]; exact h.ids
  · rw [ht.slots]; exact h.devices
  · exact ht.each (P := fun slot device => device.Books d.powered slot.driver) h.books
      (fun slot found hb => (Device.follows_refl hp found).books slot.driver hb)
      fun slot hb => hf.books slot.driver hb

theorem InOrder.served (h : InOrder d) (hpowered : d.powered = true) {i : Instance}
    {q : Request} {slot : Slot} {device : Device}
    (hslot : d.system.slot? ⟨d.system.current, i⟩ = some slot)
    (hdevice : d.system.device? slot.device = some device) {s : System κ}
    (hserved : d.system.Served ⟨d.system.current, i⟩ slot (device.serve q slot.driver) s) :
    InOrder { d with system := s } := by
  obtain ⟨hmem, hid⟩ := System.slot?_eq_some hslot
  have hbooks := h.books slot hmem device hdevice
  rw [hpowered] at hbooks
  obtain ⟨hsound, hb⟩ := Device.settled_serve (h.sound _ device hdevice) hbooks q
  refine ⟨fun j found hj => ?_, ?_, ?_, ?_, ?_⟩
  · rw [hserved.devices] at hj
    split at hj
    · obtain ⟨_, -, rfl⟩ := Option.map_eq_some_iff.mp hj
      exact hsound
    · exact h.sound j found hj
  · rw [slots_served rfl hserved]
    intro slot' hslot'
    obtain ⟨old, hold, rfl⟩ := List.mem_map.mp hslot'
    split
    · rfl
    · exact h.idle old hold
  · simp only [slots]
    rw [hserved.current, hserved.map_slots fun _ => rfl]
    exact h.ids
  · simp only [slots]
    rw [hserved.current, hserved.map_slots fun _ => rfl]
    exact h.devices
  · exact Each.served (P := fun slot device => device.Books d.powered slot.driver) h.ids
      h.devices rfl hmem hid hserved h.books (hpowered ▸ hb)

/-- A new registry knows every device as it finds it, also after a loss of power. -/
theorem InOrder.built (h : InOrder d) {pairs : List (UInt8 × Nat)} {made : List Slot}
    (hbuilt : Built d pairs made d') : InOrder d' := by
  refine ⟨fun j device hj => h.sound j device (hbuilt.devices j ▸ hj), ?_, ?_, ?_, ?_⟩
  · rw [hbuilt.slots]
    intro slot hslot
    obtain ⟨old, hold, rfl⟩ := List.mem_map.mp hslot
    exact (hbuilt.adopted old hold).idle
  · rw [hbuilt.slots, List.map_map]
    exact hbuilt.ids
  · rw [hbuilt.slots, List.map_map]
    exact hbuilt.distinct
  · refine hbuilt.each (P := fun slot device => device.Books d'.powered slot.driver)
      fun slot device _ hdevice hdriver => ?_
    have hbooks := Device.books_adopt (h.sound _ device hdevice)
    rw [← hdriver] at hbooks
    rw [hbuilt.powered]
    exact hbooks.of_eq rfl rfl

theorem InOrder.step (h : InOrder d) (m : Move κ) : InOrder (d.step m) := by
  have hstep := stepped h.sound m
  generalize d.step m = d' at hstep
  cases hstep with
  | idle devices slots current powered =>
      exact ⟨fun j device hj => h.sound j device (devices j ▸ hj), slots ▸ h.idle,
        slots ▸ h.ids, slots ▸ h.devices, powered ▸ Each.of_eq h.books devices slots⟩
  | touched ht => exact h.touched ht
  | served powered slot device served => exact h.served powered slot device served
  | built hbuilt => exact h.built hbuilt

theorem InOrder.run (h : InOrder d) (moves : List (Move κ)) : InOrder (d.run moves) := by
  induction moves generalizing d with
  | nil => exact h
  | cons m rest ih => exact ih (h.step m)

/-! ## What operations come to

The moves are pieces of operations. Here the operations are put together from them, for
callbacks of which no more is asked than that they come to moves themselves. A callback
that calls a watchdog does so only while the power is on, and then not for every
callback: `allowed` says with which power callbacks are run, and left. -/

def Reaches (d d' : Deployment κ) : Prop :=
  ∃ moves, d.run moves = d'

theorem Reaches.refl (d : Deployment κ) : Reaches d d :=
  ⟨[], rfl⟩

theorem Reaches.trans {d'' : Deployment κ} (h : Reaches d d') (h' : Reaches d' d'') :
    Reaches d d'' := by
  obtain ⟨moves, rfl⟩ := h
  obtain ⟨moves', rfl⟩ := h'
  exact ⟨moves ++ moves', List.foldl_append ..⟩

theorem Reaches.step (d : Deployment κ) (m : Move κ) : Reaches d (d.step m) :=
  ⟨[m], rfl⟩

theorem Reaches.inOrder (h : Reaches d d') (hd : InOrder d) : InOrder d' := by
  obtain ⟨moves, rfl⟩ := h
  exact hd.run moves

/-- The system is one that moves lead to, with the power as it may be. -/
def Attains (allowed : Bool → Prop) (d : Deployment κ) (s : System κ) : Prop :=
  ∃ d', Reaches d d' ∧ allowed d'.powered ∧ d'.system = s

/-- Callbacks come to moves. -/
def Lawful (allowed : Bool → Prop) (h : Handler κ) : Prop :=
  ∀ callback (d : Deployment κ), InOrder d → allowed d.powered →
    Attains allowed d (h callback d.system)

variable {allowed : Bool → Prop} {h : Handler κ}

theorem Attains.of_reaches {s : System κ} (hr : Reaches d d') (ha : Attains allowed d' s) :
    Attains allowed d s := by
  obtain ⟨d'', hr', hp, hs⟩ := ha
  exact ⟨d'', hr.trans hr', hp, hs⟩

theorem attains_step (m : Move κ) (hp : allowed (d.step m).powered) :
    Attains allowed d (d.step m).system :=
  ⟨d.step m, Reaches.step d m, hp, rfl⟩

theorem attains_of_step (m : Move κ) {s : System κ}
    (hm : d.step m = { d with system := s })
    (hp : allowed d.powered) : Attains allowed d s := by
  refine ⟨d.step m, Reaches.step d m, ?_, ?_⟩
  · rw [hm]
    exact hp
  · rw [hm]

/-- An expiry: the first half, the callback, the second half. -/
theorem attains_expire (hh : Lawful allowed h) (hd : InOrder d) (hp : allowed d.powered)
    (k : Nat) : Attains allowed d (d.system.expire h k) := by
  have hstrike := hd.step (.strike k)
  have hreach := Reaches.step d (.strike k)
  simp only [step, Deployment.strike] at hstrike hreach
  unfold System.expire
  split
  · exact ⟨d, Reaches.refl d, hp, rfl⟩
  · next hr =>
      simp only [hr] at hstrike hreach
      split
      · next line s hs =>
          simp only [hs] at hstrike hreach
          refine .of_reaches hreach ?_
          unfold System.fire
          split
          · next callback _ =>
              obtain ⟨d', hr', hp', hs'⟩ := hh callback _ hstrike hp
              rw [← hs']
              exact .of_reaches hr' (attains_step (.recover k) hp')
          · exact attains_step (.recover k) hp
      · next s hs =>
          simp only [hs] at hstrike hreach
          exact .of_reaches hreach (attains_step (.recover k) hp)

theorem attains_advance (hh : Lawful allowed h) (hd : InOrder d) (hp : allowed d.powered)
    (k : Nat) (time : Duration) : Attains allowed d (d.system.advance h k time) := by
  have hexpire : ∀ (d : Deployment κ) (step : Duration), InOrder d → allowed d.powered →
      Attains allowed d ((d.system.modifyDevice k (·.elapse step)).expire h k) :=
    fun d step hd hp => .of_reaches (Reaches.step d (.elapse k step))
      (attains_expire hh (hd.step (.elapse k step)) hp k)
  unfold System.advance
  generalize time.nanos = left, System.idleExpiries = idle
  generalize hs : d.system = s
  -- by the recursion of `run`: whatever a callback made of the system, it is one that
  -- moves lead to, and the time that is left runs on from there
  induction left, idle, s using System.run.induct (h := h) (k := k) generalizing d with
  | case1 left idle s hnone =>
      rw [System.run, hnone]
      exact ⟨d, Reaches.refl d, hp, hs⟩
  | case2 left idle s step hstep hlt =>
      rw [System.run, hstep]
      simp only [if_pos hlt]
      rw [← hs]
      exact attains_step (.elapse k ⟨left⟩) hp
  | case3 left idle s step hstep hge s' hpos =>
      rename_i ih
      rw [System.run, hstep]
      simp only [if_neg hge, dif_pos hpos]
      obtain ⟨d', hr', hp', hs'⟩ := hexpire d step hd hp
      exact .of_reaches hr' (ih (hr'.inOrder hd) hp' (by rw [hs', hs]))
  | case4 left s step hstep hge hzero =>
      rw [System.run, hstep]
      simp only [if_neg hge, dif_neg hzero]
      rw [← hs]
      exact hexpire d step hd hp
  | case5 left s step hstep hge s' hzero idle =>
      rename_i ih
      rw [System.run, hstep]
      simp only [if_neg hge, dif_neg hzero]
      obtain ⟨d', hr', hp', hs'⟩ := hexpire d step hd hp
      exact .of_reaches hr' (ih (hr'.inOrder hd) hp' (by rw [hs', hs]))

/-- What is done to a device at once is a move. -/
theorem poke_eq_stimulate (hd : InOrder d) {what : Device.Stimulus}
    (hc : ∀ c, what ≠ .call c) (ht : ∀ time, what ≠ .advance time) (he : what ≠ .expire)
    (k : Nat) : (d.system.stimulate h k what).2 = (d.poke k what).system := by
  unfold System.stimulate Deployment.poke
  cases hk : d.system.device? k with
  | none => cases what <;> rfl
  | some device =>
      have hsound := hd.sound k device hk
      cases device with
      | eager p | unfaithful p => exact hsound.elim
      | nrf52 p | rtl872x p | twdt p =>
          cases what with
          | call c => exact absurd rfl (hc c)
          | advance time => exact absurd rfl (ht time)
          | expire => exact absurd rfl he
          | _ => rfl

theorem powered_poke (d : Deployment κ) (k : Nat) (what : Device.Stimulus) :
    (d.poke k what).powered = d.powered ∨
      what = .powerCycle ∧ (d.poke k what).powered = false := by
  by_cases hcycle : what = .powerCycle
  · subst hcycle
    unfold Deployment.poke
    split
    · exact .inl rfl
    · exact .inl rfl
    · split
      · exact .inr ⟨rfl, by simp⟩
      · exact .inl rfl
  · left
    unfold Deployment.poke
    split
    · rfl
    · rfl
    · split
      · simp [hcycle]
      · rfl

/-- What is done to a device from outside, time and expiry included. -/
theorem attains_stimulate (hh : Lawful allowed h) (hd : InOrder d)
    (hp : allowed d.powered) {what : Device.Stimulus} (hc : ∀ c, what ≠ .call c)
    (hcut : what = .powerCycle → allowed false) (k : Nat) :
    Attains allowed d (d.system.stimulate h k what).2 := by
  by_cases ht : ∃ time, what = .advance time
  · obtain ⟨time, rfl⟩ := ht
    unfold System.stimulate
    split
    · exact ⟨d, Reaches.refl d, hp, rfl⟩
    · dsimp only
      split
      · exact attains_advance hh hd hp k time
      · exact ⟨d, Reaches.refl d, hp, rfl⟩
  by_cases he : what = .expire
  · subst he
    unfold System.stimulate
    split
    · exact ⟨d, Reaches.refl d, hp, rfl⟩
    · dsimp only
      split
      · exact attains_expire hh hd hp k
      · exact ⟨d, Reaches.refl d, hp, rfl⟩
  rw [poke_eq_stimulate hd hc (fun time h => ht ⟨time, h⟩) he]
  refine attains_step (.poke k what) ?_
  rcases powered_poke d k what with hsame | ⟨hcycle, hoff⟩
  · exact hsame ▸ hp
  · exact hoff ▸ hcut hcycle

/-- No peripheral fires its line in the middle of a call, so what handles callbacks does
not matter to a call. -/
theorem InOrder.serve_eq_quiet (hd : InOrder d) (h : Handler κ) (i : Instance) (q : Request) :
    d.system.serve h ⟨d.system.current, i⟩ q =
      d.system.serve quiet ⟨d.system.current, i⟩ q := by
  cases hslot : d.system.slot? ⟨d.system.current, i⟩ with
  | none => simp only [System.serve, hslot]
  | some slot =>
      obtain ⟨hmem, -⟩ := System.slot?_eq_some hslot
      cases hdevice : d.system.device? slot.device with
      | none => simp only [System.serve, hslot, hdevice]
      | some device =>
          have hq := (hd.sound _ device hdevice).raised_serve slot.driver q
          obtain ⟨s, hs, -⟩ := System.serve_of_quiet hslot (hd.idle slot hmem) hdevice hq
          rw [hs, hs]

/-- A call to a watchdog. -/
theorem attains_serve (hd : InOrder d) (hpowered : d.powered = true)
    (hp : allowed d.powered) (i : Instance) (q : Request) :
    Attains allowed d (d.system.serve h ⟨d.system.current, i⟩ q).2 := by
  rw [hd.serve_eq_quiet]
  exact attains_of_step (.request i q) (if_pos hpowered) hp

theorem attains_onExpired (hpowered : d.powered = true) (hp : allowed d.powered)
    (i : Instance) (callback : κ) :
    Attains allowed d (d.system.onExpired ⟨d.system.current, i⟩ callback).2 :=
  attains_of_step (.onExpired i callback) (if_pos hpowered) hp

theorem attains_build (hp : allowed d.powered) (hon : allowed true)
    {pairs : List (UInt8 × Nat)} (hdistinct : (pairs.map (·.2)).Nodup) :
    Attains allowed d (d.system.build pairs).2 := by
  refine ⟨d.step (.build pairs), Reaches.step d _, ?_, ?_⟩
  all_goals
    simp only [step, if_pos hdistinct]
    split
    · next hbuild => simp [hbuild, hon]
    · next hbuild => simp [hbuild, hp]

/-! ## Every run -/

/-- Wherever a run leads: the driver of a peripheral that runs is running, and its
watchdog says so and reports the period that the registers hold. A refresh succeeds and
all of that period is left; only on a task watchdog it may fail, with `internal`, and
only where an injected fault is due. -/
theorem counting_is_reported_and_fed {sims : List Sim} {d : Deployment κ}
    (hd : Reaches (fresh sims) d) {i : Instance} {slot : Slot} {device : Device}
    (hslot : d.system.slot? ⟨d.system.current, i⟩ = some slot)
    (hdevice : d.system.device? slot.device = some device)
    (hrunning : device.isRunning = true) :
    let w : Watchdog := ⟨d.system.current, i⟩
    slot.driver.state = .running ∧
      (∃ info, d.system.info w = .ok info ∧ info.running = true ∧
        device.heldMs? = some info.timeoutMs) ∧
      ∀ h : Handler κ,
        (d.system.serve h w .refresh).1 = .ok () ∧
            (∃ period, device.heldPeriod? = some period ∧
              (d.system.serve h w .refresh).2.remaining? slot.device = some period) ∨
          (d.system.serve h w .refresh).1 = .error .internal ∧
            ∃ p e, device = .twdt p ∧ p.takeFailure.1 = some e := by
  intro w
  have h : InOrder d := hd.inOrder (inOrder_fresh sims)
  obtain ⟨hmem, -⟩ := System.slot?_eq_some hslot
  have hidle := h.idle slot hmem
  have hsound := h.sound _ device hdevice
  have hbooks := h.books slot hmem device hdevice
  obtain ⟨hstate, hms⟩ := hbooks.of_running hsound hrunning
  refine ⟨hstate, ⟨device.info slot.driver, ?_, hrunning, hms⟩, fun handler => ?_⟩
  · simp only [System.info, w, hslot, hdevice, hidle, Bool.false_eq_true, if_false]
  · obtain ⟨hq, hend⟩ := hbooks.refresh hsound hrunning
    obtain ⟨s, hserve, hserved⟩ := System.serve_of_quiet hslot hidle hdevice hq
    have hafter : s.remaining? slot.device =
        (device.serve .refresh slot.driver).device.remaining? := by
      rw [System.remaining?, hserved.devices, if_pos rfl, hdevice]
      rfl
    rw [hserve, hafter]
    exact hend

/-- A task watchdog, started for five seconds, that a new registry takes over with a
fault due: it runs, its driver knows for how long, and the fault is what the refresh
meets. -/
theorem counting_after_takeover_with_fault_due :
    let i : Instance := ⟨2, by decide⟩
    let moves : List (Move Empty) :=
      [.build [(2, 0)], .request i (.init { timeoutMs := 5000 }), .request i .start,
        .elapse 0 ⟨3000000000⟩, .build [(2, 0)], .poke 0 (.failAfter 0 ⟨7⟩)]
    let d := (fresh [.twdt] : Deployment Empty).run moves
    ∃ slot device, d.system.slot? ⟨d.system.current, i⟩ = some slot ∧
      d.system.device? slot.device = some device ∧ device.isRunning = true ∧
      slot.driver.state = .running ∧ device.heldMs? = some 5000 ∧
      (d.system.serve quiet ⟨d.system.current, i⟩ .refresh).1 = .error .internal := by
  intro i moves d
  have hslot : d.system.slot? ⟨d.system.current, i⟩ =
      some { id := i, device := 0, driver :=
        { state := .running, timeoutMs := 5000, line := some ⟨2, i⟩ } } := by decide
  have hdevice : d.system.device? 0 = some (.twdt
      { timeoutMs := some 5000, triggerPanic := true, subscribed := true
        countdown := ⟨⟨5000000000⟩, ⟨2000000000⟩⟩, failure := some ⟨7⟩ }) := by decide
  obtain ⟨hstate, -, hfed⟩ :=
    counting_is_reported_and_fed ⟨moves, rfl⟩ hslot hdevice rfl
  refine ⟨_, _, hslot, hdevice, rfl, hstate, rfl, ?_⟩
  rcases hfed quiet with ⟨hok, -⟩ | ⟨herror, -⟩
  · exact absurd hok (by decide)
  · exact herror

end TwoTierWatchdog.Deployment
