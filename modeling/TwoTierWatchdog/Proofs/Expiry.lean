import Mathlib.Data.List.Infix
import TwoTierWatchdog.Proofs.Arming
import TwoTierWatchdog.Proofs.System

/-!
# The first expiry

A watchdog over a new peripheral is configured for a length of time and started. From
then on time passes, and the watchdog is fed and started again, in any order. Until its
period has gone by since it was last fed nothing happens to it, and then it expires.

What makes the proof short is that nothing happens means nothing at all: every step up
to the expiry comes to the same whatever handles callbacks, and leaves the expiry
tables and the number of chip resets alone.
-/

namespace TwoTierWatchdog

/-! ## What is done -/

/-- What an application does with a watchdog that runs. -/
inductive Upkeep where
  | pass (time : Duration)
  | refresh
  | start
  deriving DecidableEq, Repr

namespace Upkeep

/-- The nanoseconds since the last refresh, or since the first start. -/
def since (t : Nat) : Upkeep → Nat
  | pass time => t + time.nanos
  | refresh => 0
  | start => t

/-- Never as long as a period without a refresh. -/
def Timely (period : Duration) (t : Nat) (acts : List Upkeep) : Prop :=
  ∀ done, done <+: acts → done.foldl since t < period.nanos

theorem Timely.lt {period : Duration} {t : Nat} {acts : List Upkeep}
    (h : Timely period t acts) : acts.foldl since t < period.nanos :=
  h acts List.prefix_rfl

theorem Timely.now {period : Duration} {t : Nat} {acts : List Upkeep}
    (h : Timely period t acts) : t < period.nanos :=
  h [] List.nil_prefix

theorem Timely.tail {period : Duration} {t : Nat} {a : Upkeep} {acts : List Upkeep}
    (h : Timely period t (a :: acts)) : Timely period (since t a) acts :=
  fun done hdone => h (a :: done) ((List.prefix_cons_inj a).mpr hdone)

end Upkeep

/-- The countdown of a period that began some nanoseconds ago. -/
def Countdown.after (period : Duration) (t : Nat) : Countdown where
  period
  remaining := ⟨period.nanos - t⟩

theorem Countdown.after_elapse (period time : Duration) (t : Nat) :
    (after period t).elapse time = after period (t + time.nanos) := by
  rw [elapse, after, after, Nat.sub_sub]

namespace System

variable {κ : Type} {s s' : System κ} {w : Watchdog} {k : Nat}

def act (h : Handler κ) (w : Watchdog) (k : Nat) (s : System κ) :
    Upkeep → Except Error Unit × System κ
  | .pass time => (.ok (), s.advance h k time)
  | .refresh => s.serve h w .refresh
  | .start => s.serve h w .start

/-- Does one thing after the other for as long as each succeeds. -/
def keep (h : Handler κ) (w : Watchdog) (k : Nat) :
    System κ → List Upkeep → Except Error Unit × System κ
  | s, [] => (.ok (), s)
  | s, a :: acts =>
    match s.act h w k a with
    | (.ok (), s) => keep h w k s acts
    | (.error e, s) => (.error e, s)

theorem keep_concat {h : Handler κ} {acts : List Upkeep}
    (hkeep : s.keep h w k acts = (.ok (), s')) (a : Upkeep) :
    s.keep h w k (acts ++ [a]) = s'.act h w k a := by
  induction acts generalizing s with
  | nil =>
      cases hkeep
      rw [List.nil_append, keep]
      split
      · next heq => rw [heq, keep]
      · next heq => rw [heq]
  | cons b acts ih =>
      rw [keep] at hkeep
      rw [List.cons_append, keep]
      split at hkeep
      · exact ih hkeep
      · cases hkeep

/-! ## What is not to happen -/

def resets? (s : System κ) (k : Nat) : Option Nat :=
  (s.device? k).map (·.resets)

/-- No expiry was counted and no callback was run. -/
structure Silent (s s' : System κ) : Prop where
  expiry : ∀ g, (s'.registry g).expiry = (s.registry g).expiry
  called : s'.called = s.called

/-- Nor was the chip reset. -/
structure Undisturbed (s s' : System κ) : Prop extends Silent s s' where
  resets : ∀ j, s'.resets? j = s.resets? j

/-- A line was counted once. No other was, no callback was stored or run, and the chip was
not reset. -/
structure Counted (line : Interrupt.Line) (s s' : System κ) : Prop where
  own : s'.expirations line = s.expirations line + 1
  others : ∀ other, other ≠ line → s'.expirations other = s.expirations other
  callbacks : ∀ other, s'.callback? other = s.callback? other
  called : s'.called = s.called
  resets : ∀ j, s'.resets? j = s.resets? j

theorem Undisturbed.refl (s : System κ) : s.Undisturbed s :=
  ⟨⟨fun _ => rfl, rfl⟩, fun _ => rfl⟩

theorem Undisturbed.trans {s'' : System κ} (h : s.Undisturbed s')
    (h' : s'.Undisturbed s'') : s.Undisturbed s'' where
  expiry g := (h'.expiry g).trans (h.expiry g)
  called := h'.called.trans h.called
  resets j := (h'.resets j).trans (h.resets j)

theorem Undisturbed.counted {line : Interrupt.Line} (h : s.Undisturbed s')
    (hmade : line.table < s'.registries.size) : s.Counted line (s'.count line) := by
  have expirations : ∀ other, s'.expirations other = s.expirations other := fun other => by
    rw [System.expirations, Registry.expirations, h.expiry]
    rfl
  refine ⟨?_, fun other hne => ?_, fun other => ?_, h.called, h.resets⟩
  · rw [expirations_count line hmade, expirations]
  · rw [expirations_count_of_ne hne.symm, expirations]
  · rw [callback?_count, callback?, h.expiry]
    rfl

/-- It is enough to look at the one device that is exchanged. -/
theorem Undisturbed.of_device {device device' : Device} (hsilent : s.Silent s')
    (hk : s.device? k = some device) (hk' : s'.device? k = some device')
    (hresets : device'.resets = device.resets)
    (hother : ∀ j, k ≠ j → s'.device? j = s.device? j) : s.Undisturbed s' where
  toSilent := hsilent
  resets j := by
    by_cases hj : k = j
    · subst hj
      simp only [resets?, hk, hk', Option.map_some, hresets]
    · simp only [resets?, hother j hj]

/-! ## Requests that succeed -/

theorem serve_of_obeys {slot : Slot} {device device' : Device} {driver' : Driver}
    {q : Request} (hslot : s.slot? w = some slot) (hidle : slot.busy = false)
    (hdevice : s.device? slot.device = some device)
    (h : Device.Obeys q slot.driver device driver' device') :
    ∃ s', (∀ h, s.serve h w q = (.ok (), s')) ∧
      s'.slot? w = some { slot with driver := driver', busy := false } ∧
      s'.device? slot.device = some device' ∧
      (device'.resets = device.resets → s.Undisturbed s') := by
  obtain ⟨s', hserve, hserved⟩ := serve_of_quiet hslot hidle hdevice h.quiet
  have hslot' := hserved.slot? hslot
  have hdevice' := hserved.devices slot.device
  rw [h.newDriver] at hslot'
  rw [if_pos rfl, hdevice, Option.map_some, h.newDevice] at hdevice'
  refine ⟨s', ?_, hslot', hdevice', fun hresets => ?_⟩
  · intro handler
    rw [hserve, h.result]
  · refine .of_device ⟨hserved.expiry, hserved.called⟩ hdevice hdevice' hresets ?_
    intro j hj
    rw [hserved.devices, if_neg hj]

/-! ## A watchdog that runs -/

/-- A watchdog that is not busy and runs, over a device that counts, with a given line for
the interrupt. -/
structure TickingOver (s : System κ) (w : Watchdog) (k : Nat) (hardReset : Bool)
    (line : Interrupt.Line) (c : Countdown) : Prop where
  slot : ∃ slot, s.slot? w = some slot ∧ slot.device = k ∧ slot.busy = false ∧
    slot.driver.state = .running
  device : ∃ device n, s.device? k = some device ∧ device.Armed hardReset line c n

/-- The line is the watchdog's own. -/
abbrev Ticking (s : System κ) (w : Watchdog) (k : Nat) (hardReset : Bool)
    (c : Countdown) : Prop :=
  s.TickingOver w k hardReset ⟨w.registry, w.id⟩ c

variable {hardReset : Bool} {line : Interrupt.Line} {c : Countdown}

theorem TickingOver.remaining (h : s.TickingOver w k hardReset line c) :
    s.remaining? k = some c.remaining := by
  obtain ⟨device, n, hdevice, harmed⟩ := h.device
  rw [remaining?, hdevice, Option.bind_some, harmed.remaining]

theorem TickingOver.elapse (h : s.TickingOver w k hardReset line c) (time : Duration) :
    s.Undisturbed (s.modifyDevice k (·.elapse time)) ∧
      (s.modifyDevice k (·.elapse time)).TickingOver w k hardReset line (c.elapse time) := by
  obtain ⟨device, n, hdevice, harmed⟩ := h.device
  have harmed' := harmed.elapse time
  have hdevice' : (s.modifyDevice k (·.elapse time)).device? k =
      some (device.elapse time) := by
    rw [device?_modifyDevice, if_pos rfl, hdevice, Option.map_some]
  refine ⟨.of_device ⟨fun _ => rfl, rfl⟩ hdevice hdevice' ?_ ?_, ?_⟩
  · rw [harmed.resets_eq, harmed'.resets_eq]
  · intro j hj
    rw [device?_modifyDevice, if_neg hj]
  · exact ⟨h.slot, _, n, hdevice', harmed'⟩

theorem TickingOver.advance_of_lt (h : s.TickingOver w k hardReset line c)
    {time : Duration} (hlt : time.nanos < c.remaining.nanos) (handler : Handler κ) :
    s.advance handler k time = s.modifyDevice k (·.elapse time) :=
  System.advance_of_lt h.remaining hlt handler

/-- A longer one is cut at the expiry. -/
theorem TickingOver.advance_of_le (h : s.TickingOver w k hardReset line c)
    {time : Duration} (hpos : 0 < c.remaining.nanos) (hle : c.remaining.nanos ≤ time.nanos)
    (handler : Handler κ) :
    s.advance handler k time =
      ((s.modifyDevice k (·.elapse c.remaining)).expire handler k).advance handler k
        ⟨time.nanos - c.remaining.nanos⟩ :=
  System.advance_of_le h.remaining hpos hle handler

/-! ## Upkeep -/

variable {period : Duration} {t : Nat}

/-- A request that a running driver and an armed device get through disturbs nothing. -/
theorem TickingOver.serve {c' : Countdown} {q : Request}
    (h : s.TickingOver w k hardReset line c)
    (hobeys : ∀ {device driver n}, device.Armed hardReset line c n →
      driver.state = .running → ∃ device', Device.Obeys q driver device driver device' ∧
        device'.Armed hardReset line c' n) :
    ∃ s', (∀ h, s.serve h w q = (.ok (), s')) ∧ s.Undisturbed s' ∧
      s'.TickingOver w k hardReset line c' := by
  obtain ⟨slot, hslot, hk, hidle, hstate⟩ := h.slot
  obtain ⟨device, n, hdevice, harmed⟩ := h.device
  subst hk
  obtain ⟨device', hobeyed, harmed'⟩ := hobeys harmed hstate
  obtain ⟨s', hserve, hslot', hdevice', hquiet⟩ :=
    serve_of_obeys hslot hidle hdevice hobeyed
  refine ⟨s', hserve, hquiet ?_, ?_⟩
  · rw [harmed.resets_eq, harmed'.resets_eq]
  · exact ⟨⟨_, hslot', rfl, rfl, hstate⟩, device', n, hdevice', harmed'⟩

/-- One step: short of the period nothing is disturbed, and the counter is right. -/
theorem Ticking.act (h : s.Ticking w k hardReset (.after period t)) (a : Upkeep)
    (hlt : a.since t < period.nanos) :
    ∃ s', (∀ h, s.act h w k a = (.ok (), s')) ∧ s.Undisturbed s' ∧
      s'.Ticking w k hardReset (.after period (a.since t)) := by
  cases a with
  | pass time =>
      have hshort : time.nanos < (Countdown.after period t).remaining.nanos :=
        Nat.lt_sub_of_add_lt (Nat.add_comm t _ ▸ hlt)
      obtain ⟨hquiet, hticking⟩ := h.elapse time
      rw [Countdown.after_elapse] at hticking
      refine ⟨_, fun handler => ?_, hquiet, hticking⟩
      rw [System.act, h.advance_of_lt hshort]
  | refresh => exact h.serve fun harmed hstate => harmed.refresh hstate
  | start => exact h.serve fun harmed hstate => ⟨_, harmed.start hstate, harmed⟩

/-- A whole run, by induction on it: each step finds the watchdog as the step lemma
needs it, with the time that has gone by until then. -/
theorem Ticking.keep {acts : List Upkeep} (h : s.Ticking w k hardReset (.after period t))
    (htimely : Upkeep.Timely period t acts) :
    ∃ s', (∀ h, s.keep h w k acts = (.ok (), s')) ∧ s.Undisturbed s' ∧
      s'.Ticking w k hardReset (.after period (acts.foldl Upkeep.since t)) := by
  induction acts generalizing s t with
  | nil => exact ⟨s, fun _ => rfl, .refl s, h⟩
  | cons a acts ih =>
      obtain ⟨s₁, hact, hquiet, hticking⟩ := h.act a htimely.tail.now
      obtain ⟨s₂, hkeep, hquiet', hticking'⟩ := ih hticking htimely.tail
      refine ⟨s₂, fun handler => ?_, hquiet.trans hquiet', hticking'⟩
      rw [System.keep, hact]
      exact hkeep handler

/-! ## The expiry -/

section

variable {device : Device} {left : Duration} (hk : s.device? k = some device)
  (hleft : device.remaining? = some left)

include hk hleft

/-- An expiry that fires nothing but resets the chip. -/
theorem expire_of_no_line (hline : device.strike.2.1 = none)
    (hresets : device.strike.1.recover.1.resets = device.resets + 1) :
    ∃ s', (∀ h, s.expire h k = s') ∧ s.Silent s' ∧
      s'.resets? k = (s.resets? k).map (· + 1) ∧
      s'.device? k = some device.strike.1.recover.1 := by
  have hrecover := recover_of_some (device?_struck hk)
  have hdevice : ((s.struck k device).recover k).device? k =
      some device.strike.1.recover.1 := by
    rw [hrecover, device?_append, device?_putDevice, if_pos rfl, device?_struck hk,
      Option.map_some]
  refine ⟨(s.struck k device).recover k, fun h => ?_, ?_, ?_, hdevice⟩
  · rw [expire_of_running hk hleft, hline]
  · rw [hrecover]
    exact ⟨fun _ => rfl, rfl⟩
  · rw [resets?, resets?, hdevice, hk, Option.map_some, hresets]
    rfl

/-- An expiry that fires a line and does not reset the chip before. -/
theorem expire_of_line {line : Interrupt.Line} (hline : device.strike.2.1 = some line)
    (hresets : device.strike.1.resets = device.resets)
    (hmade : line.table < s.registries.size) :
    s.Counted line ((s.struck k device).count line) ∧
      ∀ h, s.expire h k = ((s.callback? line).elim ((s.struck k device).count line)
        fun callback => h callback ((s.struck k device).count line)).recover k := by
  have hsilent : s.Silent (s.struck k device) := ⟨fun _ => rfl, rfl⟩
  have hquiet : s.Undisturbed (s.struck k device) := by
    refine .of_device hsilent hk (device?_struck hk) hresets fun j hj => ?_
    rw [struck, device?_append, device?_putDevice, if_neg hj]
  refine ⟨hquiet.counted hmade, fun h => ?_⟩
  rw [expire_of_running hk hleft, hline]
  dsimp only
  rw [fire_eq]
  rfl

end

/-- What an expiry is: a reset of the chip that no callback has a part in, or else an
interrupt that is counted once, before the callback that is stored for it runs. -/
def Expires (hardReset : Bool) (w : Watchdog) (k : Nat) (s : System κ) : Prop :=
  match hardReset with
  | true => ∃ s', (∀ h, s.expire h k = s') ∧ s.Silent s' ∧
      s'.resets? k = (s.resets? k).map (· + 1)
  | false => ∃ s', s.Counted ⟨w.registry, w.id⟩ s' ∧
      ∀ h, s.expire h k = ((s.callback? ⟨w.registry, w.id⟩).elim s' fun callback =>
        h callback s').recover k

theorem Ticking.expires (h : s.Ticking w k hardReset c) : s.Expires hardReset w k := by
  obtain ⟨device, n, hdevice, harmed⟩ := h.device
  obtain ⟨slot, hslot, -⟩ := h.slot
  cases hardReset with
  | true =>
      obtain ⟨hline, hresets⟩ := harmed.strike_of_hard
      obtain ⟨s', hexpire, hsilent, hreset, -⟩ :=
        expire_of_no_line hdevice harmed.remaining hline (by rw [hresets, harmed.resets_eq])
      exact ⟨s', hexpire, hsilent, hreset⟩
  | false =>
      obtain ⟨hline, hresets⟩ := harmed.strike_of_soft
      exact ⟨_, expire_of_line hdevice harmed.remaining hline
        (hresets.trans harmed.resets_eq.symm) (lt_size_of_slot? hslot)⟩

/-! ## From a new peripheral on -/

/-- A watchdog of some registry over a new peripheral. -/
structure Fresh (s : System κ) (w : Watchdog) (k : Nat) (sim : Sim) : Prop where
  slot : s.slot? w = some
    { id := w.id, device := k, driver := { line := some ⟨w.registry, w.id⟩ } }
  device : s.device? k = some sim.fresh

variable {sim : Sim} {d : Duration}

theorem Fresh.init_of_not (hs : s.Fresh w k sim)
    (h : d.nanos = 0 ∨ sim.fresh.profile.maxTimeoutMs < d.millisCeil)
    (handler : Handler κ) :
    (s.serve handler w (.init (.ofTimeout d hardReset))).1 = .error .invalidArgument := by
  have hinit : (sim.fresh.serve (.init (.ofTimeout d hardReset))
      { line := some ⟨w.registry, w.id⟩ }).result = .error .invalidArgument :=
    Device.init_of_not sim h
  rw [serve, hs.slot]
  dsimp only
  rw [if_neg nofun, hs.device]
  exact hinit

theorem Fresh.ticking_of_start (hs : s.Fresh w k sim)
    (hmode : hardReset = true ∨
      sim.fresh.profile.capabilities.contains .interrupt = true)
    (h : ¬ (d.nanos = 0 ∨ sim.fresh.profile.maxTimeoutMs < d.millisCeil)) :
    ∃ s₁ s₂ period, (∀ h, s.serve h w (.init (.ofTimeout d hardReset)) = (.ok (), s₁)) ∧
      (∀ h, s₁.serve h w .start = (.ok (), s₂)) ∧ d.nanos ≤ period.nanos ∧
      s₂.Ticking w k hardReset (.after period 0) := by
  obtain ⟨driver, device, driver', device', hinit, hstart, hstate, period, hle, harmed⟩ :=
    Device.armed_of_start (Device.ready_fresh sim _) hmode h
  obtain ⟨s₁, hserve, hslot, hdevice, -⟩ := serve_of_obeys hs.slot rfl hs.device hinit
  obtain ⟨s₂, hserve', hslot', hdevice', -⟩ := serve_of_obeys hslot rfl hdevice hstart
  exact ⟨s₁, s₂, period, hserve, hserve', hle,
    ⟨_, hslot', rfl, rfl, hstate⟩, device', _, hdevice', harmed⟩

/-- A watchdog over a new peripheral, of any family and in any mode that the hardware
has. `init` refuses no time at all and what is longer, in whole milliseconds, than the
hardware can count. Any other length of time `d` is counted, and the period is at least
`d`. While it is not over since the last refresh, or since the first start, every
refresh and every start succeeds, the chip is not reset, no expiry is counted, no
callback is run, and the counter has left what is left of the period. When it is over,
however much time passes at once, the watchdog expires at that moment. -/
theorem expires_exactly_at_period (hs : s.Fresh w k sim) (d : Duration)
    (hmode : hardReset = true ∨
      sim.fresh.profile.capabilities.contains .interrupt = true) :
    (d.nanos = 0 ∨ sim.fresh.profile.maxTimeoutMs < d.millisCeil →
      ∀ h, (s.serve h w (.init (.ofTimeout d hardReset))).1 = .error .invalidArgument) ∧
    (¬ (d.nanos = 0 ∨ sim.fresh.profile.maxTimeoutMs < d.millisCeil) →
      ∃ s₁ s₂ period,
        (∀ h, s.serve h w (.init (.ofTimeout d hardReset)) = (.ok (), s₁)) ∧
        (∀ h, s₁.serve h w .start = (.ok (), s₂)) ∧
        s₂.remaining? k = some period ∧ d.nanos ≤ period.nanos ∧
        ∀ acts, Upkeep.Timely period 0 acts →
          (∃ s₃, (∀ h, s₂.keep h w k acts = (.ok (), s₃)) ∧ s₂.Undisturbed s₃ ∧
            s₃.remaining? k = some ⟨period.nanos - acts.foldl Upkeep.since 0⟩) ∧
          ∀ time : Duration, period.nanos ≤ acts.foldl Upkeep.since 0 + time.nanos →
            ∃ s₃, s₂.Undisturbed s₃ ∧ s₃.remaining? k = some .zero ∧
              s₃.Expires hardReset w k ∧
              ∀ h, s₂.keep h w k (acts ++ [.pass time]) =
                (.ok (), (s₃.expire h k).advance h k
                  ⟨acts.foldl Upkeep.since 0 + time.nanos - period.nanos⟩)) := by
  refine ⟨hs.init_of_not, fun hd => ?_⟩
  obtain ⟨s₁, s₂, period, hinit, hstart, hle, hticking⟩ := hs.ticking_of_start hmode hd
  refine ⟨s₁, s₂, period, hinit, hstart, hticking.remaining, hle, fun acts htimely => ?_⟩
  obtain ⟨s₃, hkeep, hquiet, hticking'⟩ := hticking.keep htimely
  refine ⟨⟨s₃, hkeep, hquiet, hticking'.remaining⟩, fun time hover => ?_⟩
  have hlt := htimely.lt
  -- of the run only the time that has gone by matters from here on
  generalize acts.foldl Upkeep.since 0 = t at hticking' hlt hover
  have hleft : (Countdown.after period t).remaining.nanos = period.nanos - t := rfl
  obtain ⟨hquiet', hzero⟩ := hticking'.elapse (Countdown.after period t).remaining
  refine ⟨_, hquiet.trans hquiet', ?_, Ticking.expires hzero, fun handler => ?_⟩
  · rw [hzero.remaining]
    exact congrArg (fun n => some (Duration.mk n)) (Nat.sub_self _)
  · rw [keep_concat (hkeep handler), System.act,
      hticking'.advance_of_le (by omega) (by omega), hleft]
    have hrest : time.nanos - (period.nanos - t) = t + time.nanos - period.nanos := by
      omega
    rw [hrest]

/-- A little more than a millisecond is counted as two, in ticks of the low-frequency
clock. Feeding the peripheral one nanosecond before those are over keeps it silent, and
the last nanosecond after the feed is the one that interrupts. -/
theorem expires_at_last_nanosecond_after_feed :
    let s := ((Deployment.fresh [.nrf52 false] : Deployment Empty).run
      [.build [(2, 0)]]).system
    let w : Watchdog := ⟨1, ⟨2, by decide⟩⟩
    let acts : List Upkeep :=
      [.pass ⟨2000000⟩, .start, .pass ⟨14159⟩, .refresh, .pass ⟨2014159⟩]
    s.Fresh w 0 (.nrf52 false) ∧ Upkeep.Timely ⟨2014160⟩ 0 acts ∧
      ∃ s₁ s₂, (∀ h, s.serve h w (.init (.ofTimeout ⟨1000001⟩ false)) = (.ok (), s₁)) ∧
        (∀ h, s₁.serve h w .start = (.ok (), s₂)) ∧
        s₂.remaining? 0 = some ⟨2014160⟩ ∧
        (∃ s₃, (∀ h, s₂.keep h w 0 acts = (.ok (), s₃)) ∧ s₂.Undisturbed s₃ ∧
          s₃.remaining? 0 = some ⟨1⟩) ∧
        ∃ s₃, s₂.Undisturbed s₃ ∧ s₃.Expires false w 0 ∧
          ∀ h, s₂.keep h w 0 (acts ++ [.pass ⟨1⟩]) =
            (.ok (), (s₃.expire h 0).advance h 0 ⟨0⟩) := by
  intro s w acts
  have hs : s.Fresh w 0 (.nrf52 false) := ⟨by decide, by decide⟩
  have htimely : Upkeep.Timely ⟨2014160⟩ 0 acts := by
    intro done hdone
    have hall : ∀ done ∈ acts.inits, done.foldl Upkeep.since 0 < 2014160 := by decide
    exact hall done ((List.mem_inits done acts).mpr hdone)
  obtain ⟨s₁, s₂, period, hinit, hstart, hperiod, -, hruns⟩ :=
    (expires_exactly_at_period hs ⟨1000001⟩ (.inr (by decide))).2 (by decide)
  have hnanos : ((s.serve (fun _ s => s) w (.init (.ofTimeout ⟨1000001⟩ false))).2.serve
      (fun _ s => s) w .start).2.remaining? 0 = some ⟨2014160⟩ := by decide
  rw [hinit, hstart] at hnanos
  obtain rfl := Option.some.inj (hperiod.symm.trans hnanos)
  obtain ⟨hkeep, hexpiry⟩ := hruns acts htimely
  have hsum : acts.foldl Upkeep.since 0 = 2014159 := by decide
  rw [hsum] at hkeep hexpiry
  obtain ⟨s₃, hquiet, -, hexpires, hlast⟩ := hexpiry ⟨1⟩ (by decide)
  exact ⟨hs, htimely, s₁, s₂, hinit, hstart, hnanos, hkeep, s₃, hquiet, hexpires, hlast⟩

end System

end TwoTierWatchdog
