import TwoTierWatchdog.Proofs.Bringup
import TwoTierWatchdog.Proofs.Sparing
import TwoTierWatchdog.Scenario.Run

/-!
# Calls from inside a call

Callbacks are scripts of calls to watchdogs of one registry. A script may be run in the
midst of a request that another script makes, and so on to any depth. The watchdogs whose
requests are under way are then on a stack, and being busy is nothing else than being on
it: a call on a watchdog of the stack is refused, and every other is taken as usual.
-/

namespace TwoTierWatchdog

/-! ## Scripts -/

namespace Scenario

mutual

/-- A call of a watchdog. The callbacks that it stores make such calls, too. -/
def Step.facade : Step → Bool
  | .request .. | .initEncoded .. | .inquire .. => true
  | .onExpired _ _ script => facadeAll script
  | _ => false

def facadeAll : List Step → Bool
  | [] => true
  | step :: rest => step.facade && facadeAll rest

end

/-- A callback that makes calls to watchdogs and nothing else. -/
def Callback.Facade (callback : Callback) : Prop :=
  facadeAll callback.script = true

variable {s : World} {h : Handler Callback}

/-- A step for a watchdog of the current registry goes on with that, or changes nothing. -/
theorem withWatchdog_cases (id : UInt8) (s : World) (next : Watchdog → Outcome) :
    (∃ e, withWatchdog id s next = (.failed e, s)) ∨
      ∃ i, withWatchdog id s next = next ⟨s.current, i⟩ := by
  unfold withWatchdog
  split
  · exact .inl ⟨_, rfl⟩
  · split
    · exact .inl ⟨_, rfl⟩
    · next w hw =>
        rw [System.watchdog_eq_ok hw]
        exact .inr ⟨_, rfl⟩

theorem minds_step (ho : s.Ordered) (hs : s.Stored Callback.Facade)
    (hh : System.Decent Callback.Facade h) {step : Step} (hf : step.facade = true) :
    System.Minds Callback.Facade s (step.run h s).2 := by
  cases step with
  | request id q =>
      rw [Step.run]
      rcases withWatchdog_cases id s fun w => request h w q s with ⟨e, hw⟩ | ⟨i, hw⟩
      · rw [hw]
        exact .refl s
      · rw [hw]
        exact System.minds_serve ho hs hh i q
  | initEncoded id bytes =>
      rw [Step.run]
      rcases withWatchdog_cases id s _ with ⟨e, hw⟩ | ⟨i, hw⟩
      · rw [hw]
        exact .refl s
      · rw [hw]
        split
        · exact .refl s
        · exact System.minds_serve ho hs hh i _
  | inquire id what =>
      rw [Step.run]
      rcases withWatchdog_cases id s _ with ⟨e, hw⟩ | ⟨i, hw⟩
      · rw [hw]
        exact .refl s
      · rw [hw]
        exact .refl s
  | onExpired id tag script =>
      rw [Step.run]
      rcases withWatchdog_cases id s _ with ⟨e, hw⟩ | ⟨i, hw⟩
      · rw [hw]
        exact .refl s
      · rw [hw]
        rw [Step.facade] at hf
        exact System.minds_onExpired (show Callback.Facade ⟨tag, script⟩ from hf) s i
  | _ => simp [Step.facade] at hf

theorem minds_runAll {script : List Step} (hf : facadeAll script = true)
    (hh : System.Decent Callback.Facade h) (answers : Array Answer) (ho : s.Ordered)
    (hs : s.Stored Callback.Facade) :
    System.Minds Callback.Facade s (runAll h script answers s).2 := by
  induction script generalizing s answers with
  | nil =>
      rw [runAll]
      exact .refl s
  | cons step rest ih =>
      rw [facadeAll, Bool.and_eq_true] at hf
      have hstep := minds_step ho hs hh hf.1
      rw [runAll]
      exact hstep.trans (ih hf.2 _ (hstep.ordered ho) (hstep.stored hs))

/-- By induction on how deep callbacks may be nested. -/
theorem decent_handler (depth : Nat) : System.Decent Callback.Facade (handler depth) := by
  have hrecord : ∀ (s : World) (entry : Called Callback),
      System.Minds Callback.Facade s { s with called := s.called.push entry } := fun s _ =>
    .of_callbacks (.of_eq rfl (fun _ => rfl) (fun _ => rfl) fun _ _ _ _ => rfl) fun _ => rfl
  induction depth with
  | zero =>
      intro callback s hf ho hs
      rw [handler]
      exact hrecord s _
  | succ depth ih =>
      intro callback s hf ho hs
      rw [handler]
      exact (minds_runAll hf ih #[] ho hs).trans (hrecord _ _)

/-! ## The stack -/

/-- Where a call may come from: how deep callbacks may still be nested, the watchdogs
whose requests are under way, the last one first, and the system. Outside of any callback
nothing is under way. A callback is run in the midst of a request, and its calls, whatever
its script is, come one after the other. -/
inductive Underway (depth : Nat) (s : World) : Nat → List Instance → World → Prop
  | outside : Underway depth s depth [] s
  | call {n : Nat} {stack : List Instance} {t : World} {step : Step}
      (sofar : Underway depth s n stack t) (facade : step.facade = true) :
      Underway depth s n stack (step.run (handler n) t).2
  | interrupt {n : Nat} {stack : List Instance} {t : World} {i : Instance} {slot : Slot}
      {device : Device} {q : Request} {earlier later : List Interrupt.Line}
      {line : Interrupt.Line} {callback : Callback}
      (sofar : Underway depth s (n + 1) stack t) (seat : t.seat? i = some slot)
      (idle : slot.busy = false) (under : t.device? slot.device = some device)
      (raised : (device.serve q slot.driver).raised = earlier ++ line :: later)
      (stored : ((t.undertake ⟨t.current, i⟩ slot (device.serve q slot.driver)).deliver
        (handler (n + 1)) earlier).callback? line = some callback) :
      Underway depth s n (i :: stack)
        (((t.undertake ⟨t.current, i⟩ slot (device.serve q slot.driver)).deliver
          (handler (n + 1)) earlier).count line)

/-- What a script does is a series of calls. -/
theorem Underway.runAll {depth n : Nat} {stack : List Instance} {s t : World}
    (ht : Underway depth s n stack t) {script : List Step} (hf : facadeAll script = true)
    (answers : Array Answer) :
    Underway depth s n stack (Scenario.runAll (handler n) script answers t).2 := by
  induction script generalizing t answers with
  | nil =>
      rw [Scenario.runAll]
      exact ht
  | cons step rest ih =>
      rw [facadeAll, Bool.and_eq_true] at hf
      rw [Scenario.runAll]
      exact ih (ht.call hf.1) hf.2 _

/-- The busy watchdogs are those on the stack. -/
structure Standing (stack : List Instance) (t : World) : Prop where
  ordered : t.Ordered
  stored : t.Stored Callback.Facade
  busy : ∀ i slot, t.seat? i = some slot → (slot.busy = true ↔ i ∈ stack)

theorem Standing.minds {stack : List Instance} {t t' : World} (h : Standing stack t)
    (hm : System.Minds Callback.Facade t t') : Standing stack t' := by
  refine ⟨hm.ordered h.ordered, hm.stored h.stored, fun i slot hslot => ?_⟩
  obtain ⟨old, hold, -, hbusy⟩ := hm.seat hslot
  rw [← hbusy]
  exact h.busy i old hold

theorem Standing.undertake {stack : List Instance} {t : World} (h : Standing stack t)
    {i : Instance} {slot : Slot} {device : Device} (hslot : t.seat? i = some slot)
    (hidle : slot.busy = false) (hdevice : t.device? slot.device = some device)
    (served : Device.Served) :
    Standing (i :: stack) (t.undertake ⟨t.current, i⟩ slot served) := by
  obtain ⟨hordered, hseat, -⟩ := System.undertaken h.ordered hslot hidle served hdevice
  refine ⟨hordered, fun line callback hc => ?_, fun j other hj => ?_⟩
  · rw [System.callback?_undertake] at hc
    exact h.stored line callback hc
  · by_cases hji : j = i
    · subst hji
      obtain rfl := Option.some.inj (hseat.symm.trans hj)
      exact ⟨fun _ => List.mem_cons_self, fun _ => rfl⟩
    · rw [System.seat?_undertake, if_neg hji] at hj
      rw [List.mem_cons, or_iff_right hji]
      exact h.busy j other hj

/-- By induction on how a call came about. -/
theorem Underway.standing {depth n : Nat} {stack : List Instance} {s t : World}
    (ht : Underway depth s n stack t) (hs : Standing [] s) : Standing stack t := by
  induction ht with
  | outside => exact hs
  | call _ facade ih =>
      exact ih.minds (minds_step ih.ordered ih.stored (decent_handler _) facade)
  | @interrupt n stack t i slot device q earlier later line callback _ seat idle under _ _ ih =>
      have hbusy := ih.undertake seat idle under (device.serve q slot.driver)
      have hearlier := hbusy.minds
        (System.minds_deliver (decent_handler (n + 1)) hbusy.ordered hbusy.stored earlier)
      exact hearlier.minds (System.minds_count _ line)

/-- A call on a watchdog that is not busy is taken as any call is: requests are done on
its own device by its own driver, whatever comes in between, and questions answered. -/
structure Taken (h : Handler Callback) (i : Instance) (slot : Slot) (device : Device)
    (t : World) : Prop where
  request : ∀ q, (t.serve h ⟨t.current, i⟩ q).1 = (device.serve q slot.driver).result ∧
    t.Completed i slot (device.serve q slot.driver) (t.serve h ⟨t.current, i⟩ q).2
  info : t.info ⟨t.current, i⟩ = .ok (device.info slot.driver)
  writeInfo : ∀ buffer, t.writeInfo ⟨t.current, i⟩ buffer =
    (device.info slot.driver).encodeInto buffer
  started : t.started ⟨t.current, i⟩ = device.isRunning
  onExpired : ∀ callback, (t.onExpired ⟨t.current, i⟩ callback).1 = do
    device.profile.capabilities.require .interrupt
    if (t.callback? ⟨t.current, i⟩).isSome then throw .invalidState
  stores : ∀ callback t', t.onExpired ⟨t.current, i⟩ callback = (.ok (), t') →
    t'.callback? ⟨t.current, i⟩ = some callback

theorem Standing.taken {stack : List Instance} {t : World} (h : Standing stack t)
    {i : Instance} {slot : Slot} {device : Device} (hslot : t.seat? i = some slot)
    (hdevice : t.device? slot.device = some device) (hi : i ∉ stack) (n : Nat) :
    Taken (handler n) i slot device t := by
  have hidle : slot.busy = false :=
    Bool.eq_false_iff.mpr fun hbusy => hi ((h.busy i slot hslot).mp hbusy)
  have hfound : t.slot? ⟨t.current, i⟩ = some slot := hslot
  have hinfo : t.info ⟨t.current, i⟩ = .ok (device.info slot.driver) := by
    simp only [System.info, hfound, hidle, hdevice, Bool.false_eq_true, if_false]
  refine ⟨fun q => ?_, hinfo, fun buffer => ?_, ?_, fun callback => ?_, fun callback t' ht => ?_⟩
  · obtain ⟨hresult, hdone, -⟩ := System.completed_serve h.ordered hslot hidle h.stored
      (decent_handler n) hdevice q
    exact ⟨hresult, hdone⟩
  · rw [System.writeInfo, hinfo]
    rfl
  · rw [System.started, hinfo]
    rfl
  · exact System.onExpired_of_idle hfound hidle hdevice callback
  · rcases System.onExpired_cases t ⟨t.current, i⟩ callback with ⟨e, he⟩ | ⟨s', hs', hr⟩
    · cases he.symm.trans ht
    · obtain rfl := congrArg Prod.snd (hs'.symm.trans ht)
      rw [hr.callbacks, if_pos rfl]

/-- Whatever is under way: a call on a watchdog whose request is on the stack is refused
and changes nothing; a call on any other is taken as outside of all callbacks, and a
refresh of a running watchdog whose peripheral fires its line in the midst of it succeeds
and leaves driver and device as they were, ready for the next call; and no call changes
slot, device or callback of a watchdog on the stack. -/
theorem reentrant_calls_are_refused {depth n : Nat} {stack : List Instance} {s t : World}
    (hordered : s.Ordered) (hstored : s.Stored Callback.Facade)
    (hidle : ∀ i slot, s.seat? i = some slot → slot.busy = false)
    (ht : Underway depth s n stack t) :
    (∀ i slot device, t.seat? i = some slot → t.device? slot.device = some device →
      (i ∈ stack → System.Refused (handler n) ⟨t.current, i⟩ t) ∧
      (i ∉ stack → Taken (handler n) i slot device t ∧
        ∀ p, device = .eager p → slot.driver.state = .running →
          let refreshed := t.serve (handler n) ⟨t.current, i⟩ .refresh
          refreshed.1 = .ok () ∧ refreshed.2.seat? i = some slot ∧
            refreshed.2.device? slot.device = some device)) ∧
      ∀ step : Step, step.facade = true → ∀ i ∈ stack, ∀ slot, t.seat? i = some slot →
        let after := (step.run (handler n) t).2
        after.seat? i = some slot ∧ after.device? slot.device = t.device? slot.device ∧
          after.callback? ⟨t.current, i⟩ = t.callback? ⟨t.current, i⟩ := by
  have hstanding : Standing stack t := ht.standing
    ⟨hordered, hstored, fun i slot hslot => by simp [hidle i slot hslot]⟩
  refine ⟨fun i slot device hslot hdevice => ⟨fun hi => ?_, fun hi => ?_⟩,
    fun step hf i hi slot hslot => ?_⟩
  · exact System.refused_of_busy hslot ((hstanding.busy i slot hslot).mpr hi) (handler n)
  · have htaken := hstanding.taken hslot hdevice hi n
    refine ⟨htaken, fun p hp hrunning => ?_⟩
    have hbusy : slot.busy = false :=
      Bool.eq_false_iff.mpr fun hbusy => hi ((hstanding.busy i slot hslot).mp hbusy)
    obtain ⟨hresult, hseat, hafter⟩ := htaken.request .refresh
    subst hp
    have hfeed : (Device.eager p).serve .refresh slot.driver =
        Device.served .eager .nrf52 (Nrf52.write (.feed Nrf52.reloadChannel)
          { driver := slot.driver, hardware := p }).done :=
      congrArg (Device.served .eager .nrf52) (if_pos hrunning)
    rw [hfeed] at hresult hseat hafter
    exact ⟨hresult, by rw [hseat]; rw [← hbusy]; rfl, hafter⟩
  · exact (minds_step hstanding.ordered hstanding.stored (decent_handler n) hf).held i slot
      hslot ((hstanding.busy i slot hslot).mpr hi)

theorem stored_initial (devices : List Device) :
    (initial devices).Stored Callback.Facade := by
  intro line callback hc
  have hempty : ((initial devices).registry line.table).expiry = .empty := by
    show (Array.getD #[({} : Registry Callback)] line.table {}).expiry = _
    rw [Array.getD_eq_getD_getElem?]
    cases hr : #[({} : Registry Callback)][line.table]? with
    | none => rfl
    | some r =>
        obtain rfl := List.mem_singleton.mp (Array.mem_toList_iff.mpr (Array.mem_of_getElem? hr))
        rfl
  rw [System.callback?, hempty, Interrupt.Table.get_empty] at hc
  cases hc

/-- Two watchdogs that fire while they are fed. The callback of the first refreshes both,
and in the midst of that the callback of the second is run. -/
theorem two_eager_watchdogs_nested :
    let i : Instance := ⟨0, by decide⟩
    let j : Instance := ⟨1, by decide⟩
    let soft : Record.Config := { timeoutMs := 1000, hardReset := false }
    let s := ((initial [.eager {}, .eager {}]).build [(0, 0), (1, 1)]).2
    let t := (runAll (handler 3)
      [.request 0 (.init soft), .request 0 .start, .request 1 (.init soft), .request 1 .start,
        .onExpired 0 "first" [.request 0 .refresh, .request 1 .refresh],
        .onExpired 1 "second" [.request 0 .stop, .inquire 1 .started]] #[] s).2
    (t.serve (handler 3) ⟨t.current, i⟩ .refresh).1 = .ok () ∧
      ∃ t₁ t₂ slot device, Underway 3 s 2 [i] t₁ ∧ System.Refused (handler 2) ⟨t₁.current, i⟩ t₁ ∧
        Taken (handler 2) j slot device t₁ ∧ Underway 3 s 1 [j, i] t₂ ∧
        System.Refused (handler 1) ⟨t₂.current, i⟩ t₂ ∧
        System.Refused (handler 1) ⟨t₂.current, j⟩ t₂ := by
  intro i j soft s t
  have hbuild : (initial [.eager {}, .eager {}]).build [(0, 0), (1, 1)] = (.ok (), s) :=
    Prod.ext (by decide +kernel) rfl
  obtain ⟨hordered, hidle⟩ := System.ordered_build hbuild (by decide)
  have hstored : s.Stored Callback.Facade := fun line callback hc =>
    stored_initial _ line callback ((System.callback?_build hbuild line).symm.trans hc)
  have ht : Underway 3 s 3 [] t := Underway.outside.runAll (by decide) #[]
  let driver (i : Instance) : Driver :=
    { state := .running, config := some soft, timeoutMs := 1000, line := some ⟨1, i⟩ }
  let device (i : Instance) : Device :=
    .eager { crv := 32767, running := true, line := some ⟨1, i⟩ }
  have hti : t.seat? i = some { id := i, device := 0, driver := driver i } := by decide +kernel
  have htd : t.device? 0 = some (device i) := by decide +kernel
  have hrefresh := ((reentrant_calls_are_refused hordered hstored hidle ht).1 i _ _ hti htd).2
    (by simp)
  obtain ⟨first, hfirst⟩ := Option.isSome_iff_exists.mp (show (((t.undertake ⟨t.current, i⟩
      { id := i, device := 0, driver := driver i }
      ((device i).serve .refresh (driver i))).deliver (handler 3) []).callback?
        ⟨1, i⟩).isSome = true by decide +kernel)
  have hraised : ∀ i, ((device i).serve .refresh (driver i)).raised = [] ++ ⟨1, i⟩ :: [] :=
    fun _ => rfl
  have ht₁ := ht.interrupt hti rfl htd (hraised i) hfirst
  generalize hu₁ : System.count _ _ = t₁ at ht₁
  have ht₁i : t₁.seat? i = some { id := i, device := 0, driver := driver i, busy := true } := by
    rw [← hu₁]
    decide +kernel
  have ht₁j : t₁.seat? j = some { id := j, device := 1, driver := driver j } := by
    rw [← hu₁]
    decide +kernel
  have ht₁d : t₁.device? 0 = some (device i) ∧ t₁.device? 1 = some (device j) := by
    rw [← hu₁]
    decide +kernel
  have hcalls₁ := (reentrant_calls_are_refused hordered hstored hidle ht₁).1
  obtain ⟨second, hsecond⟩ := Option.isSome_iff_exists.mp (show (((t₁.undertake ⟨t₁.current, j⟩
      { id := j, device := 1, driver := driver j }
      ((device j).serve .refresh (driver j))).deliver (handler 2) []).callback?
        ⟨1, j⟩).isSome = true by rw [← hu₁]; decide +kernel)
  have ht₂ := ht₁.interrupt ht₁j rfl ht₁d.2 (hraised j) hsecond
  generalize hu₂ : System.count _ _ = t₂ at ht₂
  have ht₂i : t₂.seat? i = some { id := i, device := 0, driver := driver i, busy := true } ∧
      t₂.seat? j = some { id := j, device := 1, driver := driver j, busy := true } ∧
      t₂.device? 0 = some (device i) ∧ t₂.device? 1 = some (device j) := by
    rw [← hu₂, ← hu₁]
    decide +kernel
  have hcalls₂ := (reentrant_calls_are_refused hordered hstored hidle ht₂).1
  refine ⟨(hrefresh.2 _ rfl rfl).1, t₁, t₂, _, _, ht₁, (hcalls₁ i _ _ ht₁i ht₁d.1).1 (by simp),
    ((hcalls₁ j _ _ ht₁j ht₁d.2).2 (by decide)).1, ht₂, ?_, ?_⟩
  · exact (hcalls₂ i _ _ ht₂i.1 ht₂i.2.2.1).1 (by simp)
  · exact (hcalls₂ j _ _ ht₂i.2.1 ht₂i.2.2.2).1 (by simp)

end Scenario

end TwoTierWatchdog
