import TwoTierWatchdog.Proofs.Screening

/-!
# What switches a counter

A counter is switched on by a start and off by a stop. Both read the bit back, so their
success is a reading and not a promise: over hardware that ignores a write, or that says
it did what it did not, they fail, and the books are as they were. To switch on what is on,
or off what is off, takes no call at all.

To configure a counter is not to switch it, with one exception. The driver of an RTL872x
takes from its own books that the counter is live, and turns it off and on around the new
divider. The counter may have been stopped by the reset of the chip since.
-/

namespace TwoTierWatchdog

/-- How a start ends, given what the books were, what the bit reads and what the books
are now. -/
inductive Driver.Started (before : Driver) (result : Except Error Unit) (on : Bool)
    (after : Driver) : Prop
  | on (ok : result = .ok ()) (reads : on = true) (entered : after.state = .running)
  /-- There is nothing configured to start. -/
  | unready (fresh : before.state = .uninitialized) (refused : result = .error .invalidState)
      (kept : after = before)
  | failed (past : before.state ≠ .uninitialized) (internal : result = .error .internal)
      (kept : after = before)

/-- How a stop ends, where there is one. -/
inductive Driver.Stopped (before : Driver) (result : Except Error Unit) (on : Bool)
    (after : Driver) : Prop
  | off (ok : result = .ok ()) (reads : on = false) (entered : after.state ≠ .running)
  | failed (internal : result = .error .internal) (kept : after = before)

/-! ## The nRF52840 -/

namespace Nrf52

variable {π : Type} [Interface π] {r : Rig π Command}

theorem not_stoppable (hardware : π) :
    (profile hardware).capabilities.contains .stoppable = false := by
  unfold profile
  cases Interface.vectorAvailable hardware <;> rfl

abbrev Started (r : Rig π Command) (s : Served π Command) : Prop :=
  r.driver.Started s.1 (Interface.isRunning s.2.hardware) s.2.driver

theorem started_launch (hs : r.driver.state ≠ .uninitialized) : Started r (launch r) := by
  cases launch_ways r with
  | starts reads eq => exact eq ▸ .on rfl reads rfl
  | fails _ eq => exact eq ▸ .failed hs rfl rfl

theorem started_start (r : Rig π Command) : Started r (start r) := by
  cases start_ways r with
  | unready fresh eq => exact eq ▸ .unready fresh rfl rfl
  | runs live reads eq => exact eq ▸ .on rfl reads live
  | launches past _ eq => exact eq ▸ started_launch past

theorem running_refresh (hπ : Oneway π) (r : Rig π Command) :
    Interface.isRunning (refresh r).2.hardware = Interface.isRunning r.hardware := by
  unfold refresh
  split
  · exact running_write hπ (c := .feed reloadChannel) nofun r
  · rfl

end Nrf52

/-! ## The RTL872x -/

namespace Rtl872x

theorem stoppable : profile.capabilities.contains .stoppable = true := by
  decide

section

variable {π : Type} [Interface π] {r : Rig π Command}

abbrev Started (r : Rig π Command) (s : Served π Command) : Prop :=
  r.driver.Started s.1 (Interface.isEnabled s.2.hardware) s.2.driver

abbrev Stopped (r : Rig π Command) (s : Served π Command) : Prop :=
  r.driver.Stopped s.1 (Interface.isEnabled s.2.hardware) s.2.driver

theorem started_launch (hs : r.driver.state ≠ .uninitialized) : Started r (launch r) := by
  cases launch_ways r with
  | starts reads eq => exact eq ▸ .on rfl reads rfl
  | fails _ eq => exact eq ▸ .failed hs rfl rfl

theorem started_start (r : Rig π Command) : Started r (start r) := by
  cases start_ways r with
  | unready fresh eq => exact eq ▸ .unready fresh rfl rfl
  | runs live reads eq => exact eq ▸ .on rfl reads live
  | launches past _ eq => exact eq ▸ started_launch past

/-- Once the bit reads off, a stop can only succeed. -/
theorem stopped_settle {r' : Rig π Command} (hreads : Interface.isEnabled r'.hardware = false) :
    Stopped r (settle r') := by
  unfold settle
  split
  · exact .off rfl hreads nofun
  · next hs => exact .off rfl hreads hs

theorem stopped_stop (r : Rig π Command) : Stopped r (stop r) := by
  unfold stop
  split
  · cases confirm_ways false (write (.setEnabled false) r) _ with
    | agrees reads eq => exact eq ▸ stopped_settle reads
    | differs _ eq => exact eq ▸ .failed rfl rfl
  · next hreads => exact stopped_settle (Bool.eq_false_iff.mpr hreads)

theorem stop_of_off (hreads : Interface.isEnabled r.hardware = false) : stop r = settle r :=
  if_neg (Bool.eq_false_iff.mp hreads)

end

variable {r : Rig Peripheral Command}

theorem enabled_refresh (r : Rig Peripheral Command) :
    (refresh r).2.hardware.enabled = r.hardware.enabled := by
  unfold refresh
  split <;> rfl

end Rtl872x

/-! ## The task watchdog -/

namespace Twdt

theorem stoppable : profile.capabilities.contains .stoppable = true := by
  decide

variable {π : Type} [Interface π] {r : Rig π Command}

abbrev Started (r : Rig π Command) (s : Served π Command) : Prop :=
  r.driver.Started s.1 (Interface.isSubscribed s.2.hardware) s.2.driver

abbrev Stopped (r : Rig π Command) (s : Served π Command) : Prop :=
  r.driver.Stopped s.1 (Interface.isSubscribed s.2.hardware) s.2.driver

theorem started_launched {r' : Rig π Command} (hs : r.driver.state ≠ .uninitialized)
    (hd : r'.driver = r.driver) : Started r (launched r') := by
  cases launched_ways r' with
  | starts reads eq => exact eq ▸ .on rfl reads rfl
  | fails _ eq => exact eq ▸ .failed hs rfl hd

theorem started_launch (hs : r.driver.state ≠ .uninitialized) : Started r (launch r) := by
  unfold launch
  split
  · exact started_launched hs rfl
  · cases write_ways "subscribe" .subscribe r launched with
    | succeeds _ eq => exact eq ▸ started_launched hs rfl
    | fails _ eq => exact eq ▸ .failed hs rfl rfl

theorem started_start (r : Rig π Command) : Started r (start r) := by
  cases start_ways r with
  | unready fresh eq => exact eq ▸ .unready fresh rfl rfl
  | runs live reads eq => exact eq ▸ .on rfl reads live
  | launches past _ eq => exact eq ▸ started_launch past

theorem stopped_settle {r' : Rig π Command}
    (hreads : Interface.isSubscribed r'.hardware = false) : Stopped r (settle r') := by
  unfold settle
  split
  · exact .off rfl hreads nofun
  · next hs => exact .off rfl hreads hs

theorem stopped_confirm {r' : Rig π Command} (hd : r'.driver = r.driver) :
    Stopped r (confirm false r' fun r => settle (r.note .info "wdt(twdt): stopped")) := by
  cases confirm_ways false r' _ with
  | agrees reads eq => exact eq ▸ stopped_settle reads
  | differs _ eq => exact eq ▸ .failed rfl hd

theorem stopped_stop (r : Rig π Command) : Stopped r (stop r) := by
  unfold stop
  split
  · cases write_ways "unsubscribe" .unsubscribe r _ with
    | succeeds _ eq => exact eq ▸ stopped_confirm rfl
    | fails _ eq => exact eq ▸ .failed rfl rfl
  · next hreads => exact stopped_settle (Bool.eq_false_iff.mpr hreads)

theorem stop_of_off (hreads : Interface.isSubscribed r.hardware = false) :
    stop r = settle r :=
  if_neg (Bool.eq_false_iff.mp hreads)

theorem subscribed_refresh (hπ : Loyal π) (r : Rig π Command) :
    Interface.isSubscribed (refresh r).2.hardware = Interface.isSubscribed r.hardware := by
  unfold refresh
  split
  · exact subscribed_write hπ _ .reset ⟨nofun, nofun⟩ rfl fun _ h => h
  · rfl

end Twdt

/-! ## Any device -/

namespace Device

variable {device : Device} {driver : Driver}

/-- The device belongs to a family whose counters can be stopped. -/
abbrev Stoppable (device : Device) : Prop :=
  device.profile.capabilities.contains .stoppable = true

theorem started_start (device : Device) (driver : Driver) :
    let begun := device.serve .start driver
    driver.Started begun.result begun.device.isRunning begun.driver := by
  cases device with
  | nrf52 p => exact Nrf52.started_start { driver, hardware := p }
  | eager p => exact Nrf52.started_start { driver, hardware := p }
  | rtl872x p => exact Rtl872x.started_start { driver, hardware := p }
  | twdt p => exact Twdt.started_start { driver, hardware := p }
  | unfaithful p => exact Twdt.started_start { driver, hardware := p }

theorem start_of_uninitialized (hs : driver.state = .uninitialized) (device : Device) :
    device.serve .start driver = ⟨.error .invalidState, driver, device, [], [], []⟩ := by
  cases device <;>
    simp only [serve, Nrf52.serve, Nrf52.start, Rtl872x.serve, Rtl872x.start, Twdt.serve,
      Twdt.start, hs, Rig.fail, served, List.map_nil]

theorem stopped_stop (hstop : device.Stoppable) (driver : Driver) :
    let ended := device.serve .stop driver
    driver.Stopped ended.result ended.device.isRunning ended.driver := by
  cases device with
  | nrf52 p => exact absurd ((Nrf52.not_stoppable p).symm.trans hstop) nofun
  | eager p => exact absurd ((Nrf52.not_stoppable p).symm.trans hstop) nofun
  | rtl872x p => exact Rtl872x.stopped_stop { driver, hardware := p }
  | twdt p => exact Twdt.stopped_stop { driver, hardware := p }
  | unfaithful p => exact Twdt.stopped_stop { driver, hardware := p }

/-- To stop what does not run is to enter that into the books at most. -/
theorem stop_of_off (hoff : device.isRunning = false) (driver : Driver) :
    let ended := device.serve .stop driver
    ended.device = device ∧ ended.calls = [] ∧
      (device.Stoppable → ended.result = .ok ()) := by
  cases device with
  | nrf52 p | eager p => exact ⟨rfl, rfl, fun h => if_pos h⟩
  | rtl872x p =>
      have hstop := Rtl872x.stop_of_off (r := { driver, hardware := p }) hoff
      simp only [serve, Rtl872x.serve, hstop, Rtl872x.settle]
      split <;> exact ⟨rfl, rfl, fun _ => rfl⟩
  | twdt p =>
      have hstop := Twdt.stop_of_off (r := { driver, hardware := p }) hoff
      simp only [serve, Twdt.serve, hstop, Twdt.settle]
      split <;> exact ⟨rfl, rfl, fun _ => rfl⟩
  | unfaithful p =>
      have hstop := Twdt.stop_of_off (r := { driver, hardware := p }) hoff
      simp only [serve, Twdt.serve, hstop, Twdt.settle]
      split <;> exact ⟨rfl, rfl, fun _ => rfl⟩

/-- The device is as a request asks for, which succeeds without a call. -/
structure AsAsked (device : Device) (q : Request) (driver : Driver) : Prop where
  ok : (device.serve q driver).result = .ok ()
  kept : (device.serve q driver).device = device
  calls : (device.serve q driver).calls = []

theorem asAsked_start (hs : driver.state = .running) (hon : device.isRunning = true) :
    device.AsAsked .start driver := by
  have hnothing := start_of_running hs hon
  exact ⟨by rw [hnothing], by rw [hnothing], by rw [hnothing]⟩

theorem asAsked_stop (hstop : device.Stoppable) (hoff : device.isRunning = false)
    (driver : Driver) : device.AsAsked .stop driver := by
  obtain ⟨hkept, hcalls, hok⟩ := stop_of_off hoff driver
  exact ⟨hok hstop, hkept, hcalls⟩

theorem stop_of_not_stoppable (hstop : ¬ device.Stoppable) (driver : Driver) :
    device.serve .stop driver = ⟨.error .notSupported, driver, device, [], [], []⟩ := by
  have hrequire : device.profile.capabilities.require .stoppable = .error .notSupported :=
    if_neg hstop
  cases device with
  | nrf52 p | eager p => exact congrArg (Served.mk · driver _ [] [] []) hrequire
  | rtl872x => exact absurd Rtl872x.stoppable hstop
  | twdt | unfaithful => exact absurd Twdt.stoppable hstop

/-- A feed does not switch a counter on or off. -/
theorem running_refresh (device : Device) (driver : Driver) :
    (device.serve .refresh driver).device.isRunning = device.isRunning := by
  cases device with
  | nrf52 p => exact Nrf52.running_refresh Nrf52.oneway_peripheral { driver, hardware := p }
  | eager p => exact Nrf52.running_refresh Nrf52.oneway_eager { driver, hardware := p }
  | rtl872x p => exact Rtl872x.enabled_refresh { driver, hardware := p }
  | twdt p => exact Twdt.subscribed_refresh Twdt.loyal_peripheral { driver, hardware := p }
  | unfaithful p =>
      exact Twdt.subscribed_refresh Twdt.loyal_unfaithful { driver, hardware := p }

/-- What turns a counter on is a start, or a configuration that takes it for one that
runs. -/
theorem switched_on {q : Request} (hoff : device.isRunning = false)
    (hon : (device.serve q driver).device.isRunning = true) :
    q = .start ∨ ∃ c, q.config? driver = some c ∧ device.Astray driver c := by
  have hinit : ∀ c, (device.serve (.init c) driver).device.isRunning = true →
      device.Astray driver c := fun c hon => by
    by_contra hnot
    exact nomatch (((running_init_iff device driver c).mpr hnot).trans hoff).symm.trans hon
  cases q with
  | start => exact .inl rfl
  | init c => exact .inr ⟨c, rfl, hinit c hon⟩
  | setTimeout timeout =>
      rw [serve_of_config? (c := driver.withTimeout timeout) rfl] at hon
      exact .inr ⟨_, rfl, hinit _ hon⟩
  | stop =>
      rw [(stop_of_off hoff driver).1, hoff] at hon
      cases hon
  | refresh =>
      rw [running_refresh, hoff] at hon
      cases hon

end Device

/-! ## A watchdog in its registry -/

namespace System

variable {κ : Type} {s : System κ} {w : Watchdog} {slot : Slot} {device : Device}

theorem Exchanged.reads {s' : System κ} {driver : Driver} {device' : Device} {on : Bool}
    (h : s.Exchanged w slot driver device' s') (hk : s.device? slot.device = some device)
    (hreads : device'.isRunning = on) : s'.running? slot.device = some on := by
  rw [running?_of_some (h.device? hk), hreads]

/-- The same request once more, where the first left nothing to do. -/
theorem answered_again (hslot : s.slot? w = some slot) (hidle : slot.busy = false)
    (hk : s.device? slot.device = some device) {q : Request} (hq : q ≠ .refresh)
    (h : Handler κ)
    (hnow : (device.serve q slot.driver).device.AsAsked q (device.serve q slot.driver).driver) :
    ((s.serve h w q).2.serve h w q).1 = .ok () ∧
      ((s.serve h w q).2.serve h w q).2.devices = (s.serve h w q).2.devices := by
  obtain ⟨-, hex⟩ := answered hslot hidle hk hq h
  have hk' := hex.device? hk
  obtain ⟨hanswer, -⟩ := answered hex.slot rfl hk' hq h
  exact ⟨hanswer.trans hnow.ok, devices_serve hex.slot rfl hk' hnow.kept hnow.calls
    (Device.raised_serve _ fun hr => absurd hr hq) h⟩

/-- In any state, over any hardware, also such as ignores what it is told or lies about it:
a start succeeds only if the counter reads running, a stop only if it reads off, and the
books say so then. If one fails, the hardware is to blame and the books are as they were,
but for a start of what was never configured, which reaches no hardware. The second time
either succeeds without a call, and a countdown goes on from where it is. What cannot be
stopped is not told to. -/
theorem switching_is_read_back (hslot : s.slot? w = some slot) (hidle : slot.busy = false)
    (hk : s.device? slot.device = some device) (h : Handler κ) :
    let begun := s.serve h w .start
    let ended := s.serve h w .stop
    (begun.1 = .ok () →
      begun.2.running? slot.device = some true ∧
        (∃ after, begun.2.slot? w = some after ∧ after.driver.state = .running) ∧
        (begun.2.serve h w .start).1 = .ok () ∧
        (begun.2.serve h w .start).2.devices = begun.2.devices) ∧
      (slot.driver.state = .uninitialized →
        begun.1 = .error .invalidState ∧ begun.2.devices = s.devices) ∧
      (∀ e, begun.1 = .error e →
        (slot.driver.state ≠ .uninitialized → e = .internal) ∧
          begun.2.slot? w = some slot) ∧
      (device.Stoppable →
        (ended.1 = .ok () →
          ended.2.running? slot.device = some false ∧
            (∃ after, ended.2.slot? w = some after ∧ after.driver.state ≠ .running) ∧
            (ended.2.serve h w .stop).1 = .ok () ∧
            (ended.2.serve h w .stop).2.devices = ended.2.devices) ∧
          ∀ e, ended.1 = .error e → e = .internal ∧ ended.2.slot? w = some slot) ∧
      (¬ device.Stoppable →
        ended.1 = .error .notSupported ∧ ended.2.devices = s.devices) := by
  dsimp only
  obtain ⟨hbegun, ht⟩ := answered hslot hidle hk (q := .start) nofun h
  obtain ⟨hended, hu⟩ := answered hslot hidle hk (q := .stop) nofun h
  have hstarts := Device.started_start device slot.driver
  rw [hbegun, hended]
  refine ⟨fun hok => ?_, fun hnew => ?_, fun e he => ?_, fun hstop => ?_, fun hstop => ?_⟩
  · cases hstarts with
    | on _ hreads hentered =>
        obtain ⟨hagain, hkept⟩ :=
          answered_again hslot hidle hk (q := .start) nofun h (Device.asAsked_start hentered hreads)
        exact ⟨ht.reads hk hreads, ⟨_, ht.slot, hentered⟩, hagain, hkept⟩
    | unready _ hrefused => exact nomatch hok.symm.trans hrefused
    | failed _ hinternal => exact nomatch hok.symm.trans hinternal
  · have hnothing := Device.start_of_uninitialized hnew device
    exact ⟨by rw [hnothing], devices_serve hslot hidle hk (by rw [hnothing])
      (by rw [hnothing]) (by rw [hnothing]) h⟩
  · rw [ht.slot_of_idle hidle]
    cases hstarts with
    | on hok => exact nomatch he.symm.trans hok
    | unready hnew _ hsame => exact ⟨fun hpast => absurd hnew hpast, by rw [hsame]⟩
    | failed _ hinternal hsame =>
        exact ⟨fun _ => Except.error.inj (he.symm.trans hinternal), by rw [hsame]⟩
  · cases Device.stopped_stop hstop slot.driver with
    | off hok hreads hentered =>
        refine ⟨fun _ => ?_, fun e he => nomatch he.symm.trans hok⟩
        have hnow := Device.asAsked_stop (by rwa [Device.Stoppable, Device.profile_serve]) hreads
          (device.serve .stop slot.driver).driver
        obtain ⟨hagain, hkept⟩ := answered_again hslot hidle hk (q := .stop) nofun h hnow
        exact ⟨hu.reads hk hreads, ⟨_, hu.slot, hentered⟩, hagain, hkept⟩
    | failed hinternal hsame =>
        rw [hu.slot_of_idle hidle, hsame]
        exact ⟨fun hok => absurd (hok.symm.trans hinternal) nofun,
          fun e he => ⟨Except.error.inj (he.symm.trans hinternal), rfl⟩⟩
  · have hnothing := Device.stop_of_not_stoppable hstop slot.driver
    exact ⟨by rw [hnothing], devices_serve hslot hidle hk (by rw [hnothing])
      (by rw [hnothing]) (by rw [hnothing]) h⟩

/-- An RTL872x that is started twice, beside a task watchdog that says it was subscribed and
was not. -/
theorem lying_start_fails :
    let i : Instance := ⟨0, by decide⟩
    let j : Instance := ⟨1, by decide⟩
    let s := (Scenario.runAll (Scenario.handler 3)
      [.build [(0, 0), (1, 1)], .request 0 (.init { timeoutMs := 1000 }),
        .request 1 (.init { timeoutMs := 1000 })] #[]
      (Scenario.initial [.rtl872x {}, .unfaithful {}])).2
    let begun := s.serve (Scenario.handler 3) ⟨1, i⟩ .start
    let lied := s.serve (Scenario.handler 3) ⟨1, j⟩ .start
    begun.2.running? 0 = some true ∧
      (begun.2.serve (Scenario.handler 3) ⟨1, i⟩ .start).2.devices = begun.2.devices ∧
      lied.1 = .error .internal ∧ lied.2.slot? ⟨1, j⟩ = s.slot? ⟨1, j⟩ := by
  intro i j s begun lied
  let driver (i : Instance) : Driver :=
    { state := .configured, config := some { timeoutMs := 1000 }, timeoutMs := 1000
      line := some ⟨1, i⟩ }
  have hslot : s.slot? ⟨1, i⟩ = some { id := i, device := 0, driver := driver i } := by
    decide +kernel
  have hslot' : s.slot? ⟨1, j⟩ = some { id := j, device := 1, driver := driver j } := by
    decide +kernel
  have hbegun : begun.1 = .ok () := by decide +kernel
  have hlied : lied.1 = .error .internal := by decide +kernel
  have hmounted : (s.device? 0).isSome = true ∧ (s.device? 1).isSome = true := by
    decide +kernel
  -- what the run leads to is not to be computed again
  clear_value s
  obtain ⟨device, hk⟩ := Option.isSome_iff_exists.mp hmounted.1
  obtain ⟨device', hk'⟩ := Option.isSome_iff_exists.mp hmounted.2
  obtain ⟨hstarted, -⟩ := switching_is_read_back hslot rfl hk (Scenario.handler 3)
  obtain ⟨-, -, hfailed, -⟩ := switching_is_read_back hslot' rfl hk' (Scenario.handler 3)
  obtain ⟨hreads, -, -, hnothing⟩ := hstarted hbegun
  exact ⟨hreads, hnothing, hlied, (hfailed _ hlied).2.trans hslot'.symm⟩

/-- In any state: to configure a watchdog, whether that succeeds or fails, leaves every
counter running that ran and no other, except for an RTL872x that was stopped behind the
back of its driver. And it takes that, or a start, to turn a counter on. -/
theorem configuring_keeps_counters (hslot : s.slot? w = some slot) (hidle : slot.busy = false)
    (hk : s.device? slot.device = some device) (h : Handler κ) :
    (∀ q c, q.config? slot.driver = some c →
      ((∀ k, (s.serve h w q).2.running? k = s.running? k) ↔
        ¬ device.Astray slot.driver c)) ∧
      ∀ q, device.isRunning = false →
        (device.serve q slot.driver).device.isRunning = true →
        q = .start ∨ ∃ c, q.config? slot.driver = some c ∧ device.Astray slot.driver c := by
  refine ⟨fun q c hq => ?_, fun q => Device.switched_on⟩
  have hne : q ≠ .refresh := by rintro rfl; cases hq
  obtain ⟨-, ht⟩ := answered hslot hidle hk hne h
  rw [← Device.running_init_iff, ← Device.serve_of_config? hq]
  have hown := ht.reads hk rfl
  constructor
  · intro hall
    have hsame := hall slot.device
    rw [hown, running?_of_some hk] at hsame
    exact Option.some.inj hsame
  · intro hsame k
    by_cases hown' : slot.device = k
    · rw [← hown', hown, running?_of_some hk, hsame]
    · rw [running?, ht.devices, if_neg hown', running?]

/-- A counter that runs goes on when its divider is locked and the configuration fails. -/
theorem counter_outlives_failed_configuration :
    let i : Instance := ⟨0, by decide⟩
    let s := ((Deployment.fresh [.rtl872x, .twdt] : Deployment Empty).run
      [.build [(0, 0), (1, 1)], .request i (.init { timeoutMs := 1000 }), .request i .start,
        .poke 0 (.lockDivider true)]).system
    let configured := s.serve Deployment.quiet ⟨1, i⟩ (.init { timeoutMs := 2000 })
    configured.1 = .error .internal ∧ s.running? 0 = some true ∧
      ∀ k, configured.2.running? k = s.running? k := by
  intro i s configured
  let driver : Driver :=
    { state := .running, config := some { timeoutMs := 1000 }, timeoutMs := 1000
      line := some ⟨1, i⟩ }
  have hslot : s.slot? ⟨1, i⟩ = some { id := i, device := 0, driver } := by decide +kernel
  have hfailed : configured.1 = .error .internal := by decide +kernel
  have hon : s.running? 0 = some true := by decide +kernel
  obtain ⟨device, hk, hruns⟩ := Option.map_eq_some_iff.mp hon
  obtain ⟨hkept, -⟩ := configuring_keeps_counters hslot rfl hk Deployment.quiet
  refine ⟨hfailed, hon, (hkept _ _ rfl).mpr fun hastray => ?_⟩
  cases device with
  | rtl872x p => exact nomatch hastray.1.symm.trans hruns
  | _ => exact hastray

/-- The reset of the chip stops an RTL872x, and its driver takes no notice. To configure it
anew, for the very period it had, turns it on. -/
theorem configuring_turns_stopped_counter_on :
    let i : Instance := ⟨0, by decide⟩
    let s := ((Deployment.fresh [.rtl872x] : Deployment Empty).run
      [.build [(0, 0)], .request i (.init { timeoutMs := 1000 }), .request i .start,
        .elapse 0 ⟨1000000000⟩, .strike 0]).system
    let configured := s.serve Deployment.quiet ⟨1, i⟩ (.init { timeoutMs := 1000 })
    configured.1 = .ok () ∧ s.running? 0 = some false ∧
      configured.2.running? 0 = some true := by
  decide +kernel

end System

end TwoTierWatchdog
