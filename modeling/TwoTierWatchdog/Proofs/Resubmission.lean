import TwoTierWatchdog.Proofs.BothTiers

/-!
# Asking again

Nothing retries a boot that failed, so whoever wants both tiers asks for them again once
the fault is over. A boot that failed left a driver that does not run over a device that
is off; what the second one needs beyond that is that the driver may be configured a
second time. The nRF52840 may not: what is to be asked for again is the start alone.
-/

namespace TwoTierWatchdog

open Supervisor

/-- A fault of a simulated peripheral. -/
inductive Fault where
  | startIgnored
  | enableStuck
  | dividerLocked
  /-- Some calls succeed and the next one fails. -/
  | callFails (after : Nat) (error : Twdt.VendorError)
  deriving DecidableEq, Repr

namespace Fault

def inject : Fault → Device.Stimulus
  | startIgnored => .ignoreStart true
  | enableStuck => .stickEnable true
  | dividerLocked => .lockDivider true
  | callFails after error => .failAfter after error

/-- What puts an end to a fault. A call that failed is over by itself. -/
def mend? : Fault → Option Device.Stimulus
  | startIgnored => some (.ignoreStart false)
  | enableStuck => some (.stickEnable false)
  | dividerLocked => some (.lockDivider false)
  | callFails .. => none

end Fault

/-! ## A device with a fault -/

namespace Device

/-- The fault is over. -/
def mended (fault : Fault) (device : Device) : Device :=
  match fault.mend? with
  | none => device
  | some what => ((device.poke what).map (·.2)).getD device

/-- The device has no fault but for this one. -/
def OnlyFault : Fault → Device → Prop
  | .startIgnored, nrf52 _ | .callFails .., twdt _ => True
  | .enableStuck, rtl872x p => p.dividerLocked = false
  | .dividerLocked, rtl872x p => p.enableStuck = false
  | _, _ => False

variable {device : Device} {driver : Driver} {fault : Fault} {c : Record.Config}
  {f : Failure}

theorem onlyFault_serve (h : device.OnlyFault fault) (driver : Driver) (q : Request) :
    (device.serve q driver).device.OnlyFault fault := by
  cases device with
  | rtl872x p =>
      have ht := Rtl872x.traced_serve { driver, hardware := p } q
      cases fault with
      | enableStuck => exact (Rtl872x.locked_of_traced ht).trans h
      | dividerLocked =>
          exact ht.keeps (P := fun p => p.enableStuck = false)
            (fun c p hp => (Rtl872x.stuck_write c p).trans hp) (show p.enableStuck = false from h)
      | _ => exact h.elim
  | nrf52 p | twdt p => cases fault <;> exact h
  | eager p | unfaithful p => cases fault <;> exact h.elim

theorem profile_mended (fault : Fault) (device : Device) :
    (device.mended fault).profile = device.profile := by
  cases fault <;> cases device <;> rfl

/-- No call is to fail. -/
def Spent : Device → Prop
  | twdt p => p.failure = none
  | _ => True

theorem spent_init (hidle : driver.state ≠ .running)
    (h : (device.serve (.init c) driver).result = .error .internal) :
    (device.serve (.init c) driver).device.Spent := by
  cases device with
  | twdt p => exact Twdt.spent_init (r := { driver, hardware := p }) hidle c h
  | _ => exact trivial

theorem spent_start (hb : device.Books true driver) (hoff : device.isRunning = false)
    (h : (device.serve .start driver).result = .error .internal) :
    (device.serve .start driver).device.Spent := by
  cases device with
  | twdt p => exact Twdt.spent_start (r := { driver, hardware := p }) hb hoff h
  | _ => exact trivial

/-- A device is off and its driver does not run. -/
structure Off (line : Interrupt.Line) (driver : Driver) (device : Device) : Prop where
  sound : device.Sound
  books : device.Books true driver
  line : driver.line = some line
  idle : driver.state ≠ .running
  off : device.isRunning = false

theorem Off.init {line : Interrupt.Line} (h : Off line driver device) (c : Record.Config) :
    Off line (device.serve (.init c) driver).driver
      (device.serve (.init c) driver).device := by
  obtain ⟨hsound, hbooks⟩ := settled_serve h.sound h.books (.init c)
  refine ⟨hsound, hbooks, (line_serve device driver _).trans h.line,
    state_init device c h.idle, ?_⟩
  rcases running_init device driver c with hkept | ⟨-, hon, -⟩
  · exact hkept.trans h.off
  · -- a counter that is on has a driver that knows it
    exact absurd (hbooks.of_running hsound hon).1 (state_init device c h.idle)

theorem Off.start {line : Interrupt.Line} (h : Off line driver device)
    (hfailed : (device.serve .start driver).result ≠ .ok ()) :
    Off line (device.serve .start driver).driver (device.serve .start driver).device := by
  obtain ⟨hsound, hbooks⟩ := settled_serve h.sound h.books .start
  obtain ⟨-, hbit, hdriver⟩ := (begun_start device driver).resolve_left fun hok =>
    hfailed hok.1
  exact ⟨hsound, hbooks, (line_serve device driver _).trans h.line,
    by rw [hdriver]; exact h.idle, hbit.trans h.off⟩

/-- A device that is off and could not be brought up is off, its fault apart. -/
theorem Off.failed {line : Interrupt.Line} (h : Off line driver device)
    (hr : (device.bringUp c driver).result = .error f) (hcause : f.cause = .internal) :
    Off line (device.bringUp c driver).driver (device.bringUp c driver).device ∧
      (device.bringUp c driver).device.Spent := by
  have hinit := h.init c
  have hspent : (device.serve (.init c) driver).result = .error .internal →
      (device.serve (.init c) driver).device.Spent := spent_init h.idle
  unfold bringUp at hr ⊢
  dsimp only at hr ⊢
  generalize device.serve (.init c) driver = configured at hinit hspent hr
  cases hconfigured : configured.result with
  | ok =>
      rw [hconfigured] at hr
      dsimp only [begin] at hr ⊢
      cases hbegun : (configured.device.serve .start configured.driver).result with
      | ok => rw [hbegun] at hr; cases hr
      | error e =>
          rw [hbegun] at hr
          obtain rfl : ⟨.start, e⟩ = f := Except.error.inj hr
          exact ⟨hinit.start (by rw [hbegun]; exact nofun),
            spent_start hinit.books hinit.off (hbegun.trans (congrArg _ hcause))⟩
  | error e =>
      rw [hconfigured] at hr
      have hoff : ¬ (e = .invalidState ∧ device.isRunning = true) := fun hkeep =>
        nomatch h.off.symm.trans hkeep.2
      dsimp only at hr ⊢
      rw [if_neg hoff] at hr ⊢
      obtain rfl : ⟨.init, e⟩ = f := Except.error.inj hr
      exact ⟨hinit, hspent (hconfigured.trans (congrArg _ hcause))⟩

/-- What every request keeps is kept by bringing up. -/
theorem bringUp_keeps {P : Device → Prop}
    (hP : ∀ {device} driver q, P device → P (device.serve q driver).device)
    (h : P device) (c : Record.Config) (driver : Driver) :
    P (device.bringUp c driver).device := by
  have hinit := hP driver (.init c) h
  unfold bringUp
  dsimp only
  split
  · exact hP _ .start hinit
  · split
    · exact hP _ .start hinit
    · exact hinit

/-- Once the fault is over a device that could not be brought up may be brought up, if
only its driver may be configured a second time. -/
theorem Off.ready {line : Interrupt.Line} (h : Off line driver device)
    (hspent : device.Spent) (hfault : device.OnlyFault fault) (hne : fault ≠ .startIgnored) :
    (device.mended fault).Ready line driver := by
  cases device with
  | rtl872x p =>
      cases fault with
      | enableStuck => exact ⟨h.line, h.idle, h.off, rfl, hfault⟩
      | dividerLocked => exact ⟨h.line, h.idle, h.off, hfault, rfl⟩
      | _ => exact hfault.elim
  | twdt p =>
      cases fault with
      | callFails => exact ⟨h.line, h.idle, h.off, hspent⟩
      | _ => exact hfault.elim
  | nrf52 p =>
      cases fault with
      | startIgnored => exact absurd rfl hne
      | _ => exact hfault.elim
  | eager p | unfaithful p => exact h.sound.elim

theorem Off.ready_of_failed {line : Interrupt.Line} (h : Off line driver device)
    (honly : device.OnlyFault fault) (hr : (device.bringUp c driver).result = .error f)
    (hcause : f.cause = .internal) (hne : fault ≠ .startIgnored) :
    ((device.bringUp c driver).device.mended fault).Ready line
        (device.bringUp c driver).driver ∧
      ((device.bringUp c driver).device.mended fault).profile = device.profile := by
  obtain ⟨hoff, hspent⟩ := h.failed hr hcause
  obtain ⟨honly', hprofile⟩ := bringUp_keeps
    (P := fun device' => device'.OnlyFault fault ∧ device'.profile = device.profile)
    (fun driver q h => ⟨onlyFault_serve h.1 driver q, (profile_serve _ driver q).trans h.2⟩)
    ⟨honly, rfl⟩ c driver
  exact ⟨hoff.ready hspent honly' hne, (profile_mended fault _).trans hprofile⟩

/-! ## The nRF52840 -/

/-- What an nRF52840 that ignores the start is left with: configured, and a fault away
from being started. -/
theorem bringUp_of_ignored {p : Nrf52.Peripheral} {line : Interrupt.Line} {d : Duration}
    {hardReset : Bool} (hl : driver.line = some line) (hs : driver.state = .uninitialized)
    (hoff : p.running = false) (hnone : p.line = none) (hi : p.startIgnored = true)
    (hmode : hardReset = true ∨ p.vectorClaimed = false) (h0 : d.nanos ≠ 0)
    (hmax : d.millisCeil ≤ Nrf52.maxTimeoutMs) :
    ∃ driver' p', (nrf52 p).bringUp (.ofTimeout d hardReset) driver =
        ⟨.error ⟨.start, .internal⟩, driver', nrf52 p'⟩ ∧
      Nrf52.Primed hardReset line d p.resets driver' p' := by
  obtain ⟨r, hinit, -, hheed, hprimed⟩ :=
    Nrf52.primed_of_init hl hs hoff hnone hmode h0 hmax
  obtain ⟨r', hstart, hdriver, hhardware⟩ := hprimed.start_of_ignored (hheed.trans hi)
  refine ⟨r.driver, r.hardware, ?_, hprimed⟩
  have hinit' : (nrf52 p).serve (.init (.ofTimeout d hardReset)) driver =
      served nrf52 .nrf52 (.ok (), r) := congrArg (served nrf52 .nrf52) hinit
  have hstart' : (nrf52 r.hardware).serve .start r.driver =
      served nrf52 .nrf52 (.error .internal, r') := congrArg (served nrf52 .nrf52) hstart
  have hbegin : (nrf52 r.hardware).begin r.driver =
      ⟨.error ⟨.start, .internal⟩, r.driver, nrf52 r.hardware⟩ := by
    rw [begin, hstart']
    show BroughtUp.mk _ r'.driver (nrf52 r'.hardware) = _
    rw [hdriver, hhardware]
    rfl
  rw [bringUp_of_ok (by rw [hinit']; rfl), hinit']
  exact hbegin

/-- It is not configured again. -/
theorem bringUp_of_configured {p : Nrf52.Peripheral} {d : Duration} {hardReset : Bool}
    (hs : driver.state = .configured) (hoff : p.running = false) (h0 : d.nanos ≠ 0) :
    (nrf52 p).bringUp (.ofTimeout d hardReset) driver =
      ⟨.error ⟨.init, .invalidState⟩, driver, nrf52 p⟩ := by
  obtain ⟨r, hinit, hdriver, hhardware⟩ : ∃ r,
      Nrf52.init (.ofTimeout d hardReset) { driver, hardware := p } =
        (.error .invalidState, r) ∧ r.driver = driver ∧ r.hardware = p :=
    Nrf52.init_of_configured hs h0
  have hinit' : (nrf52 p).serve (.init (.ofTimeout d hardReset)) driver =
      served nrf52 .nrf52 (.error .invalidState, r) := congrArg (served nrf52 .nrf52) hinit
  have hoff' : ¬ (Error.invalidState = .invalidState ∧ (nrf52 p).isRunning = true) :=
    fun h => nomatch hoff.symm.trans h.2
  rw [bringUp_of_error (by rw [hinit']; rfl) hoff', hinit']
  show BroughtUp.mk _ r.driver (nrf52 r.hardware) = _
  rw [hdriver, hhardware]

end Device

/-! ## A system -/

namespace System

variable {κ : Type} {s s' : System κ} {w : Watchdog} {k : Nat} {fault : Fault}
  {c : Settings}

/-- A watchdog of a registry that was just built, over a new peripheral with one fault. -/
structure Flawed (s : System κ) (w : Watchdog) (k : Nat) (sim : Sim) (fault : Fault) :
    Prop where
  slot : s.slot? w = some
    { id := w.id, device := k, driver := { line := some ⟨w.registry, w.id⟩ } }
  device : ∃ device, sim.fresh.poke fault.inject = some (.done, device) ∧
    s.device? k = some device

/-- Puts an end to a fault. -/
def mend (h : Handler κ) (fault : Fault) (k : Nat) (s : System κ) : System κ :=
  match fault.mend? with
  | none => s
  | some what => (s.stimulate h k what).2

theorem mend_cases {device : Device} (hk : s.device? k = some device) (h : Handler κ)
    (fault : Fault) :
    s.mend h fault k = s ∧ device.mended fault = device ∨
      s.mend h fault k = s.putDevice k (device.mended fault) [] := by
  have hpoke : ∀ {what}, fault.mend? = some what → (s.stimulate h k what).2 =
      (device.poke what).elim s fun poked => s.putDevice k poked.2 [] := by
    intro what hwhat
    unfold stimulate
    rw [hk]
    cases fault <;> cases hwhat <;> cases device <;> rfl
  unfold mend Device.mended
  cases hwhat : fault.mend? with
  | none => exact .inl ⟨rfl, rfl⟩
  | some what =>
      dsimp only
      rw [hpoke hwhat]
      cases device.poke what with
      | none => exact .inl ⟨rfl, rfl⟩
      | some poked => exact .inr rfl

/-- To put an end to a fault is to exchange the device. -/
theorem Exchanged.mend {slot : Slot} {driver : Driver} {device before : Device}
    (h : s.Exchanged w slot driver device s') (hk : s.device? slot.device = some before)
    (handler : Handler κ) (fault : Fault) :
    s.Exchanged w slot driver (device.mended fault) (s'.mend handler fault slot.device) := by
  rcases mend_cases (h.device? hk) handler fault with ⟨hsame, hdevice⟩ | hput
  · rw [hsame, hdevice]
    exact h
  · rw [hput]
    refine ⟨fun j => ?_, h.current, h.slot, h.bank⟩
    rw [device?_putDevice, h.devices]
    split
    · rw [Option.map_map]
      rfl
    · rfl

/-! ## The first boot -/

section

variable {i : Instance} {sim : Sim} (hflawed : s.Flawed ⟨s.current, i⟩ k sim fault)

include hflawed

/-- A new driver over a device with a fault. -/
theorem Flawed.off : ∃ device, s.device? k = some device ∧
    device.Off ⟨s.current, i⟩ { line := some ⟨s.current, i⟩ } ∧
      device.OnlyFault fault ∧ device.profile = sim.fresh.profile := by
  obtain ⟨device, hpoke, hk⟩ := hflawed.device
  have hcut : (fault.inject != .powerCycle) = true := by cases fault <;> rfl
  have hlawful : ∀ call, fault.inject ≠ .call call := by cases fault <;> exact nofun
  have hfollows : Device.Follows true (true && fault.inject != .powerCycle) sim.fresh device :=
    Device.follows_poke hlawful hpoke
  rw [hcut, Bool.and_true] at hfollows
  have hbooks := hfollows.books _ (Device.books_adopt (Device.sound_fresh sim))
  refine ⟨device, hk, ?_, ?_, ?_⟩
  · refine ⟨hfollows.sound (Device.sound_fresh sim), hbooks.of_eq ?_ ?_, rfl, nofun, ?_⟩
    all_goals cases sim <;> cases fault <;> cases hpoke <;> rfl
  · cases sim <;> cases fault <;> cases hpoke <;> trivial
  · cases sim <;> cases fault <;> cases hpoke <;> rfl

/-- The one device that can ignore its start. -/
theorem Flawed.ignoring (hfault : fault = .startIgnored) :
    ∃ p : Nrf52.Peripheral, s.device? k = some (.nrf52 p) ∧ p.running = false ∧
      p.line = none ∧ p.startIgnored = true ∧
      (Device.nrf52 p).profile = sim.fresh.profile := by
  subst hfault
  obtain ⟨device, hpoke, hk⟩ := hflawed.device
  cases sim <;> cases hpoke
  exact ⟨_, hk, rfl, rfl, rfl, rfl⟩

/-- How a first boot that found its instance fails with a cause inside: the device could
not be brought up. -/
theorem Flawed.failed {f : Failure} {h : Handler κ} (hvalid : c.validate = .ok ())
    (hi : c.instanceOf = .ok i) (hthread : s.bank.threadFailure = none)
    (hfail : s.startSupervision h c = (.error f, s')) {device : Device}
    (hk : s.device? k = some device) :
    let b := device.bringUp (hardwareConfig c) { line := some ⟨s.current, i⟩ }
    b.result = .error f ∧ s.Exchanged ⟨s.current, i⟩
      { id := i, device := k, driver := { line := some ⟨s.current, i⟩ } } b.driver b.device s' := by
  obtain ⟨s₁, hex, hstart⟩ :=
    exchanged_startSupervision hflawed.slot rfl hk c rfl hvalid hi
  rw [hstart] at hfail
  cases hr : (device.bringUp (hardwareConfig c) { line := some ⟨s.current, i⟩ }).result with
  | error f' =>
      rw [hr] at hfail
      obtain ⟨hf, rfl⟩ := Prod.mk.inj hfail
      exact ⟨hr.trans (congrArg Except.error (Except.error.inj hf)), hex⟩
  | ok =>
      obtain ⟨log, hwatch⟩ := watch_eq hvalid ⟨s.current, i⟩ s₁
      rw [hr, finish, hwatch, hex.bank, hthread] at hfail
      cases hfail

end

/-! ## The second boot -/

section

variable {i : Instance} {slot : Slot} {p : Nrf52.Peripheral} {line : Interrupt.Line} {n : Nat}

/-- An nRF52840 that lacks nothing but its start cannot be booted, as that would configure
it again. -/
theorem refused_of_primed (hw : w = ⟨s.current, i⟩) (hslot : s.slot? w = some slot)
    (hidle : slot.busy = false) (hk : s.device? slot.device = some (.nrf52 p))
    (hprimed : Nrf52.Primed c.hardReset line c.hwTimeout n slot.driver p)
    (hvalid : c.validate = .ok ()) (hi : c.instanceOf = .ok i) (h : Handler κ) :
    ∃ s', s.startSupervision h c = (.error ⟨.init, .invalidState⟩, s') ∧
      s'.running? slot.device = some false := by
  obtain ⟨s', hex, hboot⟩ := exchanged_startSupervision hslot hidle hk c hw hvalid hi
  have hrefused : (Device.nrf52 p).bringUp (hardwareConfig c) slot.driver =
      ⟨.error ⟨.init, .invalidState⟩, slot.driver, .nrf52 p⟩ :=
    Device.bringUp_of_configured hprimed.configured hprimed.off
      (hwTimeout_ne_zero_of_validate hvalid)
  rw [hrefused] at hex hboot
  refine ⟨s', hboot h, ?_⟩
  rw [running?_of_some (hex.device? hk)]
  exact congrArg some hprimed.off

/-- The start alone is all that it takes. -/
theorem started_of_primed (hslot : s.slot? w = some slot) (hidle : slot.busy = false)
    (hk : s.device? slot.device = some (.nrf52 p))
    (hprimed : Nrf52.Primed c.hardReset ⟨w.registry, w.id⟩ c.hwTimeout n slot.driver p)
    (hheeds : p.startIgnored = false) (h : Handler κ) :
    ∃ s', s.serve h w .start = (.ok (), s') ∧ s'.Counts w slot.device c := by
  obtain ⟨s', hserve, hex⟩ := exchanged_serve hslot hidle hk (q := .start) (by simp)
  obtain ⟨r, hbegun, hq, hstate, period, hle, harmed⟩ := hprimed.start hheeds
  have hobeys := Device.obeys_nrf52 (q := .start) hbegun hq
  rw [hobeys.newDriver, hobeys.newDevice] at hex
  refine ⟨s', ?_, ?_⟩
  · rw [hserve, hobeys.result]
  · exact counts_of_armed hex.slot rfl rfl hstate (hex.device? hk) hle harmed

end

/-- A new registry over new peripherals, one of them with a fault, and settings that hold
together and ask for what the hardware can do. If the first boot fails with the cause
`internal`, then once the fault is over a second one brings up both tiers: the hardware
counts and the monitor watches. An nRF52840 that ignored its start is the exception. It
is configured and refuses to be configured again, so a second boot fails, over a counter
that is off; but the start alone, asked for again, succeeds. -/
theorem second_boot_brings_up {i : Instance} {sim : Sim} {f : Failure} {h : Handler κ}
    (hflawed : s.Flawed ⟨s.current, i⟩ k sim fault) (hthread : s.bank.threadFailure = none)
    (hvalid : c.validate = .ok ()) (hi : c.instanceOf = .ok i)
    (hmax : c.hwTimeoutMs ≤ sim.fresh.profile.maxTimeoutMs)
    (hmode : c.hardReset = true ∨
      sim.fresh.profile.capabilities.contains .interrupt = true)
    (hfail : s.startSupervision h c = (.error f, s')) (hcause : f.cause = .internal) :
    (fault ≠ .startIgnored → ∃ up s'',
      (s'.mend h fault k).startSupervision h c = (.ok up, s'') ∧
        up.watchdog = ⟨s.current, i⟩ ∧ s''.Up up k c) ∧
    (fault = .startIgnored →
      (∃ s'', (s'.mend h fault k).startSupervision h c =
          (.error ⟨.init, .invalidState⟩, s'') ∧ s''.running? k = some false) ∧
      ∃ s'', (s'.mend h fault k).serve h ⟨s.current, i⟩ .start = (.ok (), s'') ∧
        s''.Counts ⟨s.current, i⟩ k c) := by
  obtain ⟨device, hk, hoff, honly, hprofile⟩ := hflawed.off
  obtain ⟨hr, hex⟩ := hflawed.failed hvalid hi hthread hfail hk
  have hmended := hex.mend hk h fault
  have hk' := hmended.device? hk
  have hw : (⟨s.current, i⟩ : Watchdog) = ⟨(s'.mend h fault k).current, i⟩ := by
    rw [hmended.current]
  constructor
  · intro hne
    obtain ⟨hready, hprofile'⟩ := hoff.ready_of_failed honly hr hcause hne
    rw [← hprofile, ← hprofile'] at hmax hmode
    obtain ⟨up, s'', hboot, hw, hup⟩ := up_of_ready hw hmended.slot rfl hk' hready
      (hmended.bank ▸ hthread) hvalid hi hmax hmode
    exact ⟨up, s'', hboot h, hw, hup⟩
  · rintro rfl
    obtain ⟨p, hp, hoff', hnone, hstart, hprofile'⟩ := hflawed.ignoring rfl
    obtain rfl : device = .nrf52 p := Option.some.inj (hk.symm.trans hp)
    obtain ⟨h0, hms⟩ := not_or.mp (period_of_validate hvalid (hprofile' ▸ hmax))
    have hnew : ({ line := some ⟨s.current, i⟩ } : Driver).line = some ⟨s.current, i⟩ := rfl
    obtain ⟨driver, p', hbrought, hprimed⟩ := Device.bringUp_of_ignored hnew rfl hoff' hnone
      hstart (Device.vectorClaimed_of_mode (hprofile' ▸ hmode)) h0 (UInt32.not_lt.mp hms)
    have hslot := hmended.slot
    rw [hardwareConfig, hbrought] at hslot hk'
    exact ⟨refused_of_primed hw hslot rfl hk' hprimed.heeding hvalid hi h,
      started_of_primed hslot rfl hk' hprimed.heeding rfl h⟩

/-- A task watchdog takes its period and fails to be subscribed: the first boot fails at
the start, the second brings up both tiers. -/
theorem up_after_failed_subscription :
    let i : Instance := ⟨1, by decide⟩
    let c : Settings :=
      { instanceId := 1, hwTimeoutMs := 2000, appTimeoutMs := 1000, feedIntervalMs := 100 }
    let s := ((Deployment.fresh [.rtl872x, .twdt] : Deployment Empty).run
      [.build [(0, 0), (1, 1)], .poke 1 (.failAfter 1 ⟨7⟩)]).system
    s.Flawed ⟨1, i⟩ 1 .twdt (.callFails 1 ⟨7⟩) ∧
      ∃ s' up s'', s.startSupervision Deployment.quiet c = (.error ⟨.start, .internal⟩, s') ∧
        s'.startSupervision Deployment.quiet c = (.ok up, s'') ∧ s''.Up up 1 c := by
  intro i c s
  have hflawed : s.Flawed ⟨1, i⟩ 1 .twdt (.callFails 1 ⟨7⟩) :=
    ⟨by decide +kernel, _, rfl, by decide +kernel⟩
  have hfail : (s.startSupervision Deployment.quiet c).1 = .error ⟨.start, .internal⟩ := by
    decide +kernel
  have hcurrent : s.current = 1 := by decide +kernel
  have hflawed' : s.Flawed ⟨s.current, i⟩ 1 .twdt (.callFails 1 ⟨7⟩) := by
    rw [hcurrent]
    exact hflawed
  have hvalid : c.validate = .ok () := by decide
  have hi : c.instanceOf = .ok i := by decide
  have hagain := second_boot_brings_up hflawed' rfl hvalid hi (by decide) (.inl rfl)
    (Prod.ext hfail rfl) rfl
  obtain ⟨up, s'', hboot, -, hup⟩ := hagain.1 nofun
  exact ⟨hflawed, _, up, s'', Prod.ext hfail rfl, hboot, hup⟩

/-- What is not brought up by asking again: an nRF52840 that ignored its start. The fault
is over, and a second boot is refused. -/
theorem second_boot_refused_after_ignored_start :
    let c : Settings := { hwTimeoutMs := 2000, appTimeoutMs := 1000, feedIntervalMs := 100 }
    let s := ((Deployment.fresh [.nrf52 false] : Deployment Empty).run
      [.build [(0, 0)], .poke 0 (.ignoreStart true)]).system
    let first := s.startSupervision Deployment.quiet c
    let second := (first.2.mend Deployment.quiet .startIgnored 0).startSupervision
      Deployment.quiet c
    s.Flawed ⟨1, ⟨0, by decide⟩⟩ 0 (.nrf52 false) .startIgnored ∧
      first.1 = .error ⟨.start, .internal⟩ ∧ second.1 = .error ⟨.init, .invalidState⟩ ∧
      second.2.running? 0 = some false := by
  intro c s first second
  exact ⟨⟨by decide +kernel, _, rfl, by decide +kernel⟩, by decide +kernel,
    by decide +kernel, by decide +kernel⟩

end System

end TwoTierWatchdog
