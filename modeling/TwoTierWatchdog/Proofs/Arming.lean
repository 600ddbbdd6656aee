import TwoTierWatchdog.Proofs.Device
import TwoTierWatchdog.Proofs.Nrf52.Arming
import TwoTierWatchdog.Proofs.Rtl872x.Arming
import TwoTierWatchdog.Proofs.Twdt.Arming

/-!
# Arming a device

The three families side by side: what becomes of a device that is configured and started,
what its driver then does to it, and what its expiry does.
-/

namespace TwoTierWatchdog.Device

/-- A device that counts for a driver, with so much left of its period. -/
def Armed (hardReset : Bool) (line : Interrupt.Line) (c : Countdown) (resets : Nat) :
    Device → Prop
  | nrf52 p => Nrf52.Armed hardReset line c resets p
  | rtl872x p => Rtl872x.Armed hardReset line c resets p
  | twdt p => Twdt.Armed hardReset line c resets p
  | eager _ | unfaithful _ => False

def resets : Device → Nat
  | nrf52 p => p.resets
  | rtl872x p => p.resets
  | twdt p => p.resets
  | eager _ | unfaithful _ => 0

variable {device : Device} {hardReset : Bool} {line : Interrupt.Line} {c : Countdown}
  {n : Nat} {driver : Driver}

theorem Armed.remaining (h : device.Armed hardReset line c n) :
    device.remaining? = some c.remaining := by
  cases device with
  | nrf52 p => exact (if_pos h.running).trans (by rw [h.countdown])
  | rtl872x p => exact (if_pos h.enabled).trans (by rw [h.countdown])
  | twdt p => exact (if_pos h.subscribed).trans (by rw [h.countdown])
  | eager p | unfaithful p => exact h.elim

theorem Armed.isRunning (h : device.Armed hardReset line c n) : device.isRunning = true := by
  cases device with
  | nrf52 p => exact h.running
  | rtl872x p => exact h.enabled
  | twdt p => exact h.subscribed
  | eager p | unfaithful p => exact h.elim

theorem Armed.resets_eq (h : device.Armed hardReset line c n) : device.resets = n := by
  cases device with
  | nrf52 p | rtl872x p | twdt p => exact h.resets
  | eager p | unfaithful p => exact h.elim

theorem Armed.elapse (h : device.Armed hardReset line c n) (time : Duration) :
    (device.elapse time).Armed hardReset line (c.elapse time) n := by
  cases device with
  | nrf52 p => exact Nrf52.armed_elapse h time
  | rtl872x p => exact Rtl872x.armed_elapse h time
  | twdt p => exact Twdt.armed_elapse h time
  | eager p | unfaithful p => exact h.elim

/-! ## The driver's part -/

/-- A request succeeds, fires nothing, and leaves a given driver and device. -/
structure Obeys (q : Request) (driver : Driver) (device : Device) (driver' : Driver)
    (device' : Device) : Prop where
  result : (device.serve q driver).result = .ok ()
  quiet : (device.serve q driver).raised = []
  newDriver : (device.serve q driver).driver = driver'
  newDevice : (device.serve q driver).device = device'

theorem obeys_of_served {π κ : Type} {ofHardware : π → Device} {call : κ → Call}
    {r : Rig π κ} {q : Request}
    (h : device.serve q driver = served ofHardware call (.ok (), r))
    (hq : r.raised = []) : Obeys q driver device r.driver (ofHardware r.hardware) := by
  constructor <;> rw [h]
  · rfl
  · exact hq
  · rfl
  · rfl

theorem obeys_nrf52 {p : Nrf52.Peripheral} {q : Request}
    {r : Rig Nrf52.Peripheral Nrf52.Command}
    (h : Nrf52.serve { driver, hardware := p } q = (.ok (), r)) (hq : r.raised = []) :
    Obeys q driver (nrf52 p) r.driver (nrf52 r.hardware) := by
  have hserve : (nrf52 p).serve q driver = served nrf52 .nrf52 (.ok (), r) := by
    rw [← h]
    rfl
  exact obeys_of_served hserve hq

theorem obeys_rtl872x {p : Rtl872x.Peripheral} {q : Request}
    {r : Rig Rtl872x.Peripheral Rtl872x.Command}
    (h : Rtl872x.serve { driver, hardware := p } q = (.ok (), r)) (hq : r.raised = []) :
    Obeys q driver (rtl872x p) r.driver (rtl872x r.hardware) := by
  have hserve : (rtl872x p).serve q driver = served rtl872x .rtl872x (.ok (), r) := by
    rw [← h]
    rfl
  exact obeys_of_served hserve hq

theorem obeys_twdt {p : Twdt.Peripheral} {q : Request}
    {r : Rig Twdt.Peripheral Twdt.Command}
    (h : Twdt.serve { driver, hardware := p } q = (.ok (), r)) (hq : r.raised = []) :
    Obeys q driver (twdt p) r.driver (twdt r.hardware) := by
  have hserve : (twdt p).serve q driver = served twdt .twdt (.ok (), r) := by
    rw [← h]
    rfl
  exact obeys_of_served hserve hq

theorem Armed.start (h : device.Armed hardReset line c n) (hs : driver.state = .running) :
    Obeys .start driver device driver device := by
  cases device with
  | nrf52 p =>
      have hserve := Nrf52.start_of_armed h hs
      exact obeys_nrf52 (q := .start) hserve rfl
  | rtl872x p =>
      have hserve := Rtl872x.start_of_armed h hs
      exact obeys_rtl872x (q := .start) hserve rfl
  | twdt p =>
      have hserve := Twdt.start_of_armed h hs
      exact obeys_twdt (q := .start) hserve rfl
  | eager p | unfaithful p => exact h.elim

theorem Armed.refresh (h : device.Armed hardReset line c n)
    (hs : driver.state = .running) :
    ∃ device', Obeys .refresh driver device driver device' ∧
      device'.Armed hardReset line c.reload n := by
  cases device with
  | nrf52 p =>
      obtain ⟨r, hserve, rfl, hq, harmed⟩ := Nrf52.refresh_of_armed h hs
      exact ⟨nrf52 r.hardware, obeys_nrf52 (q := .refresh) hserve hq, harmed⟩
  | rtl872x p =>
      obtain ⟨r, hserve, rfl, hq, harmed⟩ := Rtl872x.refresh_of_armed h hs
      exact ⟨rtl872x r.hardware, obeys_rtl872x (q := .refresh) hserve hq, harmed⟩
  | twdt p =>
      obtain ⟨r, hserve, rfl, hq, harmed⟩ := Twdt.refresh_of_armed h hs
      exact ⟨twdt r.hardware, obeys_twdt (q := .refresh) hserve hq, harmed⟩
  | eager p | unfaithful p => exact h.elim

/-- A period that is no time at all, or that the hardware cannot count, is refused. -/
theorem init_of_not (sim : Sim) {d : Duration}
    (h : d.nanos = 0 ∨ sim.fresh.profile.maxTimeoutMs < d.millisCeil) :
    (sim.fresh.serve (.init (.ofTimeout d hardReset)) { line := some line }).result =
      .error .invalidArgument := by
  obtain ⟨why, hwhy, hcause⟩ : ∃ why, sim.fresh.profile.refusal? .uninitialized
      (.ofTimeout d hardReset) = some why ∧ why.cause = .invalidArgument :=
    Profile.refusal?_of_not h
  rw [init_of_refusal hwhy, hcause]

/-- A device whose driver may configure and start it, and that does as it is told. -/
def Ready (line : Interrupt.Line) (driver : Driver) : Device → Prop
  | nrf52 p => Nrf52.Ready line driver p
  | rtl872x p => Rtl872x.Ready line driver p
  | twdt p => Twdt.Ready line driver p
  | eager _ | unfaithful _ => False

theorem ready_fresh (sim : Sim) (line : Interrupt.Line) :
    sim.fresh.Ready line { line := some line } := by
  cases sim with
  | nrf52 vectorClaimed => exact ⟨rfl, rfl, rfl, rfl, rfl⟩
  | rtl872x => exact ⟨rfl, nofun, rfl, rfl, rfl⟩
  | twdt => exact ⟨rfl, nofun, rfl, rfl⟩

theorem vectorClaimed_of_mode {p : Nrf52.Peripheral} (h : hardReset = true ∨
    (nrf52 p).profile.capabilities.contains .interrupt = true) :
    hardReset = true ∨ p.vectorClaimed = false := by
  refine h.imp_right fun hi => ?_
  cases hv : p.vectorClaimed with
  | false => rfl
  | true =>
      have hnone : (nrf52 p).profile.capabilities = .empty :=
        if_neg (show ¬ (!p.vectorClaimed) = true by rw [hv]; nofun)
      rw [hnone] at hi
      exact absurd hi (by decide)

/-- Any other is counted, and never short. -/
theorem armed_of_start (hready : device.Ready line driver) {d : Duration}
    (hmode : hardReset = true ∨
      device.profile.capabilities.contains .interrupt = true)
    (h : ¬ (d.nanos = 0 ∨ device.profile.maxTimeoutMs < d.millisCeil)) :
    ∃ driver₁ device₁ driver₂ device₂,
      Obeys (.init (.ofTimeout d hardReset)) driver device driver₁ device₁ ∧
      Obeys .start driver₁ device₁ driver₂ device₂ ∧
      driver₂.state = .running ∧
      ∃ period : Duration, d.nanos ≤ period.nanos ∧
        device₂.Armed hardReset line (.ofPeriod period) device.resets := by
  obtain ⟨h0, hmax⟩ := not_or.mp h
  cases device with
  | nrf52 p =>
      obtain ⟨r, hinit, hq, r', hstart, hq', hs, period, hle, harmed⟩ :=
        Nrf52.armed_of_start hready (vectorClaimed_of_mode hmode) h0 (UInt32.not_lt.mp hmax)
      exact ⟨_, _, _, _, obeys_nrf52 (q := .init _) hinit hq,
        obeys_nrf52 (q := .start) hstart hq', hs, period, hle, harmed⟩
  | rtl872x p =>
      obtain ⟨r, hinit, hq, r', hstart, hq', hs, period, hle, harmed⟩ :=
        Rtl872x.armed_of_start hready h0 (UInt32.not_lt.mp hmax)
      exact ⟨_, _, _, _, obeys_rtl872x (q := .init _) hinit hq,
        obeys_rtl872x (q := .start) hstart hq', hs, period, hle, harmed⟩
  | twdt p =>
      obtain ⟨r, hinit, hq, r', hstart, hq', hs, period, hle, harmed⟩ :=
        Twdt.armed_of_start hready h0 (UInt32.not_lt.mp hmax)
      exact ⟨_, _, _, _, obeys_twdt (q := .init _) hinit hq,
        obeys_twdt (q := .start) hstart hq', hs, period, hle, harmed⟩
  | eager p | unfaithful p => exact hready.elim

/-! ## The expiry -/

theorem Armed.strike_of_hard (h : device.Armed true line c n) :
    device.strike.2.1 = none ∧ device.strike.1.recover.1.resets = n + 1 := by
  cases device with
  | nrf52 p => exact ⟨h.line, congrArg (· + 1) h.resets⟩
  | rtl872x p =>
      have hexpire : p.expire = ({ p with
          resets := p.resets + 1, enabled := false, earlyFired := false }, none, _) :=
        if_neg (by simp [h.early])
      simp only [strike, hexpire]
      exact ⟨trivial, congrArg (· + 1) h.resets⟩
  | twdt p =>
      have hexpire : p.expire = ({ p with
          resets := p.resets + 1, subscribed := false }, none, _) := if_pos h.panic
      simp only [strike, hexpire]
      exact ⟨trivial, congrArg (· + 1) h.resets⟩
  | eager p | unfaithful p => exact h.elim

theorem Armed.strike_of_soft (h : device.Armed false line c n) :
    device.strike.2.1 = some line ∧ device.strike.1.resets = n := by
  cases device with
  | nrf52 p => exact ⟨h.line, h.resets⟩
  | rtl872x p =>
      have hexpire : p.expire = ({ p with
          earlyFired := true, countdown := p.countdown.reload }, p.line, []) :=
        if_pos (by simp [h.early, h.unfired])
      simp only [strike, hexpire]
      exact ⟨h.line rfl, h.resets⟩
  | twdt p =>
      have hexpire : p.expire = ({ p with countdown := p.countdown.reload }, p.line, []) :=
        if_neg (by simp [h.panic])
      simp only [strike, hexpire]
      exact ⟨h.line rfl, h.resets⟩
  | eager p | unfaithful p => exact h.elim

end TwoTierWatchdog.Device
