import TwoTierWatchdog.Nrf52.Driver
import TwoTierWatchdog.Rtl872x.Driver
import TwoTierWatchdog.Twdt.Driver

/-!
# The ways through a request

A driver's operation branches on its books, on what is asked of it and on what the hardware
reads. Here every way through is told once: when it is taken, and what it comes to. What is
to hold of an operation is then shown way by way.

A start has the same ways in every family, and so have the readback of the bit and the end of
a start, which is one. A configuration is either turned away before the first call or goes as
far as the family takes it.
-/

namespace TwoTierWatchdog

namespace Rig

variable {π κ : Type} {r : Rig π κ} {on : Bool} {launched s : Served π κ}

/-- The ways through a start. The bit of the counter reads `on`, and to launch it comes to
`launched`. -/
inductive Starting (r : Rig π κ) (on : Bool) (launched s : Served π κ) : Prop
  /-- There is nothing to start. -/
  | unready (fresh : r.driver.state = .uninitialized) (eq : s = r.fail .invalidState)
  /-- There is nothing to do. -/
  | runs (live : r.driver.state = .running) (reads : on = true) (eq : s = r.done)
  | launches (past : r.driver.state ≠ .uninitialized)
      (idle : r.driver.state = .running → on = false) (eq : s = launched)

/-- A start branches on the place in life, and on the bit if the books say that the counter
runs. -/
theorem starting (r : Rig π κ) (on : Bool) (launched : Served π κ) :
    r.Starting on launched (match r.driver.state with
      | .uninitialized => r.fail .invalidState
      | .running => if on then r.done else launched
      | .configured | .stopped => launched) := by
  cases hs : r.driver.state with
  | uninitialized => exact .unready hs rfl
  | running =>
      cases on with
      | true => exact .runs hs rfl rfl
      | false => exact .launches (by simp [hs]) (fun _ => rfl) rfl
  | configured | stopped => exact .launches (by simp [hs]) (by simp [hs]) rfl

theorem Starting.eq_done (h : r.Starting on launched s) (live : r.driver.state = .running)
    (reads : on = true) : s = r.done := by
  cases h with
  | unready fresh => cases live.symm.trans fresh
  | runs _ _ eq => exact eq
  | launches _ idle => cases reads.symm.trans (idle live)

theorem Starting.eq_launched (h : r.Starting on launched s)
    (state : r.driver.state = .configured) : s = launched := by
  cases h with
  | unready fresh => cases state.symm.trans fresh
  | runs live => cases state.symm.trans live
  | launches _ _ eq => exact eq

/-- The ways through a readback: the bit reads `on`, and `next` goes on if that is what it is
to read. -/
inductive Confirming (r : Rig π κ) (on want : Bool) (next : Rig π κ → Served π κ)
    (s : Served π κ) : Prop
  | agrees (reads : on = want) (eq : s = next r)
  | differs {text : String} (reads : on ≠ want) (eq : s = (r.note .error text).fail .internal)

/-- The ways through the end of a start: the call was made, and the bit now reads `on`. -/
inductive Launching (r : Rig π κ) (on : Bool) (s : Served π κ) : Prop
  | starts {text : String} (reads : on = true)
      (eq : s = ((r.enter fun d => { d with state := .running }).note .info text).done)
  | fails {text : String} (reads : on = false) (eq : s = (r.note .error text).fail .internal)

/-- A configuration came to nothing before the first call, and the hardware is not to
blame. -/
structure TurnedAway (r : Rig π κ) (s : Served π κ) : Prop where
  failed : s.1 ≠ .ok ()
  blameless : s.1 ≠ .error .internal
  driver : s.2.driver = r.driver
  hardware : s.2.hardware = r.hardware
  calls : s.2.calls = r.calls
  raised : s.2.raised = r.raised

theorem turnedAway_refuse (r : Rig π κ) (p : Profile) (c : Record.Config) (why : Refusal) :
    r.TurnedAway (r.refuse p c why) := by
  cases why <;> exact ⟨nofun, nofun, rfl, rfl, rfl, rfl⟩

theorem turnedAway_fail (r : Rig π κ) {e : Error} (he : e ≠ .internal) :
    r.TurnedAway (r.fail e) :=
  ⟨nofun, fun h => he (Except.error.inj h), rfl, rfl, rfl, rfl⟩

end Rig

/-! ## The nRF52840 -/

namespace Nrf52

variable {π : Type} [Interface π] {r : Rig π Command} {c : Record.Config}

theorem launch_ways (r : Rig π Command) :
    (write .start r).Launching (Interface.isRunning (write .start r).hardware) (launch r) := by
  unfold launch
  dsimp only
  split
  · next reads => exact .starts reads rfl
  · next reads => exact .fails (Bool.eq_false_iff.mpr reads) rfl

theorem start_ways (r : Rig π Command) :
    r.Starting (Interface.isRunning r.hardware) (launch r) (start r) :=
  r.starting _ _

/-- The ways through a configuration. -/
inductive Configuring (c : Record.Config) (r : Rig π Command) (s : Served π Command) : Prop
  | turnedAway (away : r.TurnedAway s)
  | takes {crv : UInt32} {line : Option Interrupt.Line} {text : String}
      (pass : (profile r.hardware).refusal? r.driver.state c = none)
      (found : crvForMillis? c.timeoutMs = some crv) (bound : r.driver.lineFor? c = some line)
      (eq : s = (((program crv line r).enter fun d => { d with
        state := .configured, config := some c
        timeoutMs := millisForCrv crv }).note .info text).done)

theorem init_ways (c : Record.Config) (r : Rig π Command) : Configuring c r (init c r) := by
  unfold init
  split
  · next why _ => exact .turnedAway (r.turnedAway_refuse _ c why)
  · next pass =>
      split
      · exact .turnedAway (r.turnedAway_fail nofun)
      · exact .turnedAway (r.turnedAway_fail nofun)
      · next crv line found bound => exact .takes pass found bound rfl

/-- A configuration that nothing speaks against. -/
theorem init_eq {crv : UInt32} {line : Option Interrupt.Line}
    (pass : (profile r.hardware).refusal? r.driver.state c = none)
    (found : crvForMillis? c.timeoutMs = some crv) (bound : r.driver.lineFor? c = some line) :
    ∃ text, init c r = (((program crv line r).enter fun d => { d with
      state := .configured, config := some c
      timeoutMs := millisForCrv crv }).note .info text).done := by
  unfold init
  -- the search is not to be run on a period that is not known
  generalize crvForMillis? c.timeoutMs = chosen at found
  subst found
  rw [pass, bound]
  exact ⟨_, rfl⟩

end Nrf52

/-! ## The RTL872x -/

namespace Rtl872x

variable {π : Type} [Interface π] {r : Rig π Command} {c : Record.Config}

theorem confirm_ways (want : Bool) (r : Rig π Command) (next : Rig π Command → Served π Command) :
    r.Confirming (Interface.isEnabled r.hardware) want next (confirm want r next) := by
  unfold confirm
  split
  · next reads => exact .agrees reads rfl
  · next reads => exact .differs reads rfl

theorem launch_ways (r : Rig π Command) :
    (write (.setEnabled true) r).Launching
      (Interface.isEnabled (write (.setEnabled true) r).hardware) (launch r) := by
  unfold launch
  cases confirm_ways true (write (.setEnabled true) r) _ with
  | agrees reads eq => exact .starts reads eq
  | differs reads eq => exact .fails (Bool.eq_false_iff.mpr reads) eq

theorem start_ways (r : Rig π Command) :
    r.Starting (Interface.isEnabled r.hardware) (launch r) (start r) :=
  r.starting _ _

theorem driver_program (divider : Divider) (line : Option Interrupt.Line) (live : Bool)
    (r : Rig π Command) : (program divider line live r).driver = r.driver := by
  cases line <;> cases live <;> rfl

/-- Whether or not the counter is resumed, a configuration that is taken back has failed. -/
theorem restore_failed (divider : Divider) (early live : Bool) (r : Rig π Command) :
    (restore divider early live r).1 = .error .internal := by
  unfold restore
  dsimp only
  split
  · unfold resume confirm
    split <;> rfl
  · rfl

/-- The ways through a configuration. The divider is written, and reads back or does not. -/
inductive Configuring (c : Record.Config) (r : Rig π Command) (s : Served π Command) : Prop
  | turnedAway (away : r.TurnedAway s)
  | takes {divider : Divider} {line : Option Interrupt.Line}
      (pass : profile.refusal? r.driver.state c = none)
      (found : Divider.forMillis? c.timeoutMs = some divider)
      (bound : r.driver.lineFor? c = some line)
      (reads : Interface.divider
        (program divider line (r.driver.state = .running) r).hardware = divider)
      (eq : s = commit c divider (r.driver.state = .running)
        (program divider line (r.driver.state = .running) r))
  | differs {divider : Divider} {line : Option Interrupt.Line}
      (pass : profile.refusal? r.driver.state c = none)
      (found : Divider.forMillis? c.timeoutMs = some divider)
      (bound : r.driver.lineFor? c = some line)
      (reads : Interface.divider
        (program divider line (r.driver.state = .running) r).hardware ≠ divider)
      (eq : s = restore (Interface.divider r.hardware)
        (r.driver.config.any fun c => !c.hardReset) (r.driver.state = .running)
        (program divider line (r.driver.state = .running) r))

theorem init_ways (c : Record.Config) (r : Rig π Command) : Configuring c r (init c r) := by
  unfold init
  split
  · next why _ => exact .turnedAway (r.turnedAway_refuse _ c why)
  · next pass =>
      split
      · exact .turnedAway (r.turnedAway_fail nofun)
      · exact .turnedAway (r.turnedAway_fail nofun)
      · next divider line found bound =>
          dsimp only
          split
          · next reads => exact .takes pass found bound reads rfl
          · next reads => exact .differs pass found bound reads rfl

/-- A configuration that nothing speaks against: whether it is taken is for the divider to
say. -/
theorem init_eq {divider : Divider} {line : Option Interrupt.Line}
    (pass : profile.refusal? r.driver.state c = none)
    (found : Divider.forMillis? c.timeoutMs = some divider)
    (bound : r.driver.lineFor? c = some line) :
    init c r =
      let r' := program divider line (r.driver.state = .running) r
      if Interface.divider r'.hardware = divider then
        commit c divider (r.driver.state = .running) r'
      else
        restore (Interface.divider r.hardware) (r.driver.config.any fun c => !c.hardReset)
          (r.driver.state = .running) r' := by
  unfold init
  -- the search is not to be run on a period that is not known
  generalize Divider.forMillis? c.timeoutMs = chosen at found
  subst found
  rw [pass, bound]

end Rtl872x

/-! ## The task watchdog -/

namespace Twdt

variable {π : Type} [Interface π] {r : Rig π Command} {c : Record.Config}

/-- The ways through a call, after which `next` goes on unless it failed. -/
inductive Calling (c : Command) (r : Rig π Command) (next : Rig π Command → Served π Command)
    (s : Served π Command) : Prop
  | succeeds {hardware : π} (acts : Interface.write c r.hardware = (.ok (), hardware))
      (eq : s = next { r with hardware, calls := r.calls ++ [c] })
  | fails {e : VendorError} {hardware : π} {text : String}
      (acts : Interface.write c r.hardware = (.error e, hardware))
      (eq : s =
        (Rig.note { r with hardware, calls := r.calls ++ [c] } .error text).fail .internal)

theorem write_ways (name : String) (c : Command) (r : Rig π Command)
    (next : Rig π Command → Served π Command) : Calling c r next (write name c r next) := by
  unfold write
  cases acts : Interface.write c r.hardware with
  | mk result hardware =>
      cases result with
      | ok => exact .succeeds acts rfl
      | error e => exact .fails acts rfl

theorem confirm_ways (want : Bool) (r : Rig π Command) (next : Rig π Command → Served π Command) :
    r.Confirming (Interface.isSubscribed r.hardware) want next (confirm want r next) := by
  unfold confirm
  split
  · next reads => exact .agrees reads rfl
  · next reads => exact .differs reads rfl

theorem launched_ways (r : Rig π Command) :
    r.Launching (Interface.isSubscribed r.hardware) (launched r) := by
  unfold launched
  cases confirm_ways true r _ with
  | agrees reads eq => exact .starts reads eq
  | differs reads eq => exact .fails (Bool.eq_false_iff.mpr reads) eq

theorem start_ways (r : Rig π Command) :
    r.Starting (Interface.isSubscribed r.hardware) (launch r) (start r) :=
  r.starting _ _

/-- Programs the period and the mode of a configuration, and goes on if that succeeds. -/
abbrev reconfigure (c : Record.Config) (r : Rig π Command) : Served π Command :=
  write "reconfigure" (.reconfigure c.timeoutMs c.hardReset) r (commit c)

/-- The ways through a configuration, which attaches the line first if it asks for the
interrupt. -/
inductive Configuring (c : Record.Config) (r : Rig π Command) (s : Served π Command) : Prop
  | turnedAway (away : r.TurnedAway s)
  | plain (pass : profile.refusal? r.driver.state c = none)
      (bound : r.driver.lineFor? c = some none) (eq : s = reconfigure c r)
  | attaches {line : Interrupt.Line} (pass : profile.refusal? r.driver.state c = none)
      (bound : r.driver.lineFor? c = some (some line))
      (eq : s = write "attach" (.attachInterrupt line) r (reconfigure c))

theorem init_ways (c : Record.Config) (r : Rig π Command) : Configuring c r (init c r) := by
  unfold init
  split
  · next why _ => exact .turnedAway (r.turnedAway_refuse _ c why)
  · next pass =>
      split
      · exact .turnedAway (r.turnedAway_fail nofun)
      · next line bound =>
          cases line with
          | none => exact .plain pass bound rfl
          | some line => exact .attaches pass bound rfl

/-- A configuration that nothing speaks against. -/
theorem init_eq {line : Option Interrupt.Line} (pass : profile.refusal? r.driver.state c = none)
    (bound : r.driver.lineFor? c = some line) : init c r = attach line r (reconfigure c) := by
  unfold init
  rw [pass, bound]

end Twdt

end TwoTierWatchdog
