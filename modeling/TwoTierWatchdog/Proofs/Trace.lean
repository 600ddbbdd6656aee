import TwoTierWatchdog.Device
import TwoTierWatchdog.Proofs.Ways

/-!
# What every request does

Whatever a driver is asked, and however far it gets: it makes calls on its peripheral one
after the other, nothing happens to the peripheral but those calls, none of them fires
the line, and the driver has the line it had. So what every single call keeps, every
request keeps.

The one call that may fire a line is the feed of an nRF52840 watchdog.
-/

namespace TwoTierWatchdog

namespace Rig

variable {π κ : Type} {write : κ → π → π} {r r' r'' : Rig π κ}

/-- One rig came from another by calls, and none of them fired the line. -/
def Traced (write : κ → π → π) (r r' : Rig π κ) : Prop :=
  ∃ made : List κ, r'.calls = r.calls ++ made ∧
    r'.hardware = made.foldl (fun p c => write c p) r.hardware ∧
    r'.raised = r.raised ∧ r'.driver.line = r.driver.line

namespace Traced

/-- No call was made. -/
theorem of_eq (hc : r'.calls = r.calls) (hh : r'.hardware = r.hardware)
    (hr : r'.raised = r.raised) (hl : r'.driver.line = r.driver.line) :
    Traced write r r' :=
  ⟨[], by rw [hc, List.append_nil], hh, hr, hl⟩

theorem refl (r : Rig π κ) : Traced write r r :=
  of_eq rfl rfl rfl rfl

theorem trans (h : Traced write r r') (h' : Traced write r' r'') : Traced write r r'' := by
  obtain ⟨made, hc, hh, hr, hl⟩ := h
  obtain ⟨made', hc', hh', hr', hl'⟩ := h'
  refine ⟨made ++ made', ?_, ?_, hr'.trans hr, hl'.trans hl⟩
  · rw [hc', hc, List.append_assoc]
  · rw [hh', hh, List.foldl_append]

theorem call (c : κ) (hc : r'.calls = r.calls ++ [c])
    (hh : r'.hardware = write c r.hardware) (hr : r'.raised = r.raised)
    (hl : r'.driver.line = r.driver.line) : Traced write r r' :=
  ⟨[c], hc, hh, hr, hl⟩

theorem note (h : Traced write r r') (level : Log.Level) (text : String) :
    Traced write r (r'.note level text) :=
  h.trans (of_eq rfl rfl rfl rfl)

theorem enter (h : Traced write r r') {f : Driver → Driver}
    (hf : (f r'.driver).line = r'.driver.line) : Traced write r (r'.enter f) :=
  h.trans (of_eq rfl rfl rfl hf)

/-- What every call keeps is kept. -/
theorem keeps {P : π → Prop} (h : Traced write r r') (hw : ∀ c p, P p → P (write c p))
    (hp : P r.hardware) : P r'.hardware := by
  obtain ⟨made, -, hh, -, -⟩ := h
  rw [hh]
  generalize r.hardware = p at hp
  clear hh
  induction made generalizing p with
  | nil => exact hp
  | cons c made ih => exact ih (write c p) (hw c p hp)

theorem raised (h : Traced write r r') : r'.raised = r.raised := by
  obtain ⟨_, -, -, hr, -⟩ := h
  exact hr

theorem line (h : Traced write r r') : r'.driver.line = r.driver.line := by
  obtain ⟨_, -, -, -, hl⟩ := h
  exact hl

end Traced

theorem TurnedAway.traced {s : Served π κ} (h : r.TurnedAway s) : Traced write r s.2 :=
  .of_eq h.calls h.hardware h.raised (congrArg Driver.line h.driver)

end Rig

/-! ## The nRF52840 -/

namespace Nrf52

variable {π : Type} [Interface π]

/-- Of the calls only a feed may fire the line. -/
def Calm (π : Type) [Interface π] : Prop :=
  ∀ (c : Command) (p : π), (∀ channel, c ≠ .feed channel) → Interface.raised c p = none

theorem calm_peripheral : Calm Peripheral :=
  fun _ _ _ => rfl

theorem calm_eager : Calm Eager := by
  intro c p hc
  cases c with
  | feed channel => exact absurd rfl (hc channel)
  | _ => rfl

abbrev Traced (r r' : Rig π Command) : Prop :=
  r.Traced Interface.write r'

variable {r r' : Rig π Command}

theorem traced_write {c : Command} (h : Traced r r')
    (hc : Interface.raised c r'.hardware = none) : Traced r (write c r') :=
  h.trans (.call c rfl rfl (by simp [write, hc]) rfl)

theorem traced_program (hπ : Calm π) (crv : UInt32) (line : Option Interrupt.Line)
    (r : Rig π Command) : Traced r (program crv line r) := by
  have h₁ := traced_write (.refl r) (hπ (.setReloadValue crv) _ nofun)
  have h₂ := traced_write h₁ (hπ (.setBehaviour true false) _ nofun)
  have h₃ := traced_write h₂ (hπ (.enableReloadChannel reloadChannel) _ nofun)
  unfold program
  cases line with
  | none => exact h₃
  | some line => exact traced_write h₃ (hπ (.enableTimeoutInterrupt line) _ nofun)

theorem traced_init (hπ : Calm π) (r : Rig π Command) (c : Record.Config) :
    Traced r (init c r).2 := by
  cases init_ways c r with
  | turnedAway away => exact away.traced
  | takes _ _ _ eq => exact eq ▸ ((traced_program hπ _ _ r).enter rfl).note _ _

theorem traced_launch (hπ : Calm π) (r : Rig π Command) : Traced r (launch r).2 := by
  have hw := traced_write (.refl r) (hπ .start r.hardware nofun)
  cases launch_ways r with
  | starts _ eq => exact eq ▸ (hw.enter rfl).note _ _
  | fails _ eq => exact eq ▸ hw.note _ _

theorem traced_start (hπ : Calm π) (r : Rig π Command) : Traced r (start r).2 := by
  cases start_ways r with
  | unready _ eq => exact eq ▸ .refl r
  | runs _ _ eq => exact eq ▸ .refl r
  | launches _ _ eq => exact eq ▸ traced_launch hπ r

theorem traced_serve (r : Rig Peripheral Command) (q : Request) :
    Traced r (serve r q).2 := by
  cases q with
  | init c => exact traced_init calm_peripheral r c
  | setTimeout timeout => exact traced_init calm_peripheral r _
  | start => exact traced_start calm_peripheral r
  | stop => exact .refl r
  | refresh =>
      show Traced r (refresh r).2
      unfold refresh
      split
      · exact traced_write (.refl r) rfl
      · exact .refl r

/-- What is turned away is turned away before the first call. -/
theorem init_of_refusal {c : Record.Config} {why : Refusal}
    (hwhy : (profile r.hardware).refusal? r.driver.state c = some why) :
    init c r = r.refuse (profile r.hardware) c why := by
  unfold init
  rw [hwhy]

end Nrf52

/-! ## The RTL872x -/

namespace Rtl872x

variable {π : Type} [Interface π]

abbrev Traced (r r' : Rig π Command) : Prop :=
  r.Traced Interface.write r'

variable {r r' : Rig π Command} {next : Rig π Command → Served π Command}

theorem traced_write (h : Traced r r') (c : Command) : Traced r (write c r') :=
  h.trans (.call c rfl rfl rfl rfl)

theorem traced_confirm (h : Traced r r') (want : Bool)
    (hn : ∀ {r'}, Traced r r' → Traced r (next r').2) :
    Traced r (confirm want r' next).2 := by
  cases confirm_ways want r' next with
  | agrees _ eq => exact eq ▸ hn h
  | differs _ eq => exact eq ▸ h.note _ _

theorem traced_resume (h : Traced r r')
    (hn : ∀ {r'}, Traced r r' → Traced r (next r').2) : Traced r (resume r' next).2 :=
  traced_confirm (traced_write (traced_write h _) _) true hn

theorem traced_program (r : Rig π Command) (divider : Divider)
    (line : Option Interrupt.Line) (live : Bool) :
    Traced r (program divider line live r) := by
  have hoff : Traced r (if live then write (.setEnabled false) r else r) := by
    cases live with
    | false => exact .refl r
    | true => exact traced_write (.refl r) _
  unfold program
  cases line with
  | none => exact traced_write hoff _
  | some line => exact traced_write (traced_write hoff _) _

theorem traced_restore (h : Traced r r') (divider : Divider) (early live : Bool) :
    Traced r (restore divider early live r').2 := by
  have hw := traced_write (h.note .error
    "wdt(rtl872x): divider readback mismatch, restoring previous period")
    (.configure divider early)
  unfold restore
  dsimp only
  split
  · exact traced_resume hw fun h => h
  · exact hw

theorem traced_commit (h : Traced r r') (c : Record.Config) (divider : Divider)
    (live : Bool) : Traced r (commit c divider live r').2 := by
  unfold commit
  dsimp only
  split
  · exact traced_resume (h.enter rfl) fun h => h.note _ _
  · exact ((h.enter rfl).enter rfl).note _ _

theorem traced_init (r : Rig π Command) (c : Record.Config) : Traced r (init c r).2 := by
  cases init_ways c r with
  | turnedAway away => exact away.traced
  | takes _ _ _ _ eq => exact eq ▸ traced_commit (traced_program r _ _ _) c _ _
  | differs _ _ _ _ eq => exact eq ▸ traced_restore (traced_program r _ _ _) _ _ _

theorem traced_launch (r : Rig π Command) : Traced r (launch r).2 :=
  traced_confirm (traced_write (.refl r) _) true fun h => (h.enter rfl).note _ _

theorem traced_start (r : Rig π Command) : Traced r (start r).2 := by
  cases start_ways r with
  | unready _ eq => exact eq ▸ .refl r
  | runs _ _ eq => exact eq ▸ .refl r
  | launches _ _ eq => exact eq ▸ traced_launch r

theorem traced_settle (h : Traced r r') : Traced r (settle r').2 := by
  unfold settle
  split
  · exact h.enter rfl
  · exact h

theorem traced_stop (r : Rig π Command) : Traced r (stop r).2 := by
  unfold stop
  split
  · exact traced_confirm (traced_write (.refl r) _) false fun h =>
      traced_settle (h.note _ _)
  · exact traced_settle (.refl r)

theorem traced_serve (r : Rig π Command) (q : Request) : Traced r (serve r q).2 := by
  cases q with
  | init c => exact traced_init r c
  | setTimeout timeout => exact traced_init r _
  | start => exact traced_start r
  | stop => exact traced_stop r
  | refresh =>
      show Traced r (refresh r).2
      unfold refresh
      split
      · exact traced_write (.refl r) _
      · exact .refl r

theorem init_of_refusal {c : Record.Config} {why : Refusal}
    (hwhy : profile.refusal? r.driver.state c = some why) :
    init c r = r.refuse profile c why := by
  unfold init
  rw [hwhy]

end Rtl872x

/-! ## The task watchdog -/

namespace Twdt

variable {π : Type} [Interface π]

abbrev Traced (r r' : Rig π Command) : Prop :=
  r.Traced (fun c p => (Interface.write c p).2) r'

variable {r r' : Rig π Command} {next : Rig π Command → Served π Command}

theorem traced_write (h : Traced r r') (name : String) (c : Command)
    (hn : ∀ {r'}, Traced r r' → Traced r (next r').2) :
    Traced r (write name c r' next).2 := by
  have hw : ∀ {hardware}, (Interface.write c r'.hardware).2 = hardware →
      Traced r { r' with hardware, calls := r'.calls ++ [c] } :=
    fun hacts => h.trans (.call c rfl hacts.symm rfl rfl)
  cases write_ways name c r' next with
  | succeeds acts eq => exact eq ▸ hn (hw (congrArg Prod.snd acts))
  | fails acts eq => exact eq ▸ (hw (congrArg Prod.snd acts)).note _ _

theorem traced_confirm (h : Traced r r') (want : Bool)
    (hn : ∀ {r'}, Traced r r' → Traced r (next r').2) :
    Traced r (confirm want r' next).2 := by
  cases confirm_ways want r' next with
  | agrees _ eq => exact eq ▸ hn h
  | differs _ eq => exact eq ▸ h.note _ _

theorem traced_commit (h : Traced r r') (c : Record.Config) :
    Traced r (commit c r').2 := by
  unfold commit
  dsimp only
  split
  · exact traced_write (h.enter rfl) _ _ fun h => traced_confirm h _ fun h => h.note _ _
  · exact ((h.enter rfl).enter rfl).note _ _

theorem traced_reconfigure (h : Traced r r') (c : Record.Config) :
    Traced r (reconfigure c r').2 :=
  traced_write h _ _ fun h => traced_commit h c

theorem traced_init (r : Rig π Command) (c : Record.Config) : Traced r (init c r).2 := by
  cases init_ways c r with
  | turnedAway away => exact away.traced
  | plain _ _ eq => exact eq ▸ traced_reconfigure (.refl r) c
  | attaches _ _ eq => exact eq ▸ traced_write (.refl r) _ _ fun h => traced_reconfigure h c

theorem traced_launched (h : Traced r r') : Traced r (launched r').2 := by
  cases launched_ways r' with
  | starts _ eq => exact eq ▸ (h.enter rfl).note _ _
  | fails _ eq => exact eq ▸ h.note _ _

theorem traced_launch (r : Rig π Command) : Traced r (launch r).2 := by
  unfold launch
  split
  · exact traced_launched (.refl r)
  · exact traced_write (.refl r) _ _ traced_launched

theorem traced_start (r : Rig π Command) : Traced r (start r).2 := by
  cases start_ways r with
  | unready _ eq => exact eq ▸ .refl r
  | runs _ _ eq => exact eq ▸ .refl r
  | launches _ _ eq => exact eq ▸ traced_launch r

theorem traced_settle (h : Traced r r') : Traced r (settle r').2 := by
  unfold settle
  split
  · exact h.enter rfl
  · exact h

theorem traced_stop (r : Rig π Command) : Traced r (stop r).2 := by
  unfold stop
  split
  · exact traced_write (.refl r) _ _ fun h =>
      traced_confirm h false fun h => traced_settle (h.note _ _)
  · exact traced_settle (.refl r)

theorem traced_serve (r : Rig π Command) (q : Request) : Traced r (serve r q).2 := by
  cases q with
  | init c => exact traced_init r c
  | setTimeout timeout => exact traced_init r _
  | start => exact traced_start r
  | stop => exact traced_stop r
  | refresh =>
      show Traced r (refresh r).2
      unfold refresh
      split
      · exact traced_write (.refl r) _ _ fun h => h
      · exact .refl r

theorem init_of_refusal {c : Record.Config} {why : Refusal}
    (hwhy : profile.refusal? r.driver.state c = some why) :
    init c r = r.refuse profile c why := by
  unfold init
  rw [hwhy]

end Twdt

/-! ## Any device -/

namespace Device

theorem line_serve (device : Device) (driver : Driver) (q : Request) :
    (device.serve q driver).driver.line = driver.line := by
  cases device with
  | nrf52 p => exact (Nrf52.traced_serve { driver, hardware := p } q).line
  | rtl872x p => exact (Rtl872x.traced_serve { driver, hardware := p } q).line
  | twdt p => exact (Twdt.traced_serve { driver, hardware := p } q).line
  | unfaithful p => exact (Twdt.traced_serve { driver, hardware := p } q).line
  | eager p =>
      have hc := Nrf52.calm_eager
      cases q with
      | init c => exact (Nrf52.traced_init hc { driver, hardware := p } c).line
      | setTimeout timeout => exact (Nrf52.traced_init hc { driver, hardware := p } _).line
      | start => exact (Nrf52.traced_start hc { driver, hardware := p }).line
      | stop => rfl
      | refresh =>
          show (Nrf52.refresh { driver, hardware := p }).2.driver.line = driver.line
          unfold Nrf52.refresh
          split <;> rfl

/-- A line is fired in the middle of a request only where a feed fires it. -/
theorem raised_serve {device : Device} (driver : Driver) {q : Request}
    (hq : q = .refresh → ∀ p, device ≠ eager p) :
    (device.serve q driver).raised = [] := by
  cases device with
  | nrf52 p => exact (Nrf52.traced_serve { driver, hardware := p } q).raised
  | rtl872x p => exact (Rtl872x.traced_serve { driver, hardware := p } q).raised
  | twdt p => exact (Twdt.traced_serve { driver, hardware := p } q).raised
  | unfaithful p => exact (Twdt.traced_serve { driver, hardware := p } q).raised
  | eager p =>
      have hc := Nrf52.calm_eager
      cases q with
      | init c => exact (Nrf52.traced_init hc { driver, hardware := p } c).raised
      | setTimeout timeout =>
          exact (Nrf52.traced_init hc { driver, hardware := p } _).raised
      | start => exact (Nrf52.traced_start hc { driver, hardware := p }).raised
      | stop => rfl
      | refresh => exact absurd rfl (hq rfl p)

/-- What the checks go by is not for a driver to change. -/
theorem profile_serve (device : Device) (driver : Driver) (q : Request) :
    (device.serve q driver).device.profile = device.profile := by
  cases device with
  | nrf52 p =>
      refine congrArg (fun claimed => Nrf52.profile ({ vectorClaimed := claimed } :
        Nrf52.Peripheral)) ?_
      refine (Nrf52.traced_serve { driver, hardware := p } q).keeps
        (P := fun p' => p'.vectorClaimed = p.vectorClaimed) (fun call p' hp => ?_) rfl
      cases call with
      | setBehaviour | enableReloadChannel | enableTimeoutInterrupt => exact hp
      | setReloadValue | start | feed =>
          show (if _ then _ else _ : Nrf52.Peripheral).vectorClaimed = _
          split <;> exact hp
  | eager p | rtl872x p | twdt p | unfaithful p => rfl

/-- What is turned away reaches neither the hardware nor the books. -/
theorem init_of_refusal {device : Device} {driver : Driver} {c : Record.Config}
    {why : Refusal} (hwhy : device.profile.refusal? driver.state c = some why) :
    device.serve (.init c) driver =
      ⟨.error why.cause, driver, device, [], [], why.log device.profile c⟩ := by
  cases device with
  | nrf52 p =>
      exact congrArg (served nrf52 .nrf52)
        (Nrf52.init_of_refusal (r := { driver, hardware := p }) hwhy)
  | eager p =>
      exact congrArg (served eager .nrf52)
        (Nrf52.init_of_refusal (r := { driver, hardware := p }) hwhy)
  | rtl872x p =>
      exact congrArg (served rtl872x .rtl872x)
        (Rtl872x.init_of_refusal (r := { driver, hardware := p }) hwhy)
  | twdt p =>
      exact congrArg (served twdt .twdt)
        (Twdt.init_of_refusal (r := { driver, hardware := p }) hwhy)
  | unfaithful p =>
      exact congrArg (served unfaithful .twdt)
        (Twdt.init_of_refusal (r := { driver, hardware := p }) hwhy)

end Device

end TwoTierWatchdog
