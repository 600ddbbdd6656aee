import TwoTierWatchdog.Device
import TwoTierWatchdog.Proofs.Nrf52.Books
import TwoTierWatchdog.Proofs.Rtl872x.Books
import TwoTierWatchdog.Proofs.Rtl872x.Mode
import TwoTierWatchdog.Proofs.Rtl872x.Search
import TwoTierWatchdog.Proofs.Twdt.Books

/-!
# The running bit

Whether a counter runs is for the hardware to say, by one bit. To start it is to set the
bit and read it back, so a start that fails has left the bit alone, and the books with
it. To configure an nRF52840 or a task watchdog does not touch the bit either. To
configure an RTL872x does, under a driver whose books say that it runs: the counter is
disabled and enabled again. If the books are wrong, and the counter was off, it is on
afterwards (`Astray`), also if the configuration then fails (`Misled`).
-/

namespace TwoTierWatchdog

/-- How a start ends: it succeeded, and the counter runs, or it failed, and bit and books
are as they were. -/
def Rig.Begun {π κ : Type} (running : π → Bool) (r : Rig π κ) (s : Served π κ) : Prop :=
  s.1 = .ok () ∧ running s.2.hardware = true ∨
    s.1 ≠ .ok () ∧ running s.2.hardware = running r.hardware ∧ s.2.driver = r.driver

namespace Rig

variable {π κ : Type} {running : π → Bool} {r r' : Rig π κ}

theorem begun_done (h : running r'.hardware = true) : r.Begun running r'.done :=
  .inl ⟨rfl, h⟩

theorem begun_fail {e : Error} (h : running r'.hardware = running r.hardware)
    (hd : r'.driver = r.driver) : r.Begun running (r'.fail e) :=
  .inr ⟨nofun, h, hd⟩

end Rig

/-! ## The nRF52840 -/

namespace Nrf52

variable {π : Type} [Interface π]

/-- The only call that touches the bit is the start, which can only set it. -/
def Oneway (π : Type) [Interface π] : Prop :=
  ∀ (c : Command) (p : π),
    Interface.isRunning (Interface.write c p) = Interface.isRunning p ∨
      c = .start ∧ Interface.isRunning (Interface.write c p) = true

theorem oneway_peripheral : Oneway Peripheral := by
  intro c p
  cases c with
  | start =>
      show (if _ then _ else _ : Peripheral).running = _ ∨ _
      split
      · exact .inl rfl
      · next hoff => exact .inr ⟨rfl, (congrArg Peripheral.running (if_neg hoff)).trans rfl⟩
  | setReloadValue | feed =>
      refine .inl ?_
      show (if _ then _ else _ : Peripheral).running = _
      split <;> rfl
  | setBehaviour | enableReloadChannel | enableTimeoutInterrupt => exact .inl rfl

theorem oneway_eager : Oneway Eager := by
  intro c p
  cases c with
  | start => exact .inr ⟨rfl, rfl⟩
  | _ => exact .inl rfl

variable {r : Rig π Command}

theorem running_write (hπ : Oneway π) {c : Command} (hc : c ≠ .start) (r : Rig π Command) :
    Interface.isRunning (write c r).hardware = Interface.isRunning r.hardware :=
  (hπ c r.hardware).resolve_right fun h => hc h.1

theorem running_program (hπ : Oneway π) (crv : UInt32) (line : Option Interrupt.Line)
    (r : Rig π Command) :
    Interface.isRunning (program crv line r).hardware = Interface.isRunning r.hardware := by
  unfold program
  cases line <;> simp only [running_write hπ, ne_eq, reduceCtorEq, not_false_eq_true]

theorem running_init (hπ : Oneway π) (c : Record.Config) (r : Rig π Command) :
    Interface.isRunning (init c r).2.hardware = Interface.isRunning r.hardware := by
  cases init_ways c r with
  | turnedAway away => rw [away.hardware]
  | takes _ _ _ eq => exact eq ▸ running_program hπ _ _ r

theorem begun_launch (hπ : Oneway π) (r : Rig π Command) :
    r.Begun Interface.isRunning (launch r) := by
  cases launch_ways r with
  | starts reads eq => exact eq ▸ Rig.begun_done reads
  | fails reads eq =>
      rw [eq]
      refine Rig.begun_fail ((hπ .start r.hardware).resolve_right fun h => ?_) rfl
      cases reads.symm.trans h.2

theorem begun_start (hπ : Oneway π) (r : Rig π Command) :
    r.Begun Interface.isRunning (start r) := by
  cases start_ways r with
  | unready _ eq => exact eq ▸ Rig.begun_fail rfl rfl
  | runs _ reads eq => exact eq ▸ Rig.begun_done reads
  | launches _ _ eq => exact eq ▸ begun_launch hπ r

theorem state_init (c : Record.Config) (hs : r.driver.state ≠ .running) :
    (init c r).2.driver.state ≠ .running := by
  cases init_ways c r with
  | turnedAway away => rwa [away.driver]
  | takes _ _ _ eq => exact eq ▸ nofun

end Nrf52

/-! ## The RTL872x -/

namespace Rtl872x

variable {r : Rig Peripheral Command}

theorem stuck_write (c : Command) (p : Peripheral) :
    (p.write c).enableStuck = p.enableStuck := by
  cases c with
  | attachInterrupt | refresh => rfl
  | configure =>
      simp only [Peripheral.write]
      split <;> rfl
  | setEnabled =>
      simp only [Peripheral.write]
      split
      · rfl
      · split <;> rfl

theorem enabled_write {c : Command} (hc : ∀ on, c ≠ .setEnabled on) (p : Peripheral) :
    (p.write c).enabled = p.enabled := by
  cases c with
  | attachInterrupt | refresh => rfl
  | configure =>
      simp only [Peripheral.write]
      split <;> rfl
  | setEnabled on => exact absurd rfl (hc on)

theorem enabled_setEnabled (on : Bool) (p : Peripheral) :
    (p.write (.setEnabled on)).enabled = if p.enableStuck then p.enabled else on := by
  simp only [Peripheral.write]
  split
  · rfl
  · split <;> rfl

theorem begun_launch (r : Rig Peripheral Command) :
    r.Begun Peripheral.enabled (launch r) := by
  have hw := enabled_setEnabled true r.hardware
  cases launch_ways r with
  | starts reads eq => exact eq ▸ Rig.begun_done reads
  | fails reads eq =>
      have hstuck : r.hardware.enableStuck = true := Decidable.byContradiction fun hloose =>
        nomatch reads.symm.trans (hw.trans (if_neg hloose))
      exact eq ▸ Rig.begun_fail (hw.trans (if_pos hstuck)) rfl

theorem begun_start (r : Rig Peripheral Command) : r.Begun Peripheral.enabled (start r) := by
  cases start_ways r with
  | unready _ eq => exact eq ▸ Rig.begun_fail rfl rfl
  | runs _ reads eq => exact eq ▸ Rig.begun_done reads
  | launches _ _ eq => exact eq ▸ begun_launch r

theorem stuck_of_traced {r' : Rig Peripheral Command} (h : Traced r r') :
    r'.hardware.enableStuck = r.hardware.enableStuck :=
  h.keeps (P := fun p => p.enableStuck = r.hardware.enableStuck)
    (fun c p hp => (stuck_write c p).trans hp) rfl

/-- A bit that is stuck outlives every call. -/
theorem enabled_of_traced {r' : Rig Peripheral Command} (h : Traced r r')
    (hstuck : r.hardware.enableStuck = true) :
    r'.hardware.enabled = r.hardware.enabled := by
  suffices hkept : r'.hardware.enableStuck = true ∧
      r'.hardware.enabled = r.hardware.enabled from hkept.2
  refine h.keeps (P := fun p => p.enableStuck = true ∧ p.enabled = r.hardware.enabled)
    (fun c p ⟨hs, he⟩ => ⟨(stuck_write c p).trans hs, ?_⟩) ⟨hstuck, rfl⟩
  rw [← he]
  cases c with
  | setEnabled on => exact (enabled_setEnabled on p).trans (if_pos hs)
  | configure divider early => exact enabled_write (c := .configure divider early) nofun p
  | attachInterrupt line => exact enabled_write (c := .attachInterrupt line) nofun p
  | refresh => rfl

/-- A locked register keeps the divider that it has. -/
theorem divider_of_traced {r' : Rig Peripheral Command} (h : Traced r r')
    (hlocked : r.hardware.dividerLocked = true) :
    r'.hardware.divider = r.hardware.divider := by
  suffices hkept : r'.hardware.dividerLocked = true ∧
      r'.hardware.divider = r.hardware.divider from hkept.2
  refine h.keeps (P := fun p => p.dividerLocked = true ∧ p.divider = r.hardware.divider)
    (fun c p ⟨hl, hd⟩ => ?_) ⟨hlocked, rfl⟩
  cases c with
  | configure divider early =>
      rw [show Interface.write (.configure divider early) p = p from if_pos hl]
      exact ⟨hl, hd⟩
  | attachInterrupt | refresh => exact ⟨hl, hd⟩
  | setEnabled on =>
      show (p.write (.setEnabled on)).dividerLocked = _ ∧
        (p.write (.setEnabled on)).divider = _
      simp only [Peripheral.write]
      split
      · exact ⟨hl, hd⟩
      · split <;> exact ⟨hl, hd⟩

theorem enabled_program (divider : Divider) (line : Option Interrupt.Line)
    (r : Rig Peripheral Command) :
    (program divider line false r).hardware.enabled = r.hardware.enabled := by
  have he := enabled_write (c := .configure divider line.isSome) nofun r.hardware
  cases line <;> exact he

/-- A counter that is resumed is on, whether it was or not, unless its bit is stuck. -/
theorem resume_of_loose {t : Rig Peripheral Command}
    (hloose : t.hardware.enableStuck = false)
    (next : Rig Peripheral Command → Served Peripheral Command) :
    let lit := write .refresh (write (.setEnabled true) t)
    lit.hardware.enabled = true ∧ resume t next = next lit := by
  have hon : (write .refresh (write (.setEnabled true) t)).hardware.enabled = true :=
    (enabled_setEnabled true t.hardware).trans (if_neg (Bool.eq_false_iff.mp hloose))
  exact ⟨hon, if_pos hon⟩

theorem forMillis?_of_refusal? {state : Lifecycle} {c : Record.Config}
    (hpass : profile.refusal? state c = none) :
    (Divider.forMillis? c.timeoutMs).isSome :=
  Divider.forMillis?_isSome_iff.mpr (Profile.bounds_of_refusal? hpass)

/-- The driver is about to program a counter of which its books say that it runs, and
nothing keeps it from writing the bit. -/
structure Relights (r : Rig Peripheral Command) (c : Record.Config) : Prop where
  live : r.driver.state = .running
  loose : r.hardware.enableStuck = false
  taken : profile.refusal? .running c = none
  bound : (r.driver.lineFor? c).isSome

/-- The register is locked, on a divider that is not the one for a configuration. -/
def Jammed (c : Record.Config) (p : Peripheral) : Prop :=
  p.dividerLocked = true ∧ Divider.forMillis? c.timeoutMs ≠ some p.divider

instance (c : Record.Config) (p : Peripheral) : Decidable (Jammed c p) :=
  inferInstanceAs (Decidable (_ ∧ _))

variable {c : Record.Config}

theorem readback_program {divider : Divider}
    (hfound : Divider.forMillis? c.timeoutMs = some divider) (line : Option Interrupt.Line)
    (live : Bool) :
    (program divider line live r).hardware.divider = divider ↔ ¬ Jammed c r.hardware := by
  have ht := traced_program r divider line live
  rw [Jammed, hfound]
  constructor
  · rintro hreads ⟨hlocked, hother⟩
    exact hother (congrArg some (hreads.symm.trans (divider_of_traced ht hlocked)))
  · intro hfree
    rcases (programmed_program r divider line live).took with ⟨halike, hlocked⟩ | ⟨htook, -⟩
    · have hsame := Decidable.not_not.mp fun hother =>
        hfree ⟨(locked_of_traced ht).symm.trans hlocked, hother⟩
      exact halike.divider.trans (Option.some.inj hsame).symm
    · exact htook

/-- Such a counter is on afterwards, whether it was or not. The configuration succeeds,
unless the register is jammed. -/
theorem init_of_relights (h : Relights r c) :
    (init c r).2.hardware.enabled = true ∧
      ((init c r).1 = .ok () ∧ (init c r).2.driver.state = .running ∧
          ¬ Jammed c r.hardware ∨
        (init c r).1 = .error .internal ∧ Jammed c r.hardware) := by
  obtain ⟨divider, hdivider⟩ := Option.isSome_iff_exists.mp (forMillis?_of_refusal? h.taken)
  obtain ⟨line, hline⟩ := Option.isSome_iff_exists.mp h.bound
  have ht := traced_program r divider line true
  have hloose := (stuck_of_traced ht).trans h.loose
  have hdriver := (programmed_program r divider line true).driver
  rw [init_eq (h.live.symm ▸ h.taken) hdivider hline]
  simp only [h.live, decide_true]
  split
  · next hreads =>
      unfold commit
      obtain ⟨hon, heq⟩ := resume_of_loose (t := (program divider line true r).enter _) hloose _
      rw [if_pos rfl, heq]
      exact ⟨hon, .inl ⟨rfl, (congrArg Driver.state hdriver).trans h.live,
        (readback_program hdivider line true).mp hreads⟩⟩
  · next hreads =>
      unfold restore
      obtain ⟨hon, heq⟩ := resume_of_loose
        (t := write (.configure _ _) (Rig.note (program divider line true r) _ _))
        ((stuck_write _ _).trans hloose) _
      rw [if_pos rfl, heq]
      exact ⟨hon, .inr ⟨rfl, Decidable.not_not.mp fun hfree =>
        hreads ((readback_program hdivider line true).mpr hfree)⟩⟩

/-- To configure a counter leaves its bit alone, unless the counter is to be turned off and
on for it. -/
theorem enabled_init_of_not (h : ¬ Relights r c) :
    (init c r).2.hardware.enabled = r.hardware.enabled := by
  by_cases hlive : r.driver.state = .running
  · cases hstuck : r.hardware.enableStuck with
    | true => exact enabled_of_traced (traced_init r c) hstuck
    | false =>
        have relights : ∀ {line}, profile.refusal? r.driver.state c = none →
            r.driver.lineFor? c = some line → Relights r c :=
          fun pass bound => ⟨hlive, hstuck, hlive ▸ pass, Option.isSome_of_eq_some bound⟩
        cases init_ways c r with
        | turnedAway away => rw [away.hardware]
        | takes pass _ bound => exact absurd (relights pass bound) h
        | differs pass _ bound => exact absurd (relights pass bound) h
  · cases init_ways c r with
    | turnedAway away => rw [away.hardware]
    | takes _ _ _ _ eq =>
        rw [eq, decide_eq_false hlive]
        exact enabled_program ..
    | differs _ _ _ _ eq =>
        rw [eq, decide_eq_false hlive]
        exact (enabled_write (c := .configure ..) nofun _).trans (enabled_program ..)

theorem state_init (c : Record.Config) (hs : r.driver.state ≠ .running) :
    (init c r).2.driver.state ≠ .running := by
  cases init_ways c r with
  | turnedAway away => rwa [away.driver]
  | takes _ _ _ _ eq =>
      rw [eq, decide_eq_false hs]
      exact nofun
  | @differs divider line _ _ _ _ eq =>
      rw [eq, restore, decide_eq_false hs]
      show (program divider line false r).driver.state ≠ .running
      rwa [(programmed_program r divider line false).driver]

end Rtl872x

/-! ## The task watchdog -/

namespace Twdt

variable {π : Type} [Interface π] {r : Rig π Command}

/-- The only calls that touch the bit are those that subscribe and unsubscribe, and only
if they succeed. -/
def Loyal (π : Type) [Interface π] : Prop :=
  ∀ (c : Command) (p : π),
    Interface.isSubscribed (Interface.write c p).2 = Interface.isSubscribed p ∨
      (Interface.write c p).1 = .ok () ∧ (c = .subscribe ∨ c = .unsubscribe)

theorem loyal_peripheral : Loyal Peripheral := by
  intro c p
  have htake : p.takeFailure.2.subscribed = p.subscribed := by
    unfold Peripheral.takeFailure
    split <;> rfl
  have hact : ∀ q : Peripheral, q.subscribed = p.subscribed →
      (q.act c).2.subscribed = p.subscribed ∨
        (q.act c).1 = .ok () ∧ (c = .subscribe ∨ c = .unsubscribe) := by
    intro q hq
    cases c with
    | reconfigure | attachInterrupt => exact .inl hq
    | reset =>
        simp only [Peripheral.act]
        split <;> exact .inl hq
    | subscribe =>
        simp only [Peripheral.act]
        split
        · exact .inl hq
        · split
          · exact .inl hq
          · exact .inr ⟨rfl, .inl trivial⟩
    | unsubscribe =>
        simp only [Peripheral.act]
        split
        · exact .inr ⟨rfl, .inr trivial⟩
        · exact .inl hq
  show (p.write c).2.subscribed = _ ∨ (p.write c).1 = _ ∧ _
  unfold Peripheral.write
  split
  · exact .inl rfl
  · split
    · next q h => exact .inl ((congrArg (·.2.subscribed) h).symm.trans htake)
    · next q h => exact hact q ((congrArg (·.2.subscribed) h).symm.trans htake)

theorem loyal_unfaithful : Loyal Unfaithful := by
  intro c p
  cases c <;> exact .inl rfl

/-- A call that is not about the subscription keeps the bit if what follows does. -/
theorem subscribed_write (hπ : Loyal π) (name : String) (c : Command)
    (hc : c ≠ .subscribe ∧ c ≠ .unsubscribe) {t : Rig π Command} {b : Bool}
    (h : Interface.isSubscribed t.hardware = b) {next : Rig π Command → Served π Command}
    (hn : ∀ r', Interface.isSubscribed r'.hardware = b →
      Interface.isSubscribed (next r').2.hardware = b) :
    Interface.isSubscribed (write name c t next).2.hardware = b := by
  have hw : Interface.isSubscribed (Interface.write c t.hardware).2 = b :=
    ((hπ c t.hardware).resolve_right fun hs => hs.2.elim hc.1 hc.2).trans h
  cases write_ways name c t next with
  | succeeds acts eq =>
      rw [acts] at hw
      exact eq ▸ hn _ hw
  | fails acts eq =>
      rw [acts] at hw
      exact eq ▸ hw

theorem subscribed_commit (hπ : Loyal π) (c : Record.Config) {r₁ : Rig π Command} {b : Bool}
    (h : Interface.isSubscribed r₁.hardware = b) :
    Interface.isSubscribed (commit c r₁).2.hardware = b := by
  unfold commit
  dsimp only
  split
  · refine subscribed_write (t := r₁.enter _) hπ _ .reset ⟨nofun, nofun⟩ h fun r' h' => ?_
    unfold confirm
    split <;> exact h'
  · exact h

theorem subscribed_init (hπ : Loyal π) (c : Record.Config) (r : Rig π Command) :
    Interface.isSubscribed (init c r).2.hardware = Interface.isSubscribed r.hardware := by
  have hreconfigure : ∀ r' : Rig π Command,
      Interface.isSubscribed r'.hardware = Interface.isSubscribed r.hardware →
      Interface.isSubscribed (reconfigure c r').2.hardware = Interface.isSubscribed r.hardware :=
    fun _ h => subscribed_write hπ _ (.reconfigure ..) ⟨nofun, nofun⟩ h fun _ =>
      subscribed_commit hπ c
  cases init_ways c r with
  | turnedAway away => rw [away.hardware]
  | plain _ _ eq => exact eq ▸ hreconfigure r rfl
  | attaches _ _ eq =>
      exact eq ▸ subscribed_write hπ _ (.attachInterrupt _) ⟨nofun, nofun⟩ rfl hreconfigure

theorem state_write (name : String) (c : Command) {r₁ : Rig π Command}
    (hs : r₁.driver.state ≠ .running) {next : Rig π Command → Served π Command}
    (hn : ∀ r', r'.driver.state ≠ .running → (next r').2.driver.state ≠ .running) :
    (write name c r₁ next).2.driver.state ≠ .running := by
  cases write_ways name c r₁ next with
  | succeeds _ eq => exact eq ▸ hn _ hs
  | fails _ eq => exact eq ▸ hs

theorem state_commit (c : Record.Config) {r₁ : Rig π Command}
    (hs : r₁.driver.state ≠ .running) : (commit c r₁).2.driver.state ≠ .running := by
  unfold commit
  dsimp only
  split
  · next hlive => exact absurd hlive hs
  · exact nofun

theorem state_init (c : Record.Config) (hs : r.driver.state ≠ .running) :
    (init c r).2.driver.state ≠ .running := by
  have hreconfigure : ∀ r' : Rig π Command, r'.driver.state ≠ .running →
      (reconfigure c r').2.driver.state ≠ .running :=
    fun _ hs => state_write _ _ hs fun _ => state_commit c
  cases init_ways c r with
  | turnedAway away => rwa [away.driver]
  | plain _ _ eq => exact eq ▸ hreconfigure r hs
  | attaches _ _ eq => exact eq ▸ state_write _ _ hs hreconfigure

theorem begun_launched {r₁ : Rig π Command} (hd : r₁.driver = r.driver)
    (h : Interface.isSubscribed r.hardware = true →
      Interface.isSubscribed r₁.hardware = true) :
    r.Begun Interface.isSubscribed (launched r₁) := by
  cases launched_ways r₁ with
  | starts reads eq => exact eq ▸ Rig.begun_done reads
  | fails reads eq =>
      have hoff : Interface.isSubscribed r.hardware = false :=
        Bool.eq_false_iff.mpr fun hon => nomatch reads.symm.trans (h hon)
      exact eq ▸ Rig.begun_fail (reads.trans hoff.symm) hd

theorem begun_launch (hπ : Loyal π) (r : Rig π Command) :
    r.Begun Interface.isSubscribed (launch r) := by
  unfold launch
  split
  · exact begun_launched rfl id
  · next hoff =>
      cases write_ways "subscribe" .subscribe r launched with
      | succeeds _ eq => exact eq ▸ begun_launched rfl fun hon => absurd hon hoff
      | fails acts eq =>
          have hkept := (hπ .subscribe r.hardware).resolve_right fun hok => by
            cases (congrArg Prod.fst acts).symm.trans hok.1
          rw [acts] at hkept
          exact eq ▸ Rig.begun_fail hkept rfl

theorem begun_start (hπ : Loyal π) (r : Rig π Command) :
    r.Begun Interface.isSubscribed (start r) := by
  cases start_ways r with
  | unready _ eq => exact eq ▸ Rig.begun_fail rfl rfl
  | runs _ reads eq => exact eq ▸ Rig.begun_done reads
  | launches _ _ eq => exact eq ▸ begun_launch hπ r

end Twdt

/-! ## Any device -/

namespace Device

/-- The books say of an RTL872x that it runs, and it does not: the configuration is about to
turn it on. -/
def Astray (driver : Driver) (c : Record.Config) : Device → Prop
  | rtl872x p => p.enabled = false ∧ Rtl872x.Relights { driver, hardware := p } c
  | _ => False

/-- And then it is about to fail, because the divider is not to be had. -/
def Misled (driver : Driver) (c : Record.Config) : Device → Prop
  | rtl872x p =>
    p.enabled = false ∧ Rtl872x.Relights { driver, hardware := p } c ∧ Rtl872x.Jammed c p
  | _ => False

theorem begun_start (device : Device) (driver : Driver) :
    let begun := device.serve .start driver
    begun.result = .ok () ∧ begun.device.isRunning = true ∨
      begun.result ≠ .ok () ∧ begun.device.isRunning = device.isRunning ∧
        begun.driver = driver := by
  cases device with
  | nrf52 p => exact Nrf52.begun_start Nrf52.oneway_peripheral { driver, hardware := p }
  | eager p => exact Nrf52.begun_start Nrf52.oneway_eager { driver, hardware := p }
  | rtl872x p => exact Rtl872x.begun_start { driver, hardware := p }
  | twdt p => exact Twdt.begun_start Twdt.loyal_peripheral { driver, hardware := p }
  | unfaithful p => exact Twdt.begun_start Twdt.loyal_unfaithful { driver, hardware := p }

/-- Starting what runs already succeeds, and does nothing. -/
theorem start_of_running {device : Device} {driver : Driver} (hs : driver.state = .running)
    (hr : device.isRunning = true) :
    device.serve .start driver = ⟨.ok (), driver, device, [], [], []⟩ := by
  cases device with
  | nrf52 p => exact congrArg (served nrf52 .nrf52) (Nrf52.start_of_running hs hr)
  | eager p => exact congrArg (served eager .nrf52) (Nrf52.start_of_running hs hr)
  | rtl872x p => exact congrArg (served rtl872x .rtl872x) (Rtl872x.start_of_enabled hs hr)
  | twdt p => exact congrArg (served twdt .twdt) (Twdt.start_of_subscribed hs hr)
  | unfaithful p =>
      exact congrArg (served unfaithful .twdt) (Twdt.start_of_subscribed hs hr)

theorem running_init_iff (device : Device) (driver : Driver) (c : Record.Config) :
    (device.serve (.init c) driver).device.isRunning = device.isRunning ↔
      ¬ device.Astray driver c := by
  cases device with
  | nrf52 p => exact iff_of_true (Nrf52.running_init Nrf52.oneway_peripheral c _) id
  | eager p => exact iff_of_true (Nrf52.running_init Nrf52.oneway_eager c _) id
  | twdt p => exact iff_of_true (Twdt.subscribed_init Twdt.loyal_peripheral c _) id
  | unfaithful p => exact iff_of_true (Twdt.subscribed_init Twdt.loyal_unfaithful c _) id
  | rtl872x p =>
      show (Rtl872x.init c { driver, hardware := p }).2.hardware.enabled = p.enabled ↔ _
      by_cases hlit : Rtl872x.Relights { driver, hardware := p } c
      · rw [(Rtl872x.init_of_relights hlit).1]
        constructor
        · exact fun hon hastray => nomatch hon.trans hastray.1
        · exact fun hnot => (eq_true_of_ne_false fun hoff => hnot ⟨hoff, hlit⟩).symm
      · exact iff_of_true (Rtl872x.enabled_init_of_not hlit) fun hastray => hlit hastray.2

/-- What becomes of the bit. It is kept, or else the counter was off and is on afterwards, in
the books, too, if the configuration succeeded. -/
theorem running_init (device : Device) (driver : Driver) (c : Record.Config) :
    let configured := device.serve (.init c) driver
    configured.device.isRunning = device.isRunning ∨
      device.isRunning = false ∧ configured.device.isRunning = true ∧
        (configured.result = .ok () → configured.driver.state = .running) := by
  intro configured
  by_cases hastray : device.Astray driver c
  · cases device with
    | rtl872x p =>
        obtain ⟨hoff, hlit⟩ := hastray
        obtain ⟨hon, ⟨-, hs, -⟩ | ⟨hfailed, -⟩⟩ := Rtl872x.init_of_relights hlit
        · exact .inr ⟨hoff, hon, fun _ => hs⟩
        · exact .inr ⟨hoff, hon, fun hok => nomatch hok.symm.trans hfailed⟩
    | nrf52 | eager | twdt | unfaithful => exact hastray.elim
  · exact .inl ((running_init_iff device driver c).mpr hastray)

/-- A driver is misled exactly if it turns on what was off, and says that it failed. -/
theorem misled_iff (device : Device) (driver : Driver) (c : Record.Config) :
    let configured := device.serve (.init c) driver
    device.Misled driver c ↔ device.isRunning = false ∧
      configured.device.isRunning = true ∧ configured.result ≠ .ok () := by
  intro configured
  constructor
  · intro h
    cases device with
    | rtl872x p =>
        obtain ⟨hoff, hlit, hjam⟩ := h
        obtain ⟨hon, ⟨-, -, hfree⟩ | ⟨hfailed, -⟩⟩ := Rtl872x.init_of_relights hlit
        · exact absurd hjam hfree
        · exact ⟨hoff, hon, fun hok => nomatch hok.symm.trans hfailed⟩
    | nrf52 | eager | twdt | unfaithful => exact h.elim
  · rintro ⟨hoff, hon, hfailed⟩
    have hastray : device.Astray driver c := Classical.not_not.mp fun h =>
      nomatch hon.symm.trans (((running_init_iff device driver c).mpr h).trans hoff)
    cases device with
    | rtl872x p =>
        obtain ⟨-, hlit⟩ := hastray
        obtain ⟨-, ⟨hok, -⟩ | ⟨-, hjam⟩⟩ := Rtl872x.init_of_relights hlit
        · exact absurd hok hfailed
        · exact ⟨hoff, hlit, hjam⟩
    | nrf52 | eager | twdt | unfaithful => exact hastray.elim

/-- A configuration is not a start, in the books either. -/
theorem state_init (device : Device) {driver : Driver} (c : Record.Config)
    (hs : driver.state ≠ .running) :
    (device.serve (.init c) driver).driver.state ≠ .running := by
  cases device with
  | nrf52 p => exact Nrf52.state_init (r := { driver, hardware := p }) c hs
  | eager p => exact Nrf52.state_init (r := { driver, hardware := p }) c hs
  | rtl872x p => exact Rtl872x.state_init (r := { driver, hardware := p }) c hs
  | twdt p => exact Twdt.state_init (r := { driver, hardware := p }) c hs
  | unfaithful p => exact Twdt.state_init (r := { driver, hardware := p }) c hs

end Device

end TwoTierWatchdog
