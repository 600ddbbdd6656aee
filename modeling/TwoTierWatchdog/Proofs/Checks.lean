import TwoTierWatchdog.Driver

/-!
# What the checks make of a requested period

A length of time is rounded up to milliseconds and then looked at: the checks of a new
driver turn it away exactly if it is no time at all, or if the milliseconds are more
than the hardware can count.
-/

namespace TwoTierWatchdog

namespace Duration

theorem toNat_millisCeil (d : Duration) :
    d.millisCeil.toNat = min ((d.nanos + 999999) / 1000000) 0xFFFFFFFF := by
  rw [millisCeil, UInt32.toNat_ofNat']
  exact Nat.mod_eq_of_lt (by omega)

theorem millisCeil_ofMillis (ms : UInt32) : (ofMillis ms.toNat).millisCeil = ms := by
  have := ms.toNat_lt
  rw [← UInt32.toNat_inj, toNat_millisCeil]
  show min ((ms.toNat * 1000000 + 999999) / 1000000) 0xFFFFFFFF = ms.toNat
  omega

theorem millisCeil_eq_zero_iff {d : Duration} : d.millisCeil = 0 ↔ d.nanos = 0 := by
  rw [← UInt32.toNat_inj, toNat_millisCeil, UInt32.toNat_zero]
  omega

theorem nanos_le {d : Duration} {ms : UInt32} (h : d.millisCeil ≤ ms)
    (hms : ms.toNat < 0xFFFFFFFF) : d.nanos ≤ d.millisCeil.toNat * 1000000 := by
  rw [UInt32.le_iff_toNat_le] at h
  rw [toNat_millisCeil] at h ⊢
  omega

end Duration

/-- A driver that has a line gives it to the hardware in the interrupt mode. -/
theorem Driver.lineFor?_of_bound {d : Driver} {line : Interrupt.Line} (h : d.line = some line)
    (config : Record.Config) :
    d.lineFor? config = some (if config.hardReset then none else some line) := by
  rw [Driver.lineFor?, h]
  cases config.hardReset <;> rfl

/-- A line is attached for the interrupt mode and for no other, and it is the driver's. -/
theorem Driver.lineFor?_eq_some {d : Driver} {c : Record.Config}
    {line : Option Interrupt.Line} (h : d.lineFor? c = some line) :
    line.isSome = !c.hardReset ∧
      ∀ before, line.or before = if c.hardReset then before else d.line := by
  unfold lineFor? at h
  cases hmode : c.hardReset with
  | true =>
      rw [hmode, if_pos rfl] at h
      obtain rfl := Option.some.inj h
      exact ⟨rfl, fun _ => rfl⟩
  | false =>
      rw [hmode, if_neg nofun] at h
      obtain ⟨own, hown, rfl⟩ := Option.map_eq_some_iff.mp h
      exact ⟨rfl, fun _ => hown.symm⟩

/-- The configuration that a request asks for. -/
def Request.config? (q : Request) (d : Driver) : Option Record.Config :=
  match q with
  | .init c => some c
  | .setTimeout timeout => some (d.withTimeout timeout)
  | .start | .stop | .refresh => none

namespace Profile

variable {p : Profile} {d : Duration} {hardReset : Bool}

theorem malformed_ofTimeout :
    (Record.Config.ofTimeout d hardReset).Malformed ↔ d.nanos = 0 := by
  rw [← Duration.millisCeil_eq_zero_iff]
  constructor
  · rintro (h | h | h)
    · exact absurd h (by show ¬ 12 < 4; omega)
    · cases h
    · exact h
  · exact fun h => .inr (.inr h)

theorem refusal?_of_le {state : Lifecycle}
    (hstate : state = .uninitialized ∨ p.capabilities.contains .reconfigurable = true)
    (hmin : p.minTimeoutMs = 1)
    (hmode : hardReset = true ∨ p.capabilities.contains .interrupt = true)
    (h0 : d.nanos ≠ 0) (hmax : d.millisCeil ≤ p.maxTimeoutMs) :
    p.refusal? state (.ofTimeout d hardReset) = none := by
  have hlow : ¬ d.millisCeil < 1 := by
    have := mt Duration.millisCeil_eq_zero_iff.mp h0
    rw [← UInt32.toNat_inj] at this
    rw [UInt32.lt_iff_toNat_lt]
    simp at this ⊢
    omega
  have hinterrupt : ¬ (hardReset = false ∧ p.capabilities.contains .interrupt = false) := by
    rintro ⟨hsoft, hnone⟩
    rcases hmode with hm | hm
    · exact absurd (hm.symm.trans hsoft) nofun
    · exact absurd (hm.symm.trans hnone) nofun
  have hfirst : ¬ (state ≠ .uninitialized ∧
      p.capabilities.contains .reconfigurable = false) := fun h =>
    hstate.elim h.1 fun hc => nomatch hc.symm.trans h.2
  unfold refusal?
  rw [if_neg (mt malformed_ofTimeout.mp h0), if_neg hfirst, hmin]
  refine (if_neg ?_).trans (if_neg hinterrupt)
  rintro (h | h)
  · exact hlow h
  · exact UInt32.not_lt.mpr hmax h

theorem refusal?_of_not (h : d.nanos = 0 ∨ p.maxTimeoutMs < d.millisCeil) :
    ∃ why, p.refusal? .uninitialized (.ofTimeout d hardReset) = some why ∧
      why.cause = .invalidArgument := by
  unfold refusal?
  by_cases h0 : d.nanos = 0
  · rw [if_pos (malformed_ofTimeout.mpr h0)]
    exact ⟨_, rfl, rfl⟩
  · rw [if_neg (mt malformed_ofTimeout.mp h0), if_neg (fun h => h.1 rfl),
      if_pos (.inr (h.resolve_left h0))]
    exact ⟨_, rfl, rfl⟩

/-- A configuration that is not turned away is for some period, for one that the hardware
can count, and for a mode that it has. -/
theorem refusal?_eq_none {state : Lifecycle} {c : Record.Config}
    (h : p.refusal? state c = none) :
    c.timeoutMs ≠ 0 ∧ c.timeoutMs ≤ p.maxTimeoutMs ∧
      (state = .uninitialized ∨ p.capabilities.contains .reconfigurable = true) ∧
      (c.hardReset = true ∨ p.capabilities.contains .interrupt = true) := by
  unfold refusal? at h
  split at h
  · cases h
  · next hformed =>
      split at h
      · cases h
      · next hfirst =>
          split at h
          · cases h
          · next hbounds =>
              split at h
              · cases h
              · next hmode =>
                  refine ⟨fun h0 => hformed (.inr (.inr h0)),
                    UInt32.not_lt.mp fun hlong => hbounds (.inr hlong), ?_, ?_⟩
                  · exact (Decidable.not_and_iff_not_or_not.mp hfirst).imp
                      Decidable.not_not.mp eq_true_of_ne_false
                  · exact (Decidable.not_and_iff_not_or_not.mp hmode).imp
                      eq_true_of_ne_false eq_true_of_ne_false

theorem bounds_of_refusal? {state : Lifecycle} {c : Record.Config}
    (h : p.refusal? state c = none) :
    p.minTimeoutMs ≤ c.timeoutMs ∧ c.timeoutMs ≤ p.maxTimeoutMs := by
  unfold refusal? at h
  split at h
  · cases h
  · split at h
    · cases h
    · split at h
      · cases h
      · next hbounds =>
          exact ⟨UInt32.not_lt.mp fun hlow => hbounds (.inl hlow),
            UInt32.not_lt.mp fun hhigh => hbounds (.inr hhigh)⟩

/-- What is turned away for being configured already cannot be configured again. -/
theorem cause_of_refusal? {state : Lifecycle} {c : Record.Config} {why : Refusal}
    (h : p.refusal? state c = some why) (hstate : why.cause = .invalidState) :
    state ≠ .uninitialized ∧ p.capabilities.contains .reconfigurable = false := by
  unfold refusal? at h
  split at h
  · cases h
    cases hstate
  · split at h
    · next hfirst => exact hfirst
    · split at h
      · cases h
        cases hstate
      · split at h
        · cases h
          cases hstate
        · cases h

end Profile

end TwoTierWatchdog
