import TwoTierWatchdog.Proofs.Json.Skip
import TwoTierWatchdog.Supervisor.Json

/-!
# The values of settings

The value of a setting is read back from the bytes that are written for it, and a policy
from every spelling of its name. Whatever a setting is read from is a whole value: no
reader stops in the middle of one.
-/

namespace TwoTierWatchdog.Supervisor

open Json

/-- The settings as far as they are listed, and the defaults elsewhere. -/
def Settings.only (c : Settings) (fs : List Setting) : Settings :=
  let default : Settings := {}
  { instanceId := if .instanceId ∈ fs then c.instanceId else default.instanceId
    hwTimeoutMs := if .hwTimeoutMs ∈ fs then c.hwTimeoutMs else default.hwTimeoutMs
    hardReset := if .hardReset ∈ fs then c.hardReset else default.hardReset
    appTimeoutMs := if .appTimeoutMs ∈ fs then c.appTimeoutMs else default.appTimeoutMs
    appStackSize := if .appStackSize ∈ fs then c.appStackSize else default.appStackSize
    disposePolicy := if .disposePolicy ∈ fs then c.disposePolicy else default.disposePolicy
    feedIntervalMs := if .feedIntervalMs ∈ fs then c.feedIntervalMs else default.feedIntervalMs }

theorem Settings.only_nil (c : Settings) : c.only [] = {} := by
  simp [Settings.only]

theorem Settings.only_all (c : Settings) : c.only Setting.all = c := by
  simp [Settings.only, Setting.all]

theorem Settings.only_congr (c : Settings) {fs fs' : List Setting}
    (h : ∀ f, f ∈ fs ↔ f ∈ fs') : c.only fs = c.only fs' := by
  simp only [Settings.only, h]

/-- The bytes are a value that a setting has. The name of a policy may be spelled in any
way; there is one way to write each other value. -/
def Setting.Denotes (c : Settings) : Setting → List UInt8 → Prop
  | disposePolicy, v =>
    ∃ s, v = quote :: (s ++ [quote]) ∧ Spells s (policyName c.disposePolicy).toList
  | f, v => v = f.write c

/-! ## Writing -/

theorem wellFormed_digits (n : Nat) : WellFormed (Number.digits n) := by
  have h := WellFormed.number
    ⟨[], Number.digits n, [], [], .inl rfl, Number.digits_isInteger n, .absent, .absent⟩
  simpa [Numeral.bytes] using h

theorem spells_policyName (p : Liveness.DisposePolicy) :
    Spells (ascii (policyName p)) (policyName p).toList :=
  Quoted.spells_ascii (policyName p) (by cases p <;> decide)

theorem Setting.denotes_write (f : Setting) (c : Settings) : f.Denotes c (f.write c) := by
  cases f with
  | disposePolicy => exact ⟨_, rfl, spells_policyName c.disposePolicy⟩
  | _ => rfl

theorem Setting.wellFormed_of_denotes {f : Setting} {c : Settings} {v : List UInt8}
    (h : f.Denotes c v) : WellFormed v := by
  cases f with
  | disposePolicy =>
      obtain ⟨s, rfl, hs⟩ := h
      exact .string (Quoted.quotable_of_spells hs)
  | hardReset =>
      obtain rfl : v = writeFlag c.hardReset := h
      cases c.hardReset with
      | false => exact .false
      | true => exact .true
  | _ =>
      obtain rfl : v = Number.digits _ := h
      exact wellFormed_digits _

/-! ## Reading back -/

theorem readFlag?_writeFlag (b : Bool) (rest : List UInt8) :
    readFlag? (writeFlag b ++ rest) = some (b, rest) := by
  cases b with
  | false => rfl
  | true => rfl

theorem policy?_policyName (p : Liveness.DisposePolicy) :
    policy? (Text.Utf8.bytes (policyName p).toList) = some p := by
  cases p <;> decide

theorem readPolicy?_spells {s : List UInt8} {p : Liveness.DisposePolicy}
    (hs : Spells s (policyName p).toList) (rest : List UInt8) :
    readPolicy? (quote :: (s ++ quote :: rest)) = some (p, rest) := by
  show readPolicyWord? (s ++ quote :: rest) = _
  unfold readPolicyWord?
  rw [Quoted.text?_spells hs]
  simp [policy?_policyName]

/-- A value that a setting has is read into it, and no other setting changes. -/
theorem Setting.read?_of_denotes {f : Setting} {c : Settings} {e : Element}
    (h : f.Denotes c e.value) {rest : List UInt8} (hrest : Ends rest) (fs : List Setting) :
    f.read? (c.only fs) (e.bytes ++ rest) =
      some (c.only (f :: fs), e.behind.bytes ++ rest) := by
  have hend := Number.apart_of_ends (ends_blanks e.behind hrest)
  have hskip : skipBlank (e.bytes ++ rest) = e.value ++ (e.behind.bytes ++ rest) := by
    obtain ⟨b, t, hv, hblank, -⟩ := Skip.first_of_wellFormed (Setting.wellFormed_of_denotes h)
    rw [Element.bytes, hv]
    simp only [List.append_assoc, List.cons_append]
    exact skipBlank_before _ hblank _
  generalize e.behind.bytes ++ rest = rest at hend hskip
  simp only [Setting.read?, hskip]
  cases f with
  | disposePolicy =>
      obtain ⟨s, hv, hs⟩ := h
      rw [hv, List.cons_append, List.append_assoc, List.singleton_append,
        readPolicy?_spells hs]
      simp [Settings.only]
  | hardReset =>
      have hv : e.value = writeFlag c.hardReset := h
      rw [hv, readFlag?_writeFlag]
      simp [Settings.only]
  | instanceId =>
      have hv : e.value = Number.digits c.instanceId.toNat := h
      rw [hv, Number.natural?_digits (UInt8.toNat_lt _) hend]
      simp [Settings.only]
  | appStackSize =>
      have hv : e.value = Number.digits c.appStackSize.toNat := h
      rw [hv, Number.natural?_digits (UInt64.toNat_lt _) hend]
      simp [Settings.only]
  | hwTimeoutMs | appTimeoutMs | feedIntervalMs =>
      have hv : e.value = Number.digits _ := h
      rw [hv, Number.natural?_digits (UInt32.toNat_lt _) hend]
      simp [Settings.only]

/-! ## A setting is read from a whole value -/

theorem scalar?_of_readFlag? {b : Bool} {s rest : List UInt8}
    (h : readFlag? s = some (b, rest)) : Skip.scalar? s = some rest := by
  unfold readFlag? at h
  split at h
  · next s' hs =>
      obtain ⟨-, rfl⟩ := Prod.ext_iff.mp (Option.some.inj h)
      rw [eq_append_of_strip? hs]
      exact strip?_append (ascii "rue") s'
  · next s' _ hs =>
      obtain ⟨-, rfl⟩ := Prod.ext_iff.mp (Option.some.inj h)
      rw [eq_append_of_strip? hs]
      exact strip?_append (ascii "alse") s'
  · cases h

theorem skip?_of_readPolicyWord? {p : Liveness.DisposePolicy} {s rest : List UInt8}
    (h : readPolicyWord? s = some (p, rest)) : Quoted.skip? s = some rest := by
  unfold readPolicyWord? at h
  split at h
  · cases h
  · next text s' htext =>
      obtain ⟨_, _, heq⟩ := Option.map_eq_some_iff.mp h
      obtain ⟨-, rfl⟩ := Prod.ext_iff.mp heq
      exact Quoted.skip?_of_text? htext

theorem endsAt_of_readPolicy? {p : Liveness.DisposePolicy} {s rest : List UInt8}
    (h : readPolicy? s = some (p, rest)) : Skip.EndsAt s rest := by
  unfold readPolicy? at h
  split at h
  · exact .of_scalar? (skip?_of_readPolicyWord? h)
  · next t =>
      simp only [Option.bind_eq_bind, Option.bind_eq_some_iff] at h
      obtain ⟨⟨p', s₂⟩, ⟨s₁, hquote, hword⟩, s₃, hcolon, s₄, hnull, s₅, hbrace, heq⟩ := h
      obtain ⟨-, rfl⟩ := Prod.ext_iff.mp (Option.some.inj heq)
      have hname : Skip.name? t = some s₃ := by
        unfold Skip.name?
        rw [hquote, Option.bind_some, skip?_of_readPolicyWord? hword, Option.bind_some, hcolon]
      have hscalar : Skip.scalar? (skipBlank s₃) = some s₄ := by
        rw [eq_append_of_strip? hnull]
        exact strip?_append (ascii "ull") s₄
      have hclose : skipBlank s₄ = closeBrace :: s₅ := eq_append_of_strip? hbrace
      refine ⟨4, fun steps => ?_⟩
      calc Skip.run (steps + 4) .value [] (openBrace :: t)
          = Skip.run (steps + 3) .value [.object] s₃ := Skip.run_openBrace hname _
        _ = Skip.run (steps + 3) .value [.object] (skipBlank s₃) := (Skip.run_skipBlank _).symm
        _ = Skip.run (steps + 2) .after [.object] s₄ := Skip.run_scalar hscalar _
        _ = Skip.run (steps + 1) .after [] s₅ := Skip.run_closeBrace hclose _
        _ = some s₅ := Skip.run_after_nil steps
  · cases h

theorem Setting.endsAt_of_read? {f : Setting} {c c' : Settings} {s rest : List UInt8}
    (h : f.read? c s = some (c', rest)) : Skip.EndsAt s rest := by
  refine .of_skipBlank ?_
  cases f with
  | disposePolicy =>
      obtain ⟨⟨p, s'⟩, hp, heq⟩ := Option.map_eq_some_iff.mp h
      obtain ⟨-, rfl⟩ := Prod.ext_iff.mp heq
      exact endsAt_of_readPolicy? hp
  | hardReset =>
      obtain ⟨⟨b, s'⟩, hb, heq⟩ := Option.map_eq_some_iff.mp h
      obtain ⟨-, rfl⟩ := Prod.ext_iff.mp heq
      exact .of_scalar? (scalar?_of_readFlag? hb)
  | _ =>
      obtain ⟨⟨n, s'⟩, hn, heq⟩ := Option.map_eq_some_iff.mp h
      obtain ⟨-, rfl⟩ := Prod.ext_iff.mp heq
      exact .of_scalar? (Skip.scalar?_of_natural? hn)

end TwoTierWatchdog.Supervisor
