import Mathlib.Order.Bounds.Basic
import TwoTierWatchdog.Proofs.Nrf52.Reload
import TwoTierWatchdog.Proofs.Period

/-!
# Milliseconds and reload values

A tick is shorter than a millisecond. So of all reload values the one that is chosen for
a period is the least that covers it, rounding its period down gives the request back,
and longer requests get greater values. The least value that the register takes never
comes in: a millisecond is more ticks than that.
-/

namespace TwoTierWatchdog.Nrf52

variable {ms crv : UInt32}

/-- The period of a reload value, in words that hold every step of it. -/
theorem toNat_millisForCrv (crv : UInt32) :
    (ticks crv * 1000).toNat = (crv.toNat + 1) * 1000 ∧
      (millisForCrv crv).toNat = (crv.toNat + 1) * 1000 / 32768 := by
  have hlt := crv.toNat_lt
  have hticks := toNat_ticks crv
  refine ⟨?_, ?_⟩
  · rw [UInt64.toNat_mul, hticks]
    exact Nat.mod_eq_of_lt (by show _ * 1000 < _; omega)
  · have hfloor := Ticks.toNat_toMillisFloor clockHz (show (ticks crv).toNat * 1000 < _ by omega)
    have hhz : clockHz.toNat = 32768 := rfl
    rw [hticks, hhz] at hfloor
    rw [millisForCrv, UInt64.toNat_toUInt32, hfloor]
    omega

theorem crvForMillis?_eq_some_iff :
    crvForMillis? ms = some crv ↔
      1 ≤ ms.toNat ∧ ms.toNat ≤ 131072000 ∧
        crv.toNat + 1 = (ms.toNat * 32768 + 999) / 1000 := by
  have hhz : clockHz.toNat = 32768 := rfl
  have hwanted := Ticks.toNat_ofMillisCeil ms (show clockHz.toNat ≤ _ by rw [hhz]; omega)
  rw [hhz] at hwanted
  unfold crvForMillis?
  dsimp only
  generalize Ticks.ofMillisCeil ms clockHz = wanted at hwanted
  split
  · next hunfit =>
      refine ⟨nofun, fun ⟨hpos, hmax, hcrv⟩ => ?_⟩
      exact absurd hunfit (wanted_fits.mpr ⟨by omega, by omega⟩)
  · next hfit =>
      obtain ⟨hpos, hmax⟩ := wanted_fits.mp hfit
      have hone : (1 : UInt64) ≤ wanted := by
        rw [UInt64.le_iff_toNat_le, UInt64.toNat_one]
        omega
      have hmin : crvMin.toNat = 15 := rfl
      have hms : 1 ≤ ms.toNat := by omega
      -- a millisecond is 33 ticks, so the least value of the register is never the greater
      have hcrv : (max (wanted - 1).toUInt32 crvMin).toNat + 1 = wanted.toNat := by
        rw [toNat_max, UInt64.toNat_toUInt32, UInt64.toNat_sub_of_le _ _ hone,
          UInt64.toNat_one, hmin, Nat.mod_eq_of_lt (by omega)]
        omega
      rw [Option.some_inj]
      refine ⟨fun h => ?_, fun ⟨_, _, h⟩ => ?_⟩
      · rw [← h]
        omega
      · rw [← UInt32.toNat_inj]
        omega

/-- The reload values that the register takes and whose exact period covers a request. -/
def covering (ms : UInt32) : Set UInt32 :=
  { crv | crvMin ≤ crv ∧ crv ≤ crvMax ∧ Ticks.Cover ms (crv.toNat + 1) clockHz }

theorem mem_covering (crv : UInt32) :
    crv ∈ covering ms ↔ 15 ≤ crv.toNat ∧ ms.toNat * 32768 ≤ (crv.toNat + 1) * 1000 := by
  have hmax : crv ≤ crvMax := UInt32.le_iff_toNat_le.mpr (Nat.le_of_lt_succ crv.toNat_lt)
  have hmin : crvMin ≤ crv ↔ 15 ≤ crv.toNat := UInt32.le_iff_toNat_le
  have hcover : Ticks.Cover ms (crv.toNat + 1) clockHz ↔
      ms.toNat * 32768 ≤ (crv.toNat + 1) * 1000 := Ticks.cover_iff (by decide)
  simp only [covering, Set.mem_ofPred_eq, hmin, hmax, hcover, true_and]

theorem isLeast_crvForMillis? (h : crvForMillis? ms = some crv) :
    IsLeast (covering ms) crv := by
  obtain ⟨hpos, hmax, hcrv⟩ := crvForMillis?_eq_some_iff.mp h
  refine ⟨(mem_covering crv).mpr ⟨by omega, by omega⟩, fun other hother => ?_⟩
  have := ((mem_covering other).mp hother).2
  exact UInt32.le_iff_toNat_le.mpr (by omega)

theorem millisForCrv_of_crvForMillis? (h : crvForMillis? ms = some crv) :
    millisForCrv crv = ms := by
  obtain ⟨hpos, hmax, hcrv⟩ := crvForMillis?_eq_some_iff.mp h
  rw [← UInt32.toNat_inj, (toNat_millisForCrv crv).2]
  omega

theorem crvForMillis?_isSome_iff :
    (crvForMillis? ms).isSome = true ↔ minTimeoutMs ≤ ms ∧ ms ≤ maxTimeoutMs := by
  have hmin : minTimeoutMs.toNat = 1 := by decide
  have hmax : maxTimeoutMs.toNat = 131072000 := by decide
  rw [UInt32.le_iff_toNat_le, UInt32.le_iff_toNat_le, hmin, hmax]
  constructor
  · intro h
    obtain ⟨crv, hcrv⟩ := Option.isSome_iff_exists.mp h
    obtain ⟨h1, h2, -⟩ := crvForMillis?_eq_some_iff.mp hcrv
    exact ⟨h1, h2⟩
  · intro ⟨h1, h2⟩
    have hne : ms ≠ 0 := by
      intro h0
      rw [h0] at h1
      exact absurd h1 (by decide)
    obtain ⟨crv, hcrv⟩ :=
      crvForMillis?_of_le hne (UInt32.le_iff_toNat_le.mpr (by rw [hmax]; exact h2))
    exact Option.isSome_iff_exists.mpr ⟨crv, hcrv⟩

/-- There is a reload value for exactly the periods between the bounds. It is the least
that covers the period, lasts that many whole milliseconds, and grows with the period.
The way back is exact for every register value, and the two ways are adjoint. -/
theorem reload_value_is_least :
    (∀ ms, (crvForMillis? ms).isSome = true ↔ minTimeoutMs ≤ ms ∧ ms ≤ maxTimeoutMs) ∧
    (∀ ms crv, crvForMillis? ms = some crv →
      IsLeast (covering ms) crv ∧ millisForCrv crv = ms) ∧
    (∀ ms ms' crv crv', crvForMillis? ms = some crv → crvForMillis? ms' = some crv' →
      ms < ms' → crv < crv') ∧
    (∀ crv, (ticks crv).toNat = crv.toNat + 1 ∧
      (ticks crv * 1000).toNat = (crv.toNat + 1) * 1000 ∧
      (millisForCrv crv).toNat = (crv.toNat + 1) * 1000 / 32768) ∧
    ∀ ms least crv, crvForMillis? ms = some least → crvMin ≤ crv →
      (ms ≤ millisForCrv crv ↔ least ≤ crv) := by
  refine ⟨fun ms => crvForMillis?_isSome_iff, fun ms crv h => ?_,
    fun ms ms' crv crv' h h' hlt => ?_, fun crv => ?_, fun ms least crv h _ => ?_⟩
  · exact ⟨isLeast_crvForMillis? h, millisForCrv_of_crvForMillis? h⟩
  · have hcrv := (crvForMillis?_eq_some_iff.mp h).2.2
    have hcrv' := (crvForMillis?_eq_some_iff.mp h').2.2
    rw [UInt32.lt_iff_toNat_lt] at hlt ⊢
    omega
  · exact ⟨toNat_ticks crv, toNat_millisForCrv crv⟩
  · have hleast := (crvForMillis?_eq_some_iff.mp h).2.2
    rw [UInt32.le_iff_toNat_le, UInt32.le_iff_toNat_le, (toNat_millisForCrv crv).2]
    omega

/-- The longest period takes the last register value, and the one before it is too
short. -/
theorem last_reload_value_is_needed :
    crvForMillis? maxTimeoutMs = some crvMax ∧ IsLeast (covering maxTimeoutMs) crvMax ∧
      millisForCrv crvMax = maxTimeoutMs ∧ ¬ maxTimeoutMs ≤ millisForCrv (crvMax - 1) := by
  obtain ⟨-, hleast, -, -, hadjoint⟩ := reload_value_is_least
  have hcrv : crvForMillis? maxTimeoutMs = some crvMax := by decide
  obtain ⟨hmin, hround⟩ := hleast _ _ hcrv
  refine ⟨hcrv, hmin, hround, fun hlong => ?_⟩
  have hle := (hadjoint _ _ _ hcrv (by decide)).mp hlong
  exact absurd hle (by decide)

end TwoTierWatchdog.Nrf52
