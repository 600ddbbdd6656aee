import TwoTierWatchdog.Nrf52.Reload
import TwoTierWatchdog.Proofs.Ticks

/-!
# What the reload value comes to

The counter takes one tick more than the register says. The value chosen for a period
covers it, and there is one for every period that the hardware can count.
-/

namespace TwoTierWatchdog.Nrf52

theorem toNat_ticks (crv : UInt32) : (ticks crv).toNat = crv.toNat + 1 := by
  have hlt := crv.toNat_lt
  rw [ticks, UInt64.toNat_add, UInt32.toNat_toUInt64, UInt64.toNat_one,
    Nat.mod_eq_of_lt (by omega)]

theorem toNat_max (a b : UInt32) : (max a b).toNat = max a.toNat b.toNat := by
  show (if a ≤ b then b else a).toNat = _
  rw [Nat.max_def]
  simp only [UInt32.le_iff_toNat_le]
  split <;> rfl

/-- What is wanted is some ticks, and no more than the register can hold. -/
theorem wanted_fits {wanted : UInt64} :
    ¬ (wanted = 0 || ticks crvMax < wanted) = true ↔
      wanted.toNat ≠ 0 ∧ wanted.toNat ≤ 0x100000000 := by
  have hmax : (ticks crvMax).toNat = 0x100000000 := by decide
  rw [Bool.or_eq_true, not_or, decide_eq_true_eq, decide_eq_true_eq, UInt64.not_lt,
    UInt64.le_iff_toNat_le, hmax, ← UInt64.toNat_inj]
  rfl

theorem crvForMillis?_sound {ms : UInt32} {crv : UInt32} (h : crvForMillis? ms = some crv) :
    (Ticks.ofMillisCeil ms clockHz).toNat ≤ (ticks crv).toNat := by
  unfold crvForMillis? at h
  dsimp only at h
  split at h
  · cases h
  · next hfit =>
      obtain ⟨h0, hle⟩ := wanted_fits.mp hfit
      have hone : (1 : UInt64) ≤ Ticks.ofMillisCeil ms clockHz := by
        rw [UInt64.le_iff_toNat_le, UInt64.toNat_one]
        omega
      have hcrv : (Ticks.ofMillisCeil ms clockHz).toNat - 1 ≤ crv.toNat := by
        rw [← Option.some.inj h, toNat_max, UInt64.toNat_toUInt32,
          UInt64.toNat_sub_of_le _ _ hone, UInt64.toNat_one, Nat.mod_eq_of_lt (by omega)]
        exact Nat.le_max_left ..
      rw [toNat_ticks]
      omega

theorem crvForMillis?_of_le {ms : UInt32} (h0 : ms ≠ 0) (h : ms ≤ maxTimeoutMs) :
    ∃ crv, crvForMillis? ms = some crv := by
  have hms : ms.toNat ≤ 131072000 := by
    have hmax : maxTimeoutMs.toNat = 131072000 := by decide
    rw [← hmax]
    exact UInt32.le_iff_toNat_le.mp h
  have hpos : ms.toNat ≠ 0 := fun hz => h0 (UInt32.toNat_inj.mp hz)
  have hhz : clockHz.toNat = 32768 := by decide
  have hle : clockHz.toNat ≤ 0x100000000 := by
    rw [hhz]
    omega
  have hwanted := Ticks.toNat_ofMillisCeil ms hle
  rw [hhz] at hwanted
  unfold crvForMillis?
  dsimp only
  rw [if_neg (wanted_fits.mpr ⟨by omega, by omega⟩)]
  exact ⟨_, rfl⟩

end TwoTierWatchdog.Nrf52
