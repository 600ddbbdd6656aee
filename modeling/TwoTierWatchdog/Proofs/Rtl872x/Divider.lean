import TwoTierWatchdog.Proofs.Ticks
import TwoTierWatchdog.Rtl872x.Divider

/-!
# What the divider search finds

The search tries every span and keeps the divider with the fewest ticks. Two things are
needed of it elsewhere: whatever it finds covers what was wanted, and within the bounds
of the hardware it finds something, because the largest span alone is always enough.
-/

namespace TwoTierWatchdog.Rtl872x.Divider

/-! ## One span -/

theorem span_bounds : ∀ limit < 12,
    1 ≤ (span limit.toUInt8).toNat ∧ (span limit.toUInt8).toNat ≤ 4095 := by
  decide

/-- Prescaler and span are small enough for the product to be exact. -/
theorem toNat_ticks {d : Divider} (h : d.count.toNat ≤ 4095) :
    d.ticks.toNat = (d.divFac.toNat + 1) * d.count.toNat := by
  have hf := d.divFac.toNat_lt
  have hlt : (d.divFac.toNat + 1) * d.count.toNat < 0x10000000000000000 := by
    have := Nat.mul_le_mul (show d.divFac.toNat + 1 ≤ 65536 by omega) h
    omega
  have hsum : (d.divFac.toUInt64 + 1).toNat = d.divFac.toNat + 1 := by
    rw [UInt64.toNat_add, UInt16.toNat_toUInt64, UInt64.toNat_one,
      Nat.mod_eq_of_lt (by omega)]
  rw [ticks, UInt64.toNat_mul, hsum, Nat.mod_eq_of_lt hlt]

/-- The prescaler that a quotient needs, before it is looked at for its range. -/
theorem toNat_prescaler (quotient : UInt64) :
    (max (quotient - min quotient 1) divFacMin.toUInt64).toNat =
      max (quotient.toNat - 1) 1 := by
  have hmin : (min quotient 1).toNat = min quotient.toNat 1 := Ticks.toNat_min quotient 1
  have hsub : (quotient - min quotient 1).toNat = quotient.toNat - 1 := by
    rw [UInt64.toNat_sub_of_le _ _ (by rw [UInt64.le_iff_toNat_le, hmin]; omega), hmin]
    omega
  rw [Ticks.toNat_max, hsub]
  rfl

/-- A divider that covers what is wanted: its prescaler is not that of the reset value,
and its ticks are enough. -/
theorem covering?_sound {wanted : UInt64} {limit : Nat} (hl : limit < 12) {d : Divider}
    (h : covering? wanted limit.toUInt8 = some d) :
    d.divFac ≠ 0 ∧ wanted.toNat ≤ d.ticks.toNat := by
  obtain ⟨hspan, hspan'⟩ := span_bounds limit hl
  have hcover := Ticks.le_divCeil_mul wanted (b := span limit.toUInt8) (by omega)
  unfold covering? at h
  dsimp only at h
  split at h
  · next hfit =>
      have hq := toNat_prescaler (Ticks.divCeil wanted (span limit.toUInt8))
      rw [UInt64.le_iff_toNat_le, hq, UInt16.toNat_toUInt64] at hfit
      have hmax : divFacMax.toNat = 65535 := by decide
      have hfac : d.divFac.toNat =
          max ((Ticks.divCeil wanted (span limit.toUInt8)).toNat - 1) 1 := by
        rw [← Option.some.inj h, UInt64.toNat_toUInt16, hq]
        exact Nat.mod_eq_of_lt (by omega)
      have hcount : d.count = span limit.toUInt8 := by rw [← Option.some.inj h]; rfl
      refine ⟨?_, ?_⟩
      · intro h0
        rw [h0, UInt16.toNat_zero] at hfac
        omega
      · rw [toNat_ticks (by rw [hcount]; exact hspan'), hcount]
        exact Nat.le_trans hcover (Nat.mul_le_mul_right _ (by omega))
  · cases h

/-- The largest span covers whatever fits between the largest prescaler and it. -/
theorem covering?_largest {wanted : UInt64} (h : wanted.toNat ≤ 65536 * 4095) :
    ∃ d, covering? wanted cntLimitMax = some d := by
  have hspan : (span cntLimitMax).toNat = 4095 := by decide
  have hmax : divFacMax.toNat = 65535 := by decide
  have hq := toNat_prescaler (Ticks.divCeil wanted (span cntLimitMax))
  rw [Ticks.toNat_divCeil _ (by omega), hspan] at hq
  unfold covering?
  dsimp only
  rw [if_pos]
  · exact ⟨_, rfl⟩
  · rw [UInt64.le_iff_toNat_le, hq, UInt16.toNat_toUInt64, hmax]
    have : (wanted.toNat + (4095 - 1)) / 4095 ≤ 65536 :=
      Nat.le_of_lt_succ ((Nat.div_lt_iff_lt_mul (by omega)).mpr (by omega))
    omega

/-! ## All spans -/

theorem mem_of_fewestTicks {ds : List Divider} {d : Divider}
    (h : fewestTicks ds = some d) : d ∈ ds := by
  induction ds generalizing d with
  | nil => cases h
  | cons e rest ih =>
      rw [fewestTicks] at h
      split at h
      · exact Option.some.inj h ▸ List.mem_cons_self
      · next best hbest =>
          rw [← Option.some.inj h]
          split
          · exact List.mem_cons_of_mem e (ih hbest)
          · exact List.mem_cons_self

theorem fewestTicks_of_ne_nil {ds : List Divider} (h : ds ≠ []) :
    ∃ d, fewestTicks ds = some d := by
  cases ds with
  | nil => exact absurd rfl h
  | cons e rest => rw [fewestTicks]; split <;> exact ⟨_, rfl⟩

/-- What the search finds is not the reset value, and it lasts long enough. -/
theorem forMillis?_sound {ms : UInt32} {d : Divider} (h : forMillis? ms = some d) :
    d.divFac ≠ 0 ∧ (Ticks.ofMillisCeil ms clockHz).toNat ≤ d.ticks.toNat := by
  unfold forMillis? at h
  split at h
  · cases h
  · obtain ⟨limit, hl, hd⟩ := List.mem_filterMap.mp (mem_of_fewestTicks h)
    exact covering?_sound (List.mem_range.mp hl) hd

theorem forMillis?_of_le {ms : UInt32} (h0 : ms ≠ 0) (h : ms ≤ maxTimeoutMs) :
    ∃ d, forMillis? ms = some d := by
  have hms : ms.toNat ≤ 8190000 := by
    have hmax : maxTimeoutMs.toNat = 8190000 := by decide
    rw [← hmax]
    exact UInt32.le_iff_toNat_le.mp h
  have hhz : clockHz.toNat = 32768 := by decide
  have hwanted : (Ticks.ofMillisCeil ms clockHz).toNat ≤ 65536 * 4095 := by
    rw [Ticks.toNat_ofMillisCeil ms (by rw [hhz]; omega), hhz]
    omega
  obtain ⟨d, hd⟩ := covering?_largest hwanted
  unfold forMillis?
  rw [if_neg h0]
  apply fewestTicks_of_ne_nil
  exact List.ne_nil_of_mem (List.mem_filterMap.mpr ⟨11, by decide, hd⟩)

end TwoTierWatchdog.Rtl872x.Divider
