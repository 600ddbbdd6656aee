import Mathlib.Algebra.Order.Field.Basic
import Mathlib.Algebra.Order.Ring.Rat
import Mathlib.Data.Nat.Cast.Order.Ring
import Mathlib.Order.Bounds.Basic
import TwoTierWatchdog.Proofs.Ticks

/-!
# Periods in exact time

How long some ticks last is a rational number of seconds. A period covers a request if it
lasts at least as long, and nothing is rounded to say so. Each rounding answers a question
about exact time with a whole number. A request is rounded up to the fewest ticks that
cover it. Ticks are rounded down to the longest request that they cover, and up to the
fewest milliseconds that they do not outlast.

That is so for every clock, as long as the products that are divided are words. Rounding
requests up and ticks down are adjoint, and so a request that is turned into ticks and back
is never shortened. If ticks are no longer than a millisecond it comes back as it was. The
ticks of a slower clock that cover 999 ms last a whole second.
-/

namespace TwoTierWatchdog.Ticks

/-- Ticks of an `hz` clock last at least `ms` milliseconds. -/
def Cover (ms : UInt32) (ticks : Nat) (hz : UInt64) : Prop :=
  (ms.toNat : ℚ) / 1000 ≤ (ticks : ℚ) / hz.toNat

/-- Ticks of an `hz` clock last at most `ms` milliseconds. -/
def Within (ticks : Nat) (ms : ℤ) (hz : UInt64) : Prop :=
  (ticks : ℚ) / hz.toNat ≤ (ms : ℚ) / 1000

section

variable {ms : UInt32} {ticks : Nat} {hz : UInt64}

theorem cover_iff (hpos : 0 < hz.toNat) :
    Cover ms ticks hz ↔ ms.toNat * hz.toNat ≤ ticks * 1000 := by
  have hhz : (0 : ℚ) < hz.toNat := Nat.cast_pos.mpr hpos
  unfold Cover
  rw [div_le_div_iff₀ (by norm_num) hhz]
  exact_mod_cast Iff.rfl

theorem cover_iff_ofMillisCeil_le (hpos : 0 < hz.toNat) (hfits : Fits ms.toUInt64 hz) :
    Cover ms ticks hz ↔ (ofMillisCeil ms hz).toNat ≤ ticks := by
  rw [cover_iff hpos, hfits.ofMillisCeil_le_iff]

theorem cover_iff_le_floor (hpos : 0 < hz.toNat) :
    Cover ms ticks hz ↔ ms.toNat ≤ ticks * 1000 / hz.toNat := by
  rw [cover_iff hpos, Nat.le_div_iff_mul_le hpos]

theorem within_iff (hpos : 0 < hz.toNat) {n : ℤ} :
    Within ticks n hz ↔ (ticks * 1000 : ℤ) ≤ n * hz.toNat := by
  have hhz : (0 : ℚ) < hz.toNat := Nat.cast_pos.mpr hpos
  unfold Within
  rw [div_le_div_iff₀ hhz (by norm_num)]
  exact_mod_cast Iff.rfl

end

variable {ms : UInt32} {ticks hz : UInt64}

theorem toNat_toMillisFloor (hz : UInt64) (h : Fits ticks 1000) :
    (toMillisFloor ticks hz).toNat = ticks.toNat * 1000 / hz.toNat := by
  rw [toMillisFloor, UInt64.toNat_div, h.toNat_mul]
  rfl

theorem toMillisCeil_le_iff (hpos : 0 < hz.toNat) (h : Fits ticks 1000) {n : Nat} :
    (toMillisCeil ticks hz).toNat ≤ n ↔ ticks.toNat * 1000 ≤ n * hz.toNat := by
  rw [toMillisCeil, divCeil_le_iff _ (Nat.ne_of_gt hpos), h.toNat_mul]
  exact Iff.rfl

/-- No ticks last at most a negative time, so the least whole number is a natural one. -/
theorem isLeast_toMillisCeil (hpos : 0 < hz.toNat) (h : Fits ticks 1000) :
    IsLeast { n : ℤ | Within ticks.toNat n hz } (toMillisCeil ticks hz).toNat := by
  constructor
  · have hle := (toMillisCeil_le_iff hpos h).mp (Nat.le_refl _)
    rw [Set.mem_ofPred_eq, within_iff hpos]
    exact_mod_cast hle
  · intro n hn
    have hle := (within_iff hpos).mp hn
    have hn0 : 0 ≤ n := by
      by_contra hneg
      have hlt : n * hz.toNat < 0 :=
        mul_neg_of_neg_of_pos (by omega) (by exact_mod_cast hpos)
      omega
    obtain ⟨m, rfl⟩ := Int.eq_ofNat_of_zero_le hn0
    have hle' : ticks.toNat * 1000 ≤ m * hz.toNat := by exact_mod_cast hle
    exact_mod_cast (toMillisCeil_le_iff hpos h).mpr hle'

/-- What is rounded down and what is rounded up are the same, or neighbours. -/
theorem toMillisFloor_le_toMillisCeil (hpos : 0 < hz.toNat) (h : Fits ticks 1000) :
    (toMillisFloor ticks hz).toNat ≤ (toMillisCeil ticks hz).toNat ∧
      (toMillisCeil ticks hz).toNat ≤ (toMillisFloor ticks hz).toNat + 1 := by
  have hceil := (toMillisCeil_le_iff hpos h).mp (Nat.le_refl _)
  rw [toNat_toMillisFloor hz h, toMillisCeil_le_iff hpos h]
  constructor
  · rw [Nat.mul_comm _ hz.toNat] at hceil
    exact Nat.div_le_of_le_mul hceil
  · rw [Nat.mul_comm _ hz.toNat]
    exact Nat.le_of_lt (Nat.lt_mul_div_succ _ hpos)

/-- Rounding requests up and ticks down are adjoint. -/
theorem ofMillisCeil_le_iff (hpos : 0 < hz.toNat) (hms : Fits ms.toUInt64 hz)
    (hticks : Fits ticks 1000) :
    ofMillisCeil ms hz ≤ ticks ↔ ms.toUInt64 ≤ toMillisFloor ticks hz := by
  rw [UInt64.le_iff_toNat_le, UInt64.le_iff_toNat_le, toNat_toMillisFloor hz hticks,
    UInt32.toNat_toUInt64, ← cover_iff_le_floor hpos, cover_iff_ofMillisCeil_le hpos hms]

theorem ofMillisCeil_mono {ms ms' : UInt32} (hle : ms ≤ ms') (h : Fits ms'.toUInt64 hz) :
    ofMillisCeil ms hz ≤ ofMillisCeil ms' hz := by
  have hms : ms.toNat ≤ ms'.toNat := UInt32.le_iff_toNat_le.mp hle
  have hfits : Fits ms.toUInt64 hz :=
    h.of_le (UInt64.le_iff_toNat_le.mpr (by rwa [UInt32.toNat_toUInt64, UInt32.toNat_toUInt64]))
  rw [UInt64.le_iff_toNat_le, hfits.ofMillisCeil_le_iff]
  exact Nat.le_trans (Nat.mul_le_mul_right _ hms) (h.ofMillisCeil_le_iff.mp (Nat.le_refl _))

theorem toMillisFloor_mono {ticks ticks' : UInt64} (hle : ticks ≤ ticks')
    (h : Fits ticks' 1000) : toMillisFloor ticks hz ≤ toMillisFloor ticks' hz := by
  rw [UInt64.le_iff_toNat_le, toNat_toMillisFloor hz (h.of_le hle), toNat_toMillisFloor hz h]
  exact Nat.div_le_div_right (Nat.mul_le_mul_right _ (UInt64.le_iff_toNat_le.mp hle))

theorem toMillisCeil_mono (hpos : 0 < hz.toNat) {ticks ticks' : UInt64} (hle : ticks ≤ ticks')
    (h : Fits ticks' 1000) : toMillisCeil ticks hz ≤ toMillisCeil ticks' hz := by
  rw [UInt64.le_iff_toNat_le, toMillisCeil_le_iff hpos (h.of_le hle)]
  exact Nat.le_trans (Nat.mul_le_mul_right _ (UInt64.le_iff_toNat_le.mp hle))
    ((toMillisCeil_le_iff hpos h).mp (Nat.le_refl _))

/-! ## There and back -/

/-- Ticks no longer than a millisecond: the fewest that cover a request end before the next
millisecond does. -/
theorem toMillisFloor_ofMillisCeil (hhz : 1000 ≤ hz.toNat) (hms : Fits ms.toUInt64 hz)
    (hticks : Fits (ofMillisCeil ms hz) 1000) :
    toMillisFloor (ofMillisCeil ms hz) hz = ms.toUInt64 := by
  have hpos : 0 < hz.toNat := by omega
  have hcover := (ofMillisCeil_le_iff hpos hms hticks).mp (UInt64.le_refl _)
  have hleast : (ofMillisCeil ms hz).toNat * 1000 < (ms.toNat + 1) * hz.toNat := by
    have hshort := hms.ofMillisCeil_le_iff (n := (ofMillisCeil ms hz).toNat - 1)
    rw [Nat.add_mul, Nat.one_mul]
    omega
  refine UInt64.le_antisymm ?_ hcover
  rw [UInt64.le_iff_toNat_le, toNat_toMillisFloor hz hticks, UInt32.toNat_toUInt64]
  exact Nat.le_of_lt_succ ((Nat.div_lt_iff_lt_mul hpos).mpr hleast)

/-- Ticks longer than a millisecond: it takes all those of a second to cover 999 ms. -/
theorem toMillisFloor_ofMillisCeil_of_slow (hpos : 0 < hz.toNat) (hhz : hz.toNat < 1000) :
    ofMillisCeil 999 hz = hz ∧ Fits hz 1000 ∧ (toMillisFloor hz hz).toNat = 1000 := by
  have hticks := toNat_ofMillisCeil 999 (show hz.toNat ≤ 0x100000000 by omega)
  have hms : (999 : UInt32).toNat = 999 := rfl
  have hfits : Fits hz 1000 := by
    show hz.toNat * 1000 < _
    omega
  refine ⟨?_, hfits, ?_⟩
  · rw [hms] at hticks
    rw [← UInt64.toNat_inj]
    omega
  · rw [toNat_toMillisFloor hz hfits, Nat.mul_comm, Nat.mul_div_cancel _ hpos]

/-- For every clock, and wherever no product is too long for a word. Rounding requests up
to ticks and ticks down to milliseconds are adjoint, and it is exact time that they are
adjoint through. Ticks rounded up to milliseconds are the least whole number that is not
shorter, and at most one more than what they are rounded down to. All three grow with what
is rounded. A request comes back no shorter, and every request comes back as it was if and
only if the clock ticks a thousand times a second or more. -/
theorem conversions_are_adjoint (hz : UInt64) (hpos : 0 < hz) :
    (∀ (ms : UInt32) (ticks : UInt64), Fits ms.toUInt64 hz → Fits ticks 1000 →
      (ofMillisCeil ms hz ≤ ticks ↔ ms.toUInt64 ≤ toMillisFloor ticks hz) ∧
      (ofMillisCeil ms hz ≤ ticks ↔ Cover ms ticks.toNat hz)) ∧
    (∀ ticks : UInt64, Fits ticks 1000 →
      IsLeast { n : ℤ | Within ticks.toNat n hz } (toMillisCeil ticks hz).toNat ∧
      (toMillisFloor ticks hz).toNat ≤ (toMillisCeil ticks hz).toNat ∧
      (toMillisCeil ticks hz).toNat ≤ (toMillisFloor ticks hz).toNat + 1) ∧
    (∀ ms ms' : UInt32, ms ≤ ms' → Fits ms'.toUInt64 hz →
      ofMillisCeil ms hz ≤ ofMillisCeil ms' hz) ∧
    (∀ ticks ticks' : UInt64, ticks ≤ ticks' → Fits ticks' 1000 →
      toMillisFloor ticks hz ≤ toMillisFloor ticks' hz ∧
      toMillisCeil ticks hz ≤ toMillisCeil ticks' hz) ∧
    (∀ ms : UInt32, Fits ms.toUInt64 hz → Fits (ofMillisCeil ms hz) 1000 →
      ms.toUInt64 ≤ toMillisFloor (ofMillisCeil ms hz) hz) ∧
    (1000 ≤ hz ↔ ∀ ms : UInt32, Fits ms.toUInt64 hz → Fits (ofMillisCeil ms hz) 1000 →
      toMillisFloor (ofMillisCeil ms hz) hz = ms.toUInt64) := by
  have hpos' : 0 < hz.toNat := UInt64.lt_iff_toNat_lt.mp hpos
  refine ⟨fun ms ticks hms hticks => ⟨ofMillisCeil_le_iff hpos' hms hticks, ?_⟩,
    fun ticks hticks => ⟨isLeast_toMillisCeil hpos' hticks,
      toMillisFloor_le_toMillisCeil hpos' hticks⟩,
    fun ms ms' => ofMillisCeil_mono, fun ticks ticks' hle hticks =>
      ⟨toMillisFloor_mono hle hticks, toMillisCeil_mono hpos' hle hticks⟩,
    fun ms hms hticks => (ofMillisCeil_le_iff hpos' hms hticks).mp (UInt64.le_refl _), ?_⟩
  · rw [UInt64.le_iff_toNat_le, cover_iff_ofMillisCeil_le hpos' hms]
  · constructor
    · intro hhz ms hms hticks
      exact toMillisFloor_ofMillisCeil (UInt64.le_iff_toNat_le.mp hhz) hms hticks
    · intro hback
      by_contra hslow
      have hlt : hz.toNat < 1000 := by
        have hle := mt UInt64.le_iff_toNat_le.mpr hslow
        exact Nat.not_le.mp hle
      obtain ⟨hticks, hfits, hsecond⟩ := toMillisFloor_ofMillisCeil_of_slow hpos' hlt
      have hsame := hback 999 (fits_of_le 999 (by omega)) (by rwa [hticks])
      rw [hticks] at hsame
      rw [hsame] at hsecond
      exact absurd hsecond (by decide)

/-- The longest request, on a clock so fast that the product is nearly too long for a
word. -/
theorem longest_request_comes_back :
    let hz : UInt64 := 0x100000000
    let ms : UInt32 := 0xFFFFFFFF
    0 < hz ∧ Fits ms.toUInt64 hz ∧ Fits (ofMillisCeil ms hz) 1000 ∧
      ofMillisCeil ms hz ≤ 18446744069414585 ∧
      toMillisFloor (ofMillisCeil ms hz) hz = ms.toUInt64 := by
  intro hz ms
  have hms : Fits ms.toUInt64 hz := by decide
  have hticks : Fits (ofMillisCeil ms hz) 1000 := by decide
  have hpos : 0 < hz := by decide
  obtain ⟨hadjoint, -, -, -, -, hback⟩ := conversions_are_adjoint hz hpos
  refine ⟨hpos, hms, hticks, ?_, hback.mp (by decide) ms hms hticks⟩
  exact (hadjoint ms _ hms (by decide)).1.mpr (by decide)

end TwoTierWatchdog.Ticks
