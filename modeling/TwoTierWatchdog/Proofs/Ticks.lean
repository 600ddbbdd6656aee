import TwoTierWatchdog.Ticks

/-!
# What the tick arithmetic comes to

The conversions as natural numbers. The words are wide enough for every period and
every clock of 32 bits, so nothing here wraps, and the roundings compose to what they
are for: a length that is rounded up to ticks and down to nanoseconds is never short of
the milliseconds that were asked for.
-/

namespace TwoTierWatchdog.Ticks

theorem toNat_max (a b : UInt64) : (max a b).toNat = max a.toNat b.toNat := by
  show (if a ≤ b then b else a).toNat = _
  rw [Nat.max_def]
  simp only [UInt64.le_iff_toNat_le]
  split <;> rfl

theorem toNat_min (a b : UInt64) : (min a b).toNat = min a.toNat b.toNat := by
  show (if a ≤ b then a else b).toNat = _
  rw [Nat.min_def]
  simp only [UInt64.le_iff_toNat_le]
  split <;> rfl

theorem toNat_divCeil (a : UInt64) {b : UInt64} (hb : b.toNat ≠ 0) :
    (divCeil a b).toNat = (a.toNat + (b.toNat - 1)) / b.toNat := by
  have hpos : 0 < b.toNat := Nat.pos_of_ne_zero hb
  have hdiv := Nat.div_add_mod a.toNat b.toNat
  have hlt := Nat.mod_lt a.toNat hpos
  have hmod : a % b = 0 ↔ a.toNat % b.toNat = 0 := by
    rw [← UInt64.toNat_inj, UInt64.toNat_mod]
    rfl
  unfold divCeil
  split
  · next h =>
      rw [hmod] at h
      rw [UInt64.toNat_div]
      conv => rhs; rw [← hdiv, h, Nat.add_zero, Nat.mul_add_div hpos]
      have hzero : (b.toNat - 1) / b.toNat = 0 := Nat.div_eq_of_lt (by omega)
      rw [hzero, Nat.add_zero]
  · next h =>
      rw [hmod] at h
      -- a remainder means a divisor of at least two, so the quotient has room for one more
      have hroom : a.toNat / b.toNat + 1 < 0x10000000000000000 := by
        have h2 : a.toNat / b.toNat ≤ a.toNat / 2 :=
          Nat.div_le_div_left (by omega) (by omega)
        have := a.toNat_lt
        omega
      rw [UInt64.toNat_add, UInt64.toNat_div, UInt64.toNat_one, Nat.mod_eq_of_lt hroom]
      conv => rhs; rw [← hdiv, Nat.add_assoc, Nat.mul_add_div hpos]
      have hone : (a.toNat % b.toNat + (b.toNat - 1)) / b.toNat = 1 :=
        Nat.div_eq_of_lt_le (by omega) (by omega)
      rw [hone]

theorem divCeil_le_iff (a : UInt64) {b : UInt64} (hb : b.toNat ≠ 0) {n : Nat} :
    (divCeil a b).toNat ≤ n ↔ a.toNat ≤ n * b.toNat := by
  rw [toNat_divCeil a hb, Nat.div_le_iff_le_mul_add_pred (Nat.pos_of_ne_zero hb),
    Nat.add_le_add_iff_right, Nat.mul_comm]

theorem le_divCeil_mul (a : UInt64) {b : UInt64} (hb : b.toNat ≠ 0) :
    a.toNat ≤ (divCeil a b).toNat * b.toNat :=
  (divCeil_le_iff a hb).mp (Nat.le_refl _)

/-- The product of two words is a word. -/
def Fits (a b : UInt64) : Prop :=
  a.toNat * b.toNat < 0x10000000000000000

instance (a b : UInt64) : Decidable (Fits a b) :=
  inferInstanceAs (Decidable (_ < _))

theorem Fits.toNat_mul {a b : UInt64} (h : Fits a b) : (a * b).toNat = a.toNat * b.toNat := by
  rw [UInt64.toNat_mul]
  exact Nat.mod_eq_of_lt h

theorem Fits.of_le {a a' b : UInt64} (h : Fits a b) (hle : a' ≤ a) : Fits a' b :=
  Nat.lt_of_le_of_lt (Nat.mul_le_mul_right _ (UInt64.le_iff_toNat_le.mp hle)) h

theorem fits_of_le (ms : UInt32) {hz : UInt64} (hhz : hz.toNat ≤ 0x100000000) :
    Fits ms.toUInt64 hz := by
  have hmul := Nat.mul_le_mul (Nat.le_of_lt_succ ms.toNat_lt) hhz
  rw [Fits, UInt32.toNat_toUInt64]
  omega

theorem Fits.ofMillisCeil_le_iff {ms : UInt32} {hz : UInt64} (h : Fits ms.toUInt64 hz)
    {n : Nat} : (ofMillisCeil ms hz).toNat ≤ n ↔ ms.toNat * hz.toNat ≤ n * 1000 := by
  rw [ofMillisCeil, divCeil_le_iff _ (by decide), h.toNat_mul, UInt32.toNat_toUInt64]
  exact Iff.rfl

theorem toNat_ofMillisCeil (ms : UInt32) {hz : UInt64} (hhz : hz.toNat ≤ 0x100000000) :
    (ofMillisCeil ms hz).toNat = (ms.toNat * hz.toNat + 999) / 1000 := by
  unfold ofMillisCeil
  rw [toNat_divCeil _ (by decide), (fits_of_le ms hhz).toNat_mul, UInt32.toNat_toUInt64]
  rfl

/-- Ticks that cover some milliseconds last at least as long, to the nanosecond. -/
theorem le_toNanos {ms : UInt32} {ticks hz : UInt64} (hhz : 0 < hz.toNat)
    (hle : hz.toNat ≤ 0x100000000) (hcover : (ofMillisCeil ms hz).toNat ≤ ticks.toNat) :
    ms.toNat * 1000000 ≤ toNanos ticks hz := by
  rw [toNat_ofMillisCeil ms hle] at hcover
  have hticks : ms.toNat * hz.toNat ≤ ticks.toNat * 1000 := by omega
  rw [toNanos, Nat.le_div_iff_mul_le hhz]
  calc ms.toNat * 1000000 * hz.toNat
      = ms.toNat * hz.toNat * 1000000 := Nat.mul_right_comm ..
    _ ≤ ticks.toNat * 1000 * 1000000 := Nat.mul_le_mul_right _ hticks
    _ = ticks.toNat * 1000000000 := Nat.mul_assoc ..

end TwoTierWatchdog.Ticks
