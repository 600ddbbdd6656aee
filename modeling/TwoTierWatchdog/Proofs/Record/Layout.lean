import Mathlib.Algebra.Group.Nat.Defs
import Mathlib.Data.List.GetD
import TwoTierWatchdog.Record.Layout

/-!
# What the bytes of a record say

A word is written with its low byte first and read back as it was written. Of a record of
another version a reader takes the declared bytes as far as its own layout goes and has
its defaults for the rest. What that makes of a field is said here once for words and
flags: a field that lies on one side of the last declared byte is read from there whole.
-/

namespace TwoTierWatchdog.Record

/-- The number in the first two bytes, the low one first. -/
def declared (buffer : List UInt8) : Nat :=
  (byteAt buffer 0).toNat + 256 * (byteAt buffer 1).toNat

/-- The declared size is there, covers the header and lies within the buffer. -/
def Accepted (buffer : List UInt8) : Prop :=
  2 ≤ buffer.length ∧ headerLength ≤ declared buffer ∧ declared buffer ≤ buffer.length

instance (buffer : List UInt8) : Decidable (Accepted buffer) :=
  inferInstanceAs (Decidable (_ ∧ _ ∧ _))

/-- A record with another size in its first two bytes. -/
def declaring (size : UInt16) (record : List UInt8) : List UInt8 :=
  bytes16 size ++ record.drop 2

variable {buffer defaults raw raw' : List UInt8} {i n : Nat}

/-- The three ways in which a header is no good. -/
theorem not_accepted_iff : ¬ Accepted buffer ↔
    buffer.length < 2 ∨ declared buffer < 4 ∨ buffer.length < declared buffer := by
  rw [Accepted, headerLength]
  omega

/-! ## Words -/

/-- Numbers that share no bit are put together by addition. -/
theorem or_shiftLeft {low : Nat} (h : low < 2 ^ n) (high : Nat) :
    low ||| high <<< n = low + high * 2 ^ n := by
  rw [Nat.or_comm, ← Nat.shiftLeft_add_eq_or_of_lt h, Nat.shiftLeft_eq, Nat.add_comm]

theorem toNat_word16At (raw : List UInt8) (i : Nat) :
    (word16At raw i).toNat = (byteAt raw i).toNat + 256 * (byteAt raw (i + 1)).toNat := by
  have h0 := (byteAt raw i).toNat_lt
  have h1 := (byteAt raw (i + 1)).toNat_lt
  have hshift : (8 : UInt16).toNat % 16 = 8 := by decide
  simp only [word16At, UInt16.toNat_or, UInt16.toNat_shiftLeft, UInt8.toNat_toUInt16, hshift,
    Nat.shiftLeft_eq]
  rw [Nat.mod_eq_of_lt (by omega), ← Nat.shiftLeft_eq, or_shiftLeft (by omega)]
  omega

theorem toNat_word32At (raw : List UInt8) (i : Nat) :
    (word32At raw i).toNat = (byteAt raw i).toNat + 256 * (byteAt raw (i + 1)).toNat +
      65536 * (byteAt raw (i + 2)).toNat + 16777216 * (byteAt raw (i + 3)).toNat := by
  have h0 := (byteAt raw i).toNat_lt
  have h1 := (byteAt raw (i + 1)).toNat_lt
  have h2 := (byteAt raw (i + 2)).toNat_lt
  have h3 := (byteAt raw (i + 3)).toNat_lt
  have hshift : (8 : UInt32).toNat % 32 = 8 ∧ (16 : UInt32).toNat % 32 = 16 ∧
      (24 : UInt32).toNat % 32 = 24 := by decide
  simp only [word32At, UInt32.toNat_or, UInt32.toNat_shiftLeft, UInt8.toNat_toUInt32,
    hshift.1, hshift.2.1, hshift.2.2, Nat.shiftLeft_eq]
  rw [Nat.mod_eq_of_lt (by omega), Nat.mod_eq_of_lt (by omega), Nat.mod_eq_of_lt (by omega)]
  -- from the low end up, each sum being short of the next byte's place
  simp only [← Nat.shiftLeft_eq]
  rw [or_shiftLeft (n := 8) (by omega), or_shiftLeft (n := 16) (by omega),
    or_shiftLeft (n := 24) (by omega)]
  omega

theorem word16At_eq {w : UInt16} (h0 : byteAt raw i = w.toUInt8)
    (h1 : byteAt raw (i + 1) = (w >>> 8).toUInt8) : word16At raw i = w := by
  have hw := w.toNat_lt
  apply UInt16.toNat_inj.mp
  rw [toNat_word16At, h0, h1]
  simp [Nat.shiftRight_eq_div_pow]
  omega

theorem word32At_eq {w : UInt32} (h0 : byteAt raw i = w.toUInt8)
    (h1 : byteAt raw (i + 1) = (w >>> 8).toUInt8)
    (h2 : byteAt raw (i + 2) = (w >>> 16).toUInt8)
    (h3 : byteAt raw (i + 3) = (w >>> 24).toUInt8) : word32At raw i = w := by
  have hw := w.toNat_lt
  apply UInt32.toNat_inj.mp
  rw [toNat_word32At, h0, h1, h2, h3]
  simp [Nat.shiftRight_eq_div_pow]
  omega

theorem bytes16_word16At (raw : List UInt8) (i : Nat) :
    bytes16 (word16At raw i) = [byteAt raw i, byteAt raw (i + 1)] := by
  have h0 := (byteAt raw i).toNat_lt
  have h1 := (byteAt raw (i + 1)).toNat_lt
  simp only [bytes16, List.cons.injEq, and_true, ← UInt8.toNat_inj]
  simp [toNat_word16At, Nat.shiftRight_eq_div_pow]
  omega

theorem bytes32_word32At (raw : List UInt8) (i : Nat) :
    bytes32 (word32At raw i) =
      [byteAt raw i, byteAt raw (i + 1), byteAt raw (i + 2), byteAt raw (i + 3)] := by
  have h0 := (byteAt raw i).toNat_lt
  have h1 := (byteAt raw (i + 1)).toNat_lt
  have h2 := (byteAt raw (i + 2)).toNat_lt
  have h3 := (byteAt raw (i + 3)).toNat_lt
  simp only [bytes32, List.cons.injEq, and_true, ← UInt8.toNat_inj]
  simp [toNat_word32At, Nat.shiftRight_eq_div_pow]
  omega

theorem byteOfFlag_ne_zero (b : Bool) : (byteOfFlag b != 0) = b := by
  cases b <;> rfl

/-! ## Bytes -/

theorem byteAt_append (a b : List UInt8) (j : Nat) :
    byteAt (a ++ b) j = if j < a.length then byteAt a j else byteAt b (j - a.length) := by
  unfold byteAt
  split
  · next h => exact List.getD_append a b 0 j h
  · next h => exact List.getD_append_right a b 0 j (Nat.not_lt.mp h)

theorem byteAt_drop (a : List UInt8) (j : Nat) : byteAt (a.drop n) j = byteAt a (n + j) := by
  simp [byteAt, List.getD_eq_getElem?_getD]

theorem byteAt_take (a : List UInt8) {j : Nat} (hj : j < n) :
    byteAt (a.take n) j = byteAt a j := by
  simp [byteAt, List.getD_eq_getElem?_getD, hj]

theorem eq_of_byteAt (hlen : raw.length = raw'.length)
    (h : ∀ j < raw.length, byteAt raw j = byteAt raw' j) : raw = raw' := by
  refine List.ext_getElem hlen fun j hj hj' => ?_
  have hbyte := h j hj
  rwa [byteAt, byteAt, List.getD_eq_getElem _ _ hj, List.getD_eq_getElem _ _ hj'] at hbyte

/-- A list is the list of its bytes. -/
theorem eq_map_byteAt (raw : List UInt8) : raw = (List.range raw.length).map (byteAt raw) := by
  refine eq_of_byteAt (by simp) fun j hj => ?_
  have hmap : j < ((List.range raw.length).map (byteAt raw)).length := by simpa using hj
  conv => rhs; rw [byteAt, List.getD_eq_getElem _ _ hmap, List.getElem_map, List.getElem_range]

/-! ## Headers -/

theorem declared_declaring (size : UInt16) (record : List UInt8) :
    declared (declaring size record) = size.toNat := by
  have hword : word16At (declaring size record) 0 = size := word16At_eq rfl rfl
  rw [declared, ← toNat_word16At (declaring size record) 0, hword]

/-- Only the first two bytes say how long a record is. -/
theorem declared_congr (h0 : byteAt raw 0 = byteAt raw' 0) (h1 : byteAt raw 1 = byteAt raw' 1) :
    declared raw = declared raw' := by
  rw [declared, declared, h0, h1]

theorem declaredSize_of_accepted (h : Accepted buffer) :
    declaredSize buffer = .ok (declared buffer) := by
  obtain ⟨htwo, hheader, hwithin⟩ := h
  have hsize : (word16At buffer 0).toNat = declared buffer := toNat_word16At buffer 0
  simp only [declaredSize, hsize]
  exact if_neg (by simp; omega)

theorem declaredSize_of_not (h : ¬ Accepted buffer) :
    declaredSize buffer = .error .invalidArgument := by
  have hsize : (word16At buffer 0).toNat = declared buffer := toNat_word16At buffer 0
  simp only [declaredSize, hsize]
  refine if_pos ?_
  simp only [Accepted] at h
  simp
  omega

theorem overlay_of_accepted (h : Accepted buffer) (defaults : List UInt8) :
    overlay buffer defaults = .ok
      (buffer.take (min (declared buffer) defaults.length) ++
        defaults.drop (min (declared buffer) defaults.length)) := by
  unfold overlay
  rw [declaredSize_of_accepted h]
  rfl

theorem overlay_of_not (h : ¬ Accepted buffer) (defaults : List UInt8) :
    overlay buffer defaults = .error .invalidArgument := by
  unfold overlay
  rw [declaredSize_of_not h]
  rfl

/-! ## Fields -/

/-- Past the size in its first two bytes `raw` has the bytes of `a` up to the `n`th, and
those of `b` from there on. -/
def Overlaid (n : Nat) (a b raw : List UInt8) : Prop :=
  ∀ j, 2 ≤ j → byteAt raw j = if j < n then byteAt a j else byteAt b j

/-- The declared bytes over the defaults. Which bytes they are matters only as far as
they are taken. -/
theorem overlaid_take_drop {a : List UInt8} (hn : n ≤ buffer.length) (defaults : List UInt8)
    (ha : ∀ j, 2 ≤ j → j < n → byteAt buffer j = byteAt a j) :
    Overlaid n a defaults (buffer.take n ++ defaults.drop n) := by
  intro j hj
  have hlen : (buffer.take n).length = n := List.length_take_of_le hn
  rw [byteAt_append, hlen]
  split
  · next hlt => rw [byteAt_take _ hlt, ha j hj hlt]
  · next hge => rw [byteAt_drop, Nat.add_sub_cancel' (Nat.not_lt.mp hge)]

namespace Overlaid

variable {a b : List UInt8}

theorem word16 (h : Overlaid n a b raw) (hi : 2 ≤ i) (hin : i + 2 ≤ n) :
    word16At raw i = word16At a i := by
  have h0 := h i hi
  have h1 := h (i + 1) (by omega)
  rw [if_pos (by omega)] at h0 h1
  rw [word16At, h0, h1, word16At]

theorem word32 (h : Overlaid n a b raw) (hi : 2 ≤ i) (hcut : n ≤ i ∨ i + 4 ≤ n) :
    word32At raw i = if i + 4 ≤ n then word32At a i else word32At b i := by
  have h0 := h i hi
  have h1 := h (i + 1) (by omega)
  have h2 := h (i + 2) (by omega)
  have h3 := h (i + 3) (by omega)
  split
  · next hin =>
      rw [if_pos (by omega)] at h0 h1 h2 h3
      rw [word32At, h0, h1, h2, h3, word32At]
  · next hout =>
      rw [if_neg (by omega)] at h0 h1 h2 h3
      rw [word32At, h0, h1, h2, h3, word32At]

theorem flag (h : Overlaid n a b raw) (hi : 2 ≤ i) :
    flagAt raw i = if i + 1 ≤ n then flagAt a i else flagAt b i := by
  have h0 := h i hi
  split
  · next hin => rw [flagAt, h0, if_pos (by omega), flagAt]
  · next hout => rw [flagAt, h0, if_neg (by omega), flagAt]

end Overlaid

end TwoTierWatchdog.Record
