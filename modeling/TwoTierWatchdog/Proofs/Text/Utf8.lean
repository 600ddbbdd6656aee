import TwoTierWatchdog.Text.Utf8

/-!
# What is encoded is valid

The bytes of a character take the reader from between characters to between characters,
with the character found. So the encoded form of a list of characters has no ill-formed
run. No two lists have the same encoded form.
-/

namespace TwoTierWatchdog.Text.Utf8

/-- The bytes of some characters. -/
def bytes (cs : List Char) : List UInt8 :=
  cs.flatMap String.utf8EncodeChar

@[simp] theorem bytes_nil : bytes [] = [] :=
  rfl

@[simp] theorem bytes_cons (c : Char) (cs : List Char) :
    bytes (c :: cs) = String.utf8EncodeChar c ++ bytes cs :=
  List.flatMap_cons

theorem bytes_inj {cs cs' : List Char} (h : bytes cs = bytes cs') : cs = cs' := by
  have hencode : cs.utf8Encode = cs'.utf8Encode := congrArg List.toByteArray h
  rw [← String.toByteArray_ofList, ← String.toByteArray_ofList, String.toByteArray_inj] at hencode
  simpa using congrArg String.toList hencode

/-! ## The bytes of one character -/

theorem toNat_valid (c : Char) :
    c.toNat < 0xD800 ∨ 0xDFFF < c.toNat ∧ c.toNat < 0x110000 :=
  c.valid

theorem utf8EncodeChar_of_lt {c : Char} (h : c.toNat < 0x80) :
    String.utf8EncodeChar c = [UInt8.ofNat c.toNat] :=
  if_pos (Nat.le_of_lt_succ h)

/-- Past the first 128 code points each byte has its highest bit set. -/
theorem le_of_mem_utf8EncodeChar {c : Char} (h : 0x80 ≤ c.toNat) :
    ∀ b ∈ String.utf8EncodeChar c, 0x80 ≤ b := by
  have hhigh : ∀ n, 0x80 ≤ n → n < 256 → (0x80 : UInt8) ≤ UInt8.ofNat n := by
    intro n hlow hhigh
    rw [UInt8.le_iff_toNat_le, UInt8.toNat_ofNat_of_lt' hhigh]
    exact hlow
  have h : 0x80 ≤ c.val.toNat := h
  unfold String.utf8EncodeChar
  generalize c.val.toNat = v at h
  dsimp only
  rw [if_neg (by omega)]
  intro b hb
  have hb : ∃ n, 0x80 ≤ n ∧ n < 256 ∧ b = UInt8.ofNat n := by
    split at hb
    · simp only [List.mem_cons, List.not_mem_nil, or_false] at hb
      rcases hb with rfl | rfl <;> exact ⟨_, by omega, by omega, rfl⟩
    · split at hb
      · simp only [List.mem_cons, List.not_mem_nil, or_false] at hb
        rcases hb with rfl | rfl | rfl <;> exact ⟨_, by omega, by omega, rfl⟩
      · simp only [List.mem_cons, List.not_mem_nil, or_false] at hb
        rcases hb with rfl | rfl | rfl | rfl <;> exact ⟨_, by omega, by omega, rfl⟩
  obtain ⟨n, hlow, hn, rfl⟩ := hb
  exact hhigh n hlow hn

/-- The bits of the lead and of what continues it do not overlap, so that to combine them
is to add them. -/
theorem encode_toNat (c : Char) : encode c.toNat = String.utf8EncodeChar c := by
  have hlead₂ : ∀ n < 32, 0xC0 ||| n.toUInt8 = UInt8.ofNat (n % 32 + 192) := by decide
  have hlead₃ : ∀ n < 16, 0xE0 ||| n.toUInt8 = UInt8.ofNat (n % 16 + 224) := by decide
  have hlead₄ : ∀ n < 8, 0xF0 ||| n.toUInt8 = UInt8.ofNat (n % 8 + 240) := by decide
  have hnext : ∀ n < 64, 0x80 ||| n.toUInt8 = UInt8.ofNat (n + 128) := by decide
  have hmax : c.val.toNat < 0x110000 := by
    have hvalid : c.val.toNat < 0xD800 ∨ 0xDFFF < c.val.toNat ∧ c.val.toNat < 0x110000 :=
      toNat_valid c
    omega
  have hmod : ∀ n, n % 64 < 64 := fun n => Nat.mod_lt n (by decide)
  show encode c.val.toNat = _
  unfold encode String.utf8EncodeChar
  generalize c.val.toNat = v at hmax
  dsimp only
  by_cases hone : v < 0x80
  · rw [if_pos hone, if_pos (show v ≤ 0x7F by omega)]
  rw [if_neg hone, if_neg (show ¬v ≤ 0x7F by omega)]
  by_cases htwo : v < 0x800
  · rw [if_pos htwo, if_pos (show v ≤ 0x7FF by omega), hlead₂ _ (by omega), hnext _ (hmod v)]
  rw [if_neg htwo, if_neg (show ¬v ≤ 0x7FF by omega)]
  by_cases hthree : v < 0x10000
  · rw [if_pos hthree, if_pos (show v ≤ 0xFFFF by omega), hlead₃ _ (by omega),
      hnext _ (hmod _), hnext _ (hmod v)]
  rw [if_neg hthree, if_neg (show ¬v ≤ 0xFFFF by omega), hlead₄ _ (by omega),
    hnext _ (hmod _), hnext _ (hmod _), hnext _ (hmod v)]

/-! ## The reader over one character -/

/-- A byte that a character under way may take next. -/
def Pending.fits (p : Pending) (b : UInt8) : Bool :=
  p.low ≤ b ∧ b ≤ p.high

theorem next_last {p : Pending} {b : UInt8} (hb : p.fits b) (hp : p.wanted = 1)
    (found : Array (Option Char)) :
    ∃ c, Reader.next { found, pending := some p } b = { found := found.push (some c) } := by
  have hproceed : proceed p b =
      ([some (Char.ofNat (p.value * 64 + (b &&& 0x3F).toNat))], none) := by
    unfold proceed
    rw [if_pos (of_decide_eq_true hb)]
    exact if_pos (Nat.le_of_eq hp)
  refine ⟨Char.ofNat (p.value * 64 + (b &&& 0x3F).toNat), ?_⟩
  simp [Reader.next, hproceed]

theorem next_more {p : Pending} {b : UInt8} (hb : p.fits b) (hp : 1 < p.wanted)
    (found : Array (Option Char)) :
    ∃ value, Reader.next { found, pending := some p } b =
      { found, pending := some ⟨p.wanted - 1, 0x80, 0xBF, value⟩ } := by
  have hproceed : proceed p b =
      ([], some ⟨p.wanted - 1, 0x80, 0xBF, p.value * 64 + (b &&& 0x3F).toNat⟩) := by
    unfold proceed
    rw [if_pos (of_decide_eq_true hb)]
    exact if_neg (Nat.not_le.mpr hp)
  refine ⟨p.value * 64 + (b &&& 0x3F).toNat, ?_⟩
  simp [Reader.next, hproceed]

theorem next_begin {p : Pending} {b : UInt8} (hb : begin b = ([], some p))
    (found : Array (Option Char)) :
    Reader.next { found } b = { found, pending := some p } := by
  simp [Reader.next, hb]

/-- Any byte that continues a character fits where no bound is set by the one before. -/
theorem fits_next (n wanted value : Nat) :
    Pending.fits ⟨wanted, 0x80, 0xBF, value⟩ (UInt8.ofNat (n % 64 + 128)) := by
  have hall : ∀ m < 64, (0x80 : UInt8) ≤ UInt8.ofNat (m + 128) ∧
      UInt8.ofNat (m + 128) ≤ 0xBF := by
    decide
  exact decide_eq_true (hall _ (Nat.mod_lt n (by decide)))

/-- A lead begins a character that wants so many bytes more, and another byte may be the
second one. -/
def Begins (wanted : Nat) (lead second : UInt8) : Bool :=
  match begin lead with
  | ([], some p) => p.wanted = wanted ∧ p.fits second
  | _ => false

theorem begin_of_begins {wanted : Nat} {lead second : UInt8} (h : Begins wanted lead second) :
    ∃ p, begin lead = ([], some p) ∧ p.wanted = wanted ∧ p.fits second := by
  unfold Begins at h
  split at h
  · next p hp => exact ⟨p, hp, of_decide_eq_true h⟩
  · cases h

theorem begins_two {n m : Nat} (hn : 2 ≤ n) (hn' : n < 32) (hm : m < 64) :
    Begins 1 (UInt8.ofNat (n + 192)) (UInt8.ofNat (m + 128)) := by
  have hall : ∀ n < 32, ∀ m < 64, 2 ≤ n →
      Begins 1 (UInt8.ofNat (n + 192)) (UInt8.ofNat (m + 128)) := by
    decide +kernel
  exact hall n hn' m hm hn

/-- Of three bytes: the least values have shorter forms, and in the middle the surrogates
are left out. -/
theorem begins_three {n m : Nat} (hn : n < 16) (hm : m < 64) (hlong : n = 0 → 32 ≤ m)
    (hscalar : n = 13 → m < 32) :
    Begins 2 (UInt8.ofNat (n + 224)) (UInt8.ofNat (m + 128)) := by
  have hall : ∀ n < 16, ∀ m < 64, (n = 0 → 32 ≤ m) → (n = 13 → m < 32) →
      Begins 2 (UInt8.ofNat (n + 224)) (UInt8.ofNat (m + 128)) := by
    decide +kernel
  exact hall n hn m hm hlong hscalar

/-- Of four bytes: the least values have shorter forms, and there is a last code point. -/
theorem begins_four {n m : Nat} (hn : n < 5) (hm : m < 64) (hlong : n = 0 → 16 ≤ m)
    (hlast : n = 4 → m < 16) :
    Begins 3 (UInt8.ofNat (n + 240)) (UInt8.ofNat (m + 128)) := by
  have hall : ∀ n < 5, ∀ m < 64, (n = 0 → 16 ≤ m) → (n = 4 → m < 16) →
      Begins 3 (UInt8.ofNat (n + 240)) (UInt8.ofNat (m + 128)) := by
    decide +kernel
  exact hall n hn m hm hlong hlast

/-- A character is found, and the reader is between characters again. -/
theorem foldl_utf8EncodeChar (c : Char) (found : Array (Option Char)) :
    ∃ c', (String.utf8EncodeChar c).foldl Reader.next { found } =
      { found := found.push (some c') } := by
  have hvalid : c.val.toNat < 0xD800 ∨ 0xDFFF < c.val.toNat ∧ c.val.toNat < 0x110000 :=
    toNat_valid c
  unfold String.utf8EncodeChar
  generalize c.val.toNat = v at hvalid
  dsimp only
  split
  · next h =>
      have hone : ∀ n < 128, (UInt8.ofNat n) < 0x80 := by decide
      refine ⟨Char.ofNat (UInt8.ofNat v).toNat, ?_⟩
      simp [Reader.next, begin, hone v (by omega)]
  · split
    · next h =>
        obtain ⟨p, hlead, hw, hfits⟩ := begin_of_begins
          (begins_two (n := v / 64) (m := v % 64) (by omega) (by omega) (by omega))
        rw [Nat.mod_eq_of_lt (by omega : v / 64 < 32), List.foldl_cons, next_begin hlead]
        exact next_last hfits hw found
    · split
      · next h =>
          obtain ⟨p, hlead, hw, hfits⟩ := begin_of_begins
            (begins_three (n := v / 4096) (m := v / 64 % 64)
              (by omega) (by omega) (by omega) (by omega))
          obtain ⟨value, hsecond⟩ := next_more hfits (by omega) found
          rw [Nat.mod_eq_of_lt (by omega : v / 4096 < 16), List.foldl_cons,
            next_begin hlead, List.foldl_cons, hsecond, hw]
          exact next_last (fits_next v _ _) rfl found
      · next h =>
          obtain ⟨p, hlead, hw, hfits⟩ := begin_of_begins
            (begins_four (n := v / 262144) (m := v / 4096 % 64)
              (by omega) (by omega) (by omega) (by omega))
          obtain ⟨value, hsecond⟩ := next_more hfits (by omega) found
          obtain ⟨value', hthird⟩ :=
            next_more (fits_next (v / 64) 2 value) Nat.one_lt_two found
          rw [Nat.mod_eq_of_lt (by omega : v / 262144 < 8), List.foldl_cons,
            next_begin hlead, List.foldl_cons, hsecond, hw, List.foldl_cons, hthird]
          exact next_last (fits_next v _ _) rfl found

/-! ## The reader over a text -/

theorem foldl_bytes (cs : List Char) (found : Array (Option Char)) :
    ∃ cs' : List Char, (bytes cs).foldl Reader.next { found } =
      { found := found ++ cs'.map some } := by
  induction cs generalizing found with
  | nil => exact ⟨[], by simp⟩
  | cons c cs ih =>
      obtain ⟨c', hc⟩ := foldl_utf8EncodeChar c found
      obtain ⟨cs', hcs⟩ := ih (found.push (some c'))
      refine ⟨c' :: cs', ?_⟩
      rw [bytes_cons, List.foldl_append, hc, hcs]
      simp

theorem isValid_bytes (cs : List Char) : isValid (bytes cs) = true := by
  obtain ⟨cs', h⟩ := foldl_bytes cs #[]
  unfold isValid read
  rw [h]
  simp [Reader.finish]

end TwoTierWatchdog.Text.Utf8
