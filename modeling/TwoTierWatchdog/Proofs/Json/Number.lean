import TwoTierWatchdog.Json.Number
import TwoTierWatchdog.Proofs.Json.Grammar

/-!
# Numbers are read to their end

The reader takes a number of the grammar and stops where it ends. A natural number is
written as an integer of the grammar, and is read back if it is below the bound. What is
read as a natural number would have been passed over just so far.
-/

namespace TwoTierWatchdog.Json.Number

/-! ## A number is passed over -/

/-- No digit comes next. -/
abbrev NoDigit (s : List UInt8) : Prop :=
  s.head?.any isDigit = false

theorem isDigit_of_digits {s : List UInt8} (hs : Digits s) : ∀ b ∈ s, isDigit b := by
  intro b hb
  simpa [isDigit] using hs.digit b hb

theorem dropWhile_isDigit {s rest : List UInt8} (hs : ∀ b ∈ s, isDigit b)
    (hrest : NoDigit rest) : (s ++ rest).dropWhile isDigit = rest := by
  rw [List.dropWhile_append_of_pos hs]
  cases rest with
  | nil => rfl
  | cons b rest =>
      have hb : isDigit b = false := hrest
      exact List.dropWhile_cons_of_neg (by simp [hb])

theorem skipDigits?_digits {s rest : List UInt8} (hs : Digits s) (hrest : NoDigit rest) :
    skipDigits? (s ++ rest) = some rest := by
  have hdigit := isDigit_of_digits hs
  cases s with
  | nil => exact absurd rfl hs.nonempty
  | cons b s =>
      have hb : isDigit b := hdigit b (List.mem_cons_self ..)
      have hdrop : (s ++ rest).dropWhile isDigit = rest :=
        dropWhile_isDigit (fun b hb => hdigit b (List.mem_cons_of_mem _ hb)) hrest
      simp [skipDigits?, hb, hdrop]

theorem skipInteger?_cons_of_ne {b : UInt8} (hb : b ≠ zero) (s : List UInt8) :
    skipInteger? (b :: s) = skipDigits? (b :: s) := by
  simp [skipInteger?, skipDigits?, hb]

theorem skipInteger?_integer {s rest : List UInt8} (hs : Integer s) (hrest : NoDigit rest) :
    skipInteger? (s ++ rest) = some rest := by
  cases s with
  | nil => exact absurd rfl hs.nonempty
  | cons b s =>
      by_cases hb : b = zero
      · subst hb
        obtain ⟨-, rfl⟩ := List.cons_eq_cons.mp (hs.shortest rfl)
        exact if_neg (Bool.not_eq_true _ ▸ hrest)
      · rw [List.cons_append, skipInteger?_cons_of_ne hb, ← List.cons_append]
        exact skipDigits?_digits hs.toDigits hrest

theorem skipFraction?_of_ne {s : List UInt8} (hs : s.head? ≠ some point) :
    skipFraction? s = some s := by
  unfold skipFraction?
  split
  · exact absurd rfl hs
  · rfl

theorem skipFraction?_fraction {s rest : List UInt8} (hs : Fraction s)
    (hdigit : NoDigit rest) (hpoint : rest.head? ≠ some point) :
    skipFraction? (s ++ rest) = some rest := by
  cases hs with
  | absent => exact skipFraction?_of_ne hpoint
  | present hs => exact skipDigits?_digits hs hdigit

theorem skipExponent?_of_not {s : List UInt8} (hs : s.head?.any isExponent = false) :
    skipExponent? s = some s := by
  cases s with
  | nil => rfl
  | cons b s =>
      have hb : isExponent b = false := hs
      simp [skipExponent?, hb]

theorem skipSign_of_ne {b : UInt8} (hplus : b ≠ plus) (hminus : b ≠ minus) (s : List UInt8) :
    skipSign (b :: s) = b :: s := by
  unfold skipSign
  split
  · next h => exact absurd (List.cons_eq_cons.mp h).1 hplus
  · next h => exact absurd (List.cons_eq_cons.mp h).1 hminus
  · rfl

theorem skipSign_digits {sign s rest : List UInt8}
    (hsign : sign = [] ∨ sign = [plus] ∨ sign = [minus]) (hs : Digits s) :
    skipSign (sign ++ (s ++ rest)) = s ++ rest := by
  rcases hsign with rfl | rfl | rfl
  · cases s with
    | nil => exact absurd rfl hs.nonempty
    | cons b s =>
        obtain ⟨hlow, -⟩ := hs.digit b (List.mem_cons_self ..)
        refine skipSign_of_ne ?_ ?_ (s ++ rest)
        · rintro rfl
          exact absurd hlow (by decide)
        · rintro rfl
          exact absurd hlow (by decide)
  · rfl
  · rfl

theorem skipExponent?_exponent {s rest : List UInt8} (hs : Exponent s)
    (hdigit : NoDigit rest) (hletter : rest.head?.any isExponent = false) :
    skipExponent? (s ++ rest) = some rest := by
  cases hs with
  | absent => exact skipExponent?_of_not hletter
  | @present letter sign s h hsign hs =>
      have hopens : isExponent letter := by simpa [isExponent] using h
      rw [List.cons_append, List.append_assoc]
      simp only [skipExponent?, hopens, if_true]
      rw [skipSign_digits hsign hs]
      exact skipDigits?_digits hs hdigit

/-- Nothing in a text continues a number that ends before it. -/
structure Apart (s : List UInt8) : Prop where
  digit : NoDigit s
  point : s.head? ≠ some point
  letter : s.head?.any isExponent = false

theorem apart_cons {b : UInt8} (hdigit : isDigit b = false) (hpoint : b ≠ point)
    (hletter : isExponent b = false) (s : List UInt8) : Apart (b :: s) :=
  ⟨hdigit, fun h => hpoint (Option.some.inj h), hletter⟩

/-- What ends a value continues no number. -/
theorem apart_of_ends {s : List UInt8} (hs : Ends s) : Apart s := by
  cases s with
  | nil => exact ⟨rfl, by simp, rfl⟩
  | cons b s =>
      have hb := hs b rfl
      simp only [isBlank, Bool.or_eq_true, beq_iff_eq] at hb
      rcases hb with (((rfl | rfl) | rfl) | rfl) | rfl | rfl | rfl <;>
        exact apart_cons (by decide) (by decide) (by decide) s

/-- The letter of an exponent is no digit and no point. -/
theorem noDigit_exponent {s rest : List UInt8} (hs : Exponent s) (hrest : Apart rest) :
    NoDigit (s ++ rest) ∧ (s ++ rest).head? ≠ some point := by
  cases hs with
  | absent => exact ⟨hrest.digit, hrest.point⟩
  | present h hsign hs =>
      rcases h with rfl | rfl <;>
        exact ⟨rfl, fun h => absurd (Option.some.inj h) (by decide)⟩

theorem noDigit_fraction {s rest : List UInt8} (hs : Fraction s) (hrest : NoDigit rest) :
    NoDigit (s ++ rest) := by
  cases hs with
  | absent => exact hrest
  | present hs => rfl

theorem skipUnsigned?_numeral (n : Numeral) {rest : List UInt8} (hrest : Apart rest) :
    skipUnsigned? (n.integer ++ (n.fraction ++ (n.exponent ++ rest))) = some rest := by
  obtain ⟨hdigit, hpoint⟩ := noDigit_exponent n.isExponent hrest
  unfold skipUnsigned?
  rw [skipInteger?_integer n.isInteger (noDigit_fraction n.isFraction hdigit),
    Option.bind_some, skipFraction?_fraction n.isFraction hdigit hpoint, Option.bind_some,
    skipExponent?_exponent n.isExponent hrest.digit hrest.letter]

theorem skip?_of_ne {b : UInt8} (hb : b ≠ minus) (s : List UInt8) :
    skip? (b :: s) = skipUnsigned? (b :: s) := by
  unfold skip?
  split
  · next h => exact absurd (List.cons_eq_cons.mp h).1 hb
  · rfl

theorem skip?_numeral (n : Numeral) {rest : List UInt8} (hrest : Apart rest) :
    skip? (n.bytes ++ rest) = some rest := by
  have hunsigned := skipUnsigned?_numeral n hrest
  unfold Numeral.bytes
  simp only [List.append_assoc]
  rcases n.sign_minus with hsign | hsign
  · rw [hsign, List.nil_append]
    obtain ⟨b, s, hs⟩ := List.exists_cons_of_ne_nil n.isInteger.nonempty
    obtain ⟨hlow, -⟩ := n.isInteger.digit b (by rw [hs]; exact List.mem_cons_self ..)
    rw [hs] at hunsigned ⊢
    rw [List.cons_append, skip?_of_ne (by rintro rfl; exact absurd hlow (by decide))]
    exact hunsigned
  · rw [hsign]
    exact hunsigned

theorem first_numeral (n : Numeral) :
    ∃ b t, n.bytes = b :: t ∧ (b = minus ∨ 0x30 ≤ b ∧ b ≤ 0x39) := by
  rcases n.sign_minus with hsign | hsign
  · obtain ⟨b, t, ht⟩ := List.exists_cons_of_ne_nil n.isInteger.nonempty
    refine ⟨b, t ++ (n.fraction ++ n.exponent), by simp [Numeral.bytes, hsign, ht], .inr ?_⟩
    exact n.isInteger.digit b (by rw [ht]; exact List.mem_cons_self ..)
  · exact ⟨minus, n.integer ++ (n.fraction ++ n.exponent), by simp [Numeral.bytes, hsign],
      .inl rfl⟩

/-! ## A natural number is read back -/

theorem digits_of_lt {n : Nat} (hn : n < 10) : digits n = [UInt8.ofNat (0x30 + n)] := by
  have hall : ∀ n < 10, [n.digitChar].map Char.toUInt8 = [UInt8.ofNat (0x30 + n)] := by decide
  rw [digits, Nat.toDigits_of_lt_base hn]
  exact hall n hn

/-- The last digit is the remainder. -/
theorem digits_of_le {n : Nat} (hn : 10 ≤ n) :
    digits n = digits (n / 10) ++ [UInt8.ofNat (0x30 + n % 10)] := by
  have hlast := digits_of_lt (Nat.mod_lt n (by decide : 10 > 0))
  rw [digits, Nat.toDigits_of_lt_base (Nat.mod_lt n (by decide))] at hlast
  rw [digits, Nat.toDigits_of_base_le (by decide) hn, List.map_append, hlast, digits]

theorem digits_isDigits (n : Nat) : Digits (digits n) := by
  have hall : ∀ m < 10, (0x30 : UInt8) ≤ UInt8.ofNat (0x30 + m) ∧
      UInt8.ofNat (0x30 + m) ≤ 0x39 := by decide
  induction n using Nat.strongRecOn with
  | ind n ih =>
      by_cases hn : n < 10
      · rw [digits_of_lt hn]
        refine ⟨by simp, fun b hb => ?_⟩
        rw [List.mem_singleton.mp hb]
        exact hall n hn
      · obtain ⟨-, hdigit⟩ := ih (n / 10) (by omega)
        rw [digits_of_le (by omega)]
        refine ⟨by simp, fun b hb => ?_⟩
        rcases List.mem_append.mp hb with hb | hb
        · exact hdigit b hb
        · rw [List.mem_singleton.mp hb]
          exact hall _ (Nat.mod_lt n (by decide))

/-- The value of decimal digits. -/
def value (s : List UInt8) : Nat :=
  s.foldl (fun n d => n * 10 + (d.toNat - 0x30)) 0

theorem value_digits (n : Nat) : value (digits n) = n := by
  have hall : ∀ m < 10, (UInt8.ofNat (0x30 + m)).toNat - 0x30 = m := by decide
  induction n using Nat.strongRecOn with
  | ind n ih =>
      by_cases hn : n < 10
      · rw [digits_of_lt hn]
        exact (Nat.zero_add _).trans (hall n hn)
      · have hinit : value (digits (n / 10)) = n / 10 := ih (n / 10) (by omega)
        have hlast := hall (n % 10) (by omega)
        rw [digits_of_le (by omega), value, List.foldl_append]
        rw [value] at hinit
        rw [hinit, List.foldl_cons, List.foldl_nil, hlast]
        omega

theorem digits_isInteger (n : Nat) : Integer (digits n) := by
  refine ⟨digits_isDigits n, fun hhead => ?_⟩
  induction n using Nat.strongRecOn with
  | ind n ih =>
      by_cases hn : n < 10
      · rw [digits_of_lt hn] at hhead ⊢
        rw [Option.some.inj hhead]
      · rw [digits_of_le (by omega)] at hhead
        have hfirst : (digits (n / 10)).head? = some zero := by
          obtain ⟨b, s, hs⟩ := List.exists_cons_of_ne_nil (digits_isDigits (n / 10)).nonempty
          rw [hs] at hhead ⊢
          exact hhead
        -- Only zero has a zero for its first digit, and a tenth of the number is more.
        have hvalue := value_digits (n / 10)
        rw [ih (n / 10) (by omega) hfirst] at hvalue
        have : n / 10 = 0 := hvalue.symm
        omega

/-- To stop at the bound on the way is to stop there at the end. -/
theorem valueWithin_eq (bound : Nat) (s : List UInt8) :
    valueWithin bound s = min bound (value s) := by
  have hfold : ∀ n, s.foldl (fun n d => min bound (n * 10 + (d.toNat - 0x30))) (min bound n) =
      min bound (s.foldl (fun n d => n * 10 + (d.toNat - 0x30)) n) := by
    induction s with
    | nil => exact fun n => rfl
    | cons d s ih =>
        intro n
        rw [List.foldl_cons, List.foldl_cons, ← ih]
        congr 1
        omega
  have hzero := hfold 0
  rwa [Nat.min_zero] at hzero

theorem isContinued_eq_false_iff {s : List UInt8} :
    isContinued s = false ↔ s.head? ≠ some point ∧ s.head?.any isExponent = false := by
  cases s with
  | nil => simp [isContinued]
  | cons b s => simp [isContinued]

theorem natural?_digits {bound n : Nat} (hn : n < bound) {rest : List UInt8}
    (hrest : Apart rest) : natural? bound (digits n ++ rest) = some (n, rest) := by
  have hcontinued : isContinued rest = false :=
    isContinued_eq_false_iff.mpr ⟨hrest.point, hrest.letter⟩
  have hvalue : valueWithin bound (digits n) = n := by
    rw [valueWithin_eq, value_digits]
    omega
  simp [natural?, skipInteger?_integer (digits_isInteger n) hrest.digit, hcontinued, hvalue, hn]

/-! ## A natural number that is read would have been passed over -/

theorem skip?_of_skipInteger? {s rest : List UInt8} (h : skipInteger? s = some rest) :
    skip? s = skipUnsigned? s := by
  cases s with
  | nil => rfl
  | cons b s =>
      refine skip?_of_ne ?_ s
      rintro rfl
      cases h

theorem first_of_skipInteger? {s rest : List UInt8} (h : skipInteger? s = some rest) :
    ∃ b t, s = b :: t ∧ 0x30 ≤ b ∧ b ≤ 0x39 := by
  cases s with
  | nil => cases h
  | cons b t =>
      refine ⟨b, t, rfl, ?_⟩
      by_cases hb : b = zero
      · subst hb
        decide
      · rw [skipInteger?_cons_of_ne hb] at h
        simp only [skipDigits?] at h
        split at h
        · next hdigit => simpa [isDigit] using hdigit
        · cases h

/-- It begins with a digit, and has neither a fraction nor an exponent. -/
theorem skip?_of_natural? {bound n : Nat} {s rest : List UInt8}
    (h : natural? bound s = some (n, rest)) :
    skip? s = some rest ∧ ∃ b t, s = b :: t ∧ 0x30 ≤ b ∧ b ≤ 0x39 := by
  unfold natural? at h
  split at h
  · cases h
  · next rest' hinteger =>
      dsimp only at h
      split at h
      · cases h
      · next hstop =>
          obtain ⟨-, rfl⟩ := Prod.ext_iff.mp (Option.some.inj h)
          have hcontinued : isContinued rest' = false := by
            simp only [Bool.or_eq_true, not_or, Bool.not_eq_true] at hstop
            exact hstop.1
          obtain ⟨hpoint, hletter⟩ := isContinued_eq_false_iff.mp hcontinued
          refine ⟨?_, first_of_skipInteger? hinteger⟩
          rw [skip?_of_skipInteger? hinteger, skipUnsigned?, hinteger, Option.bind_some,
            skipFraction?_of_ne hpoint, Option.bind_some, skipExponent?_of_not hletter]

end TwoTierWatchdog.Json.Number
