import TwoTierWatchdog.Json.Quoted
import TwoTierWatchdog.Proofs.Json.Grammar
import TwoTierWatchdog.Proofs.Text.Utf8

/-!
# Strings are read to their end

Each way to read a string stops at the first quote that is not escaped. What may stand
between quotes is passed over; a spelling gives the text that it stands for, encoded. What
is read as a text would have been passed over just so far.
-/

namespace TwoTierWatchdog.Json.Quoted

/-! ## Escapes -/

theorem hexDigit?_of_hex {b : UInt8} {n : Nat} (h : Hex b n) : hexDigit? b = some n := by
  have hlower : ∀ n < 16, ((ascii "0123456789abcdef")[n]?).bind hexDigit? = some n := by decide
  have hupper : ∀ n < 16, ((ascii "0123456789ABCDEF")[n]?).bind hexDigit? = some n := by decide
  rcases h with h | h
  · have hn := hlower n (List.getElem?_eq_some_iff.mp h).1
    rwa [h] at hn
  · have hn := hupper n (List.getElem?_eq_some_iff.mp h).1
    rwa [h] at hn

theorem hex4?_of_codeUnit {u : List UInt8} {n : Nat} (h : CodeUnit u n) :
    ∃ a b c d, u = [backslash, letterU, a, b, c, d] ∧ hex4? a b c d = some n := by
  cases h with
  | @hex a b c d i j k l ha hb hc hd =>
      refine ⟨a, b, c, d, rfl, ?_⟩
      simp [hex4?, hexDigit?_of_hex ha, hexDigit?_of_hex hb, hexDigit?_of_hex hc,
        hexDigit?_of_hex hd]

/-- Of what a backslash may stand before, the letter of a code unit is the only one that
more bytes belong to. -/
theorem escaped?_of_mem {b : UInt8} {n : Nat} (h : (b, n) ∈ escapes) :
    escaped? b = some (UInt8.ofNat n) ∧ b ≠ letterU ∧ n < 0x80 := by
  have hall : ∀ p ∈ escapes, escaped? p.1 = some (UInt8.ofNat p.2) ∧ p.1 ≠ letterU ∧
      p.2 < 0x80 := by decide
  exact hall (b, n) h

/-! ## A string is passed over -/

attribute [simp] skip?.eq_1 resolve?.eq_1

@[simp] theorem skip?_quote (s : List UInt8) : skip? (quote :: s) = some s :=
  rfl

theorem skip?_plain {b : UInt8} (hcontrol : 0x20 ≤ b) (hquote : b ≠ quote)
    (hbackslash : b ≠ backslash) (s : List UInt8) : skip? (b :: s) = skip? s := by
  have hb : ¬isControl b = true := by simpa [isControl] using hcontrol
  exact (skip?.eq_5 b s hquote (fun _ _ _ _ _ h _ => hbackslash h)
    (fun _ _ h _ => hbackslash h)).trans (if_neg hb)

theorem skip?_escape {b : UInt8} (hb : (escaped? b).isSome) (hletter : b ≠ letterU)
    (s : List UInt8) : skip? (backslash :: b :: s) = skip? s :=
  (skip?.eq_4 b s fun _ _ _ _ _ h _ => hletter h).trans (if_pos hb)

theorem skip?_hex {a b c d : UInt8} (h : (hex4? a b c d).isSome) (s : List UInt8) :
    skip? (backslash :: letterU :: a :: b :: c :: d :: s) = skip? s :=
  (skip?.eq_3 a b c d s).trans (if_pos h)

theorem skip?_quotable {s : List UInt8} (hs : Quotable s) (rest : List UInt8) :
    skip? (s ++ quote :: rest) = some rest := by
  induction hs with
  | nil => rfl
  | plain hcontrol hquote hbackslash _ ih =>
      rw [List.cons_append, skip?_plain hcontrol hquote hbackslash, ih]
  | escape hb _ ih =>
      obtain ⟨⟨b, n⟩, hmem, rfl⟩ := List.mem_map.mp hb
      obtain ⟨hescaped, hletter, -⟩ := escaped?_of_mem hmem
      rw [List.cons_append, List.cons_append, skip?_escape (by simp [hescaped]) hletter, ih]
  | unit hu _ ih =>
      obtain ⟨a, b, c, d, rfl, hhex⟩ := hex4?_of_codeUnit hu
      rw [List.append_assoc]
      exact (skip?_hex (by simp [hhex]) _).trans ih

/-! ## A spelling may stand between quotes -/

/-- A character that needs no escape consists of bytes that need none. -/
theorem plain_of_mem_utf8EncodeChar {c : Char} (hcontrol : 0x20 ≤ c.toNat)
    (hquote : c.toNat ≠ 0x22) (hbackslash : c.toNat ≠ 0x5C) :
    ∀ b ∈ String.utf8EncodeChar c, 0x20 ≤ b ∧ b ≠ quote ∧ b ≠ backslash := by
  rcases Nat.lt_or_ge c.toNat 0x80 with hlt | hge
  · intro b hb
    have hnat : (UInt8.ofNat c.toNat).toNat = c.toNat :=
      UInt8.toNat_ofNat_of_lt' (Nat.lt_trans hlt (by decide))
    rw [Text.Utf8.utf8EncodeChar_of_lt hlt, List.mem_singleton] at hb
    rw [hb, UInt8.le_iff_toNat_le, ne_eq, ne_eq, ← UInt8.toNat_inj, ← UInt8.toNat_inj, hnat]
    exact ⟨hcontrol, hquote, hbackslash⟩
  · intro b hb
    have hb : 0x80 ≤ b := Text.Utf8.le_of_mem_utf8EncodeChar hge b hb
    refine ⟨UInt8.le_trans (by decide) hb, ?_, ?_⟩
    · rintro rfl
      exact absurd hb (by decide)
    · rintro rfl
      exact absurd hb (by decide)

theorem quotable_append {bs s : List UInt8}
    (hbs : ∀ b ∈ bs, 0x20 ≤ b ∧ b ≠ quote ∧ b ≠ backslash) (hs : Quotable s) :
    Quotable (bs ++ s) := by
  induction bs with
  | nil => exact hs
  | cons b bs ih =>
      obtain ⟨hcontrol, hquote, hbackslash⟩ := hbs b (List.mem_cons_self ..)
      exact .plain hcontrol hquote hbackslash (ih fun b hb => hbs b (List.mem_cons_of_mem _ hb))

theorem quotable_of_spells {s : List UInt8} {cs : List Char} (hs : Spells s cs) :
    Quotable s := by
  induction hs with
  | nil => exact .nil
  | plain hcontrol hquote hbackslash _ ih =>
      exact quotable_append (plain_of_mem_utf8EncodeChar hcontrol hquote hbackslash) ih
  | escape hb _ ih => exact .escape (List.mem_map_of_mem hb) ih
  | unit hu _ ih => exact .unit hu ih
  | pair _ hu hv _ ih => exact .unit hu (.unit hv ih)

/-- The character is one byte, and needs no escape. -/
def isPlain (c : Char) : Bool :=
  0x20 ≤ c.toNat && c.toNat < 0x80 && c.toNat != 0x22 && c.toNat != 0x5C

/-- Characters that need no escape are spelled by themselves. -/
theorem spells_ascii (text : String) (h : text.toList.all isPlain) :
    Spells (ascii text) text.toList := by
  unfold ascii
  generalize text.toList = cs at h
  induction cs with
  | nil => exact .nil
  | cons c cs ih =>
      obtain ⟨hplain, hrest⟩ := Bool.and_eq_true_iff.mp h
      simp only [isPlain, Bool.and_eq_true, decide_eq_true_eq, bne_iff_ne] at hplain
      obtain ⟨⟨⟨hcontrol, hlt⟩, hquote⟩, hbackslash⟩ := hplain
      have hc : String.utf8EncodeChar c = [c.toUInt8] := Text.Utf8.utf8EncodeChar_of_lt hlt
      have hspells := Spells.plain hcontrol hquote hbackslash (ih hrest)
      rwa [hc] at hspells

/-! ## A text is read -/

@[simp] theorem resolve?_quote (text : Array UInt8) (s : List UInt8) :
    resolve? text (quote :: s) = some (text, s) :=
  rfl

theorem resolve?_plain {b : UInt8} (hcontrol : 0x20 ≤ b) (hquote : b ≠ quote)
    (hbackslash : b ≠ backslash) (text : Array UInt8) (s : List UInt8) :
    resolve? text (b :: s) = resolve? (text.push b) s := by
  have hb : ¬isControl b = true := by simpa [isControl] using hcontrol
  exact (resolve?.eq_5 text b s hquote (fun _ _ _ _ _ h _ => hbackslash h)
    (fun _ _ h _ => hbackslash h)).trans (if_neg hb)

theorem resolve?_escape {b byte : UInt8} (hb : escaped? b = some byte) (hletter : b ≠ letterU)
    (text : Array UInt8) (s : List UInt8) :
    resolve? text (backslash :: b :: s) = resolve? (text.push byte) s := by
  have h := resolve?.eq_4 text b s fun _ _ _ _ _ h _ => hletter h
  rw [hb] at h
  exact h

theorem resolve?_hex {a b c d : UInt8} {n : Nat} (h : hex4? a b c d = some n)
    (hleading : isLeading n = false) (htrailing : isTrailing n = false) (text : Array UInt8)
    (s : List UInt8) :
    resolve? text (backslash :: letterU :: a :: b :: c :: d :: s) =
      resolve? (text ++ Text.Utf8.encode n) s := by
  have heq := resolve?.eq_3 text a b c d s
  rw [h] at heq
  simp only [hleading, htrailing] at heq
  exact heq

theorem resolve?_hex_hex {a b c d a' b' c' d' : UInt8} {n m : Nat}
    (h : hex4? a b c d = some n) (h' : hex4? a' b' c' d' = some m)
    (hleading : isLeading n = true) (htrailing : isTrailing m = true) (text : Array UInt8)
    (s : List UInt8) :
    resolve? text (backslash :: letterU :: a :: b :: c :: d ::
        backslash :: letterU :: a' :: b' :: c' :: d' :: s) =
      resolve? (text ++ Text.Utf8.encode (pair n m)) s := by
  have heq := resolve?.eq_3 text a b c d
    (backslash :: letterU :: a' :: b' :: c' :: d' :: s)
  rw [h] at heq
  simp only [hleading, if_true] at heq
  split at heq
  · next hunit =>
      simp only [List.cons.injEq] at hunit
      obtain ⟨-, -, rfl, rfl, rfl, rfl, rfl⟩ := hunit
      rw [h'] at heq
      exact heq.trans (if_pos htrailing)
  · next hunit => exact absurd rfl (hunit a' b' c' d' s)

theorem append_append (text : Array UInt8) (s s' : List UInt8) :
    text ++ s ++ s' = text ++ (s ++ s') := by
  apply Array.ext'
  simp

theorem push_append (text : Array UInt8) (b : UInt8) (s : List UInt8) :
    text.push b ++ s = text ++ (b :: s) := by
  apply Array.ext'
  simp

theorem resolve?_utf8EncodeChar {c : Char} (hcontrol : 0x20 ≤ c.toNat)
    (hquote : c.toNat ≠ 0x22) (hbackslash : c.toNat ≠ 0x5C) (text : Array UInt8)
    (s : List UInt8) :
    resolve? text (String.utf8EncodeChar c ++ s) =
      resolve? (text ++ String.utf8EncodeChar c) s := by
  have hplain := plain_of_mem_utf8EncodeChar hcontrol hquote hbackslash
  generalize String.utf8EncodeChar c = bs at hplain
  induction bs generalizing text with
  | nil => simp
  | cons b bs ih =>
      obtain ⟨hcontrol, hquote, hbackslash⟩ := hplain b (List.mem_cons_self ..)
      rw [List.cons_append, resolve?_plain hcontrol hquote hbackslash,
        ih _ fun b hb => hplain b (List.mem_cons_of_mem _ hb), push_append]

theorem not_surrogate (c : Char) : isLeading c.toNat = false ∧ isTrailing c.toNat = false := by
  have hvalid := Text.Utf8.toNat_valid c
  simp only [isLeading, isTrailing, Bool.and_eq_false_iff, decide_eq_false_iff_not]
  omega

/-- The halves of a character past the first 65536 code points. -/
theorem pair_halves {c : Char} {n : Nat} (hc : c.toNat = 0x10000 + n) :
    isLeading (0xD800 + n / 0x400) = true ∧ isTrailing (0xDC00 + n % 0x400) = true ∧
      pair (0xD800 + n / 0x400) (0xDC00 + n % 0x400) = c.toNat := by
  have hvalid := Text.Utf8.toNat_valid c
  generalize c.toNat = m at hc hvalid
  refine ⟨?_, ?_, ?_⟩
  · unfold isLeading
    rw [Bool.and_eq_true, decide_eq_true_eq, decide_eq_true_eq]
    omega
  · unfold isTrailing
    rw [Bool.and_eq_true, decide_eq_true_eq, decide_eq_true_eq]
    omega
  · unfold pair
    omega

theorem resolve?_spells {s : List UInt8} {cs : List Char} (hs : Spells s cs)
    (text : Array UInt8) (rest : List UInt8) :
    resolve? text (s ++ quote :: rest) = some (text ++ Text.Utf8.bytes cs, rest) := by
  induction hs generalizing text with
  | nil => simp
  | plain hcontrol hquote hbackslash _ ih =>
      rw [List.append_assoc, resolve?_utf8EncodeChar hcontrol hquote hbackslash, ih,
        append_append, Text.Utf8.bytes_cons]
  | escape hb _ ih =>
      obtain ⟨hescaped, hletter, hascii⟩ := escaped?_of_mem hb
      rw [List.cons_append, List.cons_append, resolve?_escape hescaped hletter, ih,
        Text.Utf8.bytes_cons, Text.Utf8.utf8EncodeChar_of_lt hascii, push_append]
      rfl
  | @unit u s c cs hu _ ih =>
      obtain ⟨a, b, c, d, rfl, hhex⟩ := hex4?_of_codeUnit hu
      obtain ⟨hleading, htrailing⟩ := not_surrogate _
      show resolve? text (backslash :: letterU :: a :: b :: c :: d :: (s ++ quote :: rest)) = _
      rw [resolve?_hex hhex hleading htrailing, ih, Text.Utf8.encode_toNat, append_append,
        Text.Utf8.bytes_cons]
  | @pair u v s n c cs hc hu hv _ ih =>
      obtain ⟨a, b, c, d, rfl, hhex⟩ := hex4?_of_codeUnit hu
      obtain ⟨a', b', c', d', rfl, hhex'⟩ := hex4?_of_codeUnit hv
      obtain ⟨hleading, htrailing, hpair⟩ := pair_halves (c := _) hc
      show resolve? text (backslash :: letterU :: a :: b :: c :: d ::
        backslash :: letterU :: a' :: b' :: c' :: d' :: (s ++ quote :: rest)) = _
      rw [resolve?_hex_hex hhex hhex' hleading htrailing, ih, hpair, Text.Utf8.encode_toNat,
        append_append, Text.Utf8.bytes_cons]

theorem text?_spells {s : List UInt8} {cs : List Char} (hs : Spells s cs)
    (rest : List UInt8) : text? (s ++ quote :: rest) = some (Text.Utf8.bytes cs, rest) := by
  unfold text?
  rw [resolve?_spells hs]
  simp [Text.Utf8.isValid_bytes]

/-! ## A text that is read would have been passed over -/

theorem skip?_of_resolve? {text text' : Array UInt8} {s rest : List UInt8}
    (h : resolve? text s = some (text', rest)) : skip? s = some rest := by
  fun_induction resolve? text s with
  | case2 text s =>
      obtain ⟨-, rfl⟩ := Prod.ext_iff.mp (Option.some.inj h)
      exact skip?.eq_2 s
  | case5 text a b c d n hn _ a' b' c' d' s m hm _ ih =>
      -- A pair, of which each half would have been passed over on its own.
      have hfirst := skip?_hex (a := a) (b := b) (c := c) (d := d) (by simp [hn])
        (backslash :: letterU :: a' :: b' :: c' :: d' :: s)
      exact hfirst.trans ((skip?_hex (by simp [hm]) s).trans (ih h))
  | case9 text a b c d s n hn _ _ ih => exact (skip?_hex (by simp [hn]) s).trans (ih h)
  | case11 text b s hletter byte hb ih =>
      exact (skip?.eq_4 b s hletter).trans ((if_pos (by simp [hb])).trans (ih h))
  | case13 text b s hquote hunit hescape hcontrol ih =>
      exact (skip?.eq_5 b s hquote hunit hescape).trans ((if_neg hcontrol).trans (ih h))
  | _ => cases h

theorem skip?_of_text? {text s rest : List UInt8} (h : text? s = some (text, rest)) :
    skip? s = some rest := by
  unfold text? at h
  split at h
  · cases h
  · next text' rest' hresolve =>
      dsimp only at h
      split at h
      · obtain ⟨-, rfl⟩ := Prod.ext_iff.mp (Option.some.inj h)
        exact skip?_of_resolve? hresolve
      · cases h

end TwoTierWatchdog.Json.Quoted
