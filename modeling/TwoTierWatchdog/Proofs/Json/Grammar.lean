import TwoTierWatchdog.Json.Token

/-!
# The grammar of JSON

What a JSON value is, as a set of texts and apart from any reader. The bytes of a value
are the leaves of a derivation; between its tokens stand blanks. Nothing bounds how deep
values lie in one another or how long a number is, and a string is any run of escapes and
of bytes that need none.

What a string means is said apart from that, since most strings are only passed over: a
spelling relates the bytes between two quotes to the characters that they stand for. A
character has several spellings.
-/

namespace TwoTierWatchdog.Json

/-- A run of blanks: spaces, tabs, line feeds and carriage returns. -/
structure Blanks where
  bytes : List UInt8
  blank : ∀ b ∈ bytes, b = 0x20 ∨ b = 0x09 ∨ b = 0x0A ∨ b = 0x0D

/-- No blanks. -/
def Blanks.none : Blanks :=
  ⟨[], by simp⟩

/-! ## Numbers -/

/-- One digit at least. -/
structure Digits (s : List UInt8) : Prop where
  nonempty : s ≠ []
  digit : ∀ b ∈ s, 0x30 ≤ b ∧ b ≤ 0x39

/-- Zero has one digit, and no other integer begins with it. -/
structure Integer (s : List UInt8) : Prop extends Digits s where
  shortest : s.head? = some zero → s = [zero]

inductive Fraction : List UInt8 → Prop where
  | absent : Fraction []
  | present {s : List UInt8} (hs : Digits s) : Fraction (point :: s)

inductive Exponent : List UInt8 → Prop where
  | absent : Exponent []
  | present {letter : UInt8} {sign s : List UInt8} (hletter : letter = 0x65 ∨ letter = 0x45)
      (hsign : sign = [] ∨ sign = [plus] ∨ sign = [minus]) (hs : Digits s) :
      Exponent (letter :: (sign ++ s))

/-- A number, split into its parts. -/
structure Numeral where
  sign : List UInt8
  integer : List UInt8
  fraction : List UInt8
  exponent : List UInt8
  sign_minus : sign = [] ∨ sign = [minus]
  isInteger : Integer integer
  isFraction : Fraction fraction
  isExponent : Exponent exponent

def Numeral.bytes (n : Numeral) : List UInt8 :=
  n.sign ++ (n.integer ++ (n.fraction ++ n.exponent))

/-! ## Strings -/

/-- A hexadecimal digit of either case. -/
def Hex (b : UInt8) (n : Nat) : Prop :=
  (ascii "0123456789abcdef")[n]? = some b ∨ (ascii "0123456789ABCDEF")[n]? = some b

/-- A code unit of sixteen bits, escaped. -/
inductive CodeUnit : List UInt8 → Nat → Prop where
  | hex {a b c d : UInt8} {i j k l : Nat} (ha : Hex a i) (hb : Hex b j) (hc : Hex c k)
      (hd : Hex d l) :
      CodeUnit [backslash, letterU, a, b, c, d] (((i * 16 + j) * 16 + k) * 16 + l)

/-- The letters and signs that are escaped by a backslash alone, each with the code point
that it stands for. -/
def escapes : List (UInt8 × Nat) :=
  [(quote, 0x22), (backslash, 0x5C), (0x2F, 0x2F), (0x62, 0x08), (0x66, 0x0C), (0x6E, 0x0A),
    (0x72, 0x0D), (0x74, 0x09)]

/-- What may stand between two quotes. -/
inductive Quotable : List UInt8 → Prop where
  | nil : Quotable []
  | plain {b : UInt8} {s : List UInt8} (hcontrol : 0x20 ≤ b) (hquote : b ≠ quote)
      (hbackslash : b ≠ backslash) (hs : Quotable s) : Quotable (b :: s)
  | escape {b : UInt8} {s : List UInt8} (hb : b ∈ escapes.map Prod.fst) (hs : Quotable s) :
      Quotable (backslash :: b :: s)
  | unit {u s : List UInt8} {n : Nat} (hu : CodeUnit u n) (hs : Quotable s) :
      Quotable (u ++ s)

/-- The bytes between two quotes, and the characters that they stand for. A character past
the first 65536 code points takes two code units when it is escaped. -/
inductive Spells : List UInt8 → List Char → Prop where
  | nil : Spells [] []
  | plain {c : Char} {s : List UInt8} {cs : List Char} (hcontrol : 0x20 ≤ c.toNat)
      (hquote : c.toNat ≠ 0x22) (hbackslash : c.toNat ≠ 0x5C) (hs : Spells s cs) :
      Spells (String.utf8EncodeChar c ++ s) (c :: cs)
  | escape {b : UInt8} {c : Char} {s : List UInt8} {cs : List Char}
      (hb : (b, c.toNat) ∈ escapes) (hs : Spells s cs) :
      Spells (backslash :: b :: s) (c :: cs)
  | unit {u s : List UInt8} {c : Char} {cs : List Char} (hu : CodeUnit u c.toNat)
      (hs : Spells s cs) : Spells (u ++ s) (c :: cs)
  | pair {u v s : List UInt8} {n : Nat} {c : Char} {cs : List Char}
      (hc : c.toNat = 0x10000 + n) (hu : CodeUnit u (0xD800 + n / 0x400))
      (hv : CodeUnit v (0xDC00 + n % 0x400)) (hs : Spells s cs) :
      Spells (u ++ (v ++ s)) (c :: cs)

/-! ## Values -/

/-- A value between blanks. -/
structure Element where
  before : Blanks
  value : List UInt8
  behind : Blanks

def Element.bytes (e : Element) : List UInt8 :=
  e.before.bytes ++ (e.value ++ e.behind.bytes)

/-- A name and an element, with what may stand before the name and behind it. -/
structure Member where
  before : Blanks
  /-- What stands between the quotes. -/
  name : List UInt8
  behind : Blanks
  element : Element

def Member.bytes (m : Member) : List UInt8 :=
  m.before.bytes ++ quote :: (m.name ++ quote :: (m.behind.bytes ++ colon :: m.element.bytes))

/-- The bytes of a container's parts, with commas between them. -/
def commaSeparated (parts : List (List UInt8)) : List UInt8 :=
  List.intercalate [comma] parts

/-- The texts that are a value. -/
inductive WellFormed : List UInt8 → Prop where
  | null : WellFormed (ascii "null")
  | true : WellFormed (ascii "true")
  | false : WellFormed (ascii "false")
  | number (n : Numeral) : WellFormed n.bytes
  | string {s : List UInt8} (hs : Quotable s) : WellFormed (quote :: (s ++ [quote]))
  | emptyArray (w : Blanks) : WellFormed (openBracket :: (w.bytes ++ [closeBracket]))
  | array (e : Element) (es : List Element) (hes : ∀ x ∈ e :: es, WellFormed x.value) :
      WellFormed
        (openBracket :: (commaSeparated ((e :: es).map Element.bytes) ++ [closeBracket]))
  | emptyObject (w : Blanks) : WellFormed (openBrace :: (w.bytes ++ [closeBrace]))
  | object (m : Member) (ms : List Member) (hnames : ∀ x ∈ m :: ms, Quotable x.name)
      (hms : ∀ x ∈ m :: ms, WellFormed x.element.value) :
      WellFormed (openBrace :: (commaSeparated ((m :: ms).map Member.bytes) ++ [closeBrace]))

/-! ## What surrounds a value -/

/-- What may follow a value: nothing, a blank, or the sign that ends the value's place. -/
def Ends (s : List UInt8) : Prop :=
  ∀ b ∈ s.head?, isBlank b ∨ b = comma ∨ b = closeBracket ∨ b = closeBrace

theorem isBlank_of_mem {b : UInt8} {w : Blanks} (hb : b ∈ w.bytes) : isBlank b = true := by
  rcases w.blank b hb with rfl | rfl | rfl | rfl <;> rfl

theorem ends_blanks (w : Blanks) {s : List UInt8} (hs : Ends s) : Ends (w.bytes ++ s) := by
  intro b hb
  cases hw : w.bytes with
  | nil =>
      rw [hw] at hb
      exact hs b hb
  | cons a w' =>
      rw [hw] at hb
      obtain rfl : a = b := Option.some.inj hb
      exact .inl (isBlank_of_mem (w := w) (by rw [hw]; exact List.mem_cons_self ..))

theorem ends_cons {b : UInt8} {s : List UInt8}
    (hb : b = comma ∨ b = closeBracket ∨ b = closeBrace) : Ends (b :: s) := by
  intro b' hb'
  obtain rfl : b = b' := Option.some.inj hb'
  exact .inr hb

@[simp] theorem skipBlank_blanks (w : Blanks) (s : List UInt8) :
    skipBlank (w.bytes ++ s) = skipBlank s :=
  List.dropWhile_append_of_pos fun _ hb => isBlank_of_mem hb

@[simp] theorem skipBlank_cons {b : UInt8} (hb : isBlank b = false) (s : List UInt8) :
    skipBlank (b :: s) = b :: s :=
  List.dropWhile_cons_of_neg (by simp [hb])

theorem skipBlank_before (w : Blanks) {b : UInt8} (hb : isBlank b = false) (s : List UInt8) :
    skipBlank (w.bytes ++ b :: s) = b :: s :=
  (skipBlank_blanks w _).trans (skipBlank_cons hb s)

@[simp] theorem skipBlank_skipBlank (s : List UInt8) : skipBlank (skipBlank s) = skipBlank s := by
  induction s with
  | nil => rfl
  | cons b s ih =>
      cases hb : isBlank b with
      | false => rw [skipBlank_cons hb, skipBlank_cons hb]
      | true => simpa [skipBlank, hb] using ih

theorem strip?_append (t s : List UInt8) : strip? t (t ++ s) = some s := by
  induction t with
  | nil => rfl
  | cons a t ih => simpa [strip?] using ih

theorem eq_append_of_strip? {t s s' : List UInt8} (h : strip? t s = some s') :
    s = t ++ s' := by
  induction t generalizing s with
  | nil => exact Option.some.inj h
  | cons a t ih =>
      cases s with
      | nil => cases h
      | cons b s =>
          simp only [strip?] at h
          split at h
          · next hab => rw [hab, ih h, List.cons_append]
          · cases h

theorem expect?_blanks (w : Blanks) {b : UInt8} (hb : isBlank b = false)
    (s : List UInt8) : expect? b (w.bytes ++ b :: s) = some s := by
  unfold expect?
  rw [skipBlank_before w hb]
  exact strip?_append [b] s

@[simp] theorem commaSeparated_nil : commaSeparated [] = [] :=
  List.intercalate_nil

@[simp] theorem commaSeparated_singleton (part : List UInt8) : commaSeparated [part] = part :=
  List.intercalate_singleton

@[simp] theorem commaSeparated_cons_cons (part part' : List UInt8)
    (parts : List (List UInt8)) :
    commaSeparated (part :: part' :: parts) = part ++ comma :: commaSeparated (part' :: parts) := by
  simp [commaSeparated, List.intercalate_cons_cons]

theorem exists_commaSeparated_cons (part : List UInt8) (parts : List (List UInt8)) :
    ∃ t, commaSeparated (part :: parts) = part ++ t := by
  cases parts with
  | nil => exact ⟨[], by simp⟩
  | cons part' parts => exact ⟨comma :: commaSeparated (part' :: parts), by simp⟩

end TwoTierWatchdog.Json
