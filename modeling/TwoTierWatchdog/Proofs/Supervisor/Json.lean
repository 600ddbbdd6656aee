import TwoTierWatchdog.Proofs.Supervisor.Values

/-!
# Settings survive JSON

Settings that are written are read back. More than that, a writer that knows other
settings than the reader does no harm: members may be missing, come in any order and have
names that the reader does not know, with any values, and any blanks may stand between
tokens. What is named is then as it was written, and the rest is the default. A setting
that is named twice is refused, whatever the values.

The reader keeps a list of the settings that it has read. At each member the settings
read so far are those in the list, and no setting is in the list twice.
-/

namespace TwoTierWatchdog.Supervisor

open Json

/-- A member of an object: its name, spelled in some way, and a value. -/
structure Entry extends Member where
  key : String
  spelled : Spells name key.toList
  wellFormed : WellFormed element.value

namespace Entry

/-- The setting that the entry names; none if no setting has that name. -/
def setting? (e : Entry) : Option Setting :=
  Setting.all.find? fun f => f.name == e.key

/-- The value is the one that the named setting has. -/
def Agrees (c : Settings) (e : Entry) : Prop :=
  ∀ f ∈ e.setting?, f.Denotes c e.element.value

/-- A setting's entry as it is written. -/
def ofSetting (c : Settings) (f : Setting) : Entry where
  before := .none
  name := ascii f.name
  behind := .none
  element := ⟨.none, f.write c, .none⟩
  key := f.name
  spelled := Quoted.spells_ascii f.name (by cases f <;> decide)
  wellFormed := Setting.wellFormed_of_denotes (f.denotes_write c)

end Entry

/-- The settings that entries name, in the order of the entries. -/
def named (entries : List Entry) : List Setting :=
  entries.filterMap Entry.setting?

def members (entries : List Entry) : List UInt8 :=
  commaSeparated (entries.map fun e => e.bytes)

/-- An object of entries, with blanks before it, in it and behind it. -/
def object (lead inner trail : Blanks) (entries : List Entry) : List UInt8 :=
  lead.bytes ++ openBrace :: (inner.bytes ++ (members entries ++ closeBrace :: trail.bytes))

/-! ## Names -/

theorem ascii_name (f : Setting) : ascii f.name = Text.Utf8.bytes f.name.toList := by
  cases f <;> decide

theorem ofName?_bytes (key : String) :
    Setting.ofName? (Text.Utf8.bytes key.toList) =
      Setting.all.find? fun f => f.name == key := by
  have hname : ∀ f : Setting,
      (ascii f.name == Text.Utf8.bytes key.toList) = (f.name == key) := by
    intro f
    rw [ascii_name, Bool.eq_iff_iff, beq_iff_eq, beq_iff_eq]
    exact ⟨fun h => String.toList_inj.mp (Text.Utf8.bytes_inj h), fun h => h ▸ rfl⟩
  simp only [Setting.ofName?, hname]

theorem named_cons (e : Entry) (es : List Entry) :
    named (e :: es) = e.setting?.toList ++ named es := by
  cases h : e.setting? with
  | none => simp [named, h]
  | some f => simp [named, h]

theorem named_singleton (e : Entry) : named [e] = e.setting?.toList :=
  (named_cons e []).trans (List.append_nil _)

/-! ## One member -/

variable {c : Settings} {e : Entry} {seen : List Setting} {size : Nat} {rest : List UInt8}

theorem readMember?_entry :
    readMember? size seen c (e.bytes ++ rest) =
      match e.setting? with
      | none => (Skip.value? size (e.element.bytes ++ rest)).map fun s => (seen, c, s)
      | some f =>
        if f ∈ seen then none
        else (f.read? c (e.element.bytes ++ rest)).map fun (c, s) => (f :: seen, c, s) := by
  have hquote : isBlank quote = false := by decide
  have hcolon : isBlank colon = false := by decide
  unfold readMember? Member.bytes
  simp only [List.append_assoc, List.cons_append]
  rw [expect?_blanks _ hquote, Option.bind_some, Quoted.text?_spells e.spelled]
  simp only [Option.bind_eq_bind, Option.bind_some]
  rw [expect?_blanks _ hcolon, Option.bind_some, readValue?, ofName?_bytes]
  rfl

/-- A member that names no setting read before, and has the value of the one that it
names. -/
theorem readMember?_agrees (hagrees : e.Agrees c) (hseen : ∀ f ∈ e.setting?, f ∉ seen)
    (hsize : e.element.bytes.length ≤ size) (hrest : Ends rest) :
    readMember? size seen (c.only seen) (e.bytes ++ rest) =
      some (e.setting?.toList ++ seen, c.only (e.setting?.toList ++ seen),
        e.element.behind.bytes ++ rest) := by
  rw [readMember?_entry]
  cases hf : e.setting? with
  | none =>
      simp only [Skip.value?_element e.wellFormed hsize hrest]
      rfl
  | some f =>
      simp only [if_neg (hseen f hf), Setting.read?_of_denotes (hagrees f hf) hrest]
      rfl

/-- Whatever the value of a member, reading goes on behind it or fails; and a setting that
was read before is not read again. -/
theorem of_readMember? {seen' : List Setting} {c' : Settings} {s : List UInt8}
    (hsize : e.element.bytes.length ≤ size) (hrest : Ends rest) (hseen : seen.Nodup)
    (h : readMember? size seen c (e.bytes ++ rest) = some (seen', c', s)) :
    seen' = e.setting?.toList ++ seen ∧ seen'.Nodup ∧ s = e.element.behind.bytes ++ rest := by
  rw [readMember?_entry] at h
  cases hf : e.setting? with
  | none =>
      rw [hf] at h
      simp only [Skip.value?_element e.wellFormed hsize hrest, Option.map_some,
        Option.some.injEq, Prod.mk.injEq] at h
      obtain ⟨rfl, -, rfl⟩ := h
      exact ⟨rfl, hseen, rfl⟩
  | some f =>
      rw [hf] at h
      dsimp only at h
      split at h
      · cases h
      · next hnew =>
          obtain ⟨⟨c'', s'⟩, hread, heq⟩ := Option.map_eq_some_iff.mp h
          simp only [Prod.mk.injEq] at heq
          obtain ⟨rfl, -, rfl⟩ := heq
          have hends := Skip.endsAt_element e.wellFormed hrest
          exact ⟨rfl, List.nodup_cons.mpr ⟨hnew, hseen⟩,
            (Setting.endsAt_of_read? hread).unique hends⟩

/-! ## All members -/

@[simp] theorem members_singleton (e : Entry) : members [e] = e.bytes :=
  commaSeparated_singleton _

@[simp] theorem members_cons_cons (e e' : Entry) (es : List Entry) :
    members (e :: e' :: es) = e.bytes ++ comma :: members (e' :: es) :=
  commaSeparated_cons_cons ..

theorem length_element_le (m : Member) : m.element.bytes.length ≤ m.bytes.length := by
  simp only [Member.bytes, List.length_append, List.length_cons]
  omega

/-- To have read the setting of the first entry is to have one setting less to read. -/
theorem named_cons_perm (e : Entry) (es : List Entry) (seen : List Setting) :
    (named (e :: es) ++ seen).Perm (named es ++ (e.setting?.toList ++ seen)) := by
  rw [named_cons, List.append_assoc]
  exact List.perm_append_comm_assoc ..

theorem readMembers?_comma {seen' : List Setting} {c' : Settings} {s s' t : List UInt8}
    (h : readMember? size seen c s = some (seen', c', s')) (hs : skipBlank s' = comma :: t)
    (count : Nat) :
    readMembers? size (count + 1) seen c s = readMembers? size count seen' c' t := by
  rw [readMembers?, h]
  dsimp only
  rw [hs]
  rfl

theorem readMembers?_closeBrace {seen' : List Setting} {c' : Settings} {s s' t : List UInt8}
    (h : readMember? size seen c s = some (seen', c', s')) (hs : skipBlank s' = closeBrace :: t)
    (count : Nat) : readMembers? size (count + 1) seen c s = some (c', t) := by
  rw [readMembers?, h]
  dsimp only
  rw [hs]
  rfl

theorem not_mem_of_nodup {es : List Entry} (h : (named (e :: es) ++ seen).Nodup) :
    ∀ f ∈ e.setting?, f ∉ seen := by
  intro f hf hmem
  have hnodup := (List.nodup_append.mp ((named_cons_perm e es seen).nodup_iff.mp h)).2.1
  rw [hf] at hnodup
  exact (List.nodup_cons.mp hnodup).1 hmem

/-- The settings that are read are those of the list, at each member and at the end. -/
theorem readMembers?_of_nodup (e : Entry) (es : List Entry)
    (hagrees : ∀ x ∈ e :: es, x.Agrees c) (hsize : (members (e :: es)).length ≤ size)
    {count : Nat} (hcount : es.length < count) (hnodup : (named (e :: es) ++ seen).Nodup)
    (rest : List UInt8) :
    readMembers? size count seen (c.only seen) (members (e :: es) ++ closeBrace :: rest) =
      some (c.only (named (e :: es) ++ seen), rest) := by
  induction es generalizing e seen count with
  | nil =>
      obtain ⟨count, rfl⟩ := Nat.exists_eq_succ_of_ne_zero (Nat.ne_zero_of_lt hcount)
      have hlength := length_element_le e.toMember
      rw [members_singleton] at hsize ⊢
      have hread := readMember?_agrees (hagrees e (List.mem_singleton_self e))
        (not_mem_of_nodup hnodup) (Nat.le_trans hlength hsize)
        (ends_cons (b := closeBrace) (s := rest) (by simp))
      rw [readMembers?_closeBrace hread (skipBlank_before _ (by decide) _)]
      rw [named_singleton]
  | cons e' es ih =>
      obtain ⟨count, rfl⟩ := Nat.exists_eq_succ_of_ne_zero (Nat.ne_zero_of_lt hcount)
      have hlength := length_element_le e.toMember
      have hperm := named_cons_perm e (e' :: es) seen
      rw [members_cons_cons, List.length_append, List.length_cons] at hsize
      rw [members_cons_cons, List.append_assoc, List.cons_append]
      have hread := readMember?_agrees (hagrees e (List.mem_cons_self ..))
        (not_mem_of_nodup hnodup) (show e.element.bytes.length ≤ size by omega)
        (ends_cons (b := comma) (s := members (e' :: es) ++ closeBrace :: rest) (by simp))
      rw [readMembers?_comma hread (skipBlank_before _ (by decide) _),
        ih e' (fun x hx => hagrees x (List.mem_cons_of_mem _ hx)) (by omega)
          (Nat.lt_of_succ_lt_succ hcount) (hperm.nodup_iff.mp hnodup),
        Settings.only_congr c fun f => hperm.mem_iff.symm]

/-- A setting that is named again is found to be read already, if no value before it was
refused. -/
theorem readMembers?_of_not_nodup (e : Entry) (es : List Entry)
    (hsize : (members (e :: es)).length ≤ size) (hseen : seen.Nodup)
    (hnodup : ¬(named (e :: es) ++ seen).Nodup) (count : Nat) (rest : List UInt8) :
    readMembers? size count seen c (members (e :: es) ++ closeBrace :: rest) = none := by
  induction es generalizing e seen c count with
  | nil =>
      have hlength := length_element_le e.toMember
      rw [members_singleton] at hsize ⊢
      cases count with
      | zero => rfl
      | succ count =>
          cases h : readMember? size seen c (e.bytes ++ closeBrace :: rest) with
          | none => simp [readMembers?, h]
          | some r =>
              obtain ⟨seen', c', s⟩ := r
              have hend : Ends (closeBrace :: rest) := ends_cons (by simp)
              obtain ⟨rfl, hnodup', -⟩ := of_readMember? (Nat.le_trans hlength hsize) hend hseen h
              exact absurd hnodup' (named_singleton e ▸ hnodup)
  | cons e' es ih =>
      have hlength := length_element_le e.toMember
      have hperm := named_cons_perm e (e' :: es) seen
      rw [members_cons_cons, List.length_append, List.length_cons] at hsize
      rw [members_cons_cons, List.append_assoc, List.cons_append]
      cases count with
      | zero => rfl
      | succ count =>
          cases h : readMember? size seen c
              (e.bytes ++ comma :: (members (e' :: es) ++ closeBrace :: rest)) with
          | none => simp [readMembers?, h]
          | some r =>
              obtain ⟨seen', c', s⟩ := r
              have hend : Ends (comma :: (members (e' :: es) ++ closeBrace :: rest)) :=
                ends_cons (by simp)
              obtain ⟨rfl, hnodup', rfl⟩ := of_readMember? (by omega) hend hseen h
              rw [readMembers?_comma h (skipBlank_before _ (by decide) _)]
              exact ih e' (by omega) hnodup' (fun h => hnodup (hperm.nodup_iff.mpr h)) count

/-! ## The whole object -/

theorem readSettings?_brace (w : Blanks) (s : List UInt8) :
    readSettings? (w.bytes ++ openBrace :: s) =
      match skipBlank s with
      | closeBrace :: s => some ({}, s)
      | s => readMembers? s.length s.length [] {} s := by
  unfold readSettings?
  rw [skipBlank_before _ (by decide)]
  rfl

/-- The entry without the blanks before it. -/
def Entry.trim (e : Entry) : Entry :=
  { e with before := .none }

theorem members_trim (e : Entry) (es : List Entry) :
    members (e :: es) = e.before.bytes ++ members (e.trim :: es) := by
  cases es with
  | nil => simp [Entry.trim, Member.bytes, Blanks.none]
  | cons e' es => simp [Entry.trim, Member.bytes, Blanks.none]

theorem length_le_members (e : Entry) (es : List Entry) :
    es.length < (members (e :: es)).length := by
  induction es generalizing e with
  | nil =>
      simp only [members_singleton, Member.bytes, List.length_append, List.length_cons,
        List.length_nil]
      omega
  | cons e' es ih =>
      have := ih e'
      simp only [members_cons_cons, List.length_append, List.length_cons]
      omega

/-- The members are read from a text that is long enough for them. -/
theorem readSettings?_object (lead inner trail : Blanks) (e : Entry) (es : List Entry) :
    ∃ n, (members (e.trim :: es)).length ≤ n ∧
      readSettings? (object lead inner trail (e :: es)) =
        readMembers? n n [] {} (members (e.trim :: es) ++ closeBrace :: trail.bytes) := by
  obtain ⟨t, ht⟩ : ∃ t, members (e.trim :: es) ++ closeBrace :: trail.bytes = quote :: t := by
    obtain ⟨t, ht⟩ := exists_commaSeparated_cons e.trim.bytes (es.map fun e => e.bytes)
    exact ⟨_, congrArg (fun s => s ++ closeBrace :: trail.bytes) ht⟩
  refine ⟨(members (e.trim :: es) ++ closeBrace :: trail.bytes).length, by simp, ?_⟩
  rw [object, readSettings?_brace, members_trim, List.append_assoc, skipBlank_blanks,
    skipBlank_blanks, ht, skipBlank_cons (by decide)]
  rfl

theorem readSettings?_object_nil (lead inner trail : Blanks) :
    readSettings? (object lead inner trail []) = some ({}, trail.bytes) := by
  rw [object, readSettings?_brace, show members [] = [] from commaSeparated_nil,
    List.nil_append, skipBlank_before _ (by decide)]
  rfl

theorem ofJson?_of_readSettings? {s : List UInt8} (trail : Blanks)
    (h : readSettings? s = some (c, trail.bytes)) : Settings.ofJson? s = some c := by
  have htrail : skipBlank trail.bytes = [] := by
    have h := skipBlank_blanks trail []
    rwa [List.append_nil] at h
  unfold Settings.ofJson?
  rw [h]
  simp [htrail]

theorem ofJson?_object_of_nodup (lead inner trail : Blanks) (entries : List Entry)
    (hagrees : ∀ e ∈ entries, e.Agrees c) (hnodup : (named entries).Nodup) :
    Settings.ofJson? (object lead inner trail entries) = some (c.only (named entries)) := by
  refine ofJson?_of_readSettings? trail ?_
  cases entries with
  | nil =>
      rw [readSettings?_object_nil, show named [] = [] from rfl, Settings.only_nil]
  | cons e es =>
      have hagrees : ∀ x ∈ e.trim :: es, x.Agrees c := by
        intro x hx
        rcases List.mem_cons.mp hx with rfl | hx
        · exact hagrees e (List.mem_cons_self ..)
        · exact hagrees x (List.mem_cons_of_mem _ hx)
      have hlength := length_le_members e.trim es
      have hnodup : (named (e.trim :: es) ++ []).Nodup := (List.append_nil _).symm ▸ hnodup
      obtain ⟨n, hn, hmembers⟩ := readSettings?_object lead inner trail e es
      have hread := readMembers?_of_nodup e.trim es hagrees hn
        (show es.length < n by omega) hnodup trail.bytes
      rw [Settings.only_nil, List.append_nil] at hread
      exact hmembers.trans hread

theorem ofJson?_object_of_not_nodup (lead inner trail : Blanks) (entries : List Entry)
    (hnodup : ¬(named entries).Nodup) :
    Settings.ofJson? (object lead inner trail entries) = none := by
  cases entries with
  | nil => exact absurd List.nodup_nil hnodup
  | cons e es =>
      have hnodup : ¬(named (e.trim :: es) ++ []).Nodup := (List.append_nil _).symm ▸ hnodup
      obtain ⟨n, hn, hmembers⟩ := readSettings?_object lead inner trail e es
      have hread := readMembers?_of_not_nodup (c := {}) e.trim es hn List.nodup_nil hnodup n
        trail.bytes
      unfold Settings.ofJson?
      rw [hmembers, hread]

/-! ## What is written -/

theorem setting?_ofSetting (c : Settings) (f : Setting) :
    (Entry.ofSetting c f).setting? = some f := by
  show Setting.all.find? (fun f' => f'.name == f.name) = some f
  cases f <;> decide

theorem agrees_ofSetting (c : Settings) (f : Setting) : (Entry.ofSetting c f).Agrees c := by
  intro f' hf'
  rw [setting?_ofSetting] at hf'
  obtain rfl : f = f' := Option.some.inj hf'
  exact f.denotes_write c

theorem named_ofSetting (c : Settings) (fs : List Setting) :
    named (fs.map (Entry.ofSetting c)) = fs := by
  induction fs with
  | nil => rfl
  | cons f fs ih =>
      rw [List.map_cons, named_cons, setting?_ofSetting, ih]
      rfl

theorem toJson_eq_object (c : Settings) :
    c.toJson = object .none .none .none (Setting.all.map (Entry.ofSetting c)) := by
  have hbytes : (fun e : Entry => e.bytes) ∘ Entry.ofSetting c = Setting.writeMember c := by
    funext f
    simp [Entry.ofSetting, Member.bytes, Element.bytes, Blanks.none, Setting.writeMember,
      writeString]
  simp [Settings.toJson, object, members, commaSeparated, hbytes, Blanks.none]

/-! ## Writers and readers that know different settings -/

/-- Settings that are written are read back, valid or not. An object that names some of
them, in any order, among members of other names, gives those settings and the defaults
for the rest, if each is named once and has the value that it would be written with; if
one is named twice, the object gives none. -/
theorem settings_survive_skew (c : Settings) :
    Settings.ofJson? c.toJson = some c ∧
      ∀ (lead inner trail : Blanks) (entries : List Entry),
        ((named entries).Nodup → (∀ e ∈ entries, e.Agrees c) →
          Settings.ofJson? (object lead inner trail entries) = some (c.only (named entries))) ∧
        (¬(named entries).Nodup → Settings.ofJson? (object lead inner trail entries) = none) := by
  refine ⟨?_, fun lead inner trail entries => ⟨fun hnodup hagrees => ?_, fun hnodup => ?_⟩⟩
  · have hnamed := named_ofSetting c Setting.all
    have hread := ofJson?_object_of_nodup (c := c) .none .none .none
      (Setting.all.map (Entry.ofSetting c))
      (fun e he => by
        obtain ⟨f, -, rfl⟩ := List.mem_map.mp he
        exact agrees_ofSetting c f)
      (by rw [hnamed]; decide)
    rw [toJson_eq_object, hread, hnamed, Settings.only_all]
  · exact ofJson?_object_of_nodup lead inner trail entries hagrees hnodup
  · exact ofJson?_object_of_not_nodup lead inner trail entries hnodup

/-- A number with all its parts, half of a surrogate pair and an object. -/
theorem wellFormed_mixture :
    WellFormed (ascii "[-0.5E+3,\"\\ud83d\",\x7b\"a\":\x7b \x7d\x7d]") := by
  have hnumber := WellFormed.number
    { sign := [minus]
      integer := [0x30]
      fraction := point :: [0x35]
      exponent := 0x45 :: ([plus] ++ [0x33])
      sign_minus := .inr rfl
      isInteger := ⟨⟨by simp, by simp⟩, fun _ => rfl⟩
      isFraction := .present ⟨by simp, by simp⟩
      isExponent := .present (.inr rfl) (.inr (.inl rfl)) ⟨by simp, by simp⟩ }
  have hstring := WellFormed.string (.unit (.hex (i := 13) (j := 8) (k := 3) (l := 13)
    (a := 0x64) (b := 0x38) (c := 0x33) (d := 0x64)
    (.inl rfl) (.inl rfl) (.inl rfl) (.inl rfl)) .nil)
  have hobject : WellFormed (ascii "\x7b\"a\":\x7b \x7d\x7d") := by
    refine .object ⟨.none, ascii "a", .none, ⟨.none, ascii "\x7b \x7d", .none⟩⟩ [] ?_ ?_
    · simp only [List.forall_mem_cons]
      exact ⟨.plain (by decide) (by decide) (by decide) .nil, by simp⟩
    · simp only [List.forall_mem_cons]
      exact ⟨.emptyObject ⟨[0x20], by simp⟩, by simp⟩
  refine .array ⟨.none, ascii "-0.5E+3", .none⟩
    [⟨.none, ascii "\"\\ud83d\"", .none⟩, ⟨.none, ascii "\x7b\"a\":\x7b \x7d\x7d", .none⟩] ?_
  simp only [List.forall_mem_cons]
  exact ⟨hnumber, hstring, hobject, by simp⟩

/-- A member that no setting has the name of. The name begins with an escape. -/
def foreign : Entry where
  before := ⟨[0x20], by simp⟩
  name := ascii "\\u007aone"
  behind := .none
  element :=
    { before := .none
      value := ascii "[-0.5E+3,\"\\ud83d\",\x7b\"a\":\x7b \x7d\x7d]"
      behind := ⟨[0x20], by simp⟩ }
  key := "zone"
  spelled := .unit (c := 'z')
    (.hex (i := 0) (j := 0) (k := 7) (l := 10) (.inl rfl) (.inl rfl) (.inl rfl) (.inl rfl))
    (Quoted.spells_ascii "one" (by decide))
  wellFormed := wellFormed_mixture

theorem spells_fire : Spells (ascii "f\\u0069re") (policyName .fire).toList :=
  .plain (c := 'f') (by decide) (by decide) (by decide)
    (.unit (c := 'i')
      (.hex (i := 0) (j := 0) (k := 6) (l := 9) (.inl rfl) (.inl rfl) (.inl rfl) (.inl rfl))
      (Quoted.spells_ascii "re" (by decide)))

/-- A policy whose name is spelled with an escape. -/
def spelledPolicy : Entry where
  before := .none
  name := ascii "dispose_policy"
  behind := ⟨[0x20], by simp⟩
  element := ⟨⟨[0x09], by simp⟩, ascii "\"f\\u0069re\"", .none⟩
  key := "dispose_policy"
  spelled := Quoted.spells_ascii "dispose_policy" (by decide)
  wellFormed := .string (Quoted.quotable_of_spells spells_fire)

/-- Two settings of seven, the later one first, and a member that the reader does not
know; then the same with the first setting again in place of the second. -/
theorem members_of_another_version :
    let feed := ascii "\n\x7b\"feed_interval_ms\":4294967295,"
    let zone := ascii " \"\\u007aone\":[-0.5E+3,\"\\ud83d\",\x7b\"a\":\x7b \x7d\x7d] ,"
    Settings.ofJson? (feed ++ (zone ++ ascii "\"dispose_policy\" :\t\"f\\u0069re\"\x7d")) =
        some { feedIntervalMs := 0xFFFFFFFF, disposePolicy := .fire } ∧
      Settings.ofJson? (feed ++ (zone ++ ascii "\"feed_interval_ms\":4294967295\x7d")) =
        none := by
  intro feed zone
  let c : Settings := { feedIntervalMs := 0xFFFFFFFF, disposePolicy := .fire }
  let first := Entry.ofSetting c .feedIntervalMs
  have hagrees : ∀ e ∈ [first, foreign, spelledPolicy], e.Agrees c := by
    have hforeign : foreign.setting? = none := by decide
    have hpolicy : spelledPolicy.setting? = some .disposePolicy := by decide
    simp only [List.forall_mem_cons]
    refine ⟨agrees_ofSetting c _, ?_, ?_, by simp⟩
    · intro f hf
      rw [hforeign] at hf
      cases hf
    · intro f hf
      rw [hpolicy] at hf
      obtain rfl : .disposePolicy = f := Option.some.inj hf
      exact ⟨_, rfl, spells_fire⟩
  have h := (settings_survive_skew c).2 ⟨[0x0A], by simp⟩ .none .none
  have honce := (h [first, foreign, spelledPolicy]).1 (by decide) hagrees
  have htwice := (h [first, foreign, first]).2 (by decide)
  constructor
  · rw [show c.only (named [first, foreign, spelledPolicy]) = c from rfl] at honce
    refine Eq.trans (congrArg Settings.ofJson? ?_) honce
    decide +kernel
  · refine Eq.trans (congrArg Settings.ofJson? ?_) htwice
    decide +kernel

end TwoTierWatchdog.Supervisor
