import TwoTierWatchdog.Json.Skip
import TwoTierWatchdog.Proofs.Json.Number
import TwoTierWatchdog.Proofs.Json.Quoted

/-!
# Every value is passed over

The reader that looks for the end of a value finds it, whatever the value and however
deep its containers, and takes no more steps than the value has bytes. One lemma says
what the reader does at each sign; a container is then passed over by an induction on
its parts, and a value by an induction on its derivation.
-/

namespace TwoTierWatchdog.Json.Skip

variable {frames : List Frame} {s rest : List UInt8}

/-! ## One step -/

theorem run_value (steps : Nat) :
    run (steps + 1) .value frames s =
      match skipBlank s with
      | openBracket :: s =>
        match skipBlank s with
        | closeBracket :: s => run steps .after frames s
        | s => run steps .value (.array :: frames) s
      | openBrace :: s =>
        match skipBlank s with
        | closeBrace :: s => run steps .after frames s
        | s =>
          match name? s with
          | none => none
          | some s => run steps .value (.object :: frames) s
      | s =>
        match scalar? s with
        | none => none
        | some s => run steps .after frames s :=
  rfl

theorem run_after_nil (steps : Nat) : run (steps + 1) .after [] s = some s :=
  rfl

theorem run_after_array (steps : Nat) :
    run (steps + 1) .after (.array :: frames) s =
      match skipBlank s with
      | comma :: s => run steps .value (.array :: frames) s
      | closeBracket :: s => run steps .after frames s
      | _ => none :=
  rfl

theorem run_after_object (steps : Nat) :
    run (steps + 1) .after (.object :: frames) s =
      match skipBlank s with
      | comma :: s =>
        match name? s with
        | none => none
        | some s => run steps .value (.object :: frames) s
      | closeBrace :: s => run steps .after frames s
      | _ => none :=
  rfl

theorem run_bracket (steps : Nat) :
    run (steps + 1) .value frames (openBracket :: s) =
      match skipBlank s with
      | closeBracket :: s => run steps .after frames s
      | s => run steps .value (.array :: frames) s :=
  rfl

theorem run_brace (steps : Nat) :
    run (steps + 1) .value frames (openBrace :: s) =
      match skipBlank s with
      | closeBrace :: s => run steps .after frames s
      | s =>
        match name? s with
        | none => none
        | some s => run steps .value (.object :: frames) s :=
  rfl

/-- Blanks before a value do not matter. -/
theorem run_skipBlank (steps : Nat) :
    run steps .value frames (skipBlank s) = run steps .value frames s := by
  cases steps with
  | zero => rfl
  | succ steps => rw [run_value, run_value, skipBlank_skipBlank]

theorem run_blanks (steps : Nat) (w : Blanks) :
    run steps .value frames (w.bytes ++ s) = run steps .value frames s := by
  rw [← run_skipBlank, skipBlank_blanks, run_skipBlank]

/-- A value that holds no other begins with no blank and opens no container. -/
theorem first_of_scalar? (h : scalar? s = some rest) :
    ∃ b t, s = b :: t ∧ isBlank b = false ∧ b ≠ openBracket ∧ b ≠ openBrace := by
  cases s with
  | nil => cases h
  | cons b t =>
      refine ⟨b, t, rfl, ?_, ?_, ?_⟩
      · cases hb : isBlank b with
        | false => rfl
        | true =>
            simp only [isBlank, Bool.or_eq_true, beq_iff_eq] at hb
            rcases hb with ((rfl | rfl) | rfl) | rfl <;> cases h
      · rintro rfl
        cases h
      · rintro rfl
        cases h

theorem run_scalar (h : scalar? s = some rest) (steps : Nat) :
    run (steps + 1) .value frames s = run steps .after frames rest := by
  obtain ⟨b, t, rfl, hblank, hbracket, hbrace⟩ := first_of_scalar? h
  rw [run_value, skipBlank_cons hblank]
  split
  · next heq => exact absurd (List.cons_eq_cons.mp heq).1 hbracket
  · next heq => exact absurd (List.cons_eq_cons.mp heq).1 hbrace
  · rw [h]

theorem run_openBracket (hs : (skipBlank s).head? ≠ some closeBracket) (steps : Nat) :
    run (steps + 1) .value frames (openBracket :: s) =
      run steps .value (.array :: frames) s := by
  rw [run_bracket]
  split
  · next h =>
      rw [h] at hs
      exact absurd rfl hs
  · exact run_skipBlank steps

theorem run_emptyArray (steps : Nat) (w : Blanks) :
    run (steps + 1) .value frames (openBracket :: (w.bytes ++ closeBracket :: s)) =
      run steps .after frames s := by
  rw [run_bracket, skipBlank_before _ (by decide)]
  rfl

/-- A name begins with a quote. -/
theorem skipBlank_of_name? (h : name? s = some rest) :
    ∃ t, skipBlank s = quote :: t ∧ name? (skipBlank s) = some rest := by
  have hname : name? (skipBlank s) = name? s := by
    unfold name? expect?
    rw [skipBlank_skipBlank]
  cases hs : strip? [quote] (skipBlank s) with
  | none =>
      unfold name? expect? at h
      rw [hs] at h
      cases h
  | some t => exact ⟨t, eq_append_of_strip? hs, hname.trans h⟩

theorem run_openBrace (h : name? s = some rest) (steps : Nat) :
    run (steps + 1) .value frames (openBrace :: s) =
      run steps .value (.object :: frames) rest := by
  obtain ⟨t, ht, hname⟩ := skipBlank_of_name? h
  rw [ht] at hname
  rw [run_brace, ht]
  show (match name? (quote :: t) with
    | none => none
    | some s => run steps .value (.object :: frames) s) = _
  rw [hname]

theorem run_emptyObject (steps : Nat) (w : Blanks) :
    run (steps + 1) .value frames (openBrace :: (w.bytes ++ closeBrace :: s)) =
      run steps .after frames s := by
  rw [run_brace, skipBlank_before _ (by decide)]
  rfl

theorem run_comma_array (h : skipBlank s = comma :: rest) (steps : Nat) :
    run (steps + 1) .after (.array :: frames) s = run steps .value (.array :: frames) rest := by
  rw [run_after_array, h]
  rfl

theorem run_closeBracket (h : skipBlank s = closeBracket :: rest) (steps : Nat) :
    run (steps + 1) .after (.array :: frames) s = run steps .after frames rest := by
  rw [run_after_array, h]
  rfl

theorem run_comma_object {t : List UInt8} (h : skipBlank s = comma :: t)
    (hname : name? t = some rest) (steps : Nat) :
    run (steps + 1) .after (.object :: frames) s = run steps .value (.object :: frames) rest := by
  rw [run_after_object, h]
  show (match name? t with
    | none => none
    | some s => run steps .value (.object :: frames) s) = _
  rw [hname]

theorem run_closeBrace (h : skipBlank s = closeBrace :: rest) (steps : Nat) :
    run (steps + 1) .after (.object :: frames) s = run steps .after frames rest := by
  rw [run_after_object, h]
  rfl

/-! ## Parts of a container -/

theorem name?_member (m : Member) (hname : Quotable m.name) :
    name? (m.bytes ++ s) = some (m.element.bytes ++ s) := by
  have hquote : isBlank quote = false := by decide
  have hcolon : isBlank colon = false := by decide
  unfold name? Member.bytes
  simp only [List.append_assoc, List.cons_append]
  rw [expect?_blanks _ hquote, Option.bind_some, Quoted.skip?_quotable hname, Option.bind_some,
    expect?_blanks _ hcolon]

/-- The value is passed over, wherever it stands, in no more steps than it has bytes. -/
def Passed (v : List UInt8) : Prop :=
  ∃ n ≤ v.length, ∀ (steps : Nat) (frames : List Frame) (rest : List UInt8), Ends rest →
    run (steps + n) .value frames (v ++ rest) = run steps .after frames rest

/-- A value between blanks: those behind it are left for what comes next. -/
theorem passed_element {e : Element} (he : Passed e.value) :
    ∃ n ≤ e.bytes.length, ∀ (steps : Nat) (frames : List Frame) (rest : List UInt8),
      Ends rest →
      run (steps + n) .value frames (e.bytes ++ rest) =
        run steps .after frames (e.behind.bytes ++ rest) := by
  obtain ⟨n, hn, hrun⟩ := he
  refine ⟨n, ?_, fun steps frames rest hrest => ?_⟩
  · simp only [Element.bytes, List.length_append]
    omega
  · simp only [Element.bytes, List.append_assoc]
    rw [run_blanks, hrun _ _ _ (ends_blanks _ hrest)]

theorem passed_elements (e : Element) (es : List Element)
    (hes : ∀ x ∈ e :: es, Passed x.value) :
    ∃ n ≤ (commaSeparated ((e :: es).map Element.bytes)).length + 1,
      ∀ (steps : Nat) (frames : List Frame) (rest : List UInt8),
        run (steps + n) .value (.array :: frames)
            (commaSeparated ((e :: es).map Element.bytes) ++ closeBracket :: rest) =
          run steps .after frames rest := by
  induction es generalizing e with
  | nil =>
      obtain ⟨n, hn, hrun⟩ := passed_element (hes e (List.mem_singleton_self e))
      refine ⟨n + 1, by simpa using hn, fun steps frames rest => ?_⟩
      have hend : Ends (closeBracket :: rest) := ends_cons (by simp)
      rw [show steps + (n + 1) = steps + 1 + n by omega]
      simp only [List.map_cons, List.map_nil, commaSeparated_singleton]
      rw [hrun _ _ _ hend, run_closeBracket (skipBlank_before _ (by decide) _)]
  | cons e' es ih =>
      obtain ⟨n, hn, hrun⟩ := passed_element (hes e (List.mem_cons_self ..))
      obtain ⟨n', hn', hrun'⟩ := ih e' fun x hx => hes x (List.mem_cons_of_mem _ hx)
      refine ⟨n + 1 + n', ?_, fun steps frames rest => ?_⟩
      · simp only [List.map_cons, commaSeparated_cons_cons, List.length_append,
          List.length_cons] at hn' ⊢
        omega
      · have hend : Ends (comma :: (commaSeparated ((e' :: es).map Element.bytes) ++
            closeBracket :: rest)) := ends_cons (by simp)
        rw [show steps + (n + 1 + n') = steps + n' + 1 + n by omega, ← hrun' steps]
        simp only [List.map_cons, commaSeparated_cons_cons, List.append_assoc,
          List.cons_append] at hend ⊢
        rw [hrun _ _ _ hend, run_comma_array (skipBlank_before _ (by decide) _)]

/-- The first name has been read. -/
theorem passed_members (m : Member) (ms : List Member)
    (hnames : ∀ x ∈ m :: ms, Quotable x.name)
    (hms : ∀ x ∈ m :: ms, Passed x.element.value) :
    ∃ n ≤ (commaSeparated ((m :: ms).map Member.bytes)).length + 1,
      ∀ (steps : Nat) (frames : List Frame) (rest : List UInt8), ∃ s,
        name? (commaSeparated ((m :: ms).map Member.bytes) ++ closeBrace :: rest) = some s ∧
          run (steps + n) .value (.object :: frames) s = run steps .after frames rest := by
  induction ms generalizing m with
  | nil =>
      obtain ⟨n, hn, hrun⟩ := passed_element (hms m (List.mem_singleton_self m))
      refine ⟨n + 1, ?_, fun steps frames rest => ?_⟩
      · simp only [List.map_cons, List.map_nil, commaSeparated_singleton, Member.bytes,
          List.length_append, List.length_cons]
        omega
      · have hend : Ends (closeBrace :: rest) := ends_cons (by simp)
        simp only [List.map_cons, List.map_nil, commaSeparated_singleton]
        refine ⟨_, name?_member m (hnames m (List.mem_singleton_self m)), ?_⟩
        rw [show steps + (n + 1) = steps + 1 + n by omega, hrun _ _ _ hend,
          run_closeBrace (skipBlank_before _ (by decide) _)]
  | cons m' ms ih =>
      obtain ⟨n, hn, hrun⟩ := passed_element (hms m (List.mem_cons_self ..))
      obtain ⟨n', hn', hrun'⟩ := ih m' (fun x hx => hnames x (List.mem_cons_of_mem _ hx))
        fun x hx => hms x (List.mem_cons_of_mem _ hx)
      refine ⟨n + 1 + n', ?_, fun steps frames rest => ?_⟩
      · simp only [List.map_cons, commaSeparated_cons_cons, Member.bytes, List.length_append,
          List.length_cons] at hn' ⊢
        omega
      · obtain ⟨s, hname, hrest⟩ := hrun' steps frames rest
        have hend : Ends (comma :: (commaSeparated ((m' :: ms).map Member.bytes) ++
            closeBrace :: rest)) := ends_cons (by simp)
        simp only [List.map_cons, commaSeparated_cons_cons, List.append_assoc,
          List.cons_append] at hname hend ⊢
        refine ⟨_, name?_member m (hnames m (List.mem_cons_self ..)), ?_⟩
        rw [show steps + (n + 1 + n') = steps + n' + 1 + n by omega, hrun _ _ _ hend,
          run_comma_object (skipBlank_before _ (by decide) _) hname, hrest]

/-! ## Values -/

theorem scalar?_of_first {b : UInt8} (hb : b = minus ∨ 0x30 ≤ b ∧ b ≤ 0x39) (t : List UInt8) :
    scalar? (b :: t) = Number.skip? (b :: t) := by
  have hother : b ≠ quote ∧ b ≠ 0x6E ∧ b ≠ 0x74 ∧ b ≠ 0x66 := by
    refine ⟨?_, ?_, ?_, ?_⟩ <;>
      · rintro rfl
        revert hb
        decide
  obtain ⟨hquote, hn, ht, hf⟩ := hother
  simp only [scalar?, if_neg hquote, if_neg hn, if_neg ht, if_neg hf]

theorem scalar?_of_natural? {bound n : Nat} (h : Number.natural? bound s = some (n, rest)) :
    scalar? s = some rest := by
  obtain ⟨hskip, b, t, rfl, hb⟩ := Number.skip?_of_natural? h
  exact (scalar?_of_first (.inr hb) t).trans hskip

theorem passed_scalar {v : List UInt8} (hv : v ≠ [])
    (h : ∀ rest, Ends rest → scalar? (v ++ rest) = some rest) : Passed v :=
  ⟨1, List.length_pos_iff.mpr hv, fun steps _ rest hrest => run_scalar (h rest hrest) steps⟩

theorem passed_numeral (n : Numeral) : Passed n.bytes := by
  obtain ⟨b, t, hbytes, hb⟩ := Number.first_numeral n
  refine passed_scalar (by simp [hbytes]) fun rest hrest => ?_
  have hskip := Number.skip?_numeral n (Number.apart_of_ends hrest)
  rw [hbytes, List.cons_append] at hskip ⊢
  rw [scalar?_of_first hb, hskip]

/-- No value begins with a blank or with the end of an array. -/
theorem first_of_wellFormed {v : List UInt8} (hv : WellFormed v) :
    ∃ b t, v = b :: t ∧ isBlank b = false ∧ b ≠ closeBracket := by
  cases hv with
  | number n =>
      obtain ⟨b, t, hbytes, hb⟩ := Number.first_numeral n
      refine ⟨b, t, hbytes, ?_, ?_⟩
      · cases hblank : isBlank b with
        | false => rfl
        | true =>
            simp only [isBlank, Bool.or_eq_true, beq_iff_eq] at hblank
            rcases hblank with ((rfl | rfl) | rfl) | rfl <;> revert hb <;> decide
      · rintro rfl
        revert hb
        decide
  | _ => exact ⟨_, _, rfl, by decide, by decide⟩

theorem passed_wellFormed {v : List UInt8} (hv : WellFormed v) : Passed v := by
  induction hv with
  | null => exact passed_scalar (by decide) fun rest _ => strip?_append (ascii "ull") rest
  | true => exact passed_scalar (by decide) fun rest _ => strip?_append (ascii "rue") rest
  | false => exact passed_scalar (by decide) fun rest _ => strip?_append (ascii "alse") rest
  | number n => exact passed_numeral n
  | @string s hs =>
      refine passed_scalar (by simp) fun rest _ => ?_
      rw [List.cons_append, List.append_assoc]
      exact Quoted.skip?_quotable hs rest
  | emptyArray w =>
      refine ⟨1, by simp, fun steps frames rest _ => ?_⟩
      rw [List.cons_append, List.append_assoc]
      exact run_emptyArray steps w
  | emptyObject w =>
      refine ⟨1, by simp, fun steps frames rest _ => ?_⟩
      rw [List.cons_append, List.append_assoc]
      exact run_emptyObject steps w
  | array e es hes ih =>
      obtain ⟨n, hn, hrun⟩ := passed_elements e es ih
      refine ⟨n + 1, ?_, fun steps frames rest _ => ?_⟩
      · simp only [List.length_cons, List.length_append]
        omega
      · have hfirst : (skipBlank (commaSeparated ((e :: es).map Element.bytes) ++
            closeBracket :: rest)).head? ≠ some closeBracket := by
          obtain ⟨b, t, hv, hblank, hb⟩ := first_of_wellFormed (hes e (List.mem_cons_self ..))
          obtain ⟨t', ht'⟩ := exists_commaSeparated_cons e.bytes (es.map Element.bytes)
          rw [List.map_cons, ht', Element.bytes, hv]
          simp only [List.append_assoc, List.cons_append, skipBlank_blanks]
          rw [skipBlank_cons hblank]
          exact fun h => hb (Option.some.inj h)
        rw [List.cons_append, List.append_assoc, ← Nat.add_assoc]
        exact (run_openBracket hfirst _).trans (hrun steps frames rest)
  | object m ms hnames hms ih =>
      obtain ⟨n, hn, hrun⟩ := passed_members m ms hnames ih
      refine ⟨n + 1, ?_, fun steps frames rest _ => ?_⟩
      · simp only [List.length_cons, List.length_append]
        omega
      · obtain ⟨s, hname, hrest⟩ := hrun steps frames rest
        rw [List.cons_append, List.append_assoc, ← Nat.add_assoc]
        exact (run_openBrace hname _).trans hrest

/-- A value of no interest is passed over, and with it the blanks before it. -/
theorem value?_element {e : Element} (he : WellFormed e.value) {size : Nat}
    (hsize : e.bytes.length ≤ size) (hrest : Ends rest) :
    value? size (e.bytes ++ rest) = some (e.behind.bytes ++ rest) := by
  obtain ⟨n, hn, hrun⟩ := passed_element (passed_wellFormed he)
  obtain ⟨steps, hsteps⟩ := Nat.exists_eq_add_of_le (show n ≤ size + 1 by omega)
  unfold value?
  rw [show size + 2 = steps + 1 + n by omega, hrun _ _ _ hrest, run_after_nil]

/-! ## Where a value ends -/

/-- A value stands here and ends where the rest begins: so says the reader, given enough
steps. -/
def EndsAt (s rest : List UInt8) : Prop :=
  ∃ n, ∀ steps, run (steps + n) .value [] s = some rest

theorem EndsAt.unique {rest' : List UInt8} (h : EndsAt s rest) (h' : EndsAt s rest') :
    rest = rest' := by
  obtain ⟨n, hn⟩ := h
  obtain ⟨n', hn'⟩ := h'
  have hboth := hn n'
  rw [Nat.add_comm, hn' n] at hboth
  exact (Option.some.inj hboth).symm

theorem EndsAt.of_skipBlank (h : EndsAt (skipBlank s) rest) : EndsAt s rest := by
  obtain ⟨n, hn⟩ := h
  exact ⟨n, fun steps => (run_skipBlank _).symm.trans (hn steps)⟩

theorem EndsAt.of_scalar? (h : scalar? s = some rest) : EndsAt s rest :=
  ⟨2, fun steps => (run_scalar h (steps + 1)).trans (run_after_nil steps)⟩

theorem endsAt_element {e : Element} (he : WellFormed e.value) (hrest : Ends rest) :
    EndsAt (e.bytes ++ rest) (e.behind.bytes ++ rest) := by
  obtain ⟨n, -, hrun⟩ := passed_element (passed_wellFormed he)
  refine ⟨n + 1, fun steps => ?_⟩
  rw [show steps + (n + 1) = steps + 1 + n by omega, hrun _ _ _ hrest, run_after_nil]

end TwoTierWatchdog.Json.Skip
