import TwoTierWatchdog.Proofs.Period
import TwoTierWatchdog.Proofs.Rtl872x.Divider

/-!
# The divider search is exact

Of all pairs of prescaler and span that the register takes, the search finds the one
with the fewest ticks that cover a period, and the shortest span among equals. That
describes the divider completely: ticks and span leave one prescaler. So the search is
not opened again, and what is said about dividers elsewhere goes by which pairs cover
which period.

For one span the prescaler that the quotient needs is the least that covers; a span that
is left out has none. Over the spans, the first one with the fewest ticks is kept.
-/

namespace TwoTierWatchdog.Rtl872x.Divider

/-- What the register takes. -/
structure Programmable (d : Divider) : Prop where
  prescaler : divFacMin ≤ d.divFac ∧ d.divFac ≤ divFacMax
  span : d.cntLimit ≤ cntLimitMax

/-- The ticks of a divider as a number. -/
def exactTicks (d : Divider) : Nat :=
  (d.divFac.toNat + 1) * (2 ^ (min d.cntLimit.toNat 11 + 1) - 1)

/-- The exact period of a divider is at least `ms` milliseconds. -/
def Covers (d : Divider) (ms : UInt32) : Prop :=
  Ticks.Cover ms d.exactTicks clockHz

/-- Fewer ticks, or as many and no longer a span. -/
def Precedes (d e : Divider) : Prop :=
  d.ticks < e.ticks ∨ d.ticks = e.ticks ∧ d.cntLimit ≤ e.cntLimit

/-- The divider that comes before all others that cover a period. -/
structure Tightest (ms : UInt32) (d : Divider) : Prop where
  programmable : d.Programmable
  covers : d.Covers ms
  first : ∀ e : Divider, e.Programmable → e.Covers ms → d.Precedes e

variable {d e : Divider} {ms : UInt32}

/-! ## The arithmetic is exact -/

theorem toNat_limit {limit : Nat} (h : limit < 12) : limit.toUInt8.toNat = limit :=
  UInt8.toNat_ofNat_of_lt' (Nat.lt_trans h (by decide))

theorem toNat_span (limit : UInt8) :
    (span limit).toNat = 2 ^ (min limit.toNat 11 + 1) - 1 := by
  have hall : ∀ n < 256, (span n.toUInt8).toNat = 2 ^ (min n 11 + 1) - 1 := by
    decide +kernel
  have h := hall limit.toNat limit.toNat_lt
  rwa [show limit.toNat.toUInt8 = limit from UInt8.ofNat_toNat] at h

theorem count_bounds (d : Divider) : 1 ≤ d.count.toNat ∧ d.count.toNat ≤ 4095 := by
  have hall : ∀ n ≤ 11, 1 ≤ 2 ^ (n + 1) - 1 ∧ 2 ^ (n + 1) - 1 ≤ 4095 := by decide
  rw [count, toNat_span]
  exact hall _ (Nat.min_le_right _ _)

theorem toNat_ticks_eq (d : Divider) : d.ticks.toNat = d.exactTicks := by
  rw [toNat_ticks (count_bounds d).2, count, toNat_span]
  rfl

theorem exactTicks_le (d : Divider) : d.exactTicks ≤ 65536 * 4095 := by
  have hfac := d.divFac.toNat_lt
  rw [← toNat_ticks_eq, toNat_ticks (count_bounds d).2]
  exact Nat.mul_le_mul (by omega) (count_bounds d).2

/-- No step from the ticks to milliseconds wraps, and the last cast keeps the value. -/
theorem toNat_timeoutMs (d : Divider) :
    (d.ticks * 1000).toNat = d.exactTicks * 1000 ∧
      d.timeoutMs.toNat = d.exactTicks * 1000 / 32768 := by
  have hle := exactTicks_le d
  have hticks := toNat_ticks_eq d
  have hhz : clockHz.toNat = 32768 := rfl
  refine ⟨?_, ?_⟩
  · rw [UInt64.toNat_mul, hticks]
    exact Nat.mod_eq_of_lt (by show _ * 1000 < _; omega)
  · have hfloor := Ticks.toNat_toMillisFloor clockHz (show d.ticks.toNat * 1000 < _ by omega)
    rw [hticks, hhz] at hfloor
    rw [timeoutMs, UInt64.toNat_toUInt32, hfloor]
    omega

theorem toNat_wanted (ms : UInt32) :
    (Ticks.ofMillisCeil ms clockHz).toNat = (ms.toNat * 32768 + 999) / 1000 :=
  Ticks.toNat_ofMillisCeil ms (by decide)

theorem covers_iff : d.Covers ms ↔ (Ticks.ofMillisCeil ms clockHz).toNat ≤ d.ticks.toNat := by
  rw [toNat_ticks_eq]
  exact Ticks.cover_iff_ofMillisCeil_le (by decide) (Ticks.fits_of_le ms (by decide))

theorem covers_iff_le_timeoutMs : d.Covers ms ↔ ms ≤ d.timeoutMs := by
  rw [UInt32.le_iff_toNat_le, (toNat_timeoutMs d).2]
  exact Ticks.cover_iff_le_floor (by decide)

/-! ## One span -/

/-- The prescaler for one span, where it is in range. -/
theorem covering?_eq_some_iff {wanted : UInt64} {limit : UInt8} :
    covering? wanted limit = some d ↔
      d.cntLimit = limit ∧
        d.divFac.toNat = max ((Ticks.divCeil wanted (span limit)).toNat - 1) 1 := by
  have hq := toNat_prescaler (Ticks.divCeil wanted (span limit))
  have hmax : divFacMax.toUInt64.toNat = 65535 := rfl
  have hlt := d.divFac.toNat_lt
  unfold covering?
  dsimp only
  generalize max _ divFacMin.toUInt64 = factor at hq
  rw [← hq]
  split
  · next hfit =>
      rw [UInt64.le_iff_toNat_le, hmax] at hfit
      have hfac : factor.toUInt16.toNat = factor.toNat :=
        (UInt64.toNat_toUInt16 factor).trans (Nat.mod_eq_of_lt (by omega))
      rw [Option.some_inj]
      constructor
      · rintro rfl
        exact ⟨rfl, hfac⟩
      · rintro ⟨rfl, hd⟩
        have hsame : factor.toUInt16 = d.divFac := UInt16.toNat_inj.mp (hfac.trans hd.symm)
        rw [hsame]
  · next hover =>
      rw [UInt64.le_iff_toNat_le, hmax] at hover
      exact ⟨nofun, fun ⟨_, hd⟩ => absurd hd (by omega)⟩

/-- A pair that covers what is wanted has a prescaler no smaller than the one that is
picked for its span, and so there is one to pick. -/
theorem covering?_of_covered {wanted : UInt64} (he : e.Programmable)
    (hcover : wanted.toNat ≤ e.ticks.toNat) :
    ∃ d, covering? wanted e.cntLimit = some d ∧ d.Precedes e := by
  have hcount := count_bounds e
  have hticks := toNat_ticks hcount.2
  have hlt := e.divFac.toNat_lt
  have hfac : 1 ≤ e.divFac.toNat := UInt16.le_iff_toNat_le.mp he.prescaler.1
  have hdiv := Ticks.toNat_divCeil wanted (b := e.count) (by omega)
  -- the quotient is rounded up, and still within the prescaler that covers
  have hquotient : (Ticks.divCeil wanted e.count).toNat ≤ e.divFac.toNat + 1 := by
    rw [hdiv]
    apply Nat.le_of_lt_succ
    rw [Nat.div_lt_iff_lt_mul (by omega), Nat.succ_mul]
    omega
  have hmost : max ((Ticks.divCeil wanted e.count).toNat - 1) 1 ≤ e.divFac.toNat := by omega
  refine ⟨⟨.ofNat (max ((Ticks.divCeil wanted e.count).toNat - 1) 1), e.cntLimit⟩, ?_⟩
  have hof : (UInt16.ofNat (max ((Ticks.divCeil wanted e.count).toNat - 1) 1)).toNat =
      max ((Ticks.divCeil wanted e.count).toNat - 1) 1 :=
    UInt16.toNat_ofNat_of_lt' (by show _ < 65536; omega)
  refine ⟨covering?_eq_some_iff.mpr ⟨rfl, hof⟩, ?_⟩
  generalize UInt16.ofNat _ = factor at hof
  have hticks' : ticks ⟨factor, e.cntLimit⟩ ≤ e.ticks := by
    rw [UInt64.le_iff_toNat_le, toNat_ticks (d := ⟨factor, e.cntLimit⟩) hcount.2, hticks]
    exact Nat.mul_le_mul_right _ (by show factor.toNat + 1 ≤ _; omega)
  rcases UInt64.lt_or_eq_of_le hticks' with hlt' | heq
  · exact .inl hlt'
  · exact .inr ⟨heq, UInt8.le_refl _⟩

theorem programmable_of_covering? {wanted : UInt64} {limit : UInt8}
    (hl : limit ≤ cntLimitMax) (h : covering? wanted limit = some d) : d.Programmable := by
  obtain ⟨rfl, hfac⟩ := covering?_eq_some_iff.mp h
  refine ⟨⟨?_, ?_⟩, hl⟩
  · exact UInt16.le_iff_toNat_le.mpr (by show 1 ≤ _; omega)
  · exact UInt16.le_iff_toNat_le.mpr (Nat.le_of_lt_succ d.divFac.toNat_lt)

/-! ## All spans -/

theorem Precedes.trans {f : Divider} (h : d.Precedes e) (h' : e.Precedes f) :
    d.Precedes f := by
  unfold Precedes at *
  simp only [UInt64.lt_iff_toNat_lt, UInt8.le_iff_toNat_le, ← UInt64.toNat_inj] at *
  omega

/-- What is kept comes before all, if the spans come in order. -/
theorem precedes_of_fewestTicks {ds : List Divider}
    (hsorted : ds.Pairwise fun d e => d.cntLimit ≤ e.cntLimit)
    (h : fewestTicks ds = some d) : ∀ e ∈ ds, d.Precedes e := by
  induction ds generalizing d with
  | nil => cases h
  | cons head rest ih =>
      obtain ⟨hhead, hrest⟩ := List.pairwise_cons.mp hsorted
      rw [fewestTicks] at h
      split at h
      · next hnone =>
          -- only an empty list has none
          cases rest with
          | nil =>
              obtain rfl := Option.some.inj h
              intro e he
              rw [List.mem_singleton.mp he]
              exact .inr ⟨rfl, UInt8.le_refl _⟩
          | cons next rest =>
              obtain ⟨best, hbest⟩ := fewestTicks_of_ne_nil (List.cons_ne_nil next rest)
              cases hnone.symm.trans hbest
      · next best hbest =>
          have hfirst := ih hrest hbest
          obtain rfl := Option.some.inj h
          split
          · next hlt =>
              exact List.forall_mem_cons.mpr ⟨.inl hlt, hfirst⟩
          · next hnot =>
              refine List.forall_mem_cons.mpr ⟨.inr ⟨rfl, UInt8.le_refl _⟩, fun e he => ?_⟩
              refine Precedes.trans ?_ (hfirst e he)
              rcases UInt64.lt_or_eq_of_le (UInt64.not_lt.mp hnot) with hlt | heq
              · exact .inl hlt
              · exact .inr ⟨heq, hhead best (mem_of_fewestTicks hbest)⟩

/-- The candidates of the search: one for each span that has one, shorter spans first. -/
def candidates (wanted : UInt64) : List Divider :=
  (List.range (cntLimitMax.toNat + 1)).filterMap fun limit => covering? wanted limit.toUInt8

theorem forMillis?_eq (h0 : ms ≠ 0) :
    forMillis? ms = fewestTicks (candidates (Ticks.ofMillisCeil ms clockHz)) :=
  if_neg h0

theorem mem_candidates {wanted : UInt64} :
    d ∈ candidates wanted ↔ d.cntLimit ≤ cntLimitMax ∧ covering? wanted d.cntLimit = some d := by
  unfold candidates
  rw [List.mem_filterMap]
  constructor
  · rintro ⟨limit, hl, hd⟩
    have hlt : limit < 12 := List.mem_range.mp hl
    have hlimit : d.cntLimit = limit.toUInt8 := (covering?_eq_some_iff.mp hd).1
    rw [hlimit]
    refine ⟨UInt8.le_iff_toNat_le.mpr ?_, hd⟩
    rw [toNat_limit hlt]
    exact Nat.le_of_lt_succ hlt
  · rintro ⟨hle, hd⟩
    have hlimit : d.cntLimit.toNat.toUInt8 = d.cntLimit := UInt8.ofNat_toNat
    have hlt : d.cntLimit.toNat < cntLimitMax.toNat + 1 :=
      Nat.lt_succ_of_le (UInt8.le_iff_toNat_le.mp hle)
    exact ⟨d.cntLimit.toNat, List.mem_range.mpr hlt, by rw [hlimit]; exact hd⟩

theorem pairwise_candidates (wanted : UInt64) :
    (candidates wanted).Pairwise fun d e => d.cntLimit ≤ e.cntLimit := by
  have hrange : (List.range (cntLimitMax.toNat + 1)).Pairwise fun a b => a < b ∧ b < 12 :=
    List.pairwise_lt_range.imp_of_mem fun _ hb hlt => ⟨hlt, List.mem_range.mp hb⟩
  refine hrange.filterMap _ fun a b ⟨hlt, hb⟩ d hd e he => ?_
  rw [(covering?_eq_some_iff.mp hd).1, (covering?_eq_some_iff.mp he).1,
    UInt8.le_iff_toNat_le, toNat_limit hb, toNat_limit (Nat.lt_trans hlt hb)]
  exact Nat.le_of_lt hlt

/-- What the search finds is the tightest divider. -/
theorem tightest_of_forMillis? (h : forMillis? ms = some d) : Tightest ms d := by
  have h0 : ms ≠ 0 := by
    rintro rfl
    cases h
  have hcover := covers_iff.mpr (forMillis?_sound h).2
  rw [forMillis?_eq h0] at h
  obtain ⟨hlimit, hd⟩ := mem_candidates.mp (mem_of_fewestTicks h)
  refine ⟨programmable_of_covering? hlimit hd, hcover, fun e he hecover => ?_⟩
  obtain ⟨f, hf, hfe⟩ := covering?_of_covered he (covers_iff.mp hecover)
  have hsame : f.cntLimit = e.cntLimit := (covering?_eq_some_iff.mp hf).1
  have hmem : f ∈ candidates (Ticks.ofMillisCeil ms clockHz) :=
    mem_candidates.mpr ⟨hsame ▸ he.span, hsame ▸ hf⟩
  exact (precedes_of_fewestTicks (pairwise_candidates _) h f hmem).trans hfe

/-- Ticks and span leave one prescaler. -/
theorem eq_of_precedes (h : d.Precedes e) (h' : e.Precedes d) : d = e := by
  have hboth : d.ticks.toNat = e.ticks.toNat ∧ d.cntLimit.toNat = e.cntLimit.toNat := by
    unfold Precedes at h h'
    simp only [UInt64.lt_iff_toNat_lt, UInt8.le_iff_toNat_le, ← UInt64.toNat_inj] at h h'
    omega
  obtain ⟨hticks, hlimit⟩ := hboth
  have hlimit : d.cntLimit = e.cntLimit := UInt8.toNat_inj.mp hlimit
  have hcount : d.count = e.count := congrArg span hlimit
  rw [toNat_ticks (count_bounds d).2, toNat_ticks (count_bounds e).2, hcount] at hticks
  have hfac := Nat.eq_of_mul_eq_mul_right (count_bounds e).1 hticks
  have hdiv : d.divFac = e.divFac := UInt16.toNat_inj.mp (by omega)
  cases d
  cases e
  exact congrArg₂ Divider.mk hdiv hlimit

theorem isSome_forMillis?_of_covers (h0 : ms ≠ 0) (he : e.Programmable) (h : e.Covers ms) :
    ∃ d, forMillis? ms = some d := by
  obtain ⟨f, hf, -⟩ := covering?_of_covered he (covers_iff.mp h)
  have hsame : f.cntLimit = e.cntLimit := (covering?_eq_some_iff.mp hf).1
  rw [forMillis?_eq h0]
  apply fewestTicks_of_ne_nil
  exact List.ne_nil_of_mem (mem_candidates.mpr ⟨hsame ▸ he.span, hsame ▸ hf⟩)

/-- The search finds the tightest divider and nothing else. -/
theorem forMillis?_eq_some_iff : forMillis? ms = some d ↔ ms ≠ 0 ∧ Tightest ms d := by
  constructor
  · intro h
    refine ⟨?_, tightest_of_forMillis? h⟩
    rintro rfl
    cases h
  · rintro ⟨h0, ht⟩
    obtain ⟨e, he⟩ := isSome_forMillis?_of_covers h0 ht.programmable ht.covers
    have ht' := tightest_of_forMillis? he
    rw [he, eq_of_precedes (ht'.first d ht.programmable ht.covers)
      (ht.first e ht'.programmable ht'.covers)]

theorem forMillis?_isSome_iff :
    (forMillis? ms).isSome = true ↔ 1 ≤ ms ∧ ms ≤ maxTimeoutMs := by
  have hmax : maxTimeoutMs.toNat = 8190000 := by decide
  have hpos : 1 ≤ ms ↔ ms ≠ 0 := by
    rw [UInt32.le_iff_toNat_le, ne_eq, ← UInt32.toNat_inj]
    exact Nat.one_le_iff_ne_zero
  rw [Option.isSome_iff_exists]
  constructor
  · rintro ⟨d, hd⟩
    obtain ⟨h0, ht⟩ := forMillis?_eq_some_iff.mp hd
    have hlong := UInt32.le_iff_toNat_le.mp (covers_iff_le_timeoutMs.mp ht.covers)
    rw [(toNat_timeoutMs d).2] at hlong
    have hle := exactTicks_le d
    refine ⟨hpos.mpr h0, UInt32.le_iff_toNat_le.mpr ?_⟩
    rw [hmax]
    omega
  · rintro ⟨h1, hle⟩
    exact forMillis?_of_le (hpos.mp h1) hle

/-- For exactly the periods from a millisecond to the longest the search finds a divider:
one that the register takes, whose exact period is long enough, with the fewest ticks of
all such, and the shortest span among those with as few. All words on the way hold what
they stand for: the ticks wanted, the span and the quotient of every candidate, the ticks
of every divider, and its period in milliseconds before and after the last cast. -/
theorem search_is_exact_and_optimal :
    (∀ ms, (forMillis? ms).isSome = true ↔ 1 ≤ ms ∧ ms ≤ maxTimeoutMs) ∧
    (∀ ms d, forMillis? ms = some d → Tightest ms d) ∧
    (∀ ms : UInt32, (ms.toUInt64 * clockHz).toNat = ms.toNat * 32768 ∧
      (Ticks.ofMillisCeil ms clockHz).toNat = (ms.toNat * 32768 + 999) / 1000) ∧
    (∀ wanted limit, (span limit).toNat = 2 ^ (min limit.toNat 11 + 1) - 1 ∧
      (Ticks.divCeil wanted (span limit)).toNat =
        (wanted.toNat + ((span limit).toNat - 1)) / (span limit).toNat) ∧
    ∀ d : Divider, (d.divFac.toUInt64 + 1).toNat = d.divFac.toNat + 1 ∧
      d.ticks.toNat = d.exactTicks ∧ (d.ticks * 1000).toNat = d.exactTicks * 1000 ∧
      d.timeoutMs.toNat = d.exactTicks * 1000 / 32768 := by
  refine ⟨fun ms => forMillis?_isSome_iff, fun ms d => tightest_of_forMillis?,
    fun ms => ⟨?_, toNat_wanted ms⟩, fun wanted limit => ⟨toNat_span limit, ?_⟩,
    fun d => ⟨?_, toNat_ticks_eq d, toNat_timeoutMs d⟩⟩
  · have hlt := ms.toNat_lt
    rw [UInt64.toNat_mul, UInt32.toNat_toUInt64]
    exact Nat.mod_eq_of_lt (by show _ * 32768 < _; omega)
  · have hpos : 1 ≤ (span limit).toNat := (count_bounds ⟨0, limit⟩).1
    exact Ticks.toNat_divCeil wanted (by omega)
  · have hlt := d.divFac.toNat_lt
    rw [UInt64.toNat_add, UInt16.toNat_toUInt64]
    exact Nat.mod_eq_of_lt (by show _ + 1 < _; omega)

/-- Two spans reach thirteen seconds with equally few ticks, and the shorter is taken. -/
theorem shortest_span_among_equals :
    forMillis? 13000 = some ⟨60854, 2⟩ ∧ Tightest 13000 ⟨60854, 2⟩ ∧
      ticks ⟨28398, 3⟩ = ticks ⟨60854, 2⟩ := by
  obtain ⟨-, htightest, -⟩ := search_is_exact_and_optimal
  have hfound : forMillis? 13000 = some ⟨60854, 2⟩ := by decide +kernel
  exact ⟨hfound, htightest _ _ hfound, by decide⟩

end TwoTierWatchdog.Rtl872x.Divider
