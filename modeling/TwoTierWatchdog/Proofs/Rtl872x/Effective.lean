import TwoTierWatchdog.Proofs.Checks
import TwoTierWatchdog.Proofs.Rtl872x.Books
import TwoTierWatchdog.Proofs.Rtl872x.Search

/-!
# The effective period

A request is rounded up to the next period that some divider has. Everything about that
follows from which dividers cover it: a divider that covers the effective period covers
the request, so the tightest one for the request is still the tightest one for what came
of it, and asking for the period that is reported finds the very same divider.

A driver reports the period of the divider that it wrote. So a configuration for the
period it reports passes through the same search, finds the register as it is to be, and
writes it once more.
-/

namespace TwoTierWatchdog.Rtl872x

namespace Divider

/-- What a request comes to; none if the hardware cannot count it. -/
def effectiveMs? (ms : UInt32) : Option UInt32 :=
  (forMillis? ms).map timeoutMs

variable {ms ms' : UInt32} {d d' : Divider}

theorem Precedes.timeoutMs_le (h : d.Precedes d') : d.timeoutMs ≤ d'.timeoutMs := by
  have hticks : d.exactTicks ≤ d'.exactTicks := by
    rw [← toNat_ticks_eq, ← toNat_ticks_eq]
    rcases h with hlt | ⟨heq, -⟩
    · exact Nat.le_of_lt (UInt64.lt_iff_toNat_lt.mp hlt)
    · exact Nat.le_of_eq (congrArg UInt64.toNat heq)
  rw [UInt32.le_iff_toNat_le, (toNat_timeoutMs d).2, (toNat_timeoutMs d').2]
  omega

/-- A divider for the effective period is long enough for the request, and the tightest
one for the request is among them. -/
theorem Tightest.effective (h : Tightest ms d) : Tightest d.timeoutMs d where
  programmable := h.programmable
  covers := covers_iff_le_timeoutMs.mpr (UInt32.le_refl _)
  first e he hcover :=
    h.first e he (covers_iff_le_timeoutMs.mpr (UInt32.le_trans
      (covers_iff_le_timeoutMs.mp h.covers) (covers_iff_le_timeoutMs.mp hcover)))

theorem forMillis?_timeoutMs (h : forMillis? ms = some d) :
    forMillis? d.timeoutMs = some d := by
  obtain ⟨h0, ht⟩ := forMillis?_eq_some_iff.mp h
  refine forMillis?_eq_some_iff.mpr ⟨fun hzero => h0 ?_, ht.effective⟩
  have hle := UInt32.le_iff_toNat_le.mp (covers_iff_le_timeoutMs.mp ht.covers)
  rw [hzero] at hle
  exact UInt32.toNat_inj.mp (Nat.le_zero.mp hle)

theorem timeoutMs_mono (h : forMillis? ms = some d) (h' : forMillis? ms' = some d')
    (hle : ms ≤ ms') : d.timeoutMs ≤ d'.timeoutMs := by
  have ht := tightest_of_forMillis? h
  have ht' := tightest_of_forMillis? h'
  refine (ht.first d' ht'.programmable ?_).timeoutMs_le
  exact covers_iff_le_timeoutMs.mpr
    (UInt32.le_trans hle (covers_iff_le_timeoutMs.mp ht'.covers))

theorem timeoutMs_le_max (d : Divider) : d.timeoutMs ≤ maxTimeoutMs := by
  have hle := exactTicks_le d
  have hmax : maxTimeoutMs.toNat = 8190000 := by decide
  rw [UInt32.le_iff_toNat_le, (toNat_timeoutMs d).2, hmax]
  omega

theorem effectiveMs?_mono {e e' : UInt32} (he : effectiveMs? ms = some e)
    (he' : effectiveMs? ms' = some e') (hle : ms ≤ ms') : e ≤ e' := by
  obtain ⟨d, hd, rfl⟩ := Option.map_eq_some_iff.mp he
  obtain ⟨d', hd', rfl⟩ := Option.map_eq_some_iff.mp he'
  exact timeoutMs_mono hd hd' hle

/-- Within the bounds a request comes to a period, and this one comes to itself. -/
theorem exists_effectiveMs? (hmin : minTimeoutMs ≤ ms) (hmax : ms ≤ maxTimeoutMs) :
    ∃ e, effectiveMs? ms = some e ∧ ms ≤ e ∧ e ≤ maxTimeoutMs ∧
      effectiveMs? e = some e ∧ forMillis? e = forMillis? ms := by
  obtain ⟨d, hd⟩ := Option.isSome_iff_exists.mp (forMillis?_isSome_iff.mpr ⟨hmin, hmax⟩)
  have hagain := forMillis?_timeoutMs hd
  refine ⟨d.timeoutMs, ?_, ?_, d.timeoutMs_le_max, ?_, ?_⟩
  · rw [effectiveMs?, hd, Option.map_some]
  · exact covers_iff_le_timeoutMs.mp (tightest_of_forMillis? hd).covers
  · rw [effectiveMs?, hagain, Option.map_some]
  · rw [hagain, hd]

end Divider

/-! ## What a driver reports -/

/-- The dividers that some calls write, with the modes. -/
def configures (calls : List Command) : List (Divider × Bool) :=
  calls.filterMap fun
    | .configure divider early => some (divider, early)
    | _ => none

/-- A driver reports no period before it has a configuration, and takes none that is
unsound in itself. -/
structure Candid (d : Driver) : Prop where
  blank : d.state = .uninitialized → d.timeoutMs = 0
  sound : ∀ c, d.config = some c → ¬ c.Malformed

/-- The divider in the register is the reset value or one that the search found. -/
def Searched (p : Peripheral) : Prop :=
  p.divider = {} ∨ ∃ ms, Divider.forMillis? ms = some p.divider

/-- Divider, period and configuration are as they were. -/
structure Left (r r' : Rig Peripheral Command) : Prop where
  divider : r'.hardware.divider = r.hardware.divider
  timeoutMs : r'.driver.timeoutMs = r.driver.timeoutMs
  config : r'.driver.config = r.driver.config
  state : r'.driver.state = .uninitialized → r.driver.state = .uninitialized

/-- A configuration was taken: its divider is in the register, and its period in the
books. -/
structure Taken (c : Record.Config) (r' : Rig Peripheral Command) : Prop where
  sound : ¬ c.Malformed
  divider : Divider.forMillis? c.timeoutMs = some r'.hardware.divider
  timeoutMs : r'.driver.timeoutMs = r'.hardware.divider.timeoutMs
  config : r'.driver.config = some c
  state : r'.driver.state ≠ .uninitialized

variable {r r' r'' : Rig Peripheral Command} {c : Record.Config}
  {next : Rig Peripheral Command → Served Peripheral Command}

theorem Left.refl (r : Rig Peripheral Command) : Left r r :=
  ⟨rfl, rfl, rfl, id⟩

theorem Left.trans (h : Left r r') (h' : Left r' r'') : Left r r'' :=
  ⟨h'.divider.trans h.divider, h'.timeoutMs.trans h.timeoutMs, h'.config.trans h.config,
    fun hs => h.state (h'.state hs)⟩

theorem Left.note (h : Left r r') (level : Log.Level) (text : String) :
    Left r (r'.note level text) :=
  h.trans ⟨rfl, rfl, rfl, id⟩

theorem Left.turnedAway {s : Served Peripheral Command} (h : r.TurnedAway s) : Left r s.2 :=
  ⟨congrArg _ h.hardware, congrArg _ h.driver, congrArg _ h.driver,
    fun hs => h.driver ▸ hs⟩

/-- Only the place in life is entered. -/
theorem Left.move (h : Left r r') (state : Lifecycle) (hs : state ≠ .uninitialized) :
    Left r (r'.enter fun d => { d with state }) :=
  ⟨h.divider, h.timeoutMs, h.config, fun he => absurd he hs⟩

theorem Left.taken (h : Taken c r) (hl : Left r r') : Taken c r' :=
  ⟨h.sound, by rw [hl.divider]; exact h.divider,
    by rw [hl.divider, hl.timeoutMs]; exact h.timeoutMs, hl.config.trans h.config,
    fun hs => h.state (hl.state hs)⟩

theorem left_setEnabled (h : Left r r') (on : Bool) : Left r (write (.setEnabled on) r') :=
  h.trans ⟨(alike_setEnabled r'.hardware on).divider, rfl, rfl, id⟩

theorem left_resume (h : Left r r') (hn : ∀ {r'}, Left r r' → Left r (next r').2) :
    Left r (resume r' next).2 := by
  have hw : Left r (write .refresh (write (.setEnabled true) r')) :=
    (left_setEnabled h true).trans ⟨rfl, rfl, rfl, id⟩
  unfold resume
  cases confirm_ways true (write .refresh (write (.setEnabled true) r')) next with
  | agrees _ eq => exact eq ▸ hn hw
  | differs _ eq => exact eq ▸ hw.note _ _

theorem left_launch (r : Rig Peripheral Command) : Left r (launch r).2 := by
  have hw := left_setEnabled (.refl r) true
  cases launch_ways r with
  | starts _ eq => exact eq ▸ (hw.move .running nofun).note _ _
  | fails _ eq => exact eq ▸ hw.note _ _

theorem left_start (r : Rig Peripheral Command) : Left r (start r).2 := by
  cases start_ways r with
  | unready _ eq => exact eq ▸ .refl r
  | runs _ _ eq => exact eq ▸ .refl r
  | launches _ _ eq => exact eq ▸ left_launch r

theorem left_settle (h : Left r r') : Left r (settle r').2 := by
  unfold settle
  split
  · exact h.move .stopped nofun
  · exact h

theorem left_stop (r : Rig Peripheral Command) : Left r (stop r).2 := by
  have hw := left_setEnabled (.refl r) false
  unfold stop
  split
  · cases confirm_ways false (write (.setEnabled false) r) _ with
    | agrees _ eq => exact eq ▸ left_settle (hw.note _ _)
    | differs _ eq => exact eq ▸ hw.note _ _
  · exact left_settle (.refl r)

theorem left_feed (r : Rig Peripheral Command) : Left r (refresh r).2 := by
  unfold refresh
  split
  · exact ⟨rfl, rfl, rfl, id⟩
  · exact .refl r

/-! ## Configurations -/

theorem taken_commit {divider : Divider} {live : Bool} (hsound : ¬ c.Malformed)
    (hfound : Divider.forMillis? c.timeoutMs = some divider)
    (hread : r.hardware.divider = divider)
    (hlive : live = true → r.driver.state = .running) :
    Taken c (commit c divider live r).2 := by
  have hdivider : Divider.forMillis? c.timeoutMs = some r.hardware.divider := by
    rw [hfound, hread]
  have hms : divider.timeoutMs = r.hardware.divider.timeoutMs := by rw [hread]
  unfold commit
  dsimp only
  split
  · next hon =>
      refine Left.taken (r := r.enter fun d =>
        { d with config := some c, timeoutMs := divider.timeoutMs }) ?_
        (left_resume (.refl _) fun h => h.note _ _)
      exact ⟨hsound, hdivider, hms, rfl,
        fun hs => nomatch (hlive hon).symm.trans hs⟩
  · exact ⟨hsound, hdivider, hms, rfl, nofun⟩

/-- A locked register takes the previous divider as little as it took the new one. -/
theorem left_restore (hl : r.hardware.dividerLocked = true) (divider : Divider)
    (early live : Bool) : Left r (restore divider early live r).2 := by
  have hkept : Peripheral.write (.configure divider early) r.hardware = r.hardware :=
    if_pos hl
  have hw : Left r (write (.configure divider early) (r.note .error
      "wdt(rtl872x): divider readback mismatch, restoring previous period")) :=
    ⟨congrArg Peripheral.divider hkept, rfl, rfl, id⟩
  unfold restore
  dsimp only
  split
  · exact left_resume hw fun h => h
  · exact hw

theorem not_malformed_of_refusal? {p : Profile} {state : Lifecycle}
    (h : p.refusal? state c = none) : ¬ c.Malformed := by
  intro hc
  rw [Profile.refusal?, if_pos hc] at h
  cases h

theorem left_or_taken_init (r : Rig Peripheral Command) (c : Record.Config) :
    Left r (init c r).2 ∧ (init c r).1 ≠ .ok () ∨ Taken c (init c r).2 := by
  cases init_ways c r with
  | turnedAway away => exact .inl ⟨Left.turnedAway away, away.failed⟩
  | @takes divider line pass found _ reads eq =>
      have hp := programmed_program r divider line (r.driver.state = .running)
      refine .inr (eq ▸ taken_commit (not_malformed_of_refusal? pass) found reads fun hlive => ?_)
      rw [hp.driver]
      exact of_decide_eq_true hlive
  | @differs divider line _ _ _ reads eq =>
      have hp := programmed_program r divider line (r.driver.state = .running)
      obtain ⟨halike, hl⟩ := hp.took.resolve_right fun ⟨hd, _⟩ => reads hd
      rw [eq, restore_failed]
      refine .inl ⟨Left.trans ⟨halike.divider, ?_, ?_, ?_⟩ (left_restore hl _ _ _), nofun⟩
      · rw [hp.driver]
      · rw [hp.driver]
      · rw [hp.driver]
        exact id

theorem left_or_taken (r : Rig Peripheral Command) (q : Request) :
    Left r (serve r q).2 ∨ ∃ c, q.config? r.driver = some c ∧ Taken c (serve r q).2 := by
  cases q with
  | init c => exact (left_or_taken_init r c).imp And.left fun h => ⟨c, rfl, h⟩
  | setTimeout timeout => exact (left_or_taken_init r _).imp And.left fun h => ⟨_, rfl, h⟩
  | start => exact .inl (left_start r)
  | stop => exact .inl (left_stop r)
  | refresh => exact .inl (left_feed r)

/-- The last configuration with another period is as sound as it was. -/
theorem Candid.withTimeout {d : Driver} (h : Candid d) (timeout : Duration)
    (h0 : (d.withTimeout timeout).timeoutMs ≠ 0) : ¬ (d.withTimeout timeout).Malformed := by
  have hsound : ¬ (d.config.getD {}).size.toNat < Record.headerLength ∧
      (d.config.getD {}).version ≠ 0 := by
    cases hc : d.config with
    | none => exact ⟨by decide, by decide⟩
    | some c =>
        have hc := h.sound c hc
        exact ⟨fun hs => hc (.inl hs), fun hv => hc (.inr (.inl hv))⟩
  -- how the period is rounded does not matter, and is not to be worked out
  unfold Driver.withTimeout at h0 ⊢
  generalize timeout.millisCeil = ms at h0 ⊢
  rintro (hs | hv | hms)
  · exact hsound.1 hs
  · exact hsound.2 hv
  · exact h0 hms

theorem effectiveMs?_of_init (hok : (init c r).1 = .ok ()) :
    Divider.effectiveMs? c.timeoutMs = some (init c r).2.driver.timeoutMs := by
  have ht := (left_or_taken_init r c).resolve_left fun h => h.2 hok
  rw [Divider.effectiveMs?, ht.divider, Option.map_some, ht.timeoutMs]

theorem candid_adopt (p : Peripheral) : Candid (adopt p).1 := by
  unfold adopt
  split
  · exact ⟨nofun, nofun⟩
  · exact ⟨fun _ => rfl, nofun⟩

theorem candid_serve (h : Candid r.driver) (q : Request) : Candid (serve r q).2.driver := by
  rcases left_or_taken r q with hl | ⟨c, -, ht⟩
  · exact ⟨fun hs => hl.timeoutMs.trans (h.blank (hl.state hs)),
      fun c hc => h.sound c (hl.config.symm.trans hc)⟩
  · refine ⟨fun hs => absurd hs ht.state, fun c' hc' => ?_⟩
    rw [ht.config] at hc'
    exact Option.some.inj hc' ▸ ht.sound

theorem searched_serve (h : Searched r.hardware) (q : Request) :
    Searched (serve r q).2.hardware := by
  unfold Searched at *
  rcases left_or_taken r q with hl | ⟨c, -, ht⟩
  · rw [hl.divider]
    exact h
  · exact .inr ⟨c.timeoutMs, ht.divider⟩

theorem ne_zero_of_min {ms : UInt32} (hmin : minTimeoutMs ≤ ms) : ms ≠ 0 := by
  rintro rfl
  exact absurd hmin (by decide)

/-- A period that is reported finds the divider in the register again. -/
theorem forMillis?_of_reported {d : Driver} {p : Peripheral} (hb : Books d p)
    (hc : Candid d) (hs : Searched p) (hreported : minTimeoutMs ≤ d.timeoutMs) :
    Divider.forMillis? d.timeoutMs = some p.divider := by
  have hpos := ne_zero_of_min hreported
  have hms := (hb.configured (mt hc.blank hpos)).1
  rcases hs with hreset | ⟨ms, hfound⟩
  · -- the reset value lasts no millisecond
    rw [hreset] at hms
    exact absurd (hms.trans (by decide)) hpos
  · rw [hms]
    exact Divider.forMillis?_timeoutMs hfound

/-! ## The register is written once more -/

theorem configures_program (r : Rig Peripheral Command) (divider : Divider)
    (line : Option Interrupt.Line) (live : Bool) :
    configures (program divider line live r).calls =
      configures r.calls ++ [(divider, line.isSome)] := by
  cases line <;> cases live <;> simp [program, write, configures]

theorem calls_resume (r : Rig Peripheral Command)
    (hn : ∀ r, (next r).2.calls = r.calls) :
    (resume r next).2.calls = r.calls ++ [.setEnabled true] ++ [.refresh] := by
  unfold resume
  cases confirm_ways true (write .refresh (write (.setEnabled true) r)) next with
  | agrees _ eq => rw [eq, hn]; rfl
  | differs _ eq => rw [eq]; rfl

theorem configures_commit (r : Rig Peripheral Command) (c : Record.Config)
    (divider : Divider) (live : Bool) :
    configures (commit c divider live r).2.calls = configures r.calls := by
  unfold commit
  cases live with
  | false => rfl
  | true =>
      refine (congrArg configures (calls_resume _ fun _ => rfl)).trans ?_
      simp [configures, Rig.enter]

theorem refusal?_of_bounds (state : Lifecycle) (hsound : ¬ c.Malformed)
    (hmin : minTimeoutMs ≤ c.timeoutMs) (hmax : c.timeoutMs ≤ maxTimeoutMs) :
    profile.refusal? state c = none := by
  unfold Profile.refusal?
  rw [if_neg hsound, if_neg fun h => absurd h.2 (by decide), if_neg, if_neg]
  · exact fun h => absurd h.2 (by decide)
  · rintro (hlow | hhigh)
    · exact UInt32.not_lt.mpr hmin hlow
    · exact UInt32.not_lt.mpr hmax hhigh

/-- A configuration for the divider that the register holds: it reads back, whether or not
the register is locked, and it is written once. -/
theorem configures_init (hcheck : profile.refusal? r.driver.state c = none)
    (hheld : Divider.forMillis? c.timeoutMs = some r.hardware.divider)
    {line : Option Interrupt.Line} (hline : r.driver.lineFor? c = some line) :
    configures (init c r).2.calls =
      configures r.calls ++ [(r.hardware.divider, !c.hardReset)] := by
  have hp := programmed_program r r.hardware.divider line (r.driver.state = .running)
  have hread : Interface.divider
      (program r.hardware.divider line (r.driver.state = .running) r).hardware =
        r.hardware.divider :=
    hp.took.elim (fun h => h.1.divider) And.left
  rw [(init_eq hcheck hheld hline).trans (if_pos hread), configures_commit, configures_program,
    (Driver.lineFor?_eq_some hline).1]

variable {q : Request}

/-- Taken or turned away, a configuration for the divider that is held leaves it. -/
theorem divider_of_held (hq : q.config? r.driver = some c)
    (hheld : Divider.forMillis? c.timeoutMs = some r.hardware.divider) :
    (serve r q).2.hardware.divider = r.hardware.divider := by
  rcases left_or_taken r q with hl | ⟨c', hc', ht⟩
  · exact hl.divider
  · obtain rfl := Option.some.inj (hq.symm.trans hc')
    exact Option.some.inj (ht.divider.symm.trans hheld)

/-- What configures is an `init`, with its own configuration or with the last one. -/
theorem serve_eq_init (hq : q.config? r.driver = some c) : serve r q = init c r := by
  cases q with
  | start | stop | refresh => cases hq
  | init | setTimeout => exact congrArg (init · r) (Option.some.inj hq)

theorem Candid.not_malformed {d : Driver} (h : Candid d) (hq : q.config? d = some c)
    (hgiven : ∀ given, q = .init given → ¬ given.Malformed) (hpos : c.timeoutMs ≠ 0) :
    ¬ c.Malformed := by
  cases q with
  | start | stop | refresh => cases hq
  | init given =>
      obtain rfl := Option.some.inj hq
      exact hgiven _ rfl
  | setTimeout timeout =>
      obtain rfl := Option.some.inj hq
      exact h.withTimeout timeout hpos

theorem configures_of_held (hc : Candid r.driver) (hq : q.config? r.driver = some c)
    (hgiven : ∀ given, q = .init given → ¬ given.Malformed)
    (hmin : minTimeoutMs ≤ c.timeoutMs)
    (hheld : Divider.forMillis? c.timeoutMs = some r.hardware.divider)
    {line : Option Interrupt.Line} (hline : r.driver.lineFor? c = some line) :
    configures (serve r q).2.calls =
      configures r.calls ++ [(r.hardware.divider, !c.hardReset)] := by
  have hmax : c.timeoutMs ≤ maxTimeoutMs :=
    (Divider.forMillis?_isSome_iff.mp (Option.isSome_iff_exists.mpr ⟨_, hheld⟩)).2
  have hsound : ¬ c.Malformed := hc.not_malformed hq hgiven (ne_zero_of_min hmin)
  rw [serve_eq_init hq]
  exact configures_init (refusal?_of_bounds _ hsound hmin hmax) hheld hline

end TwoTierWatchdog.Rtl872x
