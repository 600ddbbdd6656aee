import TwoTierWatchdog.Supervisor.Json

/-!
# Loading settings

The settings in a text are loaded if they hold together as numbers do that have no bound.
The check doubles the feed interval within a word, where twice a long interval is the
largest word there is. Only a monitor's timeout of that very word would let such an
interval pass, and no hardware timeout is longer than that: the check that the hardware
is the slower tier, which comes first, has turned it away.
-/

namespace TwoTierWatchdog.Supervisor.Settings

/-- The hardware is slower than the monitor, and a feed comes twice in the monitor's
window. -/
def Tiered (c : Settings) : Prop :=
  0 < c.feedIntervalMs.toNat ∧ 2 * c.feedIntervalMs.toNat ≤ c.appTimeoutMs.toNat ∧
    c.appTimeoutMs.toNat < c.hwTimeoutMs.toNat

instance (c : Settings) : Decidable c.Tiered :=
  inferInstanceAs (Decidable (_ ∧ _))

theorem toNat_doubled (w : UInt32) : (doubled w).toNat = min (2 * w.toNat) 0xFFFFFFFF := by
  have hword := w.toNat_lt
  have hhalf : (0x7FFFFFFF : UInt32).toNat = 0x7FFFFFFF := rfl
  have htwo : (2 : UInt32).toNat = 2 := rfl
  unfold doubled
  split
  · next hlarge =>
      rw [UInt32.lt_iff_toNat_lt, hhalf] at hlarge
      show 0xFFFFFFFF = _
      omega
  · next hsmall =>
      rw [UInt32.not_lt, UInt32.le_iff_toNat_le, hhalf] at hsmall
      rw [UInt32.toNat_mul, htwo, Nat.mod_eq_of_lt (by omega)]
      omega

/-- Settings hold together if they pass the three checks on words, in that order. -/
theorem tiered_iff (c : Settings) : c.Tiered ↔
    ¬ (c.hwTimeoutMs = 0 ∨ c.appTimeoutMs = 0 ∨ c.feedIntervalMs = 0) ∧
      ¬ c.hwTimeoutMs ≤ c.appTimeoutMs ∧ ¬ c.appTimeoutMs < doubled c.feedIntervalMs := by
  have hhw := c.hwTimeoutMs.toNat_lt
  have hzero : (0 : UInt32).toNat = 0 := rfl
  simp only [Tiered, ← UInt32.toNat_inj, UInt32.le_iff_toNat_le, UInt32.lt_iff_toNat_lt,
    toNat_doubled, hzero]
  omega

theorem validate_eq (c : Settings) : c.validate =
    if 4 ≤ c.instanceId.toNat then .error .notFound
    else if c.Tiered then .ok ()
    else .error .invalidArgument := by
  have hmax : maxInstances = 4 := rfl
  unfold validate instanceOf Instance.ofNumber
  by_cases hid : c.instanceId.toNat < maxInstances
  · rw [dif_pos hid, if_neg (show ¬ 4 ≤ c.instanceId.toNat by omega)]
    simp only [bind, Except.bind]
    -- the first check that fails is enough for the settings not to hold together
    by_cases hzero : c.hwTimeoutMs = 0 ∨ c.appTimeoutMs = 0 ∨ c.feedIntervalMs = 0
    · rw [if_pos hzero, if_neg fun h => (c.tiered_iff.mp h).1 hzero]
      rfl
    · rw [if_neg hzero]
      by_cases hfaster : c.hwTimeoutMs ≤ c.appTimeoutMs
      · rw [if_pos hfaster, if_neg fun h => (c.tiered_iff.mp h).2.1 hfaster]
        rfl
      · rw [if_neg hfaster]
        by_cases hseldom : c.appTimeoutMs < doubled c.feedIntervalMs
        · rw [if_pos hseldom, if_neg fun h => (c.tiered_iff.mp h).2.2 hseldom]
          rfl
        · rw [if_neg hseldom, if_pos (c.tiered_iff.mpr ⟨hzero, hfaster, hseldom⟩)]
          rfl
  · rw [dif_neg hid, if_pos (show 4 ≤ c.instanceId.toNat by omega)]
    rfl

theorem tiered_of_validate {c : Settings} (h : c.validate = .ok ()) : c.Tiered := by
  rw [validate_eq] at h
  split at h
  · cases h
  · split at h
    · next htiered => exact htiered
    · cases h

/-- The four ways in which loading can end. -/
theorem load_cases (text : List UInt8) :
    (ofJson? text = none ∧ load text = .error .invalidArgument) ∨
    ∃ c, ofJson? text = some c ∧
      (4 ≤ c.instanceId.toNat ∧ load text = .error .notFound ∨
        c.instanceId.toNat < 4 ∧ c.Tiered ∧ load text = .ok c ∨
        c.instanceId.toNat < 4 ∧ ¬ c.Tiered ∧ load text = .error .invalidArgument) := by
  unfold load
  cases ofJson? text with
  | none => exact .inl ⟨rfl, rfl⟩
  | some c =>
      refine .inr ⟨c, rfl, ?_⟩
      dsimp only
      rw [validate_eq]
      by_cases hid : 4 ≤ c.instanceId.toNat
      · rw [if_pos hid]
        exact .inl ⟨hid, rfl⟩
      · rw [if_neg hid]
        by_cases htiered : c.Tiered
        · rw [if_pos htiered]
          exact .inr (.inl ⟨Nat.lt_of_not_le hid, htiered, rfl⟩)
        · rw [if_neg htiered]
          exact .inr (.inr ⟨Nat.lt_of_not_le hid, htiered, rfl⟩)

theorem load_eq_ok_iff {text : List UInt8} {c : Settings} : load text = .ok c ↔
    ofJson? text = some c ∧ c.instanceId.toNat < 4 ∧ c.Tiered := by
  rcases load_cases text with ⟨hread, hload⟩ | ⟨c', hread, ⟨hid, hload⟩ |
    ⟨hid, htiered, hload⟩ | ⟨hid, hnot, hload⟩⟩
  · simp [hread, hload]
  · rw [hread, hload]
    refine ⟨fun h => (nomatch h), ?_⟩
    rintro ⟨heq, hlt, -⟩
    obtain rfl := Option.some.inj heq
    omega
  · rw [hread, hload]
    refine ⟨fun h => ?_, fun h => congrArg Except.ok (Option.some.inj h.1)⟩
    obtain rfl := Except.ok.inj h
    exact ⟨rfl, hid, htiered⟩
  · rw [hread, hload]
    refine ⟨fun h => (nomatch h), ?_⟩
    rintro ⟨heq, -, htiered⟩
    obtain rfl := Option.some.inj heq
    exact absurd htiered hnot

/-- A text is loaded if and only if it holds settings of an instance that there can be,
whose numbers hold together. It is not found if and only if it holds settings of another
instance, whatever else is wrong with them, and everything else is an invalid argument.
What is loaded is in the same order as lengths of time. -/
theorem loaded_iff_tiered (text : List UInt8) :
    (∀ c, load text = .ok c ↔ ofJson? text = some c ∧ c.instanceId.toNat < 4 ∧
      0 < c.feedIntervalMs.toNat ∧ 2 * c.feedIntervalMs.toNat ≤ c.appTimeoutMs.toNat ∧
        c.appTimeoutMs.toNat < c.hwTimeoutMs.toNat) ∧
    (load text = .error .notFound ↔ ∃ c, ofJson? text = some c ∧ 4 ≤ c.instanceId.toNat) ∧
    (load text = .error .invalidArgument ↔
      (∀ c, load text ≠ .ok c) ∧ load text ≠ .error .notFound) ∧
    ∀ c, load text = .ok c → c.appTimeout.nanos < c.hwTimeout.nanos ∧
      2 * c.feedInterval.nanos ≤ c.appTimeout.nanos := by
  refine ⟨fun c => load_eq_ok_iff, ?_, ?_, fun c hc => ?_⟩
  · rcases load_cases text with ⟨hread, hload⟩ | ⟨c, hread, ⟨hid, hload⟩ |
      ⟨hid, -, hload⟩ | ⟨hid, -, hload⟩⟩
    · simp [hread, hload]
    · simp [hread, hload, hid]
    · simp [hread, hload, hid]
    · simp [hread, hload, hid]
  · rcases load_cases text with ⟨-, hload⟩ | ⟨c, -, ⟨-, hload⟩ | ⟨-, -, hload⟩ | ⟨-, -, hload⟩⟩
    · simp [hload]
    · simp [hload]
    · simp [hload]
    · simp [hload]
  · obtain ⟨-, -, -, hoften, hslower⟩ := load_eq_ok_iff.mp hc
    simp only [appTimeout, hwTimeout, feedInterval, Duration.ofMillis]
    omega

/-- The longest interval whose double is a word; the next longer one, of which the largest
word is less than the double; and an instance that there cannot be. -/
theorem longest_interval_is_loaded :
    let c : Settings :=
      { hwTimeoutMs := 0xFFFFFFFF, appTimeoutMs := 0xFFFFFFFE, feedIntervalMs := 0x7FFFFFFF }
    let longer : Settings := { c with appTimeoutMs := 0xFFFFFFFF, feedIntervalMs := 0x80000000 }
    let absent : Settings := { longer with instanceId := 4 }
    load c.toJson = .ok c ∧ c.appTimeout.nanos < c.hwTimeout.nanos ∧
      (∀ c', load longer.toJson ≠ .ok c') ∧ load absent.toJson = .error .notFound := by
  intro c longer absent
  have hread : ofJson? c.toJson = some c := by decide +kernel
  have hlonger : ofJson? longer.toJson = some longer := by decide +kernel
  have habsent : ofJson? absent.toJson = some absent := by decide +kernel
  obtain ⟨hiff, -, -, horder⟩ := loaded_iff_tiered c.toJson
  have hloaded := (hiff c).mpr ⟨hread, by decide⟩
  refine ⟨hloaded, (horder c hloaded).1, fun c' hc' => ?_,
    (loaded_iff_tiered absent.toJson).2.1.mpr ⟨absent, habsent, by decide⟩⟩
  obtain ⟨hsame, -, htiered⟩ := ((loaded_iff_tiered longer.toJson).1 c').mp hc'
  obtain rfl := Option.some.inj (hlonger.symm.trans hsame)
  exact absurd htiered (by decide)

end TwoTierWatchdog.Supervisor.Settings
