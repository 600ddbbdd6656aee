import TwoTierWatchdog.Proofs.Operation

/-!
# Time that passes in pieces

Time passes for a device from one expiry to the next: as long as what is left of it covers
the time to the next expiry, that much passes and the device expires; the rest of it
passes at last, or nothing more does once the counter is off. This is told here without
the bound on expiries that take no time, as a relation that does not hold of a passage
that never ends.

It does not matter where time is cut, also where it is cut at the very moment of an
expiry: the first piece then ends with that expiry, and the second one begins with the
counter that the expiry and its callback have left. This holds of all systems and of all
callbacks, of those that never let time end as well. Where counters are wound up time does
end, because each expiry has taken some of it.
-/

namespace TwoTierWatchdog

namespace System

variable {κ : Type} {h : Handler κ} {k left : Nat} {s t u : System κ}

/-- An expiry as it is seen when its line is delivered: the line, if there is one, and the
system that its callback finds. -/
abbrev Delivery (κ : Type) := Option Interrupt.Line × System κ

/-- A length of time passes for a device, with so many expiries, and then it is over. -/
inductive Passage (h : Handler κ) (k : Nat) :
    Nat → System κ → List (Delivery κ) → System κ → Prop
  | stopped {left : Nat} {s : System κ} (off : s.remaining? k = none) : Passage h k left s [] s
  | short {left : Nat} {s : System κ} {step : Duration} (runs : s.remaining? k = some step)
      (lt : left < step.nanos) : Passage h k left s [] (s.modifyDevice k (·.elapse ⟨left⟩))
  | expires {left : Nat} {s t : System κ} {step : Duration} {es : List (Delivery κ)}
      (runs : s.remaining? k = some step) (le : step.nanos ≤ left)
      (rest : Passage h k (left - step.nanos)
        ((s.modifyDevice k (·.elapse step)).expire h k) es t) :
      Passage h k left s ((s.modifyDevice k (·.elapse step)).strike k :: es) t

/-! ## Time that does not use up what is left -/

theorem remaining?_elapse (s : System κ) (k : Nat) (time : Duration) :
    (s.modifyDevice k (·.elapse time)).remaining? k =
      (s.remaining? k).map fun left => ⟨left.nanos - time.nanos⟩ := by
  rw [remaining?, remaining?, device?_modifyDevice, if_pos rfl]
  cases s.device? k with
  | none => rfl
  | some device => exact device.remaining?_elapse time

theorem elapse_elapse (s : System κ) (k : Nat) (a b : Duration) :
    (s.modifyDevice k (·.elapse a)).modifyDevice k (·.elapse b) =
      s.modifyDevice k (·.elapse ⟨a.nanos + b.nanos⟩) := by
  have hdevice : ((fun m : Mounted => { m with device := m.device.elapse b }) ∘
      fun m : Mounted => { m with device := m.device.elapse a }) =
      fun m => { m with device := m.device.elapse ⟨a.nanos + b.nanos⟩ } := by
    funext m
    exact congrArg (Mounted.mk · m.calls) (m.device.elapse_elapse a b)
  unfold modifyDevice
  rw [List.modify_modify_eq, hdevice]

/-- What is left is used up in two pieces as it is in one. -/
theorem elapse_rest (s : System κ) (k : Nat) {a : Nat} {step : Duration} (h : a ≤ step.nanos) :
    (s.modifyDevice k (·.elapse ⟨a⟩)).modifyDevice k (·.elapse ⟨step.nanos - a⟩) =
      s.modifyDevice k (·.elapse step) := by
  rw [elapse_elapse, Nat.add_sub_cancel' h]

namespace Passage

variable {es es₁ es₂ : List (Delivery κ)} {a b : Nat}

/-- Nothing happens to a counter that is off. -/
theorem of_off (hp : Passage h k left s es t) (off : s.remaining? k = none) :
    es = [] ∧ t = s := by
  cases hp with
  | stopped => exact ⟨rfl, rfl⟩
  | short runs lt => cases off.symm.trans runs
  | expires runs le rest => cases off.symm.trans runs

/-! ## Cutting time in two -/

/-- By induction on the passage: the cut falls into the time before its first expiry, or
it falls into what comes after. -/
theorem split {total : Nat} (hp : Passage h k total s es t) (hab : a + b = total) :
    ∃ u es₁ es₂, Passage h k a s es₁ u ∧ Passage h k b u es₂ t ∧ es = es₁ ++ es₂ := by
  induction hp generalizing a with
  | stopped off => exact ⟨_, [], [], .stopped off, .stopped off, rfl⟩
  | @short total s step runs lt =>
      have hcut := remaining?_elapse s k ⟨a⟩
      rw [runs, Option.map_some] at hcut
      have hrest : Passage h k b (s.modifyDevice k (·.elapse ⟨a⟩)) [] _ :=
        .short hcut (show b < step.nanos - a by omega)
      rw [elapse_elapse, show a + b = total from hab] at hrest
      exact ⟨_, [], [], .short runs (show a < step.nanos by omega), hrest, rfl⟩
  | @expires total s t step es runs le rest ih =>
      by_cases hlt : a < step.nanos
      · have hcut := remaining?_elapse s k ⟨a⟩
        rw [runs, Option.map_some] at hcut
        have hrest : Passage h k b (s.modifyDevice k (·.elapse ⟨a⟩))
            ((s.modifyDevice k (·.elapse step)).strike k :: es) t := by
          rw [← elapse_rest s k (Nat.le_of_lt hlt)] at rest ⊢
          refine .expires hcut (show step.nanos - a ≤ b by omega) ?_
          rw [show b - (step.nanos - a) = total - step.nanos by omega]
          exact rest
        exact ⟨_, [], _, .short runs hlt, hrest, rfl⟩
      · obtain ⟨u, es₁, es₂, hfirst, hsecond, rfl⟩ := ih (a := a - step.nanos) (by omega)
        exact ⟨u, _, es₂, .expires runs (Nat.not_lt.mp hlt) hfirst, hsecond, rfl⟩

/-- By induction on the first piece. -/
theorem join (hp : Passage h k a s es₁ u) (hq : Passage h k b u es₂ t) :
    Passage h k (a + b) s (es₁ ++ es₂) t := by
  induction hp with
  | stopped off =>
      obtain ⟨rfl, rfl⟩ := hq.of_off off
      exact .stopped off
  | @short a s step runs lt =>
      have hcut := remaining?_elapse s k ⟨a⟩
      rw [runs, Option.map_some] at hcut
      cases hq with
      | stopped off => cases off.symm.trans hcut
      | short runs' lt' =>
          obtain rfl := Option.some.inj (hcut.symm.trans runs')
          rw [elapse_elapse]
          exact .short runs (show a + b < step.nanos by have : b < step.nanos - a := lt'; omega)
      | expires runs' le' rest =>
          obtain rfl := Option.some.inj (hcut.symm.trans runs')
          have hle : step.nanos - a ≤ b := le'
          rw [elapse_rest s k (Nat.le_of_lt lt)] at rest ⊢
          refine .expires runs (by omega) ?_
          rw [show a + b - step.nanos = b - (step.nanos - a) by omega]
          exact rest
  | @expires a s u step es runs le rest ih =>
      refine .expires runs (by omega) ?_
      rw [show a + b - step.nanos = a - step.nanos + b by omega]
      exact ih hq

/-- There is one way for time to pass. -/
theorem unique {es' : List (Delivery κ)} {t' : System κ} (hp : Passage h k left s es t)
    (hq : Passage h k left s es' t') : es = es' ∧ t = t' := by
  induction hp generalizing es' with
  | stopped off =>
      obtain ⟨rfl, rfl⟩ := hq.of_off off
      exact ⟨rfl, rfl⟩
  | short runs lt =>
      cases hq with
      | stopped off => cases off.symm.trans runs
      | short runs' lt' => exact ⟨rfl, rfl⟩
      | expires runs' le rest =>
          obtain rfl := Option.some.inj (runs.symm.trans runs')
          omega
  | expires runs le rest ih =>
      cases hq with
      | stopped off => cases off.symm.trans runs
      | short runs' lt =>
          obtain rfl := Option.some.inj (runs.symm.trans runs')
          omega
      | expires runs' le' rest' =>
          obtain rfl := Option.some.inj (runs.symm.trans runs')
          obtain ⟨rfl, rfl⟩ := ih rest'
          exact ⟨rfl, rfl⟩

end Passage

/-! ## Time that ends -/

/-- By the recursion of `run`, which never comes to its bound: every expiry of a counter
that is wound up takes time, and is followed by a counter that is wound up again. -/
theorem Wound.passage {struck : Nat → Prop} (hh : Keeping h) (hs : s.Wound struck)
    (hk : ¬ struck k) (left idle : Nat) :
    ∃ es, Passage h k left s es (s.run h k left idle) ∧ es.length ≤ left := by
  induction left, idle, s using System.run.induct (h := h) (k := k) with
  | case1 left idle s hnone =>
      rw [System.run, hnone]
      exact ⟨[], .stopped hnone, Nat.zero_le _⟩
  | case2 left idle s step hstep hlt =>
      rw [System.run, hstep]
      simp only [if_pos hlt]
      exact ⟨[], .short hstep hlt, Nat.zero_le _⟩
  | case3 left idle s step hstep hge s' hpos ih =>
      rw [System.run, hstep]
      simp only [if_neg hge, dif_pos hpos]
      obtain ⟨es, hrest, hlength⟩ := ih (hs.expire_elapse hh hstep step)
      refine ⟨_, .expires hstep (Nat.not_lt.mp hge) hrest, ?_⟩
      rw [List.length_cons]
      omega
  | case4 left s step hstep hge hzero => exact absurd (hs.remaining_pos hk hstep) hzero
  | case5 left s step hstep hge s' hzero idle ih => exact absurd (hs.remaining_pos hk hstep) hzero

theorem passage_advance (hh : Keeping h) (hs : s.Wound fun _ => False) (k : Nat)
    (time : Duration) : ∃ es, Passage h k time.nanos s es (s.advance h k time) := by
  obtain ⟨es, hp, -⟩ := hs.passage hh (k := k) not_false time.nanos idleExpiries
  exact ⟨es, hp⟩

/-- It does not matter where time is cut. Whatever a system and its callbacks are, time
passes in one piece as it passes in two, with the expiries of the one and then of the
other. And where peripherals that were new have been told what to do by drivers alone,
time does pass: for any two lengths, both pieces come to an end, and so does their sum, in
the same system and after the same expiries. -/
theorem time_is_additive (h : Handler κ) (k : Nat) (a b : Duration) :
    (∀ s es t, Passage h k (a.nanos + b.nanos) s es t ↔
      ∃ u es₁ es₂, Passage h k a.nanos s es₁ u ∧ Passage h k b.nanos u es₂ t ∧
        es = es₁ ++ es₂) ∧
    ∀ {before : Handler κ} {fresh s : System κ}, fresh.New → Operates before →
      Operated before fresh s → Operates h →
      s.advance h k ⟨a.nanos + b.nanos⟩ = (s.advance h k a).advance h k b ∧
      ∃ es₁ es₂, Passage h k a.nanos s es₁ (s.advance h k a) ∧
        Passage h k b.nanos (s.advance h k a) es₂ ((s.advance h k a).advance h k b) ∧
        Passage h k (a.nanos + b.nanos) s (es₁ ++ es₂) (s.advance h k ⟨a.nanos + b.nanos⟩) := by
  refine ⟨fun s es t => ⟨fun hp => hp.split rfl, ?_⟩, fun hnew hbefore hs hh => ?_⟩
  · rintro ⟨u, es₁, es₂, hfirst, hsecond, rfl⟩
    exact hfirst.join hsecond
  · have hkeeping := hh.keeping
    have hwound := hs.wound hbefore.keeping (hnew.wound fun _ => False)
    obtain ⟨es₁, hfirst⟩ := passage_advance hkeeping hwound k a
    obtain ⟨es₂, hsecond⟩ := passage_advance hkeeping (hwound.advance hkeeping k a) k b
    obtain ⟨es, hwhole⟩ := passage_advance hkeeping hwound k ⟨a.nanos + b.nanos⟩
    obtain ⟨rfl, hsame⟩ := hwhole.unique (hfirst.join hsecond)
    exact ⟨hsame, es₁, es₂, hfirst, hsecond, hwhole⟩

/-- Callbacks that make requests of a watchdog, one after the other. -/
def requesting : Handler (Watchdog × List Request) := fun callback s =>
  callback.2.foldl (fun s q => (s.serve (fun _ s => s) callback.1 q).2) s

theorem operates_requesting : Operates requesting := by
  refine .nest (fun _ _ => fun _ s => s) (fun _ _ => .idle (fun _ _ _ => rfl) fun _ _ => rfl)
    fun ⟨w, qs⟩ s => ?_
  have hserved : ∀ {t : System (Watchdog × List Request)}, Operated (fun _ s => s) s t →
      Operated (fun _ s => s) s (requesting (w, qs) t) := by
    induction qs with
    | nil => exact id
    | cons q qs ih => exact fun ht => ih (ht.serve w q)
  exact hserved .start

/-- Time that is cut at the expiry of an RTL872x, whose callback feeds it and then gives it
another period. -/
theorem time_is_cut_at_an_expiry :
    let w : Watchdog := ⟨1, ⟨0, by decide⟩⟩
    let soft : Record.Config := { timeoutMs := 1000, hardReset := false }
    let fresh : System (Watchdog × List Request) :=
      { devices := [{ device := Sim.rtl872x.fresh }] }
    let configured := ((fresh.build [(0, 0)]).2.serve requesting w (.init soft)).2
    let listening := (configured.onExpired w
      (w, [.refresh, .init { soft with timeoutMs := 300 }])).2
    let s := (listening.serve requesting w .start).2
    let second : Duration := .ofMillis 1000
    s.remaining? 0 = some second ∧
      s.advance requesting 0 ⟨second.nanos + second.nanos⟩ =
        (s.advance requesting 0 second).advance requesting 0 second ∧
      ∃ es₁ es₂, Passage requesting 0 second.nanos s es₁ (s.advance requesting 0 second) ∧
        Passage requesting 0 (second.nanos + second.nanos) s (es₁ ++ es₂)
          (s.advance requesting 0 ⟨second.nanos + second.nanos⟩) := by
  intro w soft fresh configured listening s second
  have hnew : fresh.New := by
    refine ⟨fun k device hk => .inl ⟨.rtl872x, ?_⟩, rfl⟩
    cases k with
    | zero => exact (Option.some.inj hk).symm
    | succ k => cases hk
  have hs : Operated requesting fresh s :=
    (((Operated.start.build _).serve w _).onExpired w _).serve w .start
  have hleft : s.remaining? 0 = some second := by decide +kernel
  -- what the run leads to is not to be computed again
  clear_value s
  obtain ⟨hsame, es₁, es₂, hfirst, -, hwhole⟩ :=
    (time_is_additive requesting 0 second second).2 hnew operates_requesting hs
      operates_requesting
  exact ⟨hleft, hsame, es₁, es₂, hfirst, hwhole⟩

end System

end TwoTierWatchdog
