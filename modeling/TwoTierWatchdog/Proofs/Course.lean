import TwoTierWatchdog.Proofs.Bringup
import TwoTierWatchdog.Proofs.Sparing
import TwoTierWatchdog.Scenario.Run

/-!
# What happens to registries

To registries a scenario does one of six things: a request is undertaken on a watchdog that
is not busy, and released once its lines are delivered; a line is counted; a callback is
stored; a registry is built; and everything else leaves the registries alone. Every state
that a scenario leads to, also in the middle of a callback, is at the end of a course of
such steps, so a property of registries need only be looked at step by step.
-/

namespace TwoTierWatchdog

namespace System

variable {κ : Type} {s t u : System κ}

/-- A course of steps from one system to another. A request is undertaken by the driver of
the watchdog, over whatever device is there. -/
inductive Course (s : System κ) : System κ → Prop
  | start : Course s s
  | undertake {t : System κ} {w : Watchdog} {slot : Slot} {device : Device}
      (sofar : Course s t) (found : t.slot? w = some slot) (idle : slot.busy = false)
      (under : t.device? slot.device = some device) (q : Request) :
      Course s (t.undertake w slot (device.serve q slot.driver))
  | release {t : System κ} (sofar : Course s t) (w : Watchdog) : Course s (t.release w)
  | count {t : System κ} (sofar : Course s t) (line : Interrupt.Line) :
      Course s (t.count line)
  | onExpired {t : System κ} (sofar : Course s t) (w : Watchdog) (callback : κ) :
      Course s (t.onExpired w callback).2
  | build {t : System κ} (sofar : Course s t) (pairs : List (UInt8 × Nat)) :
      Course s (t.build pairs).2
  | elsewhere {t t' : System κ} (sofar : Course s t)
      (kept : t'.registries = t.registries) : Course s t'

namespace Course

theorem trans (h : Course s t) (h' : Course t u) : Course s u := by
  induction h' with
  | start => exact h
  | undertake _ found idle under q ih => exact ih.undertake found idle under q
  | release _ w ih => exact ih.release w
  | count _ line ih => exact ih.count line
  | onExpired _ w callback ih => exact ih.onExpired w callback
  | build _ pairs ih => exact ih.build pairs
  | elsewhere _ kept ih => exact ih.elsewhere kept

/-- What leaves the registries alone. -/
theorem of_eq (h : t.registries = s.registries) : Course s t :=
  .elsewhere .start h

end Course

/-- Callbacks that take no other steps. -/
def Orderly (h : Handler κ) : Prop :=
  ∀ callback (s : System κ), Course s (h callback s)

section

variable {h : Handler κ} (hh : Orderly h)

include hh

/-- A fire is counted, and then its callback is run. -/
theorem course_fire (s : System κ) (line : Interrupt.Line) : Course s (s.fire h line) := by
  have hcount : Course s (s.count line) := .count .start line
  cases hc : s.callback? line with
  | none => exact fire_of_none hc h ▸ hcount
  | some callback =>
      rw [fire_of_some hc]
      exact hcount.trans (hh callback _)

theorem course_deliver (s : System κ) (lines : List Interrupt.Line) :
    Course s (s.deliver h lines) := by
  induction lines generalizing s with
  | nil => exact .start
  | cons line rest ih => exact (course_fire hh s line).trans (ih _)

theorem course_serve (s : System κ) (w : Watchdog) (q : Request) :
    Course s (s.serve h w q).2 := by
  cases hslot : s.slot? w with
  | none =>
      simp only [serve, hslot]
      exact .start
  | some slot =>
      cases hidle : slot.busy with
      | true =>
          simp only [serve, hslot, hidle, if_true]
          exact .of_eq rfl
      | false =>
          cases hk : s.device? slot.device with
          | none =>
              simp only [serve, hslot, hidle, hk, Bool.false_eq_true, if_false]
              exact .start
          | some device =>
              rw [serve_of_idle hslot hidle hk]
              have hbusy : Course s _ := .undertake .start hslot hidle hk q
              exact (hbusy.trans (course_deliver hh _ _)).release w

theorem course_expire (s : System κ) (k : Nat) : Course s (s.expire h k) := by
  have hstrike : (s.strike k).2.registries = s.registries := by
    unfold strike
    split <;> rfl
  have hrecover : ∀ t : System κ, Course t (t.recover k) := by
    intro t
    unfold recover
    split
    · exact .start
    · exact .of_eq rfl
  unfold expire
  split
  · exact .start
  · split
    · next line t ht =>
        rw [ht] at hstrike
        exact ((Course.of_eq hstrike).trans (course_fire hh t line)).trans (hrecover _)
    · next t ht =>
        rw [ht] at hstrike
        exact (Course.of_eq hstrike).trans (hrecover _)

theorem course_advance (s : System κ) (k : Nat) (time : Duration) :
    Course s (s.advance h k time) := by
  unfold advance
  generalize time.nanos = left, idleExpiries = idle
  have hround : ∀ (s : System κ) (step : Duration),
      Course s ((s.modifyDevice k (·.elapse step)).expire h k) := by
    intro s step
    have helapse : Course s (s.modifyDevice k (·.elapse step)) := .of_eq rfl
    exact helapse.trans (course_expire hh _ k)
  -- by the recursion of `run`
  induction left, idle, s using System.run.induct (h := h) (k := k) with
  | case1 left idle s hnone =>
      rw [System.run, hnone]
      exact .start
  | case2 left idle s step hstep hlt =>
      rw [System.run, hstep]
      simp only [if_pos hlt]
      exact .of_eq rfl
  | case3 left idle s step hstep hge s' hpos =>
      rename_i ih
      rw [System.run, hstep]
      simp only [if_neg hge, dif_pos hpos]
      exact (hround s step).trans ih
  | case4 left s step hstep hge hzero =>
      rw [System.run, hstep]
      simp only [if_neg hge, dif_neg hzero]
      exact hround s step
  | case5 left s step hstep hge s' hzero idle =>
      rename_i ih
      rw [System.run, hstep]
      simp only [if_neg hge, dif_neg hzero]
      exact (hround s step).trans ih

theorem course_stimulate (s : System κ) (k : Nat) (what : Device.Stimulus) :
    Course s (s.stimulate h k what).2 := by
  unfold stimulate
  split
  · exact .start
  · split
    · split
      · exact course_advance hh s k _
      · exact .start
    · split
      · exact course_expire hh s k
      · exact .start
    · split
      · exact course_fire hh s _
      · exact .start
    · split
      · exact .of_eq rfl
      · exact .start

theorem course_arm (s : System κ) (c : Supervisor.Settings) (w : Watchdog) :
    Course s (s.arm h c w).2 := by
  have hserve := course_serve hh s w .start
  unfold arm
  split
  · next ht =>
      rw [ht] at hserve
      exact hserve
  · next t ht =>
      rw [ht] at hserve
      exact hserve.trans (.of_eq (watch_frame t c w).2)

theorem course_boot (s : System κ) (c : Supervisor.Settings) :
    Course s (s.boot h c).2 := by
  have hstart : Course s (s.startSupervision h c).2 := by
    unfold startSupervision
    split
    · exact .start
    · split
      · exact .start
      · split
        · exact .start
        · next w _ =>
            have hserve := course_serve hh s w (.init (.ofTimeout c.hwTimeout c.hardReset))
            split
            · exact .start
            · split
              · next t ht =>
                  rw [ht] at hserve
                  exact hserve.trans (course_arm hh t c w)
              · next t ht =>
                  rw [ht] at hserve
                  dsimp only
                  split
                  · refine hserve.trans (.trans ?_ (course_arm hh _ c w))
                    exact .of_eq rfl
                  · exact hserve
  have hdrop : ∀ t : System κ, t.dropSupervision.registries = t.registries := by
    intro t
    unfold dropSupervision
    split <;> rfl
  unfold boot
  split
  · next ht =>
      rw [ht] at hstart
      exact hstart
  · next t ht =>
      rw [ht] at hstart
      exact hstart.trans (.of_eq (hdrop t))

theorem course_feed (s : System κ) (up : Supervision) :
    Course s (s.feed h up).2 := by
  have hserve := (Course.of_eq (s := s)
    (t := { s with bank := s.bank.checkin up.monitor }) rfl).trans
      (course_serve hh _ up.watchdog .refresh)
  unfold feed
  dsimp only
  split <;>
  · next ht =>
      rw [ht] at hserve
      exact hserve

end

end System

/-! ## Scenarios -/

namespace Scenario

open TwoTierWatchdog.System (Course Orderly)

variable {h : Handler Callback}

theorem registries_dropMonitor (id : Nat) (s : World) :
    (dropMonitor id s).registries = s.registries := by
  unfold dropMonitor
  -- what the monitors do is not to be run
  obtain ⟨bank, log⟩ := s.bank.drop id
  rfl

theorem registries_callMonitor (id : Nat) (m : Liveness.Monitor) (call : MonitorCall)
    (s : World) : (callMonitor id m call s).2.registries = s.registries := by
  have hdrop := registries_dropMonitor id s
  unfold callMonitor
  generalize dropMonitor id s = dropped at hdrop
  generalize s.bank.dispose id = disposed
  generalize s.bank.await id = awaited
  repeat' split
  all_goals first
    | rfl
    | exact hdrop

theorem registries_spawned (name : Nat) (s : World)
    (result : Except Error Nat × Liveness.Bank × List Log.Entry) :
    (spawned name s result).2.registries = s.registries := by
  have hdrop : ∀ id t, (dropMonitor id t).registries = t.registries := registries_dropMonitor
  obtain ⟨result, bank, log⟩ := result
  cases result with
  | error e => rfl
  | ok id =>
      unfold spawned
      generalize dropMonitor = dropped at hdrop ⊢
      cases monitorId? s name with
      | none => rfl
      | some old => exact hdrop old _

theorem registries_monitorStep (name : Nat) (call : MonitorCall) (s : World) :
    (monitorStep name call s).2.registries = s.registries := by
  unfold monitorStep
  split
  · exact registries_spawned name s _
  · split
    · rfl
    · split
      · rfl
      · exact registries_callMonitor _ _ call s

theorem course_withWatchdog (id : UInt8) (s : World) {next : Watchdog → Outcome}
    (hn : ∀ w, Course s (next w).2) : Course s (withWatchdog id s next).2 := by
  unfold withWatchdog
  split
  · exact .start
  · split
    · exact .start
    · exact hn _

theorem course_withSupervision (s : World) {next : Supervision → Outcome}
    (hn : ∀ up, Course s (next up).2) : Course s (withSupervision s next).2 := by
  unfold withSupervision
  split
  · exact .start
  · exact hn _

theorem course_refreshTimes (hh : Orderly h) (w : Watchdog) (times count : Nat)
    (s : World) : Course s (refreshTimes h w times count s).2 := by
  induction times generalizing count s with
  | zero => exact .start
  | succ times ih =>
      have hserve := System.course_serve hh s w .refresh
      unfold refreshTimes
      split <;>
      · next ht =>
          rw [ht] at hserve
          exact hserve.trans (ih _ _)

theorem course_refreshThreads (hh : Orderly h) (w : Watchdog) (times threads : Nat)
    (s : World) : Course s (refreshThreads h w times threads s).2 := by
  induction threads generalizing s with
  | zero => exact .start
  | succ threads ih =>
      unfold refreshThreads
      refine (course_refreshTimes hh w times 0 s).trans (.trans ?_ (ih _))
      exact .of_eq rfl

mutual

theorem course_step (hh : Orderly h) (step : Step) (s : World) :
    Course s (step.run h s).2 := by
  cases step with
  | locked steps =>
      rw [Step.run]
      exact course_runAll hh steps #[] s
  | build pairs =>
      rw [Step.run]
      exact .build .start pairs
  | contains id =>
      rw [Step.run]
      split <;> exact .start
  | boot settings =>
      rw [Step.run]
      exact System.course_boot hh s settings
  | feed =>
      rw [Step.run]
      exact course_withSupervision s (System.course_feed hh s)
  | supervision =>
      rw [Step.run]
      exact course_withSupervision s fun _ => .start
  | supervisionCheckin | supervisionAwait =>
      rw [Step.run]
      exact course_withSupervision s fun _ => .of_eq rfl
  | supervisionDrop =>
      rw [Step.run]
      refine course_withSupervision s fun _ => .of_eq ?_
      show s.dropSupervision.registries = _
      unfold System.dropSupervision
      split <;> rfl
  | request id q =>
      rw [Step.run]
      exact course_withWatchdog id s fun w => System.course_serve hh s w q
  | initEncoded id bytes =>
      rw [Step.run]
      refine course_withWatchdog id s fun w => ?_
      split
      · exact .start
      · exact System.course_serve hh s w _
  | inquire id what =>
      rw [Step.run]
      exact course_withWatchdog id s fun _ => .start
  | onExpired id tag script =>
      rw [Step.run]
      refine course_withWatchdog id s fun w => ?_
      show Course s (s.onExpired w ⟨tag, script⟩).2
      exact .onExpired .start w _
  | refreshInParallel id threads times =>
      rw [Step.run]
      exact course_withWatchdog id s fun w =>
        course_refreshThreads hh w times threads s
  | device k what =>
      rw [Step.run]
      exact System.course_stimulate hh s k what
  | monitor name call =>
      rw [Step.run]
      exact .of_eq (registries_monitorStep name call s)
  | instances | sleep | checkinProcessWide | unknown =>
      rw [Step.run]
      exact .of_eq rfl

theorem course_runAll (hh : Orderly h) (steps : List Step) (answers : Array Answer)
    (s : World) : Course s (runAll h steps answers s).2 := by
  cases steps with
  | nil =>
      rw [runAll]
      exact .start
  | cons step rest =>
      rw [runAll]
      exact (course_step hh step s).trans (course_runAll hh rest _ _)

end

/-- By induction on how deep callbacks may be nested. -/
theorem orderly_handler (depth : Nat) : Orderly (handler depth) := by
  induction depth with
  | zero =>
      intro callback s
      exact .of_eq rfl
  | succ depth ih =>
      intro callback s
      exact (course_runAll ih callback.script #[] s).trans (.of_eq rfl)

/-- A scenario takes a course, whatever its callbacks do in turn. -/
theorem course_scenario (depth : Nat) (steps : List Step) (answers : Array Answer)
    (s : World) : Course s (runAll (handler depth) steps answers s).2 :=
  course_runAll (orderly_handler depth) steps answers s

end Scenario

end TwoTierWatchdog
