import TwoTierWatchdog.Proofs.Course
import TwoTierWatchdog.Proofs.Routing

/-!
# Everything makes a history

Whatever a scenario does, with callbacks nested to any depth, it does to expiry tables by
firing lines and by storing callbacks. So every state that a scenario leads to, also in the
middle of a callback, is at the end of a history, and what is proved of histories holds
there.
-/

namespace TwoTierWatchdog

namespace System

variable {κ : Type} {s t u : System κ} {es es' : List (Event κ)}

/-- Some history leads from one system to another. -/
def Chronicled (s t : System κ) : Prop :=
  ∃ es, History s es t

theorem History.trans (h : History s es t) (h' : History t es' u) :
    History s (es ++ es') u := by
  induction h' with
  | start => rwa [List.append_nil]
  | fire _ line ih =>
      rw [← List.append_assoc]
      exact ih.fire line
  | accept _ stored ih =>
      rw [← List.append_assoc]
      exact ih.accept stored
  | reject _ refused ih =>
      rw [← List.append_assoc]
      exact ih.reject refused
  | elsewhere _ tables made ih => exact ih.elsewhere tables made

namespace Chronicled

theorem refl (s : System κ) : Chronicled s s :=
  ⟨[], .start⟩

theorem trans (h : Chronicled s t) (h' : Chronicled t u) : Chronicled s u := by
  obtain ⟨es, h⟩ := h
  obtain ⟨es', h'⟩ := h'
  exact ⟨es ++ es', h.trans h'⟩

/-- What leaves the registries alone. -/
theorem of_eq (h : t.registries = s.registries) : Chronicled s t :=
  ⟨[], .elsewhere .start (fun g => by rw [registry, h, registry]) (by rw [h])⟩

end Chronicled

/-- Callbacks make histories. -/
def Recording (h : Handler κ) : Prop :=
  ∀ callback (s : System κ), Chronicled s (h callback s)

theorem chronicled_onExpired (s : System κ) (w : Watchdog) (callback : κ) :
    Chronicled s (s.onExpired w callback).2 := by
  rcases onExpired_cases s w callback with ⟨e, he⟩ | ⟨s', hs', -⟩
  · rw [he]
    exact .refl s
  · rw [hs']
    exact ⟨_, .accept .start hs'⟩

theorem chronicled_modifySlot (s : System κ) (w : Watchdog) (f : Slot → Slot) :
    Chronicled s (s.modifySlot w f) :=
  ⟨[], .elsewhere .start (expiry_modifySlot s w f) (Nat.le_of_eq Array.size_modify.symm)⟩

theorem chronicled_build (s : System κ) (pairs : List (UInt8 × Nat)) :
    Chronicled s (s.build pairs).2 := by
  cases hbuild : s.build pairs with
  | mk result t =>
      cases result with
      | error e => exact .of_eq (build_error hbuild).2
      | ok =>
          obtain ⟨-, hcurrent, -⟩ := build_ok hbuild
          have hsize : t.registries.size - 1 = s.registries.size := hcurrent
          exact ⟨[], .elsewhere .start (expiry_build hbuild) (by show _ ≤ t.registries.size; omega)⟩

/-- Each step makes an event, or leaves the tables alone. -/
theorem Course.chronicled (h : Course s t) : Chronicled s t := by
  induction h with
  | start => exact .refl s
  | @undertake t w slot device _ _ _ _ q ih =>
      have hput : Chronicled t (t.putDevice slot.device (device.serve q slot.driver).device
        (device.serve q slot.driver).calls) := .of_eq rfl
      exact (ih.trans (hput.trans (chronicled_modifySlot _ w _))).trans (.of_eq rfl)
  | release _ w ih => exact ih.trans (chronicled_modifySlot _ w _)
  | count _ line ih => exact ih.trans ⟨_, .fire .start line⟩
  | onExpired _ w callback ih => exact ih.trans (chronicled_onExpired _ w callback)
  | build _ pairs ih => exact ih.trans (chronicled_build _ pairs)
  | elsewhere _ kept ih => exact ih.trans (.of_eq kept)

end System

namespace Scenario

open TwoTierWatchdog.System (Chronicled Recording)

theorem recording_handler (depth : Nat) : Recording (handler depth) :=
  fun callback s => (orderly_handler depth callback s).chronicled

/-- A scenario makes a history, whatever its callbacks do in turn. -/
theorem chronicled_scenario (depth : Nat) (steps : List Step) (answers : Array Answer)
    (s : World) : Chronicled s (runAll (handler depth) steps answers s).2 :=
  (course_scenario depth steps answers s).chronicled

end Scenario

end TwoTierWatchdog
