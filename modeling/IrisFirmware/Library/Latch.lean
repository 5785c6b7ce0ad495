import Mathlib.Data.List.Induction
import IrisFirmware.Library.Run

namespace Latch

open Run

variable {S A : Type*} {step : S → A → S} {pending : S → Bool} {sets : S → A → Prop}
  {clears : A → Prop}

structure Latched (step : S → A → S) (pending : S → Bool) (sets : S → A → Prop)
    (clears : A → Prop) : Prop where
  next : ∀ s a, pending (step s a) = true ↔ ¬ clears a ∧ (sets s a ∨ pending s = true)

theorem stays (h : Latched step pending sets clears) {s : S} (hs : pending s = true)
    {as : List A} (ha : ∀ a ∈ as, ¬ clears a) : pending (exec step s as) = true := by
  induction as generalizing s with
  | nil => exact hs
  | cons a as ih =>
    apply ih
    · exact (h.next s a).mpr ⟨ha a (by simp), .inr hs⟩
    · exact fun b hb => ha b (by simp [hb])

theorem set_stays (h : Latched step pending sets clears) {s : S} {a : A} (hs : sets s a)
    (hc : ¬ clears a) {as : List A} (ha : ∀ b ∈ as, ¬ clears b) :
    pending (exec step s (a :: as)) = true :=
  stays h ((h.next s a).mpr ⟨hc, .inl hs⟩) ha

theorem pending_cause (h : Latched step pending sets clears) {s : S} (hs : pending s = false)
    {as : List A} (hp : pending (exec step s as) = true) :
    ∃ pre a mid, as = pre ++ a :: mid ∧ sets (exec step s pre) a ∧ ∀ b ∈ mid, ¬ clears b := by
  induction as using List.reverseRecOn with
  | nil => simp [hs] at hp
  | append_singleton as a ih =>
    rw [exec_append, exec_cons, exec_nil] at hp
    obtain ⟨hc, hset | hold⟩ := (h.next _ _).mp hp
    · exact ⟨as, a, [], rfl, hset, by simp⟩
    · obtain ⟨pre, b, mid, rfl, hb, hm⟩ := ih hold
      refine ⟨pre, b, mid ++ [a], by simp, hb, ?_⟩
      intro c hcm
      rcases List.mem_append.mp hcm with hcm | hcm
      · exact hm c hcm
      · exact List.mem_singleton.mp hcm ▸ hc

end Latch
