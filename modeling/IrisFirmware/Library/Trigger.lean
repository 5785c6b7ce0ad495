import IrisFirmware.Library.Run

namespace Trigger

open Run

variable {m : Nat} {T : Int} {c : Nat × Bool}

def tick (m : Nat) (T : Int) (c : Nat × Bool) : Nat × Bool :=
  if T - 1 ≤ c.1 then (c.1, true) else ((c.1 + 1) % m, c.2)

theorem tick_lt (h : c.1 < m) : (tick m T c).1 < m := by
  rw [tick]
  split_ifs
  · exact h
  · exact Nat.mod_lt _ (Nat.zero_lt_of_lt h)

theorem ticks_short (hT : m < T) (h : c.1 < m) (n : Nat) : ((tick m T)^[n] c).2 = c.2 := by
  induction n generalizing c with
  | zero => rfl
  | succ n ih =>
    rw [Function.iterate_succ_apply, ih (tick_lt h), tick, if_neg (by omega)]

theorem ticks_reach (hT : T ≤ m) {n : Nat} (h : c.2 = true ∨ 0 < n ∧ T ≤ c.1 + n) :
    ((tick m T)^[n] c).2 = true := by
  induction n generalizing c with
  | zero => exact h.resolve_right fun hn => Nat.lt_irrefl 0 hn.1
  | succ n ih =>
    rw [Function.iterate_succ_apply]
    by_cases hc : T - 1 ≤ c.1
    case pos => exact ih (.inl (by rw [tick, if_pos hc]))
    case neg =>
      have hnext : tick m T c = (c.1 + 1, c.2) := by
        rw [tick, if_neg hc, Nat.mod_eq_of_lt (by omega)]
      rw [hnext]
      rcases h with hset | ⟨-, hle⟩
      · exact ih (.inl hset)
      · exact ih (.inr (by push_cast at hle ⊢; omega))

theorem ticks_iff (hT : 1 ≤ T) (h : c.1 < m) {n : Nat} (hn : (n : Int) = T) :
    ((tick m T)^[n] c).2 = true ↔ T ≤ m ∨ c.2 = true := by
  constructor
  · intro hset
    by_cases hle : T ≤ m
    case pos => exact .inl hle
    case neg =>
      rw [ticks_short (by omega) h] at hset
      exact .inr hset
  · rintro (hle | hset)
    · exact ticks_reach hle (.inr (by omega))
    · by_cases hle : T ≤ m
      case pos => exact ticks_reach hle (.inl hset)
      case neg => rwa [ticks_short (by omega) h]

theorem exec_ticks {S A : Type*} {step : S → A → S} {I : S → Prop} {counter : S → Nat × Bool}
    {as : List A} (hstep : ∀ s, ∀ a ∈ as, I s →
      I (step s a) ∧ counter (step s a) = tick m T (counter s)) {s : S} (hs : I s) :
    counter (exec step s as) = (tick m T)^[as.length] (counter s) := by
  induction as generalizing s with
  | nil => rfl
  | cons a as ih =>
    obtain ⟨hnext, hcount⟩ := hstep s a (by simp) hs
    rw [exec_cons, ih (fun t b hb => hstep t b (by simp [hb])) hnext, hcount, List.length_cons,
      Function.iterate_succ_apply]

end Trigger
