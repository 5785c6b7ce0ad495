import IrisFirmware.Library.Fallible

namespace Metered

open Fallible

variable {E S T α β : Type}

structure Costs (bus : S → Nat → Bool) (k : Nat) (x : EStateM E S α) (s : S) (P : α → S → Prop)
    (F : Nat → S → Prop) : Prop where
  answered : (∀ n < k, bus s n) →
    ∃ a t, x s = .ok a t ∧ bus t = (fun n => bus s (n + k)) ∧ P a t
  refused : ∀ n < k, (∀ i < n, bus s i) → bus s n = false → ∃ e t, x s = .error e t ∧ F n t

namespace Costs

variable {bus : S → Nat → Bool} {j k : Nat} {x : EStateM E S α} {f : α → EStateM E S β} {s : S}
  {P Q : α → S → Prop} {F G : Nat → S → Prop}

theorem of_eq {y : EStateM E S α} (hrun : x s = y s) (h : Costs bus k y s P F) :
    Costs bus k x s P F := by
  constructor
  · intro hall
    rw [hrun]
    exact h.answered hall
  · intro n hn hbefore hno
    rw [hrun]
    exact h.refused n hn hbefore hno

theorem ret {a : α} (h : P a s) : Costs bus 0 (pure a : EStateM E S α) s P F :=
  ⟨fun _ => ⟨a, s, rfl, rfl, h⟩, fun _ hn => absurd hn (Nat.not_lt_zero _)⟩

theorem mono (h : Costs bus k x s P F) (hPQ : ∀ a t, P a t → Q a t)
    (hFG : ∀ n t, n < k → F n t → G n t) : Costs bus k x s Q G := by
  constructor
  · intro hall
    obtain ⟨a, t, hrun, hbus, hp⟩ := h.answered hall
    exact ⟨a, t, hrun, hbus, hPQ a t hp⟩
  · intro n hn hbefore hno
    obtain ⟨e, t, hrun, hf⟩ := h.refused n hn hbefore hno
    exact ⟨e, t, hrun, hFG n t hn hf⟩

theorem bind {Q : β → S → Prop} (h : Costs bus j x s P F)
    (hf : ∀ a t, P a t → Costs bus k (f a) t Q fun n => F (n + j)) :
    Costs bus (j + k) (x >>= f) s Q F := by
  constructor
  · intro hall
    obtain ⟨a, t, hrun, hbus, hp⟩ := h.answered fun n hn => hall n (by omega)
    obtain ⟨b, u, hnext, hbus', hq⟩ := (hf a t hp).answered fun n hn => by
      rw [hbus]
      exact hall (n + j) (by omega)
    refine ⟨b, u, (bind_run hrun f).trans hnext, ?_, hq⟩
    rw [hbus', hbus]
    funext n
    exact congrArg (bus s) (by omega)
  · intro n hn hbefore hno
    by_cases hfirst : n < j
    · obtain ⟨e, t, hrun, hft⟩ := h.refused n hfirst hbefore hno
      exact ⟨e, t, bind_error hrun f, hft⟩
    · obtain ⟨i, rfl⟩ := Nat.exists_eq_add_of_le' (Nat.le_of_not_lt hfirst)
      obtain ⟨a, t, hrun, hbus, hp⟩ := h.answered fun n hn => hbefore n (by omega)
      obtain ⟨e, u, hnext, hfu⟩ := (hf a t hp).refused i (by omega)
        (fun n hn => by
          rw [hbus]
          exact hbefore (n + j) (by omega))
        (by rw [hbus]; exact hno)
      exact ⟨e, u, (bind_run hrun f).trans hnext, hfu⟩

theorem get_bind {f : S → EStateM E S α} (h : Costs bus k (f s) s P F) :
    Costs bus k (get >>= f) s P F := ⟨h.answered, h.refused⟩

theorem modify_bind {g : S → S} {f : Unit → EStateM E S α} (hbus : bus (g s) = bus s)
    (h : Costs bus k (f ()) (g s) P F) : Costs bus k (modify g >>= f) s P F := by
  refine ⟨fun hall => ?_, fun n hn hbefore hno => ?_⟩
  · rw [← hbus] at hall ⊢
    exact h.answered hall
  · rw [← hbus] at hbefore hno
    exact h.refused n hn hbefore hno

theorem modify {g : S → S} {R : Unit → S → Prop} (hbus : bus (g s) = bus s) (h : R () (g s)) :
    Costs bus 0 (modify g : EStateM E S Unit) s R F :=
  ⟨fun _ => ⟨(), g s, rfl, hbus, h⟩, fun _ hn => absurd hn (Nat.not_lt_zero _)⟩

theorem within {get : S → T} {set : T → S → S} {x : EStateM E T α} {bus : T → Nat → Bool}
    {P : α → T → Prop} {F : Nat → T → Prop} (hset : ∀ t s, get (set t s) = t)
    (h : Costs bus k x (get s) P F) :
    Costs (fun s => bus (get s)) k (within get set x) s (fun a u => ∃ t, u = set t s ∧ P a t)
      fun n u => ∃ t, u = set t s ∧ F n t := by
  constructor
  · intro hall
    obtain ⟨a, t, hrun, hbus, hp⟩ := h.answered hall
    exact ⟨a, set t s, by rw [Fallible.within, hrun], by rw [hset, hbus], t, rfl, hp⟩
  · intro n hn hbefore hno
    obtain ⟨e, t, hrun, hf⟩ := h.refused n hn hbefore hno
    exact ⟨e, set t s, by rw [Fallible.within, hrun], t, rfl, hf⟩

theorem first_refused (bus : Nat → Bool) (k : Nat) :
    (∀ n < k, bus n) ∨ ∃ n < k, (∀ i < n, bus i) ∧ bus n = false := by
  induction k with
  | zero => exact .inl fun n hn => absurd hn (Nat.not_lt_zero n)
  | succ k ih =>
    rcases ih with hall | ⟨n, hn, hfirst⟩
    · cases hlast : bus k with
      | true =>
        refine .inl fun n hn => ?_
        rcases Nat.lt_succ_iff_lt_or_eq.mp hn with hn | rfl
        · exact hall n hn
        · exact hlast
      | false => exact .inr ⟨k, Nat.lt_succ_self k, hall, hlast⟩
    · exact .inr ⟨n, Nat.lt_succ_of_lt hn, hfirst⟩

theorem of_ok (h : Costs bus k x s P F) {a : α} {t : S} (hrun : x s = .ok a t) :
    (∀ n < k, bus s n) ∧ P a t := by
  rcases first_refused (bus s) k with hall | ⟨n, hn, hbefore, hno⟩
  · obtain ⟨b, u, hrun', -, hp⟩ := h.answered hall
    obtain ⟨rfl, rfl⟩ := EStateM.Result.ok.inj (hrun.symm.trans hrun')
    exact ⟨hall, hp⟩
  · obtain ⟨e, u, hrun', -⟩ := h.refused n hn hbefore hno
    cases hrun.symm.trans hrun'

theorem of_error (h : Costs bus k x s P F) {e : E} {t : S} (hrun : x s = .error e t) :
    ∃ n < k, (∀ i < n, bus s i) ∧ bus s n = false ∧ F n t := by
  rcases first_refused (bus s) k with hall | ⟨n, hn, hbefore, hno⟩
  · obtain ⟨b, u, hrun', -⟩ := h.answered hall
    cases hrun.symm.trans hrun'
  · obtain ⟨e', u, hrun', hf⟩ := h.refused n hn hbefore hno
    obtain ⟨rfl, rfl⟩ := EStateM.Result.error.inj (hrun.symm.trans hrun')
    exact ⟨n, hn, hbefore, hno, hf⟩

theorem final {R : S → Prop} (h : Costs bus k x s P F) (hP : ∀ a t, P a t → R t)
    (hF : ∀ n t, F n t → R t) : R (final x s) := by
  rw [Fallible.final]
  cases hrun : x s with
  | ok a t => exact hP a t (h.of_ok hrun).2
  | error e t =>
    obtain ⟨n, -, -, -, hf⟩ := h.of_error hrun
    exact hF n t hf

theorem succeeds (h : Costs bus k x s P F) (hall : ∀ n, bus s n) :
    Succeeds x s fun a t => P a t ∧ ∀ n, bus t n := by
  obtain ⟨a, t, hrun, hbus, hp⟩ := h.answered fun n _ => hall n
  exact ⟨a, t, hrun, hp, fun n => by rw [hbus]; exact hall (n + k)⟩

end Costs

end Metered
