import Mathlib.Tactic

namespace Loop

variable {S E : Type*}

inductive Ends (step : S → S ⊕ E) : S → E → Prop
  | exit {s : S} {e : E} : step s = .inr e → Ends step s e
  | next {s t : S} {e : E} : step s = .inl t → Ends step t e → Ends step s e

def run (step : S → S ⊕ E) : Nat → S → Option E
  | 0, _ => none
  | fuel + 1, s =>
    match step s with
    | .inl t => run step fuel t
    | .inr e => some e

variable {step : S → S ⊕ E} {s t : S} {d e : E}

theorem ends_of_run {fuel : Nat} (h : run step fuel s = some e) : Ends step s e := by
  induction fuel generalizing s with
  | zero => cases h
  | succ fuel ih =>
    rw [run] at h
    cases hs : step s with
    | inl t =>
      rw [hs] at h
      exact .next hs (ih h)
    | inr f =>
      rw [hs] at h
      exact .exit (hs.trans (congrArg Sum.inr (Option.some.inj h)))

theorem Ends.unique (hd : Ends step s d) (he : Ends step s e) : d = e := by
  induction hd with
  | exit hs =>
    cases he with
    | exit ht => exact Sum.inr.inj (hs.symm.trans ht)
    | next ht _ => cases hs.symm.trans ht
  | next hs _ ih =>
    cases he with
    | exit ht => cases hs.symm.trans ht
    | next ht hrest =>
      obtain rfl := Sum.inl.inj (hs.symm.trans ht)
      exact ih hrest

def Follows (step : S → S ⊕ E) : S ⊕ E → E → Prop
  | .inl t, e => Ends step t e
  | .inr d, e => d = e

theorem ends_iff : Ends step s e ↔ Follows step (step s) e := by
  constructor
  · intro h
    cases h with
    | exit hs => rw [hs]; rfl
    | next hs ht => rw [hs]; exact ht
  · intro h
    cases hs : step s with
    | inl t =>
      rw [hs] at h
      exact .next hs h
    | inr d =>
      rw [hs] at h
      exact .exit (hs.trans (congrArg Sum.inr h))

theorem run_isSome {m : S → Nat} (hm : ∀ s t, step s = .inl t → m t < m s) {fuel : Nat}
    (h : m s < fuel) : (run step fuel s).isSome := by
  induction fuel generalizing s with
  | zero => exact absurd h (Nat.not_lt_zero _)
  | succ fuel ih =>
    rw [run]
    cases hs : step s with
    | inl t => exact ih (Nat.lt_of_lt_of_le (hm s t hs) (Nat.le_of_lt_succ h))
    | inr e => rfl

end Loop
