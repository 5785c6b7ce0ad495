import Mathlib.Data.List.Basic

namespace Attempt

variable {S T A B : Type*}

def run (step : S → A → Option S) : S → List A → Option S
  | s, [] => some s
  | s, a :: as => (step s a).bind (run step · as)

variable {step : S → A → Option S} {next : T → B → Option T}

@[simp] theorem run_nil (s : S) : run step s [] = some s := rfl

theorem run_cons {s t : S} {a : A} {as : List A} :
    run step s (a :: as) = some t ↔ ∃ u, step s a = some u ∧ run step u as = some t := by
  rw [run, Option.bind_eq_some_iff]

theorem run_one {s t : S} {a : A} (h : step s a = some t) : run step s [a] = some t :=
  run_cons.mpr ⟨t, h, rfl⟩

theorem run_append {s t u : S} {as bs : List A} (h : run step s as = some t)
    (h' : run step t bs = some u) : run step s (as ++ bs) = some u := by
  induction as generalizing s with
  | nil =>
    rw [← Option.some.inj h] at h'
    exact h'
  | cons a as ih =>
    obtain ⟨v, hv, hrest⟩ := run_cons.mp h
    exact run_cons.mpr ⟨v, hv, ih hrest⟩

theorem run_invariant {I : S → Prop} (hstep : ∀ s a t, I s → step s a = some t → I t) {s t : S}
    {as : List A} (hs : I s) (h : run step s as = some t) : I t := by
  induction as generalizing s with
  | nil =>
    rw [← Option.some.inj h]
    exact hs
  | cons a as ih =>
    obtain ⟨u, hu, hrest⟩ := run_cons.mp h
    exact ih (hstep s a u hs hu) hrest

theorem run_simulates {R : S → T → Prop}
    (hstep : ∀ s a s' t, R s t → step s a = some s' →
      ∃ bs t', run next t bs = some t' ∧ R s' t')
    {s s' : S} {as : List A} {t : T} (hs : R s t) (h : run step s as = some s') :
    ∃ bs t', run next t bs = some t' ∧ R s' t' := by
  induction as generalizing s t with
  | nil =>
    rw [← Option.some.inj h]
    exact ⟨[], t, rfl, hs⟩
  | cons a as ih =>
    obtain ⟨u, hu, hrest⟩ := run_cons.mp h
    obtain ⟨bs, v, hv, huv⟩ := hstep s a u t hs hu
    obtain ⟨cs, w, hw, hsw⟩ := ih huv hrest
    exact ⟨bs ++ cs, w, run_append hv hw, hsw⟩

end Attempt
