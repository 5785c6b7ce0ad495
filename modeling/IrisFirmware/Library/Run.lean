import Mathlib.Tactic

namespace Run

variable {S A : Type*}

def exec (step : S → A → S) (s : S) (as : List A) : S := as.foldl step s

@[simp] theorem exec_nil (step : S → A → S) (s : S) : exec step s [] = s := rfl

@[simp] theorem exec_cons (step : S → A → S) (s : S) (a : A) (as : List A) :
    exec step s (a :: as) = exec step (step s a) as := rfl

theorem exec_append (step : S → A → S) (s : S) (as bs : List A) :
    exec step s (as ++ bs) = exec step (exec step s as) bs := by
  simp [exec, List.foldl_append]

def Along (step : S → A → S) (P : S → A → Prop) : S → List A → Prop
  | _, [] => True
  | s, a :: as => P s a ∧ Along step P (step s a) as

instance along_decidable (step : S → A → S) (P : S → A → Prop) [∀ s a, Decidable (P s a)] :
    ∀ (s : S) (as : List A), Decidable (Along step P s as)
  | _, [] => isTrue trivial
  | s, a :: as =>
    have := along_decidable step P (step s a) as
    inferInstanceAs (Decidable (P s a ∧ Along step P (step s a) as))

variable {step : S → A → S} {P Q : S → A → Prop} {I : S → Prop}

@[simp] theorem along_nil (s : S) : Along step P s [] := trivial

@[simp] theorem along_cons (s : S) (a : A) (as : List A) :
    Along step P s (a :: as) ↔ P s a ∧ Along step P (step s a) as := Iff.rfl

theorem along_of_forall {as : List A} (h : ∀ s a, a ∈ as → P s a) (s : S) :
    Along step P s as := by
  induction as generalizing s with
  | nil => trivial
  | cons a as ih =>
    exact ⟨h s a (by simp), ih (fun t b hb => h t b (by simp [hb])) _⟩

theorem along_true (s : S) (as : List A) : Along step (fun _ _ => True) s as :=
  along_of_forall (fun _ _ _ => trivial) s

theorem along_const {p : A → Prop} (s : S) (as : List A) :
    Along step (fun _ a => p a) s as ↔ ∀ a ∈ as, p a := by
  induction as generalizing s with
  | nil => simp
  | cons a as ih => simp [ih]

theorem along_and (s : S) (as : List A) :
    Along step (fun s a => P s a ∧ Q s a) s as ↔ Along step P s as ∧ Along step Q s as := by
  induction as generalizing s with
  | nil => simp
  | cons a as ih =>
    simp only [along_cons, ih]
    exact and_and_and_comm

theorem along_mono {as : List A} {s : S} (hI : I s)
    (hstep : ∀ s a, I s → P s a → Q s a ∧ I (step s a)) (h : Along step P s as) :
    Along step Q s as := by
  induction as generalizing s with
  | nil => trivial
  | cons a as ih =>
    obtain ⟨hq, hn⟩ := hstep s a hI h.1
    exact ⟨hq, ih hn h.2⟩

theorem along_congr (h : ∀ s a, Q s a ↔ P s a) (s : S) (as : List A) :
    Along step Q s as ↔ Along step P s as := by
  induction as generalizing s with
  | nil => exact Iff.rfl
  | cons a as ih => simp only [along_cons, h, ih]

theorem along_comap {T : Type*} {step' : T → A → T} (f : T → S)
    (h : ∀ t a, f (step' t a) = step (f t) a) (t : T) (as : List A) :
    Along step' (fun t a => P (f t) a) t as ↔ Along step P (f t) as := by
  induction as generalizing t with
  | nil => exact Iff.rfl
  | cons a as ih => rw [along_cons, along_cons, ih, h]

theorem exec_invariant {as : List A} {s : S} (hI : I s)
    (hstep : ∀ s a, I s → P s a → I (step s a)) (h : Along step P s as) :
    I (exec step s as) := by
  induction as generalizing s with
  | nil => exact hI
  | cons a as ih => exact ih (hstep s a hI h.1) h.2

theorem along_iff {as : List A} {s : S} (hI : I s)
    (hiff : ∀ s a, I s → (Q s a ↔ P s a)) (hstep : ∀ s a, I s → P s a → I (step s a)) :
    Along step Q s as ↔ Along step P s as := by
  constructor
  · intro h
    induction as generalizing s with
    | nil => trivial
    | cons a as ih =>
      have hp : P s a := (hiff s a hI).mp h.1
      exact ⟨hp, ih (hstep s a hI hp) h.2⟩
  · intro h
    exact along_mono hI (fun s a hi hp => ⟨(hiff s a hi).mpr hp, hstep s a hi hp⟩) h

def tally (step : S → A → S) (P : S → A → Prop) [∀ s a, Decidable (P s a)] : S → List A → Nat
  | _, [] => 0
  | s, a :: as => (if P s a then 1 else 0) + tally step P (step s a) as

theorem tally_le_of_potential [∀ s a, Decidable (P s a)] {T : Int} {Φ : S → Int}
    (hstep : ∀ s a, I s → I (step s a) ∧
      (if P s a then T else 0) + Φ (step s a) ≤ Φ s + 1)
    {s : S} (hI : I s) (as : List A) :
    T * tally step P s as + Φ (exec step s as) ≤ Φ s + as.length := by
  induction as generalizing s with
  | nil => simp [tally]
  | cons a as ih =>
    obtain ⟨hn, hpay⟩ := hstep s a hI
    have hrest := ih hn
    rw [exec_cons, List.length_cons]
    by_cases hp : P s a
    · simp only [tally, hp, if_true] at hpay ⊢
      push_cast
      linarith
    · simp only [tally, hp, if_false] at hpay ⊢
      push_cast
      linarith

section since

variable (counts resets : S → A → Prop) [∀ s a, Decidable (counts s a)]
  [∀ s a, Decidable (resets s a)]

def advance (s : S) (a : A) (n : Nat) : Nat :=
  if resets s a then 0 else if counts s a then n + 1 else n

def since (step : S → A → S) : S → Nat → List A → Nat
  | _, n, [] => n
  | s, n, a :: as => since step (step s a) (advance counts resets s a n) as

theorem since_concat (s : S) (n : Nat) (as : List A) (a : A) :
    since counts resets step s n (as ++ [a]) =
      advance counts resets (exec step s as) a (since counts resets step s n as) := by
  induction as generalizing s n with
  | nil => rfl
  | cons b as ih =>
    rw [List.cons_append, since, ih]
    rfl

variable {counts resets}

theorem le_since {f : S → Nat} (hstep : ∀ s a n, I s → f s ≤ n →
      I (step s a) ∧ f (step s a) ≤ advance counts resets s a n)
    {s : S} {n : Nat} (hI : I s) (hn : f s ≤ n) (as : List A) :
    I (exec step s as) ∧ f (exec step s as) ≤ since counts resets step s n as := by
  induction as generalizing s n with
  | nil => exact ⟨hI, hn⟩
  | cons a as ih =>
    obtain ⟨hnext, hle⟩ := hstep s a n hI hn
    exact ih hnext hle

end since

end Run
