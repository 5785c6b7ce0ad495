import Mathlib.Tactic

abbrev Script (S E : Type*) := S → S × List E

namespace Script

variable {S E A : Type*}

def skip : Script S E := fun s => (s, [])

def emit (e : E) : Script S E := fun s => (s, [e])

def assign (f : S → S) : Script S E := fun s => (f s, [])

def seq (p q : Script S E) : Script S E := fun s =>
  let first := p s
  let second := q first.1
  (second.1, first.2 ++ second.2)

def reading (k : S → Script S E) : Script S E := fun s => k s s

def guarded (c : Prop) [Decidable c] (p : Script S E) : Script S E := if c then p else skip

def steps : List (Script S E) → Script S E
  | [] => skip
  | p :: ps => seq p (steps ps)

def forEach (l : List A) (body : A → Script S E) : Script S E := steps (l.map body)

def upTo (first last : Int) : List Int :=
  (List.range (last + 1 - first).toNat).map fun k : Nat => first + k

def downTo (first last : Int) : List Int :=
  (List.range (first + 1 - last).toNat).map fun k : Nat => first - k

theorem mem_upTo {first last i : Int} : i ∈ upTo first last ↔ first ≤ i ∧ i ≤ last := by
  constructor
  · intro h
    obtain ⟨k, hk, rfl⟩ := List.mem_map.mp h
    have hlt := List.mem_range.mp hk
    omega
  · rintro ⟨hf, hl⟩
    exact List.mem_map.mpr ⟨(i - first).toNat, List.mem_range.mpr (by omega), by omega⟩

theorem mem_downTo {first last i : Int} : i ∈ downTo first last ↔ last ≤ i ∧ i ≤ first := by
  constructor
  · intro h
    obtain ⟨k, hk, rfl⟩ := List.mem_map.mp h
    have hlt := List.mem_range.mp hk
    omega
  · rintro ⟨hl, hf⟩
    exact List.mem_map.mpr ⟨(first - i).toNat, List.mem_range.mpr (by omega), by omega⟩

def Keeps (P : E → Prop) (p : Script S E) : Prop := ∀ s, ∀ e ∈ (p s).2, P e

def Hits (P : E → Prop) (p : Script S E) : Prop := ∀ s, ∃ e ∈ (p s).2, P e

variable {P : E → Prop} {p q : Script S E}

@[simp] theorem keeps_skip : Keeps P (skip : Script S E) := by
  intro s e he
  simp [skip] at he

theorem keeps_emit {e : E} (h : P e) : Keeps P (emit e : Script S E) := by
  intro s e' he
  obtain rfl : e' = e := by simpa [emit] using he
  exact h

@[simp] theorem keeps_assign (f : S → S) : Keeps P (assign f : Script S E) := by
  intro s e he
  simp [assign] at he

theorem keeps_seq (hp : Keeps P p) (hq : Keeps P q) : Keeps P (seq p q) := by
  intro s e he
  rcases List.mem_append.mp he with h | h
  · exact hp s e h
  · exact hq _ e h

theorem keeps_reading {k : S → Script S E} (h : ∀ s, Keeps P (k s)) : Keeps P (reading k) :=
  fun s e he => h s s e he

theorem keeps_ite {c : Prop} [Decidable c] (hp : c → Keeps P p) (hq : ¬ c → Keeps P q) :
    Keeps P (if c then p else q) := by
  split
  · exact hp ‹_›
  · exact hq ‹_›

theorem keeps_guarded {c : Prop} [Decidable c] (h : c → Keeps P p) : Keeps P (guarded c p) :=
  keeps_ite h fun _ => keeps_skip

theorem keeps_steps {ps : List (Script S E)} (h : ∀ p ∈ ps, Keeps P p) : Keeps P (steps ps) := by
  induction ps with
  | nil => exact keeps_skip
  | cons p ps ih => exact keeps_seq (h p (by simp)) (ih fun q hq => h q (by simp [hq]))

theorem keeps_forEach {l : List A} {body : A → Script S E} (h : ∀ a ∈ l, Keeps P (body a)) :
    Keeps P (forEach l body) := by
  refine keeps_steps fun p hp => ?_
  obtain ⟨a, ha, rfl⟩ := List.mem_map.mp hp
  exact h a ha

theorem hits_seq_left (h : Hits P p) : Hits P (seq p q) := by
  intro s
  obtain ⟨e, he, hP⟩ := h s
  exact ⟨e, List.mem_append_left _ he, hP⟩

theorem hits_seq_right (h : Hits P q) : Hits P (seq p q) := by
  intro s
  obtain ⟨e, he, hP⟩ := h (p s).1
  exact ⟨e, List.mem_append_right _ he, hP⟩

theorem hits_ite {c : Prop} [Decidable c] (hp : Hits P p) (hq : Hits P q) :
    Hits P (if c then p else q) := by
  split
  · exact hp
  · exact hq

theorem hits_steps {ps : List (Script S E)} (hmem : p ∈ ps) (h : Hits P p) :
    Hits P (steps ps) := by
  induction ps with
  | nil => simp at hmem
  | cons q ps ih =>
    rcases List.mem_cons.mp hmem with rfl | hin
    · exact hits_seq_left h
    · exact hits_seq_right (ih hin)

theorem hits_forEach {l : List A} {body : A → Script S E} {a : A} (hmem : a ∈ l)
    (h : Hits P (body a)) : Hits P (forEach l body) :=
  hits_steps (List.mem_map.mpr ⟨a, hmem, rfl⟩) h

section simulation

variable {T : Type*} {view : S → T} {f g : T → T}

def Simulates (view : S → T) (f : T → T) (p : Script S E) : Prop :=
  ∀ s, view (p s).1 = f (view s)

abbrev Fixes (view : S → T) (p : Script S E) : Prop := Simulates view id p

@[simp] theorem fixes_skip : Fixes view (skip : Script S E) := fun _ => rfl

@[simp] theorem fixes_emit (e : E) : Fixes view (emit e : Script S E) := fun _ => rfl

theorem simulates_assign {h : S → S} (hf : ∀ s, view (h s) = f (view s)) :
    Simulates view f (assign h : Script S E) := hf

theorem simulates_seq (hp : Simulates view f p) (hq : Simulates view g q) :
    Simulates view (g ∘ f) (seq p q) := by
  intro s
  exact (hq (p s).1).trans (congrArg g (hp s))

theorem simulates_seq_fixed (hp : Simulates view f p) (hq : Fixes view q) :
    Simulates view f (seq p q) := fun s => (hq (p s).1).trans (hp s)

theorem simulates_fixed_seq (hp : Fixes view p) (hq : Simulates view f q) :
    Simulates view f (seq p q) := fun s => (hq (p s).1).trans (congrArg f (hp s))

theorem simulates_steps_nil : Fixes view (steps [] : Script S E) := fixes_skip

theorem simulates_steps_cons {ps : List (Script S E)} (hp : Simulates view f p)
    (hps : Simulates view g (steps ps)) : Simulates view (g ∘ f) (steps (p :: ps)) :=
  simulates_seq hp hps

theorem simulates_steps_fixed {ps : List (Script S E)} (hp : Fixes view p)
    (hps : Simulates view g (steps ps)) : Simulates view g (steps (p :: ps)) :=
  simulates_fixed_seq hp hps

theorem fixes_steps {ps : List (Script S E)} (h : ∀ p ∈ ps, Fixes view p) :
    Fixes view (steps ps) := by
  induction ps with
  | nil => exact fixes_skip
  | cons p ps ih =>
    exact simulates_steps_fixed (h p (by simp)) (ih fun q hq => h q (by simp [hq]))

theorem fixes_forEach {l : List A} {body : A → Script S E} (h : ∀ a, Fixes view (body a)) :
    Fixes view (forEach l body) := by
  refine fixes_steps fun p hp => ?_
  obtain ⟨a, -, rfl⟩ := List.mem_map.mp hp
  exact h a

theorem fixes_reading {k : S → Script S E} (h : ∀ s, Fixes view (k s)) :
    Fixes view (reading k) := fun s => h s s

theorem simulates_ite {c : Prop} [Decidable c] (hp : Simulates view f p)
    (hq : Simulates view g q) : Simulates view (if c then f else g) (if c then p else q) := by
  split
  · exact hp
  · exact hq

theorem simulates_guarded {c : Prop} [Decidable c] (hp : Simulates view f p) :
    Simulates view (if c then f else id) (guarded c p) := simulates_ite hp fixes_skip

end simulation

section traces

variable {B : Type*} {look : E → Option B} {xs ys : List B}

def Traces (look : E → Option B) (xs : List B) (p : Script S E) : Prop :=
  ∀ s, (p s).2.filterMap look = xs

@[simp] theorem traces_skip : Traces look [] (skip : Script S E) := fun _ => rfl

theorem traces_emit {e : E} (h : look e = none) : Traces look [] (emit e : Script S E) := by
  intro s
  rw [emit, List.filterMap_cons_none h, List.filterMap_nil]

@[simp] theorem traces_assign (f : S → S) : Traces look [] (assign f : Script S E) := fun _ => rfl

theorem traces_seq (hp : Traces look xs p) (hq : Traces look ys q) :
    Traces look (xs ++ ys) (seq p q) := by
  intro s
  rw [seq, List.filterMap_append, hp, hq]

theorem traces_reading {k : S → Script S E} (h : ∀ s, Traces look xs (k s)) :
    Traces look xs (reading k) := fun s => h s s

theorem traces_steps_cons {ps : List (Script S E)} (hp : Traces look xs p)
    (hps : Traces look ys (steps ps)) : Traces look (xs ++ ys) (steps (p :: ps)) :=
  traces_seq hp hps

theorem traces_silent {ps : List (Script S E)} (h : ∀ p ∈ ps, Traces look [] p) :
    Traces look [] (steps ps) := by
  induction ps with
  | nil => exact traces_skip
  | cons p ps ih =>
    exact traces_steps_cons (h p (by simp)) (ih fun q hq => h q (by simp [hq]))

theorem traces_forEach {l : List A} {body : A → Script S E} {f : A → List B}
    (h : ∀ a ∈ l, Traces look (f a) (body a)) : Traces look (l.flatMap f) (forEach l body) := by
  induction l with
  | nil => exact traces_skip
  | cons a l ih =>
    rw [List.flatMap_cons]
    exact traces_steps_cons (h a (by simp)) (ih fun b hb => h b (by simp [hb]))

end traces

end Script
