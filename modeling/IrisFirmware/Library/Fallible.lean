import Mathlib.Tactic

namespace Fallible

variable {E S T α β : Type}

def Succeeds (x : EStateM E S α) (s : S) (P : α → S → Prop) : Prop :=
  ∃ a t, x s = .ok a t ∧ P a t

section bind

variable {x : EStateM E S α} {s t : S} {a : α}

theorem get_bind_run (f : S → EStateM E S β) (s : S) : (get >>= f) s = f s s := rfl

theorem bind_run (h : x s = .ok a t) (f : α → EStateM E S β) : (x >>= f) s = f a t := by
  change EStateM.bind x f s = _
  rw [EStateM.bind, h]

theorem bind_error {e : E} (h : x s = .error e t) (f : α → EStateM E S β) :
    (x >>= f) s = .error e t := by
  change EStateM.bind x f s = _
  rw [EStateM.bind, h]

theorem bind_ok {f : α → EStateM E S β} {b : β} (h : (x >>= f) s = .ok b t) :
    ∃ a u, x s = .ok a u ∧ f a u = .ok b t := by
  cases hx : x s with
  | ok a u => exact ⟨a, u, rfl, (bind_run hx f).symm.trans h⟩
  | error e u => cases (bind_error hx f).symm.trans h

end bind

namespace Succeeds

variable {x : EStateM E S α} {f : α → EStateM E S β} {s : S} {P Q : α → S → Prop}

theorem ret {a : α} (h : P a s) : Succeeds (pure a : EStateM E S α) s P := ⟨a, s, rfl, h⟩

theorem mono (h : Succeeds x s P) (hPQ : ∀ a t, P a t → Q a t) : Succeeds x s Q := by
  obtain ⟨a, t, hrun, hp⟩ := h
  exact ⟨a, t, hrun, hPQ a t hp⟩

theorem bind {Q : β → S → Prop} (h : Succeeds x s P)
    (hf : ∀ a t, P a t → Succeeds (f a) t Q) : Succeeds (x >>= f) s Q := by
  obtain ⟨a, t, hrun, hp⟩ := h
  obtain ⟨b, u, hnext, hq⟩ := hf a t hp
  exact ⟨b, u, (bind_run hrun f).trans hnext, hq⟩

theorem get_bind {f : S → EStateM E S α} (h : Succeeds (f s) s P) : Succeeds (get >>= f) s P := h

theorem modify_bind {g : S → S} {f : Unit → EStateM E S α} (h : Succeeds (f ()) (g s) P) :
    Succeeds (modify g >>= f) s P := h

theorem modify {g : S → S} {R : Unit → S → Prop} (h : R () (g s)) :
    Succeeds (modify g : EStateM E S Unit) s R := ⟨(), g s, rfl, h⟩

end Succeeds

def ignoring (x : EStateM E S α) : EStateM E S Unit := fun s =>
  match x s with
  | .ok _ t => .ok () t
  | .error _ t => .ok () t

def outcome (x : EStateM E S α) : EStateM E S (Except E α) := fun s =>
  match x s with
  | .ok a t => .ok (.ok a) t
  | .error e t => .ok (.error e) t

theorem Succeeds.ignoring {x : EStateM E S α} {s : S} {P : S → Prop}
    (h : Succeeds x s fun _ => P) : Succeeds (ignoring x) s fun _ => P := by
  obtain ⟨a, t, hrun, hp⟩ := h
  exact ⟨(), t, by rw [Fallible.ignoring, hrun], hp⟩

def within (get : S → T) (set : T → S → S) (x : EStateM E T α) : EStateM E S α := fun s =>
  match x (get s) with
  | .ok a t => .ok a (set t s)
  | .error e t => .error e (set t s)

theorem within_ok {get : S → T} {set : T → S → S} {x : EStateM E T α} {s u : S} {a : α}
    (h : within get set x s = .ok a u) : ∃ t, x (get s) = .ok a t ∧ u = set t s := by
  rw [within] at h
  cases hx : x (get s) with
  | ok b t =>
    rw [hx] at h
    obtain ⟨rfl, rfl⟩ := EStateM.Result.ok.inj h
    exact ⟨t, rfl, rfl⟩
  | error e t =>
    rw [hx] at h
    cases h

theorem Succeeds.within {get : S → T} {set : T → S → S} {x : EStateM E T α} {s : S}
    {P : α → T → Prop} (h : Succeeds x (get s) P) :
    Succeeds (within get set x) s fun a u => ∃ t, u = set t s ∧ P a t := by
  obtain ⟨a, t, hrun, hp⟩ := h
  exact ⟨a, set t s, by rw [Fallible.within, hrun], t, rfl, hp⟩

def final (x : EStateM E S α) (s : S) : S :=
  match x s with
  | .ok _ t => t
  | .error _ t => t

theorem final_ok {x : EStateM E S α} {s t : S} {a : α} (h : x s = .ok a t) : final x s = t := by
  rw [final, h]

theorem final_error {x : EStateM E S α} {s t : S} {e : E} (h : x s = .error e t) :
    final x s = t := by
  rw [final, h]

theorem Succeeds.final {x : EStateM E S α} {s : S} {P : S → Prop}
    (h : Succeeds x s fun _ => P) : P (final x s) := by
  obtain ⟨a, t, hrun, hp⟩ := h
  rw [Fallible.final, hrun]
  exact hp

def Keeps (I : S → Prop) (x : EStateM E S α) : Prop := ∀ s, I s → I (final x s)

namespace Keeps

variable {I : S → Prop} {x : EStateM E S α} {f : α → EStateM E S β}

theorem ret (a : α) : Keeps I (pure a : EStateM E S α) := fun _ h => h

theorem thrown (e : E) : Keeps I (throw e : EStateM E S α) := fun _ h => h

theorem modify {g : S → S} (hg : ∀ s, I s → I (g s)) :
    Keeps I (modify g : EStateM E S Unit) := hg

theorem bind (hx : Keeps I x) (hf : ∀ a, Keeps I (f a)) : Keeps I (x >>= f) := by
  intro s hs
  have hnext := hx s hs
  rw [final] at hnext ⊢
  cases hrun : x s with
  | ok a t =>
    rw [hrun] at hnext
    rw [bind_run hrun]
    exact hf a t hnext
  | error e t =>
    rw [hrun] at hnext
    rw [bind_error hrun]
    exact hnext

theorem get_bind {f : S → EStateM E S α} (hf : ∀ s, I s → I (final (f s) s)) :
    Keeps I (get >>= f) := hf

theorem ite {c : Prop} [Decidable c] {y : EStateM E S α} (hx : Keeps I x) (hy : Keeps I y) :
    Keeps I (if c then x else y) := by
  split_ifs
  · exact hx
  · exact hy

theorem ignoring (hx : Keeps I x) : Keeps I (ignoring x) := by
  intro s hs
  have hnext := hx s hs
  rw [final] at hnext ⊢
  cases hrun : x s <;> simpa only [Fallible.ignoring, hrun] using hnext

theorem outcome (hx : Keeps I x) : Keeps I (outcome x) := by
  intro s hs
  have hnext := hx s hs
  rw [final] at hnext ⊢
  cases hrun : x s <;> simpa only [Fallible.outcome, hrun] using hnext

theorem within {get : S → T} {set : T → S → S} (h : ∀ t s, I s → I (set t s))
    (x : EStateM E T α) : Keeps I (within get set x) := by
  intro s hs
  rw [final, Fallible.within]
  cases x (get s) with
  | ok a t => exact h t s hs
  | error e t => exact h t s hs

theorem into {get : S → T} {set : T → S → S} {J : T → Prop} {x : EStateM E T α}
    (hget : ∀ s, I s → J (get s)) (hset : ∀ s t, I s → J t → I (set t s)) (hx : Keeps J x) :
    Keeps I (Fallible.within get set x) := by
  intro s hs
  have hnext := hx (get s) (hget s hs)
  rw [final] at hnext ⊢
  rw [Fallible.within]
  cases hrun : x (get s) with
  | ok a t =>
    rw [hrun] at hnext
    exact hset s t hs hnext
  | error e t =>
    rw [hrun] at hnext
    exact hset s t hs hnext

end Keeps

theorem Succeeds.and_keeps {x : EStateM E S α} {s : S} {P : α → S → Prop} {I : S → Prop}
    (h : Succeeds x s P) (hx : Keeps I x) (hs : I s) : Succeeds x s fun a t => P a t ∧ I t := by
  obtain ⟨a, t, hrun, hp⟩ := h
  have hkept := hx s hs
  rw [final_ok hrun] at hkept
  exact ⟨a, t, hrun, hp, hkept⟩

def Throws (P : E → Prop) (x : EStateM E S α) : Prop := ∀ s e t, x s = .error e t → P e

namespace Throws

variable {P : E → Prop} {x : EStateM E S α} {f : α → EStateM E S β}

theorem ret (a : α) : Throws P (pure a : EStateM E S α) := by
  intro s e t h
  cases h

theorem modify (g : S → S) : Throws P (modify g : EStateM E S Unit) := by
  intro s e t h
  cases h

theorem bind (hx : Throws P x) (hf : ∀ a, Throws P (f a)) : Throws P (x >>= f) := by
  intro s e t h
  cases hrun : x s with
  | ok a u =>
    rw [bind_run hrun] at h
    exact hf a u e t h
  | error e' u =>
    rw [bind_error hrun] at h
    obtain ⟨rfl, rfl⟩ := EStateM.Result.error.inj h
    exact hx s e' u hrun

theorem get_bind {f : S → EStateM E S α} (hf : ∀ s, Throws P (f s)) : Throws P (get >>= f) :=
  fun s e t h => hf s s e t h

theorem ite {c : Prop} [Decidable c] {y : EStateM E S α} (hx : Throws P x) (hy : Throws P y) :
    Throws P (if c then x else y) := by
  split_ifs
  · exact hx
  · exact hy

theorem within {get : S → T} {set : T → S → S} {x : EStateM E T α} (hx : Throws P x) :
    Throws P (within get set x) := by
  intro s e t h
  rw [Fallible.within] at h
  cases hrun : x (get s) with
  | ok a u =>
    rw [hrun] at h
    cases h
  | error e' u =>
    rw [hrun] at h
    obtain ⟨rfl, rfl⟩ := EStateM.Result.error.inj h
    exact hx _ e' u hrun

end Throws

end Fallible
