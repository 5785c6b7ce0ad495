import Mathlib.Tactic

namespace Worker

variable {P : Type*}

structure Pool (P : Type*) where
  threads : List (Nat × P)
  handle : Nat
  fresh : Nat
deriving DecidableEq, Repr

def vacant : Pool P := ⟨[], 0, 1⟩

def create (p : P) (w : Pool P) : Pool P := ⟨(w.fresh, p) :: w.threads, w.fresh, w.fresh + 1⟩

def cancel (w : Pool P) : Pool P :=
  if w.handle ≠ 0 then
    { w with threads := w.threads.filter (fun t => t.1 ≠ w.handle), handle := 0 }
  else w

def resume (id : Nat) (p : P) (w : Pool P) : Pool P :=
  { w with threads := w.threads.map fun t => if t.1 = id then (id, p) else t }

inductive Owned (w : Pool P) : Option P → Prop
  | idle : 0 < w.fresh → w.handle = 0 → w.threads = [] → Owned w none
  | running (p : P) : 0 < w.fresh → w.handle ≠ 0 → w.threads = [(w.handle, p)] →
      Owned w (some p)

variable {w : Pool P} {o : Option P}

theorem owned_vacant : Owned (vacant : Pool P) none := .idle Nat.one_pos rfl rfl

theorem Owned.cancel (h : Owned w o) : Owned (cancel w) none := by
  cases h with
  | idle hf hh ht =>
    rw [Worker.cancel, if_neg (not_not.mpr hh)]
    exact .idle hf hh ht
  | running p hf hh ht =>
    rw [Worker.cancel, if_pos hh]
    exact .idle hf rfl (by simp [ht])

theorem Owned.create (h : Owned w none) (p : P) : Owned (create p w) (some p) := by
  cases h with
  | idle hf hh ht => exact .running p (Nat.succ_pos _) hf.ne' (by rw [Worker.create, ht])

theorem Owned.resume {p : P} (h : Owned w (some p)) (q : P) :
    Owned (resume w.handle q w) (some q) := by
  cases h with
  | running p hf hh ht => exact .running q hf hh (by simp [Worker.resume, ht])

theorem Owned.lookup (h : Owned w o) {id : Nat} {q : P} (hq : w.threads.lookup id = some q) :
    o = some q ∧ id = w.handle := by
  cases h with
  | idle _ _ ht => simp [ht] at hq
  | running p _ _ ht =>
    rw [ht, List.lookup_cons] at hq
    rcases eq_or_ne id w.handle with hid | hid
    · rw [hid, beq_self_eq_true] at hq
      exact ⟨hq, hid⟩
    · rw [beq_eq_false_iff_ne.mpr hid] at hq
      cases hq

theorem Owned.length_le (h : Owned w o) : w.threads.length ≤ 1 := by
  cases h with
  | idle _ _ ht => simp [ht]
  | running _ _ _ ht => simp [ht]

theorem Owned.threads_ne_nil_iff (h : Owned w o) : w.threads ≠ [] ↔ o ≠ none := by
  cases h with
  | idle _ _ ht => simp [ht]
  | running _ _ _ ht => simp [ht]

end Worker
