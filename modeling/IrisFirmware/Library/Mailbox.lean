import Mathlib.Data.List.Chain
import IrisFirmware.Library.Run

namespace Mailbox

open Run

variable {α : Type*}

inductive Op (α : Type*) where
  | put (a : α)
  | take
deriving DecidableEq, Repr

structure State (α : Type*) where
  slot : Option α
  taken : List α
deriving DecidableEq, Repr

def step (s : State α) : Op α → State α
  | .put a => ⟨some a, s.taken⟩
  | .take => ⟨none, s.taken ++ s.slot.toList⟩

def empty : State α := ⟨none, []⟩

def sent : List (Op α) → List α
  | [] => []
  | .put a :: ops => a :: sent ops
  | .take :: ops => sent ops

def held (s : State α) : List α := s.taken ++ s.slot.toList

def Op.isPut : Op α → Bool
  | .put _ => true
  | .take => false

def Spaced (ops : List (Op α)) : Prop := ops.IsChain fun a b => ¬ (a.isPut ∧ b.isPut)

def lost : State α → List (Op α) → Nat
  | _, [] => 0
  | s, .put a :: ops => s.slot.toList.length + lost (step s (.put a)) ops
  | s, .take :: ops => lost (step s .take) ops

@[simp] theorem held_empty : held (empty : State α) = [] := rfl

@[simp] theorem held_put (s : State α) (a : α) : held (step s (.put a)) = s.taken ++ [a] := rfl

@[simp] theorem held_take (s : State α) : held (step s .take) = held s := by
  simp [held, step]

@[simp] theorem sent_append (as bs : List (Op α)) : sent (as ++ bs) = sent as ++ sent bs := by
  induction as with
  | nil => rfl
  | cons op as ih => cases op <;> simp [sent, ih]

theorem sent_takes (n : Nat) : sent (List.replicate n (.take : Op α)) = [] := by
  induction n with
  | zero => rfl
  | succ n ih => simpa [List.replicate_succ, sent] using ih

theorem conservation (s : State α) (ops : List (Op α)) :
    (held (exec step s ops)).length + lost s ops = (held s).length + (sent ops).length := by
  induction ops generalizing s with
  | nil => simp [lost, sent]
  | cons op ops ih =>
    cases op with
    | put a =>
      have h := ih (step s (.put a))
      simp only [held_put, List.length_append, List.length_cons, List.length_nil] at h
      simp only [exec_cons, lost, sent, List.length_cons, held, List.length_append] at h ⊢
      omega
    | take =>
      have h := ih (step s .take)
      simp only [held_take] at h
      simpa [lost, sent] using h

theorem held_of_lost_eq_zero {s : State α} {ops : List (Op α)} (h : lost s ops = 0) :
    held (exec step s ops) = held s ++ sent ops := by
  induction ops generalizing s with
  | nil => simp [sent]
  | cons op ops ih =>
    cases op with
    | put a =>
      simp only [lost, Nat.add_eq_zero_iff, List.length_eq_zero_iff] at h
      rw [exec_cons, ih h.2, held_put]
      simp [sent, held, h.1]
    | take =>
      rw [exec_cons, ih h, held_take]
      rfl

theorem lost_eq_zero_iff (s : State α) (ops : List (Op α)) :
    lost s ops = 0 ↔ Spaced ops ∧ (s.slot = none ∨ ∀ op ∈ ops.head?, ¬ op.isPut) := by
  induction ops generalizing s with
  | nil => simp [lost, Spaced]
  | cons op ops ih =>
    simp only [Spaced, List.isChain_cons] at ih ⊢
    cases op with
    | put a =>
      simp only [lost, Nat.add_eq_zero_iff, ih]
      cases s.slot <;> simp [step, Op.isPut, and_comm]
    | take =>
      simp only [lost, ih]
      simp [step, Op.isPut]

theorem lost_empty_iff (ops : List (Op α)) : lost (empty : State α) ops = 0 ↔ Spaced ops := by
  rw [lost_eq_zero_iff]
  simp [empty]

theorem spaced_takes {ops : List (Op α)} (h : Spaced ops) (n : Nat) :
    Spaced (ops ++ List.replicate n .take) := by
  refine List.isChain_append.mpr ⟨h, ?_, ?_⟩
  · exact List.isChain_replicate_of_rel n (by simp [Op.isPut])
  · intro a _ b hb
    have hm := List.mem_of_mem_head? hb
    rw [List.eq_of_mem_replicate hm]
    simp [Op.isPut]

theorem exec_takes (s : State α) (n : Nat) :
    exec step s (List.replicate (n + 1) .take) = ⟨none, held s⟩ := by
  induction n generalizing s with
  | zero => rfl
  | succ n ih =>
    rw [List.replicate_succ, exec_cons, ih, held_take]

theorem all_taken_iff (ops : List (Op α)) :
    (∃ n, (exec step empty (ops ++ List.replicate n .take)).taken = sent ops) ↔ Spaced ops := by
  constructor
  · rintro ⟨n, hn⟩
    rw [exec_append] at hn
    have hcons := conservation empty ops
    have hle : (exec step (exec step empty ops) (List.replicate n .take)).taken.length ≤
        (held (exec step empty ops)).length := by
      cases n with
      | zero => simp [held]
      | succ n => rw [exec_takes]
    rw [hn] at hle
    rw [← lost_empty_iff]
    simp only [held_empty, List.length_nil] at hcons
    omega
  · intro h
    refine ⟨1, ?_⟩
    rw [exec_append, exec_takes, held_of_lost_eq_zero ((lost_empty_iff ops).mpr h)]
    simp

end Mailbox
