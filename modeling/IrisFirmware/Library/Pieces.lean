import Mathlib.Data.List.Infix

namespace Pieces

variable {α β : Type*}

structure Gathered (β : Type*) where
  whole : List (List β)
  rest : List β

variable (more : α → Bool) (body : α → List β)

def Gathered.add (s : Gathered β) (a : α) : Gathered β :=
  if more a then ⟨s.whole, s.rest ++ body a⟩ else ⟨s.whole ++ [s.rest ++ body a], []⟩

def gather (as : List α) : Gathered β := as.foldl (Gathered.add more body) ⟨[], []⟩

variable {more body}

theorem gather_snoc (as : List α) (a : α) :
    gather more body (as ++ [a]) = (gather more body as).add more body a := by
  rw [gather, List.foldl_append]
  rfl

theorem gather_snoc_more {as : List α} {a : α} (h : more a = true) :
    gather more body (as ++ [a]) =
      ⟨(gather more body as).whole, (gather more body as).rest ++ body a⟩ := by
  rw [gather_snoc, Gathered.add, if_pos h]

theorem gather_snoc_last {as : List α} {a : α} (h : more a = false) :
    gather more body (as ++ [a]) =
      ⟨(gather more body as).whole ++ [(gather more body as).rest ++ body a], []⟩ := by
  rw [gather_snoc, Gathered.add, if_neg (by simp [h])]

theorem gather_behind {as bs : List α} {rest : List α} (h : as = bs ++ rest)
    (hrest : rest.length ≤ 1) :
    (gather more body as).whole = (gather more body bs).whole ∨
      ∃ m, (gather more body as).whole = (gather more body bs).whole ++ [m] := by
  subst h
  cases rest with
  | nil => exact .inl (by rw [List.append_nil])
  | cons a rest =>
    obtain rfl : rest = [] := List.length_eq_zero_iff.mp (Nat.le_zero.mp (Nat.le_of_succ_le_succ hrest))
    cases hm : more a with
    | true => exact .inl (by rw [gather_snoc_more hm])
    | false => exact .inr ⟨_, by rw [gather_snoc_last hm]⟩

theorem gather_behind_more {as bs init rest : List α} {a : α} (h : as = bs ++ rest)
    (hrest : rest.length ≤ 1) (hlast : as = init ++ [a]) (ha : more a = true) :
    (gather more body bs).whole = (gather more body as).whole := by
  cases rest with
  | nil => rw [h, List.append_nil]
  | cons b rest =>
    obtain rfl : rest = [] := List.length_eq_zero_iff.mp (Nat.le_zero.mp (Nat.le_of_succ_le_succ hrest))
    obtain ⟨-, hb⟩ := List.append_inj' (hlast.symm.trans h) rfl
    rw [← List.singleton_inj.mp hb] at h
    rw [h, gather_snoc_more ha]

theorem gather_length (as : List α) :
    (gather more body as).whole.length = as.countP (fun a => !more a) := by
  induction as using List.reverseRecOn with
  | nil => rfl
  | append_singleton as a ih =>
    rw [List.countP_append, List.countP_singleton]
    cases hm : more a with
    | true => simp [gather_snoc_more hm, ih]
    | false => simp [gather_snoc_last hm, ih]

end Pieces
