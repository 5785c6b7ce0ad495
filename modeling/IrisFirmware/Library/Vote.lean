import Mathlib.Tactic

namespace Vote

variable {ι α : Type*} [LinearOrder α] {p : ι → Prop} [DecidablePred p] {g : ι → α}

theorem foldl_latest {l : List ι} (h : l.Pairwise fun i j => p j → g i ≤ g j) {r : α}
    (hr : ∀ i ∈ l, p i → r ≤ g i) :
    l.foldl (fun r i => if p i then g i else r) r =
      l.foldl (fun r i => if p i then max (g i) r else r) r := by
  induction l generalizing r with
  | nil => rfl
  | cons i l ih =>
    obtain ⟨hi, hl⟩ := List.pairwise_cons.mp h
    rw [List.forall_mem_cons] at hr
    rw [List.foldl_cons, List.foldl_cons]
    by_cases hp : p i
    · rw [if_pos hp, if_pos hp, max_eq_left (hr.1 hp)]
      exact ih hl hi
    · rw [if_neg hp, if_neg hp]
      exact ih hl hr.2

variable [OrderBot α] [DecidableEq ι]

theorem foldl_max (l : List ι) (r : α) :
    l.foldl (fun r i => if p i then max (g i) r else r) r =
      r ⊔ (l.toFinset.filter p).sup g := by
  induction l generalizing r with
  | nil => simp
  | cons i l ih =>
    rw [List.foldl_cons, ih, List.toFinset_cons, Finset.filter_insert]
    split_ifs with hp
    · rw [Finset.sup_insert, ← sup_assoc, sup_comm r]
    · rfl

theorem foldl_max_mem {l : List ι} (hl : ∀ i, i ∈ l) (s : Finset ι) (r : α) :
    l.foldl (fun r i => if i ∈ s then max (g i) r else r) r = r ⊔ s.sup g := by
  have hset : l.toFinset.filter (· ∈ s) = s := by
    ext i
    simp [hl]
  rw [foldl_max, hset]

end Vote
