import Mathlib.Tactic

namespace Closest

variable {α β : Type} [LinearOrder β]

structure IsClosest (key : α → β) (table : List α) (v : β) (e : α) : Prop where
  mem : e ∈ table
  le : key e ≤ v
  greatest : ∀ e' ∈ table, key e' ≤ v → key e' ≤ key e

def firstNotAbove (key : α → β) (table : List α) (v : β) : Option α :=
  table.find? fun e => key e ≤ v

variable {key : α → β} {table : List α} {v : β} {e : α}

theorem IsClosest.mono {w : β} {e' : α} (h : IsClosest key table v e) (hvw : v ≤ w)
    (h' : IsClosest key table w e') : key e ≤ key e' :=
  h'.greatest e h.mem (h.le.trans hvw)

theorem firstNotAbove_none : firstNotAbove key table v = none ↔ ∀ e ∈ table, v < key e := by
  simp [firstNotAbove]

theorem firstNotAbove_descending (hdesc : table.Pairwise fun a b => key b ≤ key a)
    (h : firstNotAbove key table v = some e) : IsClosest key table v e := by
  obtain ⟨hle, before, after, rfl, habove⟩ := List.find?_eq_some_iff_append.mp h
  refine ⟨by simp, of_decide_eq_true hle, fun e' he' hle' => ?_⟩
  obtain ⟨-, hafter, -⟩ := List.pairwise_append.mp hdesc
  rcases List.mem_append.mp he' with hbefore | hrest
  · have hnot := habove e' hbefore
    simp only [hle', decide_true, Bool.not_true, Bool.false_eq_true] at hnot
  · rcases List.mem_cons.mp hrest with rfl | hlater
    · exact le_rfl
    · exact (List.pairwise_cons.mp hafter).1 e' hlater

theorem firstNotAbove_ascending {first : α} {rest : List α}
    (hasc : (first :: rest).Pairwise fun a b => key a < key b) :
    firstNotAbove key (first :: rest) v = if key first ≤ v then some first else none := by
  rw [firstNotAbove, List.find?_cons]
  split_ifs with hle
  · rw [decide_eq_true hle]
  · rw [decide_eq_false hle]
    refine List.find?_eq_none.mpr fun e he habove => hle ?_
    exact ((List.pairwise_cons.mp hasc).1 e he).le.trans (of_decide_eq_true habove)

theorem first_closest_iff {first second : α} {rest : List α}
    (hasc : (first :: second :: rest).Pairwise fun a b => key a < key b) :
    IsClosest key (first :: second :: rest) v first ↔ key first ≤ v ∧ v < key second := by
  obtain ⟨hfirst, hrest⟩ := List.pairwise_cons.mp hasc
  have hsecond := hfirst second List.mem_cons_self
  constructor
  · intro h
    refine ⟨h.le, lt_of_not_ge fun hle => ?_⟩
    exact absurd (h.greatest second (by simp) hle) (not_le_of_gt hsecond)
  · rintro ⟨hle, hlt⟩
    refine ⟨List.mem_cons_self, hle, fun e' he' hle' => ?_⟩
    rcases List.mem_cons.mp he' with rfl | hmem
    · exact le_rfl
    · rcases List.mem_cons.mp hmem with rfl | hlater
      · exact absurd hle' (not_le_of_gt hlt)
      · have hlater := (List.pairwise_cons.mp hrest).1 e' hlater
        exact absurd hle' (not_le_of_gt (hlt.trans hlater))

end Closest
