import Mathlib.Data.List.TakeWhile
import Mathlib.Tactic

namespace Needle

variable {α : Type*} [DecidableEq α] {z : α} {needle hay : List α}

def search (z : α) (needle : List α) : List α → Option Nat
  | [] => if needle = [] then some 0 else none
  | c :: cs =>
    if needle <+: c :: cs then some 0
    else if c = z then none
    else (search z needle cs).map (· + 1)

def upTo (z : α) (hay : List α) : List α := hay.takeWhile (· ≠ z)

theorem upTo_cons (z c : α) (cs : List α) :
    upTo z (c :: cs) = if c = z then [] else c :: upTo z cs := by
  rw [upTo, List.takeWhile_cons]
  split_ifs with hc <;> simp_all [upTo]

theorem upTo_append {xs : List α} (hz : z ∉ xs) (ys : List α) :
    upTo z (xs ++ ys) = xs ++ upTo z ys := by
  refine List.takeWhile_append_of_pos fun a ha => decide_eq_true ?_
  rintro rfl
  exact hz ha

theorem prefix_upTo (hz : z ∉ needle) : needle <+: upTo z hay ↔ needle <+: hay := by
  constructor
  · intro h
    exact h.trans (List.takeWhile_prefix _)
  · rintro ⟨rest, rfl⟩
    rw [upTo_append hz]
    exact List.prefix_append ..

theorem isSome_search (hz : z ∉ needle) (hne : needle ≠ []) :
    (search z needle hay).isSome ↔ needle <:+: upTo z hay := by
  induction hay with
  | nil => simp [search, upTo, hne]
  | cons c cs ih =>
    have hstart : needle <+: upTo z (c :: cs) ↔ needle <+: c :: cs := prefix_upTo hz
    rw [search]
    split_ifs with hfirst hc
    · exact iff_of_true rfl (hstart.mpr hfirst).isInfix
    · rw [upTo_cons, if_pos hc]
      exact iff_of_false Bool.false_ne_true fun h => hne (List.eq_nil_of_infix_nil h)
    · rw [upTo_cons, if_neg hc] at hstart ⊢
      rw [Option.isSome_map, ih, List.infix_cons_iff, hstart]
      exact (or_iff_right hfirst).symm

theorem infix_upTo_append (needle xs ys : List α) :
    needle <:+: upTo z (xs ++ ys) ↔ needle <:+: upTo z xs ∨ z ∉ xs ∧ (needle <:+: upTo z ys ∨
      ∃ l₁ l₂, l₁ ≠ [] ∧ l₂ ≠ [] ∧ needle = l₁ ++ l₂ ∧ l₁ <:+ xs ∧ l₂ <+: upTo z ys) := by
  by_cases hz : z ∈ xs
  case pos =>
    obtain ⟨us, vs, rfl, hus⟩ := List.eq_append_cons_of_mem hz
    have hstop : ∀ ts : List α, upTo z (us ++ z :: ts) = us := fun ts => by
      rw [upTo_append hus, upTo_cons, if_pos rfl, List.append_nil]
    rw [List.append_assoc, List.cons_append, hstop, hstop]
    simp
  case neg =>
    have hself : upTo z xs = xs := by
      have happend := upTo_append hz []
      rwa [List.append_nil, show upTo z ([] : List α) = [] from rfl, List.append_nil] at happend
    rw [upTo_append hz, List.infix_append_iff_ne_nil, hself]
    simp [hz]

end Needle
