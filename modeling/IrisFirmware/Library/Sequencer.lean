import Mathlib.Dynamics.PeriodicPts.Lemmas
import Mathlib.Tactic

namespace Sequencer

variable {ι V C : Type*} [DecidableEq ι]

def play (p : ι → V) (ws : List (ι × V)) : ι → V :=
  ws.foldl (fun p w => Function.update p w.1 w.2) p

def last (ws : List (ι × V)) (x : ι) : Option V := ws.reverse.lookup x

theorem play_append (p : ι → V) (ws vs : List (ι × V)) :
    play p (ws ++ vs) = play (play p ws) vs := List.foldl_append

theorem last_concat (ws : List (ι × V)) (w : ι × V) (x : ι) :
    last (ws ++ [w]) x = if x = w.1 then some w.2 else last ws x := by
  rw [last, List.reverse_append, List.reverse_singleton, List.singleton_append, List.lookup_cons]
  rcases eq_or_ne x w.1 with hx | hx
  · simp [hx]
  · rw [if_neg hx, beq_eq_false_iff_ne.mpr hx]
    rfl

theorem play_apply (p : ι → V) (ws : List (ι × V)) (x : ι) :
    play p ws x = (last ws x).getD (p x) := by
  induction ws using List.reverseRecOn with
  | nil => rfl
  | append_singleton ws w ih =>
    rw [play_append, last_concat]
    change Function.update (play p ws) w.1 w.2 x = _
    rcases eq_or_ne x w.1 with hx | hx
    · simp [hx]
    · rw [Function.update_of_ne hx, ih, if_neg hx]

theorem play_covering {ws : List (ι × V)} (h : ∀ x, (last ws x).isSome) (p q : ι → V) :
    play p ws = play q ws := by
  funext x
  obtain ⟨v, hv⟩ := Option.isSome_iff_exists.mp (h x)
  rw [play_apply, play_apply, hv]
  rfl

variable (next : C → C)

def turn (table : C → List (ι × V)) : C → Nat → List (ι × V)
  | _, 0 => []
  | i, k + 1 => table i ++ turn table (next i) k

def drive (table : C → List (ι × V)) (s : (ι → V) × C) : (ι → V) × C :=
  (play s.1 (table s.2), next s.2)

theorem drive_iterate (table : C → List (ι × V)) (p : ι → V) (i : C) (k : Nat) :
    (drive next table)^[k] (p, i) = (play p (turn next table i k), next^[k] i) := by
  induction k generalizing p i with
  | zero => rfl
  | succ k ih =>
    rw [Function.iterate_succ_apply, turn, play_append]
    exact ih (play p (table i)) (next i)

omit [DecidableEq ι] in
theorem turn_add (table : C → List (ι × V)) (i : C) (a b : Nat) :
    turn next table i (a + b) = turn next table i a ++ turn next table (next^[a] i) b := by
  induction a generalizing i with
  | zero => simp [turn]
  | succ a ih => rw [Nat.succ_add, turn, ih, turn, List.append_assoc, Function.iterate_succ_apply]

structure Cyclic (N : Nat) (table : C → List (ι × V)) : Prop where
  returns : ∀ i, next^[N] i = i
  covers : ∀ i x, (last (turn next table i N) x).isSome

theorem iterate_mod {next : C → C} {N : Nat} {table : C → List (ι × V)}
    (h : Cyclic next N table) (k : Nat) (i : C) : next^[k % N] i = next^[k] i :=
  Function.IsPeriodicPt.iterate_mod_apply (h.returns i) k

section cyclic

variable [Inhabited V]

def stand (N : Nat) (table : C → List (ι × V)) (i : C) : ι → V :=
  play default (turn next table i N)

variable {next} {N k : Nat} {f g : C → List (ι × V)}

theorem play_turn_stand (h : Cyclic next N f) (hk : N ≤ k) (p : ι → V) (i : C) :
    play p (turn next f i k) = stand next N f (next^[k] i) := by
  obtain ⟨m, rfl⟩ := Nat.exists_eq_add_of_le' hk
  rw [turn_add, play_append, play_covering (h.covers _) _ default, Nat.add_comm m N,
    Function.iterate_add_apply, h.returns]
  rfl

theorem there_and_back (hg : Cyclic next N g) (hk : N ≤ k) (p : ι → V) (i : C) :
    play (play p (turn next f i k)) (turn next g (next^[k] i) k) =
      stand next N g (next^[k % N] (next^[k % N] i)) := by
  rw [play_turn_stand hg hk, iterate_mod hg, iterate_mod hg]

theorem there_and_back_iff (hg : Cyclic next N g) (hN : 0 < N) {p : ι → V} {i : C}
    {c : Nat → Prop}
    (hshort : ∀ r < N, play (play p (turn next f i r)) (turn next g (next^[r] i) r) = p ↔ c r)
    (hlong : ∀ r < N, stand next N g (next^[r] (next^[r] i)) = p ↔ c (r + N))
    (hmod : ∀ k, N ≤ k → (c (k % N + N) ↔ c k)) (k : Nat) :
    play (play p (turn next f i k)) (turn next g (next^[k] i) k) = p ↔ c k := by
  rcases Nat.lt_or_ge k N with hk | hk
  · exact hshort k hk
  · rw [there_and_back hg hk, hlong _ (Nat.mod_lt k hN), hmod k hk]

end cyclic

end Sequencer
