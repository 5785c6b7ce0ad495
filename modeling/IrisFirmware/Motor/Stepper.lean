import IrisFirmware.Library.Sequencer
import IrisFirmware.Motor.Driver

namespace Motor

open Sequencer

abbrev awReverse : Nat := 0
abbrev awForward : Nat := 1
abbrev awHalfStep : Nat := 1

local instance halfStepStates : NeZero 8 := ⟨by decide⟩

inductive Pin where
  | ain1
  | ain2
  | bin1
  | bin2
deriving DecidableEq, Repr

instance : Fintype Pin := ⟨{.ain1, .ain2, .bin1, .bin2}, fun x => by cases x <;> decide⟩

structure Coils where
  pin : Pin → Bool
  fullStepState : Fin 4
  halfStepState : Fin 8

def coilsInit : Coils := ⟨fun _ => false, 0, 0⟩

def fullStepForward : Fin 4 → List (Pin × Bool)
  | 0 => [(.ain1, true), (.ain2, false)]
  | 1 => [(.bin2, true), (.bin1, false)]
  | 2 => [(.ain2, true), (.ain1, false)]
  | 3 => [(.bin1, true), (.bin2, false)]

def fullStepReverse : Fin 4 → List (Pin × Bool)
  | 0 => [(.bin1, false), (.bin2, true)]
  | 1 => [(.ain2, false), (.ain1, true)]
  | 2 => [(.bin2, false), (.bin1, true)]
  | 3 => [(.ain1, false), (.ain2, true)]

def halfStepForward : Fin 8 → List (Pin × Bool)
  | 0 => [(.ain1, true)]
  | 1 => [(.ain2, false)]
  | 2 => [(.bin2, true)]
  | 3 => [(.bin1, false)]
  | 4 => [(.ain2, true)]
  | 5 => [(.ain1, false)]
  | 6 => [(.bin1, true)]
  | 7 => [(.bin2, false)]

def halfStepReverse : Fin 8 → List (Pin × Bool)
  | 0 => [(.bin2, true)]
  | 1 => [(.bin1, false)]
  | 2 => [(.ain1, true)]
  | 3 => [(.ain2, false)]
  | 4 => [(.bin1, true)]
  | 5 => [(.bin2, false)]
  | 6 => [(.ain2, true)]
  | 7 => [(.ain1, false)]

-- every case of the source's switch moves its state on by one, whatever the direction
def fullStep (table : Fin 4 → List (Pin × Bool)) (s : Coils) : Coils :=
  { s with
    pin := play s.pin (table s.fullStepState)
    fullStepState := s.fullStepState + 1 }

def halfStep (table : Fin 8 → List (Pin × Bool)) (s : Coils) : Coils :=
  { s with
    pin := play s.pin (table s.halfStepState)
    halfStepState := s.halfStepState + 1 }

def fullStepForwardFunction : Coils → Coils := fullStep fullStepForward

def fullStepReverseFunction : Coils → Coils := fullStep fullStepReverse

def halfStepForwardFunction : Coils → Coils := halfStep halfStepForward

def halfStepReverseFunction : Coils → Coils := halfStep halfStepReverse

def stepFunction (direction modeSelect cycleCount : Nat) (s : Coils) : Coils :=
  if direction = awForward then
    if modeSelect = awFullStep then fullStepForwardFunction^[cycleCount] s
    else if modeSelect = awHalfStep then halfStepForwardFunction^[cycleCount] s
    else s
  else if direction = awReverse then
    if modeSelect = awFullStep then fullStepReverseFunction^[cycleCount] s
    else if modeSelect = awHalfStep then halfStepReverseFunction^[cycleCount] s
    else s
  else s

inductive Direction where
  | reverse
  | forward
deriving DecidableEq, Repr

inductive StepSelect where
  | fullStep
  | halfStep
deriving DecidableEq, Repr

def Direction.code : Direction → Nat
  | .reverse => awReverse
  | .forward => awForward

def Direction.opposite : Direction → Direction
  | .reverse => .forward
  | .forward => .reverse

def StepSelect.code : StepSelect → Nat
  | .fullStep => awFullStep
  | .halfStep => awHalfStep

def StepSelect.cycle : StepSelect → Nat
  | .fullStep => 4
  | .halfStep => 8

def Direction.fullTable : Direction → Fin 4 → List (Pin × Bool)
  | .reverse => fullStepReverse
  | .forward => fullStepForward

def Direction.halfTable : Direction → Fin 8 → List (Pin × Bool)
  | .reverse => halfStepReverse
  | .forward => halfStepForward

def levels (d : Direction) (m : StepSelect) (s : Coils) (k : Nat) : List (Pin × Bool) :=
  match m with
  | .fullStep => turn (· + 1) d.fullTable s.fullStepState k
  | .halfStep => turn (· + 1) d.halfTable s.halfStepState k

def stepState (m : StepSelect) (s : Coils) : Nat :=
  match m with
  | .fullStep => s.fullStepState
  | .halfStep => s.halfStepState

def undone (d : Direction) (m : StepSelect) (k : Nat) (s : Coils) : Prop :=
  (stepFunction d.opposite.code m.code k (stepFunction d.code m.code k s)).pin = s.pin

instance (d : Direction) (m : StepSelect) (k : Nat) (s : Coils) : Decidable (undone d m k s) :=
  inferInstanceAs (Decidable (_ = _))

theorem fullStep_semiconj (table : Fin 4 → List (Pin × Bool)) :
    Function.Semiconj (fun s => (s.pin, s.fullStepState)) (fullStep table)
      (drive (· + 1) table) := fun _ => rfl

theorem halfStep_semiconj (table : Fin 8 → List (Pin × Bool)) :
    Function.Semiconj (fun s => (s.pin, s.halfStepState)) (halfStep table)
      (drive (· + 1) table) := fun _ => rfl

theorem fullStep_iterate (table : Fin 4 → List (Pin × Bool)) (s : Coils) (k : Nat) :
    (((fullStep table)^[k] s).pin, ((fullStep table)^[k] s).fullStepState) =
      (play s.pin (turn (· + 1) table s.fullStepState k), (· + 1)^[k] s.fullStepState) :=
  (((fullStep_semiconj table).iterate_right k).eq s).trans (drive_iterate _ _ _ _ _)

theorem halfStep_iterate (table : Fin 8 → List (Pin × Bool)) (s : Coils) (k : Nat) :
    (((halfStep table)^[k] s).pin, ((halfStep table)^[k] s).halfStepState) =
      (play s.pin (turn (· + 1) table s.halfStepState k), (· + 1)^[k] s.halfStepState) :=
  (((halfStep_semiconj table).iterate_right k).eq s).trans (drive_iterate _ _ _ _ _)

theorem stepFunction_fullStep (d : Direction) (k : Nat) (s : Coils) :
    stepFunction d.code StepSelect.fullStep.code k s = (fullStep d.fullTable)^[k] s := by
  cases d <;> rfl

theorem stepFunction_halfStep (d : Direction) (k : Nat) (s : Coils) :
    stepFunction d.code StepSelect.halfStep.code k s = (halfStep d.halfTable)^[k] s := by
  cases d <;> rfl

theorem stepFunction_pin (d : Direction) (m : StepSelect) (k : Nat) (s : Coils) :
    (stepFunction d.code m.code k s).pin = play s.pin (levels d m s k) := by
  cases m with
  | fullStep =>
    rw [stepFunction_fullStep]
    exact congrArg Prod.fst (fullStep_iterate d.fullTable s k)
  | halfStep =>
    rw [stepFunction_halfStep]
    exact congrArg Prod.fst (halfStep_iterate d.halfTable s k)

theorem stepFunction_fullStepState (d : Direction) (k : Nat) (s : Coils) :
    (stepFunction d.code StepSelect.fullStep.code k s).fullStepState =
      (· + 1)^[k] s.fullStepState := by
  rw [stepFunction_fullStep]
  exact congrArg Prod.snd (fullStep_iterate d.fullTable s k)

theorem stepFunction_halfStepState (d : Direction) (k : Nat) (s : Coils) :
    (stepFunction d.code StepSelect.halfStep.code k s).halfStepState =
      (· + 1)^[k] s.halfStepState := by
  rw [stepFunction_halfStep]
  exact congrArg Prod.snd (halfStep_iterate d.halfTable s k)

theorem full_cyclic (d : Direction) : Cyclic (· + 1) 4 d.fullTable := by
  cases d with
  | reverse => exact ⟨by decide, by decide⟩
  | forward => exact ⟨by decide, by decide⟩

theorem half_cyclic (d : Direction) : Cyclic (· + 1) 8 d.halfTable := by
  cases d with
  | reverse => exact ⟨by decide, by decide⟩
  | forward => exact ⟨by decide, by decide⟩

def inPhase (d0 d : Direction) (m : StepSelect) (i k : Nat) : Prop :=
  if d = d0 then k = 0 ∨ m.cycle / 2 ∣ i + k
  else m.cycle / 2 ∣ k ∧ ¬ (m = .halfStep ∧ k = 4 ∧ i % 4 = 1)

instance (d0 d : Direction) (m : StepSelect) (i k : Nat) : Decidable (inPhase d0 d m i k) := by
  unfold inPhase
  infer_instance

def crossPhase (d0 d : Direction) (m : StepSelect) (i j k : Nat) : Prop :=
  match m with
  | .halfStep =>
    let x := (j + if d = d0 then 2 * i else 6 * i) % 8
    k = 0 ∨ (k = 1 ∧ (x = 3 ∨ x = 5 ∨ (i % 2 = 0 ∧ (x = 4 ∨ x = 6)))) ∨
      (k = 2 ∧ (x = 2 ∨ x = 4)) ∨ (k = 3 ∧ (x = 1 ∨ (i % 2 = 1 ∧ x = 2))) ∨
      (k = 4 ∧ (x = 0 ∨ (i % 2 = 1 ∧ x = 7))) ∨ (5 ≤ k ∧ 8 ∣ x + 2 * k)
  | .fullStep =>
    let y := (j + if d = d0 then i / 2 else 3 * ((i + 1) / 2)) % 4
    k = 0 ∨ (k = 1 ∧ (y = 1 ∨ (i % 2 = 0 ∧ y = 2))) ∨ (2 ≤ k ∧ i % 2 = 0 ∧ 4 ∣ y + 2 * k)

instance (d0 d : Direction) (m : StepSelect) (i j k : Nat) :
    Decidable (crossPhase d0 d m i j k) := by
  cases m <;> exact inferInstanceAs (Decidable (_ ∨ _))

theorem full_short (d0 d : Direction) (i : Fin 4) (k : Fin 4) :
    play (play (stand (· + 1) 4 d0.fullTable i) (turn (· + 1) d.fullTable i k))
        (turn (· + 1) d.opposite.fullTable ((· + 1)^[(k : Nat)] i) k) =
      stand (· + 1) 4 d0.fullTable i ↔ inPhase d0 d .fullStep i k := by
  revert i k
  cases d0 <;> cases d <;> decide +kernel

theorem half_short (d0 d : Direction) (i : Fin 8) (k : Fin 8) :
    play (play (stand (· + 1) 8 d0.halfTable i) (turn (· + 1) d.halfTable i k))
        (turn (· + 1) d.opposite.halfTable ((· + 1)^[(k : Nat)] i) k) =
      stand (· + 1) 8 d0.halfTable i ↔ inPhase d0 d .halfStep i k := by
  revert i k
  cases d0 <;> cases d <;> decide +kernel

theorem full_long (d0 d : Direction) (i : Fin 4) (r : Fin 4) :
    stand (· + 1) 4 d.opposite.fullTable ((· + 1)^[(r : Nat)] ((· + 1)^[(r : Nat)] i)) =
      stand (· + 1) 4 d0.fullTable i ↔ inPhase d0 d .fullStep i (r + 4) := by
  revert i r
  cases d0 <;> cases d <;> decide +kernel

theorem half_long (d0 d : Direction) (i : Fin 8) (r : Fin 8) :
    stand (· + 1) 8 d.opposite.halfTable ((· + 1)^[(r : Nat)] ((· + 1)^[(r : Nat)] i)) =
      stand (· + 1) 8 d0.halfTable i ↔ inPhase d0 d .halfStep i (r + 8) := by
  revert i r
  cases d0 <;> cases d <;> decide +kernel

theorem inPhase_mod (d0 d : Direction) (m : StepSelect) (i : Nat) {k : Nat} (hk : m.cycle ≤ k) :
    inPhase d0 d m i (k % m.cycle + m.cycle) ↔ inPhase d0 d m i k := by
  cases m <;> simp only [inPhase, StepSelect.cycle] at hk ⊢ <;> split_ifs <;> simp <;> omega

theorem full_undone_iff (d0 d : Direction) {s : Coils}
    (hs : s.pin = stand (· + 1) 4 d0.fullTable s.fullStepState) (k : Nat) :
    undone d .fullStep k s ↔ inPhase d0 d .fullStep s.fullStepState k := by
  rw [undone, stepFunction_pin, stepFunction_pin, levels, levels, stepFunction_fullStepState, hs]
  exact there_and_back_iff (full_cyclic d.opposite) (by decide)
    (fun r hr => full_short d0 d s.fullStepState ⟨r, hr⟩)
    (fun r hr => full_long d0 d s.fullStepState ⟨r, hr⟩)
    (fun _ hk => inPhase_mod d0 d .fullStep _ hk) k

theorem half_undone_iff (d0 d : Direction) {s : Coils}
    (hs : s.pin = stand (· + 1) 8 d0.halfTable s.halfStepState) (k : Nat) :
    undone d .halfStep k s ↔ inPhase d0 d .halfStep s.halfStepState k := by
  rw [undone, stepFunction_pin, stepFunction_pin, levels, levels, stepFunction_halfStepState, hs]
  exact there_and_back_iff (half_cyclic d.opposite) (by decide)
    (fun r hr => half_short d0 d s.halfStepState ⟨r, hr⟩)
    (fun r hr => half_long d0 d s.halfStepState ⟨r, hr⟩)
    (fun _ hk => inPhase_mod d0 d .halfStep _ hk) k

theorem cross_half_short (d0 d : Direction) (i : Fin 4) (j r : Fin 8) :
    play (play (stand (· + 1) 4 d0.fullTable i) (turn (· + 1) d.halfTable j r))
        (turn (· + 1) d.opposite.halfTable ((· + 1)^[(r : Nat)] j) r) =
      stand (· + 1) 4 d0.fullTable i ↔ crossPhase d0 d .halfStep i j r := by
  revert i j r
  cases d0 <;> cases d <;> decide +kernel

theorem cross_half_long (d0 d : Direction) (i : Fin 4) (j r : Fin 8) :
    stand (· + 1) 8 d.opposite.halfTable ((· + 1)^[(r : Nat)] ((· + 1)^[(r : Nat)] j)) =
      stand (· + 1) 4 d0.fullTable i ↔ crossPhase d0 d .halfStep i j (r + 8) := by
  revert i j r
  cases d0 <;> cases d <;> decide +kernel

theorem cross_full_short (d0 d : Direction) (i : Fin 8) (j r : Fin 4) :
    play (play (stand (· + 1) 8 d0.halfTable i) (turn (· + 1) d.fullTable j r))
        (turn (· + 1) d.opposite.fullTable ((· + 1)^[(r : Nat)] j) r) =
      stand (· + 1) 8 d0.halfTable i ↔ crossPhase d0 d .fullStep i j r := by
  revert i j r
  cases d0 <;> cases d <;> decide +kernel

theorem cross_full_long (d0 d : Direction) (i : Fin 8) (j r : Fin 4) :
    stand (· + 1) 4 d.opposite.fullTable ((· + 1)^[(r : Nat)] ((· + 1)^[(r : Nat)] j)) =
      stand (· + 1) 8 d0.halfTable i ↔ crossPhase d0 d .fullStep i j (r + 4) := by
  revert i j r
  cases d0 <;> cases d <;> decide +kernel

theorem crossPhase_mod (d0 d : Direction) (m : StepSelect) (i j : Nat) {k : Nat}
    (hk : m.cycle ≤ k) :
    crossPhase d0 d m i j (k % m.cycle + m.cycle) ↔ crossPhase d0 d m i j k := by
  cases m <;> simp only [crossPhase, StepSelect.cycle] at hk ⊢ <;> omega

theorem cross_half_undone_iff (d0 d : Direction) {s : Coils}
    (hs : s.pin = stand (· + 1) 4 d0.fullTable s.fullStepState) (k : Nat) :
    undone d .halfStep k s ↔
      crossPhase d0 d .halfStep s.fullStepState s.halfStepState k := by
  rw [undone, stepFunction_pin, stepFunction_pin, levels, levels, stepFunction_halfStepState, hs]
  exact there_and_back_iff (half_cyclic d.opposite) (by decide)
    (fun r hr => cross_half_short d0 d s.fullStepState s.halfStepState ⟨r, hr⟩)
    (fun r hr => cross_half_long d0 d s.fullStepState s.halfStepState ⟨r, hr⟩)
    (fun _ hk => crossPhase_mod d0 d .halfStep _ _ hk) k

theorem cross_full_undone_iff (d0 d : Direction) {s : Coils}
    (hs : s.pin = stand (· + 1) 8 d0.halfTable s.halfStepState) (k : Nat) :
    undone d .fullStep k s ↔
      crossPhase d0 d .fullStep s.halfStepState s.fullStepState k := by
  rw [undone, stepFunction_pin, stepFunction_pin, levels, levels, stepFunction_fullStepState, hs]
  exact there_and_back_iff (full_cyclic d.opposite) (by decide)
    (fun r hr => cross_full_short d0 d s.halfStepState s.fullStepState ⟨r, hr⟩)
    (fun r hr => cross_full_long d0 d s.halfStepState s.fullStepState ⟨r, hr⟩)
    (fun _ hk => crossPhase_mod d0 d .fullStep _ _ hk) k

theorem full_stands (d : Direction) {n : Nat} (hn : 4 ≤ n) (s : Coils) :
    (stepFunction d.code StepSelect.fullStep.code n s).pin =
      stand (· + 1) 4 d.fullTable
        (stepFunction d.code StepSelect.fullStep.code n s).fullStepState := by
  rw [stepFunction_pin, levels, play_turn_stand (full_cyclic d) hn, stepFunction_fullStepState]

theorem half_stands (d : Direction) {n : Nat} (hn : 8 ≤ n) (s : Coils) :
    (stepFunction d.code StepSelect.halfStep.code n s).pin =
      stand (· + 1) 8 d.halfTable
        (stepFunction d.code StepSelect.halfStep.code n s).halfStepState := by
  rw [stepFunction_pin, levels, play_turn_stand (half_cyclic d) hn, stepFunction_halfStepState]

def reversible (d0 : Direction) (m0 : StepSelect) (d : Direction) (m : StepSelect) (k : Nat)
    (s : Coils) : Prop :=
  if m = m0 then inPhase d0 d m (stepState m s) k
  else crossPhase d0 d m (stepState m0 s) (stepState m s) k

instance (d0 : Direction) (m0 : StepSelect) (d : Direction) (m : StepSelect) (k : Nat)
    (s : Coils) : Decidable (reversible d0 m0 d m k s) := by
  unfold reversible
  infer_instance

theorem reversal_undoes_iff (d0 : Direction) (m0 : StepSelect) (n : Nat) (hn : m0.cycle ≤ n)
    (s0 : Coils) (d : Direction) (m : StepSelect) (k : Nat) :
    undone d m k (stepFunction d0.code m0.code n s0) ↔
      reversible d0 m0 d m k (stepFunction d0.code m0.code n s0) := by
  rw [reversible]
  split_ifs with hm
  · subst hm
    cases m with
    | fullStep => exact full_undone_iff d0 d (full_stands d0 hn s0) k
    | halfStep => exact half_undone_iff d0 d (half_stands d0 hn s0) k
  · cases m0 <;> cases m
    case fullStep.fullStep => exact absurd rfl hm
    case fullStep.halfStep => exact cross_half_undone_iff d0 d (full_stands d0 hn s0) k
    case halfStep.fullStep => exact cross_full_undone_iff d0 d (half_stands d0 hn s0) k
    case halfStep.halfStep => exact absurd rfl hm

theorem six_forward_two_back :
    undone .forward .fullStep 2 (stepFunction Direction.forward.code StepSelect.fullStep.code 6
      coilsInit) :=
  (reversal_undoes_iff .forward .fullStep 6 (by decide) coilsInit .forward .fullStep 2).mpr
    (by decide +kernel)

theorem step_lost_after_a_cycle :
    ¬ undone .forward .fullStep 1 (stepFunction awForward awFullStep 4 coilsInit) := by
  decide +kernel

end Motor
