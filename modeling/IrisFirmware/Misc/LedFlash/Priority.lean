import IrisFirmware.Misc.LedFlash.Flash

namespace PegaLedFlash

open PegaBoard Worker Run

def known (estate : Nat) : Prop := 0 ≤ statePriorityGet estate

def accepted (s : LedFlash) (estate : Nat) : Prop :=
  s.eLedState ≠ estate ∧ 0 ≤ statePriorityGet estate ∧
    statePriorityGet s.eLedState ≤ statePriorityGet estate

instance (s : LedFlash) (estate : Nat) : Decidable (accepted s estate) :=
  inferInstanceAs (Decidable (_ ∧ _ ∧ _))

def untouched (s t : LedFlash) : Prop :=
  t.eLedState = s.eLedState ∧ t.eLedStatePrev = s.eLedStatePrev ∧ t.board = s.board ∧
    t.pool = s.pool

structure Atomic (s : LedFlash) (estate : Nat) : Prop where
  priority : statePriorityGet s.eLedState ≤ statePriorityGet (stateSet s estate).1.eLedState
  refused : (stateSet s estate).2 < 0 → untouched s (stateSet s estate).1
  allowed : known estate → statePriorityGet s.eLedState ≤ statePriorityGet estate →
    0 ≤ (stateSet s estate).2

inductive Act where
  | stateSet (estate : Nat)
  | thread (id : Nat)
deriving DecidableEq, Repr

def actStep (s : LedFlash) : Act → LedFlash
  | .stateSet estate => (stateSet s estate).1
  | .thread id => taskTurn id s

def Act.atomic (s : LedFlash) : Act → Prop
  | .stateSet estate => Atomic s estate
  | .thread id => (taskTurn id s).eLedState = s.eLedState

-- the two states that stand for a dark LED ask for LED_PATTERN_NONE, which no case accepts
def Act.darkens (s : LedFlash) : Act → Prop
  | .stateSet estate => accepted s estate ∧ (estate = stateOff ∨ estate = statePowerOff)
  | .thread _ => False

theorem statePriorityGet_unknown {estate : Nat} (h : 6 < estate) :
    statePriorityGet estate = -1 := by
  have hne : ∀ n ≤ 6, (estate == n) = false := fun n hn => beq_eq_false_iff_ne.mpr (by omega)
  simp [statePriorityGet, patternPriorityTbl, List.lookup_cons, hne, stateOff, stateSystemStartUp,
    stateWifiReady, stateWifiOff, stateWifiFwError, statePowerOff]

theorem known_iff (estate : Nat) : known estate ↔ estate ≤ 6 := by
  constructor
  · intro h
    by_contra hlt
    rw [known, statePriorityGet_unknown (Nat.lt_of_not_le hlt)] at h
    exact absurd h (by decide)
  · intro h
    have hall : ∀ n ≤ 6, 0 ≤ statePriorityGet n := by decide
    exact hall estate h

theorem stateSet_accepted {s : LedFlash} {estate : Nat} (h : accepted s estate) :
    stateSet s estate =
      patternSet (commitState s estate) (statePattern (estate % 2 ^ 8)) := by
  obtain ⟨hne, hknown, hprio⟩ := h
  rw [stateSet, if_neg hne, if_neg (not_lt.mpr hknown), if_neg (not_lt.mpr hprio)]

theorem stateSet_rejected {s : LedFlash} {estate : Nat} (h : ¬ accepted s estate) :
    (stateSet s estate).1 = s := by
  rw [stateSet]
  split_ifs with hsame hneg hlow
  · rfl
  · rfl
  · rfl
  · exact absurd ⟨hsame, not_lt.mp hneg, not_lt.mp hlow⟩ h

theorem patternSet_frame (s : LedFlash) (p : Nat) :
    (patternSet s p).1.eLedState = s.eLedState ∧
      (patternSet s p).1.stLed.bIsLedFlashing = s.stLed.bIsLedFlashing := by
  unfold patternSet
  split <;> simp [flashColor, handlerStart, ledsOff, chanel]

theorem accepted_mod {s : LedFlash} {estate : Nat} (h : accepted s estate) :
    estate % 2 ^ 8 = estate := by
  have hle := (known_iff estate).mp h.2.1
  omega

theorem accepted_eLedState {s : LedFlash} {estate : Nat} (h : accepted s estate) :
    (stateSet s estate).1.eLedState = estate := by
  rw [stateSet_accepted h, (patternSet_frame _ _).1]
  exact accepted_mod h

theorem priority_zero {estate : Nat} (h : known estate)
    (hz : statePriorityGet estate ≤ statePriorityGet stateNone) : estate = stateNone := by
  have hall : ∀ n ≤ 6, statePriorityGet n ≤ statePriorityGet stateNone → n = stateNone := by decide
  exact hall estate ((known_iff estate).mp h) hz

theorem statePattern_ret {estate : Nat} (h : known estate) (hn : estate ≠ stateNone)
    (s : LedFlash) :
    0 ≤ (patternSet s (statePattern estate)).2 ↔
      ¬ (estate = stateOff ∨ estate = statePowerOff) := by
  have hle := (known_iff estate).mp h
  interval_cases estate <;> simp_all [statePattern, patternSet, flashColor]

theorem priority_stateSet (s : LedFlash) (estate : Nat) :
    statePriorityGet s.eLedState ≤ statePriorityGet (stateSet s estate).1.eLedState := by
  rcases Decidable.em (accepted s estate) with ha | ha
  · rw [accepted_eLedState ha]
    exact ha.2.2
  · rw [stateSet_rejected ha]

theorem taskTurn_eLedState (s : LedFlash) (id : Nat) :
    (taskTurn id s).eLedState = s.eLedState := by
  have hon : ∀ t : LedFlash, (colorsOn t).eLedState = t.eLedState := by
    intro t
    unfold colorsOn
    dsimp only
    split_ifs <;> rfl
  have hoff : ∀ t : LedFlash, (colorsOff t).eLedState = t.eLedState := by
    intro t
    unfold colorsOff
    dsimp only
    split_ifs <;> rfl
  unfold taskTurn
  cases s.pool.threads.lookup id with
  | none => rfl
  | some phase =>
    cases phase with
    | created => exact hon (taskStart s)
    | lit => exact hoff s
    | dark => exact hon s

theorem atomic_rejected {s : LedFlash} {estate : Nat} (h : ¬ accepted s estate) :
    Atomic s estate := by
  refine ⟨priority_stateSet s estate, fun _ => ?_, fun hk hp => ?_⟩
  · rw [stateSet_rejected h]
    exact ⟨rfl, rfl, rfl, rfl⟩
  · have hsame : s.eLedState = estate := by
      by_contra hne
      exact h ⟨hne, hk, hp⟩
    rw [stateSet, if_pos hsame]
    exact zero_le_one

theorem atomic_iff {s : LedFlash} (hs : known s.eLedState) (estate : Nat) :
    Atomic s estate ↔ ¬ (Act.stateSet estate).darkens s := by
  rcases Decidable.em (accepted s estate) with ha | ha
  swap
  · exact iff_of_true (atomic_rejected ha) fun h => ha h.1
  have hret : 0 ≤ (stateSet s estate).2 ↔ ¬ (estate = stateOff ∨ estate = statePowerOff) := by
    rw [stateSet_accepted ha, accepted_mod ha]
    refine statePattern_ret ha.2.1 ?_ _
    rintro rfl
    exact ha.1 (priority_zero hs ha.2.2)
  constructor
  · intro h hd
    exact hret.mp (h.allowed ha.2.1 ha.2.2) hd.2
  · intro hd
    have hok := hret.mpr fun he => hd ⟨ha, he⟩
    exact ⟨priority_stateSet s estate, fun hneg => absurd hok (not_le.mpr hneg), fun _ _ => hok⟩

theorem known_step {s : LedFlash} (h : known s.eLedState) (a : Act) :
    known (actStep s a).eLedState := by
  cases a with
  | stateSet estate => exact le_trans h (priority_stateSet s estate)
  | thread id => exact (taskTurn_eLedState s id).symm ▸ h

theorem act_atomic_iff {s : LedFlash} (h : known s.eLedState) (a : Act) :
    a.atomic s ↔ ¬ a.darkens s := by
  cases a with
  | stateSet estate => exact atomic_iff h estate
  | thread id => exact iff_of_true (taskTurn_eLedState s id) fun hd => hd

theorem state_changes_atomic_iff (b : Board) (acts : List Act) :
    Along actStep (fun s a => a.atomic s) (ledFlashInit b) acts ↔
      Along actStep (fun s a => ¬ a.darkens s) (ledFlashInit b) acts :=
  along_iff (I := fun s => known s.eLedState) ((known_iff 0).mpr (by decide))
    (fun _ a hs => act_atomic_iff hs a) (fun _ a hs _ => known_step hs a)

theorem off_refused_and_applied :
    ¬ Along actStep (fun s a => a.atomic s) (ledFlashInit boardInit) [.stateSet stateOff] := by
  intro h
  have hstate := (h.1.refused (by decide)).1
  exact absurd hstate (by decide)

end PegaLedFlash
