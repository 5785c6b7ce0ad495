import IrisFirmware.Led.Breathing

namespace Ktd2058

open Run Countdown

inductive ChaseCommand where
  | chase
  | chasingDemo
deriving DecidableEq, Repr

namespace ChaseCommand

def attr : ChaseCommand → StoreAttr
  | .chase => .chase
  | .chasingDemo => .chasingDemo

def Accepts (value : UInt32) : ChaseCommand → Prop
  | .chase => value < 20
  | .chasingDemo => inRange value 100

def level (value : UInt32) : ChaseCommand → ChaseLevel
  | .chase => .ofValue value.toNat
  | .chasingDemo => .chaseDemo

end ChaseCommand

def Turn.chases : Turn → Bool
  | .chase => true
  | .breathing _ => false

structure ChaseStopped (w : Works) : Prop where
  level : w.chaseOps.level = .chaseOff
  cnt : w.chaseOps.cnt = 0
  idle : w.workChase = false

def ChasesExactly (c : Chip) (level : ChaseLevel) (n : Nat) : Prop :=
  Exactly turnStep Chip.workChase Turn.chases (fun c => c.chaseOps.level)
    (fun c => ChaseStopped c.works) level n c

def ChaseCommand.SameRun (k : ChaseCommand) (value : UInt32) (c d : Chip) : Prop :=
  ∃ n, ChasesExactly c (k.level value) n ∧ ChasesExactly d (k.level value) n

def repeatsLeft (ops : ChaseOps) : Nat := ops.maxCnt - ops.cnt

def ChaseCommand.SameRepeats (c d : Chip) : ChaseCommand → Prop
  | .chase => True
  | .chasingDemo => repeatsLeft c.chaseOps = repeatsLeft d.chaseOps

structure Chases (level : ChaseLevel) (w : Works) : Prop where
  busy : w.workChase = true → w.chaseOps.level = level
  stopped : w.workChase = false → ChaseStopped w

def chasesLeft (w : Works) : Nat := if w.workChase = true then repeatsLeft w.chaseOps + 1 else 0

theorem breathTurn_chaseOps (w : Works) : (Works.breathTurn w).chaseOps = w.chaseOps := by
  unfold Works.breathTurn Works.breatheAgain Works.effect
  split_ifs <;> rfl

theorem chaseTurn_more {w : Works} (h : w.workChase = true)
    (hm : w.chaseOps.cnt < w.chaseOps.maxCnt) :
    (Works.chaseTurn w).workChase = true ∧ (Works.chaseTurn w).chaseOps =
      { w.chaseOps with cnt := w.chaseOps.cnt + 1 } := by
  have hmore : (Works.cancel w).chaseOps.cnt < (Works.cancel w).chaseOps.maxCnt := hm
  rw [Works.chaseTurn, if_pos h, Works.chaseAgain, if_pos hmore]
  exact ⟨rfl, rfl⟩

theorem chaseTurn_last {w : Works} (h : w.workChase = true)
    (hm : ¬ w.chaseOps.cnt < w.chaseOps.maxCnt) : ChaseStopped (Works.chaseTurn w) := by
  have hlast : ¬ (Works.cancel w).chaseOps.cnt < (Works.cancel w).chaseOps.maxCnt := hm
  rw [Works.chaseTurn, if_pos h, Works.chaseAgain, if_neg hlast]
  exact ⟨rfl, rfl, rfl⟩

theorem chases_turn {level : ChaseLevel} {w : Works} (h : Chases level w) (t : Turn) :
    Chases level (Works.act t.action w) ∧
      chasesLeft (Works.act t.action w) = chasesLeft w - if t.chases then 1 else 0 := by
  cases t with
  | breathing rand =>
    have hops : (Works.act (Turn.breathing rand).action w).chaseOps = w.chaseOps :=
      breathTurn_chaseOps w
    have hwork : (Works.act (Turn.breathing rand).action w).workChase = w.workChase :=
      breathTurn_chase w
    refine ⟨⟨fun hs => ?_, fun hs => ?_⟩, ?_⟩
    · rw [hops]
      exact h.busy (hwork ▸ hs)
    · obtain ⟨hlevel, hcnt, hidle⟩ := h.stopped (hwork ▸ hs)
      exact ⟨by rw [hops, hlevel], by rw [hops, hcnt], hs⟩
    · rw [chasesLeft, chasesLeft, hops, hwork]
      rfl
  | chase =>
    change Chases level (Works.chaseTurn w) ∧ chasesLeft (Works.chaseTurn w) = _ - 1
    cases hw : w.workChase with
    | false =>
      rw [chaseTurn_alone hw]
      exact ⟨h, by simp [chasesLeft, hw]⟩
    | true =>
      rcases Nat.lt_or_ge w.chaseOps.cnt w.chaseOps.maxCnt with hm | hm
      · obtain ⟨hwork, hops⟩ := chaseTurn_more hw hm
        refine ⟨⟨fun _ => ?_, fun hs => absurd (hwork.symm.trans hs) (by decide)⟩, ?_⟩
        · rw [hops]
          exact h.busy hw
        · rw [chasesLeft, chasesLeft, hwork, hw, hops, if_pos rfl, if_pos rfl, repeatsLeft,
            repeatsLeft]
          dsimp only
          omega
      · have hend := chaseTurn_last hw (Nat.not_lt.mpr hm)
        refine ⟨⟨fun hs => absurd (hend.idle.symm.trans hs) (by decide), fun _ => hend⟩, ?_⟩
        have hzero : repeatsLeft w.chaseOps = 0 := Nat.sub_eq_zero_of_le hm
        simp [chasesLeft, hw, hend.idle, hzero]

theorem chases_counts (level : ChaseLevel) :
    Counts turnStep (fun c => Chases level c.works) (fun c => chasesLeft c.works)
      Chip.workChase Turn.chases where
  keeps c t h := by
    rw [turn_works]
    exact (chases_turn h t).1
  next c t h := by
    rw [turn_works]
    exact (chases_turn h t).2
  busy_iff c h := by
    have hwork : c.works.workChase = c.workChase := rfl
    cases hw : c.workChase with
    | false => simp [chasesLeft, hwork, hw]
    | true => simp [chasesLeft, hwork, hw]

theorem chasesExactly_iff {level : ChaseLevel} {c : Chip} (h : Chases level c.works) (n : Nat) :
    ChasesExactly c level n ↔ chasesLeft c.works = n := by
  have hlevel : ∀ c : Chip, Chases level c.works → c.workChase = true →
      c.chaseOps.level = level := fun c hc hw => hc.busy hw
  have hstop : ∀ c : Chip, Chases level c.works → c.workChase = false → ChaseStopped c.works :=
    fun c hc hw => hc.stopped hw
  have hturn : Turn.chases .chase = true := rfl
  exact exactly_iff (chases_counts level) hlevel hstop hturn h n

def chaseOpsOf (value : UInt32) : ChaseOps :=
  (Works.chaseMore value (Works.chaseOnce value ⟨.brOff, 0, 0, 0, ⟨.chaseOff, 0, 0, 0, 0⟩, false,
    false⟩)).chaseOps

theorem chaseOps_of_value (value : UInt32) (w : Works) :
    (Works.chaseMore value (Works.chaseOnce value w)).chaseOps = chaseOpsOf value := by
  unfold chaseOpsOf Works.chaseMore
  split_ifs <;> rfl

theorem chaseOpsOf_level (value : UInt32) : (chaseOpsOf value).level = .ofValue value.toNat := by
  unfold chaseOpsOf Works.chaseMore
  split_ifs <;> rfl

def ChaseCommand.start (value : UInt32) (ops : ChaseOps) : ChaseCommand → ChaseOps
  | .chase => chaseOpsOf value
  | .chasingDemo => { ops with level := .chaseDemo }

theorem accepted_chase (k : ChaseCommand) {value : UInt32} (h : k.Accepts value) (size : Nat)
    (c : Chip) :
    (actStep c (.store k.attr (.ok value) size)).works.workChase = true ∧
      (actStep c (.store k.attr (.ok value) size)).works.chaseOps =
        k.start value c.chaseOps := by
  rw [works_actStep]
  cases k with
  | chase =>
    have hlt : value < 20 := h
    simp only [Works.act, Works.parsed, Works.store, ChaseCommand.attr, if_pos hlt, reduceCtorEq]
    exact ⟨rfl, chaseOps_of_value value _⟩
  | chasingDemo =>
    have hr : inRange value 100 := h
    simp only [Works.act, Works.parsed, Works.store, ChaseCommand.attr, if_pos hr, reduceCtorEq]
    exact ⟨rfl, rfl⟩

theorem accepted_exactly_iff (k : ChaseCommand) {value : UInt32} (h : k.Accepts value)
    (size : Nat) (c : Chip) (n : Nat) :
    ChasesExactly (actStep c (.store k.attr (.ok value) size)) (k.level value) n ↔
      repeatsLeft (k.start value c.chaseOps) + 1 = n := by
  obtain ⟨hwork, hops⟩ := accepted_chase k h size c
  have hlevel : (k.start value c.chaseOps).level = k.level value := by
    cases k with
    | chase => exact chaseOpsOf_level value
    | chasingDemo => rfl
  have hchases : Chases (k.level value) (actStep c (.store k.attr (.ok value) size)).works :=
    ⟨fun _ => by rw [hops, hlevel], fun hs => absurd (hwork.symm.trans hs) (by decide)⟩
  rw [chasesExactly_iff hchases, chasesLeft, if_pos hwork, hops]

theorem same_run_iff (k : ChaseCommand) {value : UInt32} (h : k.Accepts value) (size : Nat)
    (c d : Chip) :
    k.SameRun value (actStep c (.store k.attr (.ok value) size))
        (actStep d (.store k.attr (.ok value) size)) ↔ k.SameRepeats c d := by
  simp only [ChaseCommand.SameRun, accepted_exactly_iff k h, exists_eq_left']
  cases k with
  | chase => exact iff_of_true rfl trivial
  | chasingDemo => exact Nat.add_right_cancel_iff.trans eq_comm

theorem chase_history_iff (regs : U8 → U8) (pdata : PlatformData) (history history' : List Action)
    (k : ChaseCommand) (value : UInt32) (size : Nat) (h : k.Accepts value) :
    k.SameRun value
        (actStep (exec actStep (probe regs pdata).1 history) (.store k.attr (.ok value) size))
        (actStep (exec actStep (probe regs pdata).1 history') (.store k.attr (.ok value) size)) ↔
      k.SameRepeats (exec actStep (probe regs pdata).1 history)
        (exec actStep (probe regs pdata).1 history') :=
  same_run_iff k h size _ _

theorem demo_after_interrupted_chase_iff :
    ChaseCommand.chasingDemo.SameRun 1
        (actStep (exec actStep (probe (fun _ => 0) ⟨0, 0, 0⟩).1 [])
          (.store .chasingDemo (.ok 1) 2))
        (actStep (exec actStep (probe (fun _ => 0) ⟨0, 0, 0⟩).1
          [.store .chase (.ok 2) 2, .chaseWork]) (.store .chasingDemo (.ok 1) 2)) ↔
      ChaseCommand.chasingDemo.SameRepeats (exec actStep (probe (fun _ => 0) ⟨0, 0, 0⟩).1 [])
        (exec actStep (probe (fun _ => 0) ⟨0, 0, 0⟩).1 [.store .chase (.ok 2) 2, .chaseWork]) :=
  chase_history_iff (fun _ => 0) ⟨0, 0, 0⟩ [] [.store .chase (.ok 2) 2, .chaseWork] .chasingDemo 1 2
    ⟨by decide, by decide⟩

-- a chase that has run to its end leaves its repeat count to the demo
theorem demo_repeats_after_chase :
    ¬ ∀ (regs : U8 → U8) (pdata : PlatformData) (history history' : List Action)
      (k : ChaseCommand) (value : UInt32) (size : Nat), k.Accepts value →
      k.SameRun value
        (actStep (exec actStep (probe regs pdata).1 history) (.store k.attr (.ok value) size))
        (actStep (exec actStep (probe regs pdata).1 history')
          (.store k.attr (.ok value) size)) := by
  intro h
  have hchased : (exec actStep (probe (fun _ => 0) ⟨0, 0, 0⟩).1
      [.store .chase (.ok 2) 2, .chaseWork, .chaseWork]).works.chaseOps =
        ⟨.chaseOff, 0, 2000, 0, 1⟩ := by
    rw [works_exec]
    rfl
  have haccepted : ChaseCommand.chasingDemo.Accepts 1 := ⟨by decide, by decide⟩
  have hsame := (same_run_iff .chasingDemo haccepted 2 _ _).1
    (h (fun _ => 0) ⟨0, 0, 0⟩ [] [.store .chase (.ok 2) 2, .chaseWork, .chaseWork] .chasingDemo 1 2
      haccepted)
  have hrepeats : repeatsLeft ⟨.chaseOff, 0, 0, 0, 0⟩ =
      repeatsLeft (exec actStep (probe (fun _ => 0) ⟨0, 0, 0⟩).1
        [.store .chase (.ok 2) 2, .chaseWork, .chaseWork]).works.chaseOps := hsame
  rw [hchased] at hrepeats
  exact absurd hrepeats (by decide)

end Ktd2058
