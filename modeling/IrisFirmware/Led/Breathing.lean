import IrisFirmware.Library.Countdown
import IrisFirmware.Led.Works

namespace Ktd2058

open Run Countdown

inductive FiniteBreath where
  | breathing
  | br2colors
  | brlogscale
  | brDemo
  | brLogscaleDemo
  | flower
deriving DecidableEq, Repr

namespace FiniteBreath

def attr : FiniteBreath → StoreAttr
  | .breathing => .breathing
  | .br2colors => .br2colors
  | .brlogscale => .brlogscale
  | .brDemo => .brDemo
  | .brLogscaleDemo => .brLogscaleDemo
  | .flower => .flower

def level : FiniteBreath → BrLevel
  | .breathing => .brNormal
  | .br2colors => .br2Colors
  | .brlogscale => .brLogscale
  | .brDemo => .brDemo
  | .brLogscaleDemo => .brLogscaleDemo
  | .flower => .brFlowers

def limit : FiniteBreath → UInt32
  | .brlogscale => 8
  | _ => 100

def Clean (c : Chip) (n : Nat) : FiniteBreath → Prop
  | .brDemo => c.brOps.en = 0 ∧ (c.brOps.cnt = 0 ∨ n = 1)
  | .brLogscaleDemo => c.brOps.en = 0 ∧ (c.brOps.cnt = 0 ∨ n = 1)
  | .flower => c.workChase = false
  | _ => True

end FiniteBreath

inductive Turn where
  | chase
  | breathing (rand : Nat → U8)

def Turn.action : Turn → Action
  | .chase => .chaseWork
  | .breathing rand => .breathingWork rand

def Turn.breathes : Turn → Bool
  | .chase => false
  | .breathing _ => true

def turnStep (c : Chip) (t : Turn) : Chip := actStep c t.action

def iterations : Chip → List Turn → List BrLevel :=
  worked turnStep Chip.workBreathing Turn.breathes fun c => c.brOps.level

structure Stopped (w : Works) : Prop where
  level : w.level = .brOff
  cnt : w.cnt = 0
  maxCnt : w.maxCnt = 0
  en : w.en = 0
  idle : w.workBreathing = false

def RunsExactly (c : Chip) (level : BrLevel) (n : Nat) : Prop :=
  ∀ turns : List Turn,
    iterations c turns = List.replicate (min (turns.countP Turn.breathes) n) level ∧
      (n ≤ turns.countP Turn.breathes → Stopped (exec turnStep c turns).works)

structure Breathes (level : BrLevel) (w : Works) : Prop where
  alone : w.workChase = false
  busy : w.workBreathing = true → w.level = level ∧ w.en = 0
  stopped : w.workBreathing = false → Stopped w

def breathsLeft (w : Works) : Nat :=
  if w.workBreathing = true then max 1 (w.maxCnt - w.cnt) else 0

theorem turn_works (c : Chip) (t : Turn) :
    (turnStep c t).works = Works.act t.action c.works := works_actStep c t.action

theorem works_exec (c : Chip) (actions : List Action) :
    (exec actStep c actions).works = exec (fun w a => Works.act a w) c.works actions := by
  induction actions generalizing c with
  | nil => rfl
  | cons a actions ih => rw [exec_cons, ih, works_actStep, exec_cons]

theorem chaseTurn_alone {w : Works} (h : w.workChase = false) : Works.chaseTurn w = w := by
  simp [Works.chaseTurn, h]

theorem breathTurn_idle {w : Works} (h : w.workBreathing = false) : Works.breathTurn w = w := by
  simp [Works.breathTurn, h]

theorem breathTurn_busy {w : Works} (h : w.workBreathing = true) (hl : w.level ≠ .brWhite) :
    Works.breathTurn w = Works.breatheAgain (Works.countOne (Works.stopBreathing w)) := by
  rw [Works.breathTurn, if_pos h, Works.effect, if_neg hl]
  rfl

theorem breathTurn_more {w : Works} (h : w.workBreathing = true) (hl : w.level ≠ .brWhite)
    (hm : w.cnt + 1 < w.maxCnt ∨ 1 ≤ w.en) :
    Works.breathTurn w = { w with cnt := w.cnt + 1 } := by
  have hmore : (Works.countOne (Works.stopBreathing w)).cnt <
      (Works.countOne (Works.stopBreathing w)).maxCnt ∨
      1 ≤ (Works.countOne (Works.stopBreathing w)).en := hm
  rw [breathTurn_busy h hl, Works.breatheAgain, if_pos hmore]
  cases w
  simp only at h
  simp [Works.wakeBreathing, Works.countOne, Works.stopBreathing, h]

theorem breathTurn_last {w : Works} (h : w.workBreathing = true) (hl : w.level ≠ .brWhite)
    (hm : ¬ (w.cnt + 1 < w.maxCnt ∨ 1 ≤ w.en)) : Stopped (Works.breathTurn w) := by
  have hlast : ¬ ((Works.countOne (Works.stopBreathing w)).cnt <
      (Works.countOne (Works.stopBreathing w)).maxCnt ∨
      1 ≤ (Works.countOne (Works.stopBreathing w)).en) := hm
  rw [breathTurn_busy h hl, Works.breatheAgain, if_neg hlast]
  exact ⟨rfl, rfl, rfl, rfl, rfl⟩

theorem breathTurn_chase (w : Works) : (Works.breathTurn w).workChase = w.workChase := by
  unfold Works.breathTurn Works.breatheAgain Works.effect
  split_ifs <;> rfl

theorem breathes_turn {level : BrLevel} (hl : level ≠ .brWhite) {w : Works}
    (h : Breathes level w) (t : Turn) :
    Breathes level (Works.act t.action w) ∧
      breathsLeft (Works.act t.action w) = breathsLeft w - if t.breathes then 1 else 0 := by
  cases t with
  | chase =>
    have hsame : Works.act Turn.chase.action w = w := chaseTurn_alone h.alone
    rw [hsame]
    exact ⟨h, rfl⟩
  | breathing rand =>
    change Breathes level (Works.breathTurn w) ∧ breathsLeft (Works.breathTurn w) = _ - 1
    cases hw : w.workBreathing with
    | false =>
      rw [breathTurn_idle hw]
      exact ⟨h, by simp [breathsLeft, hw]⟩
    | true =>
      obtain ⟨hlevel, hen⟩ := h.busy hw
      have hother : w.level ≠ .brWhite := hlevel ▸ hl
      rcases Nat.lt_or_ge (w.cnt + 1) w.maxCnt with hm | hm
      · rw [breathTurn_more hw hother (.inl hm)]
        refine ⟨⟨h.alone, fun _ => ⟨hlevel, hen⟩, fun hs => ?_⟩, ?_⟩
        · exact absurd (hw.symm.trans hs) (by decide)
        · simp only [breathsLeft, hw, if_true]
          omega
      · have hend := breathTurn_last hw hother (by omega)
        refine ⟨⟨(breathTurn_chase w).trans h.alone, fun hs => ?_, fun _ => hend⟩, ?_⟩
        · exact absurd (hend.idle.symm.trans hs) (by decide)
        · simp only [breathsLeft, hw, hend.idle, if_true, Bool.false_eq_true, if_false]
          omega

theorem breathes_counts {level : BrLevel} (hl : level ≠ .brWhite) :
    Counts turnStep (fun c => Breathes level c.works) (fun c => breathsLeft c.works)
      Chip.workBreathing Turn.breathes where
  keeps c t h := by
    rw [turn_works]
    exact (breathes_turn hl h t).1
  next c t h := by
    rw [turn_works]
    exact (breathes_turn hl h t).2
  busy_iff c h := by
    have hwork : c.works.workBreathing = c.workBreathing := rfl
    cases hw : c.workBreathing with
    | false => simp [breathsLeft, hwork, hw]
    | true => simp [breathsLeft, hwork, hw]

theorem runsExactly_iff {level : BrLevel} (hl : level ≠ .brWhite) {c : Chip}
    (h : Breathes level c.works) (n : Nat) :
    RunsExactly c level n ↔ breathsLeft c.works = n := by
  have hlevel : ∀ c : Chip, Breathes level c.works → c.workBreathing = true →
      c.brOps.level = level := fun c hc hw => (hc.busy hw).1
  have hstop : ∀ c : Chip, Breathes level c.works → c.workBreathing = false → Stopped c.works :=
    fun c hc hw => hc.stopped hw
  have hturn : Turn.breathes (.breathing fun _ => 0) = true := rfl
  exact exactly_iff (breathes_counts hl) hlevel hstop hturn h n

def FiniteBreath.start (value : UInt32) : FiniteBreath → Works → Works
  | .breathing => Works.breathes .brNormal value ∘ Works.cancel
  | .br2colors => Works.breathes .br2Colors value ∘ Works.cancel
  | .brlogscale => Works.breathes .brLogscale value ∘ Works.cancel
  | .brDemo => Works.demos .brDemo value ∘ Works.cancel
  | .brLogscaleDemo => Works.demos .brLogscaleDemo value ∘ Works.cancel
  | .flower => Works.breathes .brFlowers value

theorem accepted_works (b : FiniteBreath) {value : UInt32} (h : inRange value b.limit)
    (size : Nat) (c : Chip) :
    (actStep c (.store b.attr (.ok value) size)).works = b.start value c.works := by
  rw [works_actStep]
  cases b with
  | brlogscale =>
    have h8 : inRange value 8 := h
    simp [Works.act, Works.parsed, Works.store, FiniteBreath.attr, FiniteBreath.start, h8]
  | _ =>
    have h100 : inRange value 100 := h
    simp [Works.act, Works.parsed, Works.store, FiniteBreath.attr, FiniteBreath.start, h100]

theorem counted_left {value : UInt32} (h : 0 < value) (level : BrLevel) (w : Works) :
    breathsLeft (Works.breathes level value w) = value.toNat := by
  have hpos : 0 < value.toNat := UInt32.lt_iff_toNat_lt.mp h
  have hleft : breathsLeft (Works.breathes level value w) = max 1 (value.toNat - 0) := rfl
  omega

theorem counted_breathes {w : Works} (h : w.workChase = false) (level : BrLevel)
    (value : UInt32) : Breathes level (Works.breathes level value w) :=
  ⟨h, fun _ => ⟨rfl, rfl⟩, fun hs => absurd hs (by simp [Works.breathes, Works.wakeBreathing])⟩

structure Endless (level : BrLevel) (w : Works) : Prop where
  busy : w.workBreathing = true
  level : w.level = level
  en : 1 ≤ w.en
  alone : w.workChase = false

theorem endless_turn {level : BrLevel} (hl : level ≠ .brWhite) {w : Works} (h : Endless level w)
    (t : Turn) : Endless level (Works.act t.action w) := by
  cases t with
  | chase =>
    have hsame : Works.act Turn.chase.action w = w := chaseTurn_alone h.alone
    rw [hsame]
    exact h
  | breathing rand =>
    have hmore : Works.act (Turn.breathing rand).action w = { w with cnt := w.cnt + 1 } :=
      breathTurn_more h.busy (h.level ▸ hl) (.inr h.en)
    rw [hmore]
    exact ⟨h.busy, h.level, h.en, h.alone⟩

theorem endless_never_exact {level : BrLevel} (hl : level ≠ .brWhite) {c : Chip}
    (h : Endless level c.works) (n : Nat) : ¬ RunsExactly c level n := by
  intro hr
  have hturns : n ≤ (List.replicate n (Turn.breathing fun _ => 0)).countP Turn.breathes := by
    simp [List.countP_replicate, Turn.breathes]
  have hstop := (hr _).2 hturns
  have hend : Endless level (exec turnStep c (List.replicate n (.breathing fun _ => 0))).works :=
    exec_invariant (I := fun c : Chip => Endless level c.works) (P := fun _ _ => True) h
      (fun s t hs _ => turn_works s t ▸ endless_turn hl hs t) (along_of_forall (by simp) _)
  have hidle := hstop.idle
  rw [hend.busy] at hidle
  cases hidle

theorem chase_takes_over {c : Chip} (h : c.workChase = true) {level : BrLevel} {n : Nat}
    (hn : 0 < n) : ¬ RunsExactly c level n := by
  intro hr
  have hcancel : (turnStep c .chase).workBreathing = false := by
    have hworks : (turnStep c .chase).works = Works.chaseAgain (Works.cancel c.works) :=
      (turn_works c .chase).trans (if_pos h)
    have hidle : (Works.chaseAgain (Works.cancel c.works)).workBreathing = false := by
      unfold Works.chaseAgain
      split <;> rfl
    exact (congrArg Works.workBreathing hworks).trans hidle
  have hnone : iterations c [.chase, .breathing fun _ => 0] = [] := by
    simp [iterations, worked, Turn.breathes, hcancel]
  have hsome := (hr [.chase, .breathing fun _ => 0]).1
  rw [hnone] at hsome
  have hlen := congrArg List.length hsome
  simp [Turn.breathes] at hlen
  omega

theorem recounted_iff {w : Works} {level : BrLevel} (hl : level ≠ .brWhite) {value : UInt32}
    (hv : 0 < value) {c : Chip} (hc : c.works = Works.demos level value (Works.cancel w)) :
    RunsExactly c level value.toNat ↔ w.en = 0 ∧ (w.cnt = 0 ∨ value.toNat = 1) := by
  have hpos : 0 < value.toNat := UInt32.lt_iff_toNat_lt.mp hv
  rcases Nat.eq_zero_or_pos w.en with hen | hen
  · have hbreathes : Breathes level c.works := by
      rw [hc]
      exact ⟨rfl, fun _ => ⟨rfl, hen⟩,
        fun hs => absurd hs (by simp [Works.demos, Works.wakeBreathing])⟩
    have hleft : breathsLeft c.works = max 1 (value.toNat - w.cnt) := by
      rw [hc]
      rfl
    rw [runsExactly_iff hl hbreathes, hleft]
    omega
  · have hendless : Endless level c.works := by
      rw [hc]
      exact ⟨rfl, rfl, hen, rfl⟩
    exact iff_of_false (endless_never_exact hl hendless _) (by omega)

theorem counted_runs {level : BrLevel} (hl : level ≠ .brWhite) {value : UInt32} (hv : 0 < value)
    {w : Works} (hw : w.workChase = false) {c : Chip}
    (hc : c.works = Works.breathes level value w) : RunsExactly c level value.toNat := by
  rw [runsExactly_iff hl (hc ▸ counted_breathes hw level value), hc, counted_left hv]

theorem accepted_runs_iff (b : FiniteBreath) {value : UInt32} (h : inRange value b.limit)
    (size : Nat) (c : Chip) :
    RunsExactly (actStep c (.store b.attr (.ok value) size)) b.level value.toNat ↔
      b.Clean c value.toNat := by
  have hstart := accepted_works b h size c
  cases b with
  | breathing => exact iff_of_true (counted_runs (by decide) h.1 rfl hstart) trivial
  | br2colors => exact iff_of_true (counted_runs (by decide) h.1 rfl hstart) trivial
  | brlogscale => exact iff_of_true (counted_runs (by decide) h.1 rfl hstart) trivial
  | brDemo => exact recounted_iff (by decide) h.1 hstart
  | brLogscaleDemo => exact recounted_iff (by decide) h.1 hstart
  | flower =>
    cases hw : c.workChase with
    | false => exact iff_of_true (counted_runs (by decide) h.1 hw hstart) hw
    | true =>
      have hchase : (actStep c (.store FiniteBreath.flower.attr (.ok value) size)).workChase =
          true := (congrArg Works.workChase hstart).trans hw
      refine iff_of_false (chase_takes_over hchase (UInt32.lt_iff_toNat_lt.mp h.1)) ?_
      simp [FiniteBreath.Clean, hw]

end Ktd2058
