import IrisFirmware.Led.Breathing

namespace Ktd2058

open Run Script

def reportsEnable (c : Chip) : Prop :=
  (act (.read .brWhite) c).2 = [.shown ("RingLED Status:\n" ++ "RingLED Enable\n")]

def whiteActive (c : Chip) : Prop := c.brOps.level = .brWhite ∧ c.workBreathing = true

def Truthful (c : Chip) : Prop := reportsEnable c ↔ whiteActive c

def Action.interrupts (c : Chip) : Action → Prop
  | .store .ceTemp _ _ => True
  | .store .brightextend (.ok _) _ => True
  | .store .fadeRate (.ok _) _ => True
  | .store .brDemo (.ok _) _ => True
  | .store .brLogscaleDemo (.ok _) _ => True
  | .store .chase (.ok _) _ => True
  | .store .breathing (.ok value) _ => ¬ inRange value 100
  | .store .br2colors (.ok value) _ => ¬ inRange value 100
  | .store .brlogscale (.ok value) _ => ¬ inRange value 8
  | .chaseWork => c.workChase = true
  | _ => False

structure White (w : Works) : Prop where
  level : w.level = .brWhite
  busy : w.workBreathing = true
  en : w.en ≠ 0

def Lit (w : Works) : Prop := w.en ≠ 0 → White w

def Dark (w : Works) : Prop := w.en = 0 → w.level ≠ .brWhite

theorem reportsEnable_iff (c : Chip) : reportsEnable c ↔ c.works.en ≠ 0 := by
  have hshow : (act (.read .brWhite) c).2 = [.shown ("RingLED Status:\n" ++
      if c.works.en ≠ 0 then "RingLED Enable\n" else "RingLED Disable\n")] := rfl
  rw [reportsEnable, hshow]
  by_cases hen : c.works.en ≠ 0
  case pos => simp [hen]
  case neg => simp [hen]

theorem truthful_iff {c : Chip} (h : Dark c.works) : Truthful c ↔ Lit c.works := by
  rw [Truthful, reportsEnable_iff]
  constructor
  · exact fun htrue hen => ⟨(htrue.1 hen).1, (htrue.1 hen).2, hen⟩
  · refine fun hlit => ⟨fun hen => ⟨(hlit hen).level, (hlit hen).busy⟩, fun hwhite hen => ?_⟩
    exact h hen hwhite.1

inductive Moved (w : Works) (p : Prop) (w' : Works) : Prop
  | kept : ¬ p → w'.level = w.level → w'.en = w.en → w'.workBreathing = w.workBreathing →
      Moved w p w'
  | lit : ¬ p → White w' → Moved w p w'
  | out : ¬ p → w'.en = 0 → w'.level ≠ .brWhite → Moved w p w'
  | stopped : p → w'.level = w.level → w'.en = w.en → w'.workBreathing = false → Moved w p w'
  | replaced : p → w'.level ≠ .brWhite → w'.en = w.en → Moved w p w'

theorem moved_dark {w w' : Works} {p : Prop} (h : Dark w) (hm : Moved w p w') : Dark w' := by
  intro hen
  cases hm with
  | kept _ hlevel hsame _ =>
    rw [hlevel]
    exact h (hsame ▸ hen)
  | lit _ hwhite => exact absurd hen hwhite.en
  | out _ _ hlevel => exact hlevel
  | stopped _ hlevel hsame _ =>
    rw [hlevel]
    exact h (hsame ▸ hen)
  | replaced _ hlevel _ => exact hlevel

theorem moved_lit_iff {w w' : Works} {p : Prop} (h : Lit w) (hm : Moved w p w') :
    Lit w' ↔ w.en = 0 ∨ ¬ p := by
  cases hm with
  | kept hp hlevel hsame hwork =>
    refine iff_of_true (fun hen => ?_) (.inr hp)
    obtain ⟨hl, hb, he⟩ := h (hsame ▸ hen)
    exact ⟨hlevel.trans hl, hwork.trans hb, hen⟩
  | lit hp hwhite => exact iff_of_true (fun _ => hwhite) (.inr hp)
  | out hp hen _ => exact iff_of_true (fun hne => absurd hen hne) (.inr hp)
  | stopped hp _ hsame hwork =>
    have hdark : ¬ White w' := fun hwhite => Bool.false_ne_true (hwork.symm.trans hwhite.busy)
    rw [Lit, hsame, or_iff_left (not_not.mpr hp)]
    exact ⟨fun hlit => by_contra fun hen => hdark (hlit hen), fun hen hne => absurd hen hne⟩
  | replaced hp hlevel hsame =>
    have hdark : ¬ White w' := fun hwhite => hlevel hwhite.level
    rw [Lit, hsame, or_iff_left (not_not.mpr hp)]
    exact ⟨fun hlit => by_contra fun hen => hdark (hlit hen), fun hen hne => absurd hen hne⟩

theorem moved_ite {w u : Works} {p c : Prop} [Decidable c] {f g : Works → Works}
    (hf : c → Moved w p (f u)) (hg : ¬ c → Moved w p (g u)) :
    Moved w p ((if c then f else g) u) := by
  by_cases h : c
  case pos =>
    rw [if_pos h]
    exact hf h
  case neg =>
    rw [if_neg h]
    exact hg h

theorem moved_counted {level : BrLevel} (hl : level ≠ .brWhite) {value limit : UInt32}
    (w : Works) : Moved w (¬ inRange value limit)
      (((if inRange value limit then Works.breathes level value else id) ∘ Works.cancel) w) :=
  moved_ite (fun h => .out (not_not.mpr h) rfl hl) fun h => .stopped h rfl rfl rfl

theorem moved_demos {level : BrLevel} (hl : level ≠ .brWhite) (value : UInt32) (w : Works) :
    Moved w True
      (((if inRange value 100 then Works.demos level value else id) ∘ Works.cancel) w) :=
  moved_ite (fun _ => .replaced trivial hl rfl) fun _ => .stopped trivial rfl rfl rfl

theorem moved_breathing (value : UInt32) (w : Works) :
    Moved w (¬ inRange value 100) (Works.store .breathing value w) := by
  refine moved_ite (fun h => ?_) fun h => ?_
  · exact .out (not_not.mpr h) rfl (by decide : BrLevel.brNormal ≠ .brWhite)
  · exact moved_ite (fun _ => .stopped h rfl rfl rfl) fun _ => .stopped h rfl rfl rfl

theorem moved_brWhite (value : UInt32) (w : Works) :
    Moved w False (Works.store .brWhite value w) := by
  change Moved w False (Works.wakeBreathing (Works.glow value (Works.spend (Works.cancel w))))
  rw [Works.glow]
  split_ifs
  · exact .out id rfl (by decide : BrLevel.stop ≠ .brWhite)
  · exact .lit id ⟨rfl, rfl, Nat.one_ne_zero⟩

theorem moved_flower (value : UInt32) (w : Works) :
    Moved w False (Works.store .flower value w) := by
  refine moved_ite (fun _ => ?_) fun _ => .kept id rfl rfl rfl
  exact .out id rfl (by decide : BrLevel.brFlowers ≠ .brWhite)

theorem chaseMore_breath (value : UInt32) (w : Works) :
    (Works.chaseMore value w).level = w.level ∧ (Works.chaseMore value w).en = w.en ∧
      (Works.chaseMore value w).workBreathing = w.workBreathing := by
  unfold Works.chaseMore
  split_ifs <;> exact ⟨rfl, rfl, rfl⟩

theorem moved_chase (value : UInt32) (w : Works) :
    Moved w True (Works.store .chase value w) := by
  refine moved_ite (fun _ => ?_) fun _ => .stopped trivial rfl rfl rfl
  obtain ⟨hlevel, hen, hwork⟩ :=
    chaseMore_breath value (Works.chaseOnce value (Works.cancel w))
  exact .stopped trivial hlevel hen hwork

theorem moved_store (c : Chip) (attr : StoreAttr) (value : UInt32) (size : Nat) (w : Works)
    (hattr : attr ≠ .ceTemp) :
    Moved w ((Action.store attr (.ok value) size).interrupts c) (Works.store attr value w) := by
  cases attr with
  | mode => exact .kept id rfl rfl rfl
  | brightextend => exact .stopped trivial rfl rfl rfl
  | fadeRate => exact .stopped trivial rfl rfl rfl
  | ceTemp => exact absurd rfl hattr
  | breathing => exact moved_breathing value w
  | br2colors => exact moved_counted (by decide) w
  | brlogscale => exact moved_counted (by decide) w
  | brDemo => exact moved_demos (by decide) value w
  | brLogscaleDemo => exact moved_demos (by decide) value w
  | brWhite => exact moved_brWhite value w
  | flower => exact moved_flower value w
  | chase => exact moved_chase value w
  | chasingDemo =>
    exact moved_ite (fun _ => .kept id rfl rfl rfl) fun _ => .kept id rfl rfl rfl
  | racing => exact .kept id rfl rfl rfl
  | debug => exact .kept id rfl rfl rfl

theorem moved_error (c : Chip) (attr : StoreAttr) (ret : Int) (size : Nat) (w : Works)
    (hattr : attr ≠ .ceTemp) : Moved w ((Action.store attr (.error ret) size).interrupts c) w := by
  cases attr with
  | ceTemp => exact absurd rfl hattr
  | _ => exact .kept id rfl rfl rfl

theorem moved_chaseTurn (c : Chip) :
    Moved c.works (Action.chaseWork.interrupts c) (Works.chaseTurn c.works) := by
  have hiff : c.works.workChase = true ↔ Action.chaseWork.interrupts c := Iff.rfl
  by_cases h : c.works.workChase = true
  case pos =>
    rw [Works.chaseTurn, if_pos h, Works.chaseAgain]
    split_ifs
    · exact .stopped (hiff.1 h) rfl rfl rfl
    · exact .stopped (hiff.1 h) rfl rfl rfl
  case neg =>
    rw [Works.chaseTurn, if_neg h]
    exact .kept (fun hp => h (hiff.2 hp)) rfl rfl rfl

theorem moved_breathTurn (c : Chip) (rand : Nat → U8) {w : Works} (h : Dark w) :
    Moved w ((Action.breathingWork rand).interrupts c) (Works.breathTurn w) := by
  by_cases hw : w.workBreathing = true
  case neg =>
    rw [Works.breathTurn, if_neg hw]
    exact .kept id rfl rfl rfl
  case pos =>
    by_cases hl : w.level = .brWhite
    case pos =>
      have hen : 1 ≤ w.en := Nat.one_le_iff_ne_zero.mpr fun hen => h hen hl
      have hturn : Works.breathTurn w = { w with cnt := 6 } := by
        rw [Works.breathTurn, if_pos hw, Works.effect, if_pos hl, Works.breatheAgain,
          if_pos (.inr hen)]
        cases w
        simp only at hw
        simp [Works.wakeBreathing, Works.countSix, Works.countOne, Works.stopBreathing, hw]
      rw [hturn]
      exact .kept id rfl rfl rfl
    case neg =>
      by_cases hm : w.cnt + 1 < w.maxCnt ∨ 1 ≤ w.en
      case pos =>
        rw [breathTurn_more hw hl hm]
        exact .kept id rfl rfl rfl
      case neg =>
        obtain ⟨hlevel, -, -, hen, -⟩ := breathTurn_last hw hl hm
        refine .out id hen ?_
        rw [hlevel]
        decide

theorem moved_act {c : Chip} (h : Dark c.works) (a : Action) :
    Moved c.works (a.interrupts c) (actStep c a).works := by
  rw [works_actStep]
  cases a with
  | read attr => exact .kept id rfl rfl rfl
  | chaseWork => exact moved_chaseTurn c
  | breathingWork rand => exact moved_breathTurn c rand h
  | store attr parsed size =>
    rw [Works.act]
    by_cases hattr : attr = .ceTemp
    case pos =>
      rw [if_pos hattr]
      subst hattr
      cases parsed with
      | error ret => exact .stopped trivial rfl rfl rfl
      | ok value => exact .stopped trivial rfl rfl rfl
    case neg =>
      rw [if_neg hattr]
      cases parsed with
      | error ret => exact moved_error c attr ret size _ hattr
      | ok value => exact moved_store c attr value size _ hattr

theorem probe_dark (regs : U8 → U8) (pdata : PlatformData) :
    Lit (probe regs pdata).1.works ∧ Dark (probe regs pdata).1.works :=
  ⟨fun hen => absurd rfl hen, fun _ => (by decide : BrLevel.brOff ≠ .brWhite)⟩

theorem truthful_step_iff {c : Chip} (h : Lit c.works ∧ Dark c.works) (a : Action) :
    Truthful (actStep c a) ↔ c.brOps.en = 0 ∨ ¬ a.interrupts c := by
  have hm := moved_act h.2 a
  rw [truthful_iff (moved_dark h.2 hm), moved_lit_iff h.1 hm]
  exact Iff.rfl

theorem ring_status_truthful_iff (regs : U8 → U8) (pdata : PlatformData) (actions : List Action) :
    Truthful (probe regs pdata).1 ∧
        Along actStep (fun c a => Truthful (actStep c a)) (probe regs pdata).1 actions ↔
      Along actStep (fun c a => c.brOps.en = 0 ∨ ¬ a.interrupts c) (probe regs pdata).1
        actions := by
  have hstart := probe_dark regs pdata
  rw [and_iff_right ((truthful_iff hstart.2).2 hstart.1)]
  refine along_iff hstart (fun c a h => truthful_step_iff h a) fun c a h hp => ?_
  have hm := moved_act h.2 a
  exact ⟨(moved_lit_iff h.1 hm).2 hp, moved_dark h.2 hm⟩

theorem status_stays_after_brightextend :
    ¬ ∀ (regs : U8 → U8) (pdata : PlatformData) (actions : List Action),
      Truthful (exec actStep (probe regs pdata).1 actions) := by
  intro h
  have hrun := h (fun _ => 0) ⟨0, 0, 0⟩ [.store .brWhite (.ok 1) 2, .store .brightextend (.ok 0) 2]
  have hworks : (exec actStep (probe (fun _ => 0) ⟨0, 0, 0⟩).1
      [.store .brWhite (.ok 1) 2, .store .brightextend (.ok 0) 2]).works =
        ⟨.brWhite, 1, 6, 5, ⟨.chaseOff, 0, 0, 0, 0⟩, false, false⟩ := by
    rw [works_exec]
    rfl
  have hen : reportsEnable (exec actStep (probe (fun _ => 0) ⟨0, 0, 0⟩).1
      [.store .brWhite (.ok 1) 2, .store .brightextend (.ok 0) 2]) := by
    rw [reportsEnable_iff, hworks]
    decide
  have hidle : Works.workBreathing ⟨.brWhite, 1, 6, 5, ⟨.chaseOff, 0, 0, 0, 0⟩, false, false⟩ =
      true := hworks ▸ (hrun.1 hen).2
  exact absurd hidle (by decide)

end Ktd2058
