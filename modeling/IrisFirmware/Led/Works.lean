import IrisFirmware.Led.Commands

namespace Ktd2058

open Script

structure Works where
  level : BrLevel
  en : Nat
  cnt : Nat
  maxCnt : Nat
  chaseOps : ChaseOps
  workChase : Bool
  workBreathing : Bool
deriving DecidableEq, Repr

def Chip.works (c : Chip) : Works :=
  ⟨c.brOps.level, c.brOps.en, c.brOps.cnt, c.brOps.maxCnt, c.chaseOps, c.workChase,
    c.workBreathing⟩

namespace Works

def cancel (w : Works) : Works := { w with workChase := false, workBreathing := false }

def wakeBreathing (w : Works) : Works := { w with workBreathing := true }

def wakeChase (w : Works) : Works := { w with workChase := true }

def count (level : BrLevel) (value : UInt32) (w : Works) : Works :=
  { w with level, en := 0, cnt := 0, maxCnt := value.toNat }

def recount (level : BrLevel) (value : UInt32) (w : Works) : Works :=
  { w with level, maxCnt := value.toNat }

def spend (w : Works) : Works := { w with cnt := 6, maxCnt := 5 }

def glow (value : UInt32) (w : Works) : Works :=
  if value ≤ 0 then { w with en := 0, level := .stop } else { w with en := 1, level := .brWhite }

def stopBreathing (w : Works) : Works := { w with workBreathing := false }

def stopChase (w : Works) : Works := { w with workChase := false }

def maxChase (f : Nat → Nat) (w : Works) : Works :=
  { w with chaseOps := { w.chaseOps with maxCnt := f w.chaseOps.maxCnt } }

def chaseOnce (value : UInt32) (w : Works) : Works :=
  { w with chaseOps := ⟨.ofValue value.toNat, 0, 2000, 0, 1⟩ }

def chaseMore (value : UInt32) : Works → Works :=
  if value = 9 ∨ value = 10 then maxChase fun _ => 5
  else if value = 1 ∨ value = 4 then maxChase (· * 2)
  else if value = 5 ∨ value = 6 then maxChase (· * 3)
  else if value = 7 ∨ value = 8 then maxChase (· * 4)
  else id

def chaseDemo (w : Works) : Works :=
  { w with chaseOps := { w.chaseOps with level := .chaseDemo } }

def breathes (level : BrLevel) (value : UInt32) : Works → Works := wakeBreathing ∘ count level value

def demos (level : BrLevel) (value : UInt32) : Works → Works := wakeBreathing ∘ recount level value

def store : StoreAttr → UInt32 → Works → Works
  | .mode, _ => id
  | .brightextend, _ => cancel
  | .fadeRate, _ => cancel
  | .ceTemp, _ => id
  | .breathing, value =>
    (if inRange value 100 then breathes .brNormal value
      else if value = 100 then stopBreathing else id) ∘ cancel
  | .br2colors, value => (if inRange value 100 then breathes .br2Colors value else id) ∘ cancel
  | .brlogscale, value => (if inRange value 8 then breathes .brLogscale value else id) ∘ cancel
  | .brDemo, value => (if inRange value 100 then demos .brDemo value else id) ∘ cancel
  | .brLogscaleDemo, value =>
    (if inRange value 100 then demos .brLogscaleDemo value else id) ∘ cancel
  | .brWhite, value => ((wakeBreathing ∘ glow value) ∘ spend) ∘ cancel
  | .flower, value => if inRange value 100 then breathes .brFlowers value else id
  | .chase, value => (if value < 20 then (wakeChase ∘ chaseMore value) ∘ chaseOnce value else id) ∘ cancel
  | .chasingDemo, value => if inRange value 100 then wakeChase ∘ chaseDemo else id
  | .racing, _ => id
  | .debug, _ => id

def chaseAgain (w : Works) : Works :=
  if w.chaseOps.cnt < w.chaseOps.maxCnt then
    wakeChase { w with chaseOps := { w.chaseOps with cnt := w.chaseOps.cnt + 1 } }
  else { w with chaseOps := { w.chaseOps with cnt := 0, level := .chaseOff } }

def chaseTurn (w : Works) : Works := if w.workChase = true then chaseAgain (cancel w) else w

def countOne (w : Works) : Works := { w with cnt := w.cnt + 1 }

def countSix (w : Works) : Works := { w with cnt := 6 }

def effect (level : BrLevel) : Works → Works := if level = .brWhite then countSix else id

def breatheAgain (w : Works) : Works :=
  if w.cnt < w.maxCnt ∨ 1 ≤ w.en then wakeBreathing w
  else { w with level := .brOff, en := 0, cnt := 0, maxCnt := 0 }

def breathTurn (w : Works) : Works :=
  if w.workBreathing = true then breatheAgain (effect w.level (countOne (stopBreathing w))) else w

def parsed (attr : StoreAttr) : Parsed → Works → Works
  | .error _ => id
  | .ok value => store attr value

def act : Action → Works → Works
  | .store attr input _ =>
    if attr = .ceTemp then parsed attr input ∘ cancel else parsed attr input
  | .read _ => id
  | .chaseWork => chaseTurn
  | .breathingWork _ => breathTurn

end Works

@[simp] theorem fixes_writeReg (writer : Writer) (reg value : U8) :
    Fixes Chip.works (writeReg writer reg value) := fun _ => rfl

@[simp] theorem fixes_maskedWrite (reg mask val : U8) :
    Fixes Chip.works (maskedWrite reg mask val) := fixes_reading fun _ => fixes_writeReg _ _ _

@[simp] theorem fixes_msleep (ms : Int) : Fixes Chip.works (msleep ms) := fixes_emit _

@[simp] theorem fixes_setColor0 (r g b : U8) : Fixes Chip.works (setColor0 r g b) :=
  fixes_steps (by simp)

@[simp] theorem fixes_setColor1 (r g b : U8) : Fixes Chip.works (setColor1 r g b) :=
  fixes_steps (by simp)

@[simp] theorem fixes_selectAllColors (a12 a34 b12 b34 c12 c34 : U8) (delay : Int) :
    Fixes Chip.works (selectAllColors a12 a34 b12 b34 c12 c34 delay) := fixes_steps (by simp)

@[simp] theorem fixes_selectColor (color : Selection) : Fixes Chip.works (selectColor color) :=
  fixes_forEach fun _ => fixes_writeReg _ _ _

@[simp] theorem fixes_setRandomPalette (imax : U8) (rand : Nat → U8) :
    Fixes Chip.works (setRandomPalette imax rand) := fixes_forEach fun _ => fixes_writeReg _ _ _

@[simp] theorem fixes_selectOne (reg : Int) (data : U8) (delay : Int) :
    Fixes Chip.works (selectOne reg data delay) := fixes_steps (by simp)

@[simp] theorem fixes_cacheFadeRate (fade : U8) : Fixes Chip.works (cacheFadeRate fade) :=
  fun _ => rfl

theorem fixes_ite {c : Prop} [Decidable c] {p q : Driver} (hp : Fixes Chip.works p)
    (hq : Fixes Chip.works q) : Fixes Chip.works (if c then p else q) := by
  split
  · exact hp
  · exact hq

@[simp] theorem fixes_modeChange (mode : Int) (fade : U8) :
    Fixes Chip.works (modeChange mode fade) := by
  refine fixes_reading fun c => simulates_steps_fixed (fixes_cacheFadeRate fade) ?_
  refine simulates_steps_fixed ?_ simulates_steps_nil
  refine fixes_ite (fixes_writeReg _ _ _) (fixes_ite (fixes_writeReg _ _ _) ?_)
  refine fixes_ite (fixes_writeReg _ _ _) (fixes_ite ?_ fixes_skip)
  exact simulates_fixed_seq (fixes_writeReg _ _ _) (fixes_cacheFadeRate _)

@[simp] theorem fixes_chaseOne (state : ChaseState) (fade : U8) (delay : Int) :
    Fixes Chip.works (chaseOne state fade delay) := by
  refine simulates_fixed_seq (fixes_modeChange _ _) ?_
  cases state with
  | up => exact fixes_forEach fun _ => fixes_steps (by simp)
  | down => exact fixes_forEach fun _ => fixes_steps (by simp)

@[simp] theorem fixes_chaseTwo (state : ChaseState) (fade : U8) (delay : Int) :
    Fixes Chip.works (chaseTwo state fade delay) := by
  refine simulates_fixed_seq (fixes_modeChange _ _) ?_
  cases state with
  | up => exact fixes_forEach fun _ => fixes_steps (by simp)
  | down => exact fixes_forEach fun _ => fixes_steps (by simp)

@[simp] theorem fixes_chaseThree (state : ChaseState) (fade : U8) (delay : Int) :
    Fixes Chip.works (chaseThree state fade delay) := by
  refine simulates_fixed_seq (fixes_modeChange _ _) ?_
  cases state with
  | up => exact fixes_forEach fun _ => fixes_steps (by simp)
  | down => exact fixes_forEach fun _ => fixes_steps (by simp)

@[simp] theorem fixes_chaseFour (state : ChaseState) (fade : U8) (delay : Int) :
    Fixes Chip.works (chaseFour state fade delay) := by
  refine simulates_fixed_seq (fixes_modeChange _ _) ?_
  cases state with
  | up => exact fixes_steps (by simp)
  | down => exact fixes_steps (by simp)

@[simp] theorem fixes_chase2Colors (state : ChaseState) (fade : U8) (delay : Int) :
    Fixes Chip.works (chase2Colors state fade delay) := by
  refine simulates_fixed_seq (fixes_modeChange _ _) ?_
  cases state with
  | up =>
    exact simulates_fixed_seq (fixes_forEach fun _ => fixes_steps (by simp))
      (fixes_forEach fun _ => fixes_steps (by simp))
  | down =>
    exact simulates_fixed_seq (fixes_forEach fun _ => fixes_steps (by simp))
      (fixes_forEach fun _ => fixes_steps (by simp))

@[simp] theorem fixes_raceTwo (state : ChaseState) (fade : U8) (delay : Int) :
    Fixes Chip.works (raceTwo state fade delay) := by
  refine simulates_fixed_seq (fixes_modeChange _ _) ?_
  cases state with
  | up => exact fixes_forEach fun _ => fixes_steps (by simp)
  | down => exact fixes_forEach fun _ => fixes_steps (by simp)

@[simp] theorem fixes_flowOne (state : ChaseState) (fade : U8) (delay : Int)
    (color : FlowColor) :
    Fixes Chip.works (flowOne state fade delay color) := by
  refine simulates_fixed_seq (fixes_modeChange _ _) ?_
  cases state with
  | up => exact fixes_forEach fun _ => fixes_steps (by simp)
  | down => exact fixes_forEach fun _ => fixes_steps (by simp)

@[simp] theorem fixes_flowTwo (state : ChaseState) (fade : U8) (delay : Int)
    (color : FlowColor) :
    Fixes Chip.works (flowTwo state fade delay color) := by
  refine simulates_fixed_seq (fixes_modeChange _ _) ?_
  cases state with
  | up => exact fixes_forEach fun _ => fixes_steps (by simp)
  | down => exact fixes_forEach fun _ => fixes_steps (by simp)

@[simp] theorem fixes_repeated {p : Driver} (h : Fixes Chip.works p) (n : Nat) :
    Fixes Chip.works (repeated n p) :=
  fixes_steps fun _ hq => List.eq_of_mem_replicate hq ▸ h

theorem fixes_chasingDemo : Fixes Chip.works chasingDemo :=
  fixes_steps (by simp [fixes_forEach])

theorem fixes_chaseAmzDemo : Fixes Chip.works chaseAmzDemo := fixes_steps (by simp)

@[simp] theorem fixes_breath (fadeOn fadeOff : U8) (timeOn timeOff : Int) :
    Fixes Chip.works (breath fadeOn fadeOff timeOn timeOff) := fixes_steps (by simp)

theorem fixes_breath2Colors (fadeOn fadeOff : U8) (timeOn timeOff : Int) :
    Fixes Chip.works (breath2Colors fadeOn fadeOff timeOn timeOff) := fixes_steps (by simp)

theorem fixes_breathDemo : Fixes Chip.works breathDemo := by
  refine simulates_steps_fixed (simulates_assign fun _ => rfl) ?_
  refine simulates_steps_fixed (fixes_setColor0 _ _ _) ?_
  refine simulates_steps_fixed (fixes_setColor1 _ _ _) ?_
  refine simulates_steps_fixed (fixes_forEach fun sel => ?_) simulates_steps_nil
  exact simulates_fixed_seq (fixes_selectColor _) (fixes_reading fun _ => fixes_breath _ _ _ _)

theorem fixes_breathWhite : Fixes Chip.works breathWhite := by
  have hglow : Fixes Chip.works (forEach gammaTable fun brightness =>
      seq (setColor0 brightness brightness brightness) (msleep 160)) :=
    fixes_forEach fun _ => simulates_fixed_seq (fixes_setColor0 _ _ _) (fixes_msleep _)
  exact fixes_steps (by simp [hglow])

theorem fixes_breathLogscale (fade ired igrn iblu : U8) :
    Fixes Chip.works (breathLogscale fade ired igrn iblu) := by
  have hramp (body : Int → Driver) (h : ∀ i, Fixes Chip.works (body i)) :
      Fixes Chip.works (forEach (upTo 0 7) body) := fixes_forEach h
  refine fixes_steps ?_
  simp only [List.forall_mem_cons]
  refine ⟨fixes_modeChange _ _, fixes_setColor0 _ _ _, fixes_selectColor _, fixes_modeChange _ _,
    hramp _ fun i => ?_, by simp⟩
  exact simulates_fixed_seq (fixes_setColor0 _ _ _) (fixes_msleep _)

theorem fixes_brFlowerDemo (rand : Nat → U8) : Fixes Chip.works (brFlowerDemo rand) :=
  fixes_steps (by simp)

theorem fixes_racingDemo : Fixes Chip.works racingDemo := by
  have hpair (fade : U8) :
      Fixes Chip.works (seq (raceTwo .up fade 83) (raceTwo .down fade 83)) :=
    simulates_fixed_seq (fixes_raceTwo _ _ _) (fixes_raceTwo _ _ _)
  exact fixes_steps (by simp [fixes_forEach, hpair])

theorem fixes_flowingDemo : Fixes Chip.works flowingDemo := by
  refine fixes_steps ?_
  simp only [List.forall_mem_cons]
  exact ⟨fixes_modeChange _ _, fixes_selectColor _, fixes_setColor0 _ _ _, fixes_setColor1 _ _ _,
    fixes_repeated (fixes_steps (by simp)) 2, fixes_msleep _, fixes_selectColor _,
    fixes_setColor0 _ _ _, fixes_setColor1 _ _ _, fixes_repeated (fixes_steps (by simp)) 3,
    fixes_modeChange _ _, fixes_msleep _, by simp⟩

theorem fixes_chaseEffect (level : ChaseLevel) : Fixes Chip.works (chaseEffect level) := by
  cases level with
  | chaseOff => exact fixes_skip
  | chaseDemo => exact fixes_chasingDemo
  | chaseAmz => exact fixes_chaseAmzDemo
  | unnamed value => exact fixes_skip
  | _ => simp [chaseEffect]

theorem fixes_breathingEffect (rand : Nat → U8) {level : BrLevel} (h : level ≠ .brWhite) :
    Fixes Chip.works (breathingEffect rand level) := by
  cases level with
  | brWhite => exact absurd rfl h
  | brOff => exact fixes_breathLogscale _ _ _ _
  | brNormal => exact fixes_breath _ _ _ _
  | br2Colors => exact fixes_breath2Colors _ _ _ _
  | brLogscale => exact fixes_breathLogscale _ _ _ _
  | brDemo => exact fixes_breathDemo
  | brFlowers => exact fixes_brFlowerDemo rand
  | brLogscaleDemo => exact fixes_breathLogscale _ _ _ _
  | stop => exact fixes_modeChange _ _

theorem simulates_cancelBoth : Simulates Chip.works Works.cancel cancelBoth := fun _ => rfl

theorem fixes_controlStore (limit : UInt32) (mask : U8) (lo : Nat)
    (set : Nat → PlatformData → PlatformData) (value : UInt32) :
    Fixes Chip.works (controlStore limit mask lo set value) :=
  simulates_fixed_seq (simulates_assign fun _ => rfl) (fixes_maskedWrite _ _ _)

theorem fixes_modechangeStore (value : UInt32) : Fixes Chip.works (modechangeStore value) :=
  fixes_ite (fixes_modeChange _ _) (fixes_ite (fixes_modeChange _ _)
    (fixes_ite (fixes_modeChange _ _) (fixes_ite (fixes_modeChange _ _) fixes_skip)))

theorem simulates_scheduleWorkBreathing :
    Simulates Chip.works Works.wakeBreathing scheduleWorkBreathing := fun _ => rfl

theorem simulates_scheduleWorkChase :
    Simulates Chip.works Works.wakeChase scheduleWorkChase := fun _ => rfl

theorem simulates_last {f : Works → Works} {p : Driver} (h : Simulates Chip.works f p) :
    Simulates Chip.works f (steps [p]) := simulates_seq_fixed h simulates_steps_nil

theorem simulates_after_cancel {f : Works → Works} {p : Driver}
    (h : Simulates Chip.works f p) :
    Simulates Chip.works (f ∘ Works.cancel) (steps [cancelBoth, msleep 10, p]) :=
  simulates_steps_cons simulates_cancelBoth
    (simulates_steps_fixed (fixes_msleep 10) (simulates_last h))

theorem simulates_brDemoStoreAt (level : BrLevel) (value : UInt32) :
    Simulates Chip.works
      ((if inRange value 100 then Works.demos level value else id) ∘ Works.cancel)
      (brDemoStoreAt level value) := by
  refine simulates_steps_cons simulates_cancelBoth ?_
  refine simulates_steps_fixed (fixes_msleep 10) ?_
  refine simulates_steps_fixed (fixes_modeChange _ _) ?_
  refine simulates_steps_fixed (fixes_msleep 4000) (simulates_last (simulates_guarded ?_))
  exact simulates_seq (simulates_assign fun _ => rfl) simulates_scheduleWorkBreathing

theorem simulates_breathingStore (value : UInt32) :
    Simulates Chip.works (Works.store .breathing value) (breathingStore value) := by
  refine simulates_after_cancel (simulates_ite ?_ ?_)
  · refine simulates_steps_fixed (fixes_setColor0 _ _ _) ?_
    refine simulates_steps_fixed (fixes_setColor1 _ _ _) ?_
    refine simulates_steps_fixed (fixes_selectAllColors _ _ _ _ _ _ _) ?_
    exact simulates_steps_cons (simulates_assign fun _ => rfl)
      (simulates_last simulates_scheduleWorkBreathing)
  · have hpalette (fade : U8) (delay : Int) : Fixes Chip.works (utilColorPalette fade delay) :=
      fixes_steps (by simp)
    exact simulates_guarded (simulates_seq_fixed (f := Works.stopBreathing) (fun _ => rfl)
      (fixes_steps (by simp [hpalette])))

theorem simulates_br2ColorsStore (value : UInt32) :
    Simulates Chip.works (Works.store .br2colors value) (br2ColorsStore value) := by
  refine simulates_after_cancel (simulates_guarded ?_)
  refine simulates_steps_cons (simulates_assign fun _ => rfl) ?_
  refine simulates_steps_fixed (fixes_modeChange _ _) ?_
  refine simulates_steps_fixed (fixes_msleep _) ?_
  refine simulates_steps_fixed (fixes_setColor0 _ _ _) ?_
  refine simulates_steps_fixed (fixes_setColor1 _ _ _) ?_
  exact simulates_last simulates_scheduleWorkBreathing

theorem simulates_brLogscaleStore (value : UInt32) :
    Simulates Chip.works (Works.store .brlogscale value) (brLogscaleStore value) := by
  refine simulates_after_cancel (simulates_guarded ?_)
  refine simulates_steps_fixed (fixes_setColor0 _ _ _) ?_
  refine simulates_steps_cons (simulates_assign fun _ => rfl) ?_
  refine simulates_steps_fixed (fixes_modeChange _ _) ?_
  refine simulates_steps_fixed (fixes_msleep _) ?_
  refine simulates_steps_fixed (fixes_reading fun _ => fixes_modeChange _ _) ?_
  exact simulates_last simulates_scheduleWorkBreathing

theorem simulates_brFlowerStore (value : UInt32) :
    Simulates Chip.works (Works.store .flower value) (brFlowerStore value) := by
  refine simulates_guarded ?_
  refine simulates_steps_cons (simulates_assign fun _ => rfl) ?_
  refine simulates_steps_fixed (fixes_modeChange _ _) ?_
  refine simulates_steps_fixed (fixes_msleep _) ?_
  exact simulates_last simulates_scheduleWorkBreathing

theorem simulates_chasingDemoStore (value : UInt32) :
    Simulates Chip.works (Works.store .chasingDemo value) (chasingDemoStore value) := by
  refine simulates_guarded ?_
  refine simulates_steps_fixed (fixes_modeChange _ _) ?_
  refine simulates_steps_fixed (fixes_msleep _) ?_
  exact simulates_steps_cons (simulates_assign fun _ => rfl)
    (simulates_last simulates_scheduleWorkChase)

theorem simulates_brWhiteStore (value : UInt32) :
    Simulates Chip.works (Works.store .brWhite value) (brWhiteStore value) := by
  refine simulates_steps_cons (f := Works.cancel) simulates_cancelBoth ?_
  refine simulates_steps_fixed (fixes_msleep 10) ?_
  refine simulates_steps_cons (f := Works.spend) (fun _ => rfl) ?_
  refine simulates_steps_cons (f := Works.glow value) (fun c => ?_)
    (simulates_last simulates_scheduleWorkBreathing)
  unfold Works.glow Chip.setBrOps
  split <;> rfl

theorem simulates_chaseStore (value : UInt32) :
    Simulates Chip.works (Works.store .chase value) (chaseStore value) := by
  refine simulates_steps_cons (f := Works.cancel) (fun _ => rfl)
    (simulates_last (simulates_guarded ?_))
  refine simulates_steps_cons (f := Works.chaseOnce value) (fun _ => rfl) ?_
  refine simulates_steps_cons (f := Works.chaseMore value) ?_ (simulates_steps_fixed
    (fixes_reading fun _ => fixes_modeChange _ _) (simulates_last simulates_scheduleWorkChase))
  refine simulates_ite (simulates_seq_fixed (simulates_assign fun _ => rfl) (fixes_steps (by simp)))
    (simulates_ite ?_ (simulates_ite ?_ (simulates_ite ?_ fixes_skip)))
  · exact simulates_assign fun _ => rfl
  · exact simulates_assign fun _ => rfl
  · exact simulates_assign fun _ => rfl

theorem simulates_body (attr : StoreAttr) (value : UInt32) :
    Simulates Chip.works (Works.store attr value) (attr.body value) := by
  cases attr with
  | mode => exact fixes_modechangeStore value
  | brightextend => exact simulates_seq_fixed simulates_cancelBoth (fixes_controlStore _ _ _ _ _)
  | fadeRate => exact simulates_seq_fixed simulates_cancelBoth (fixes_controlStore _ _ _ _ _)
  | ceTemp => exact fixes_controlStore _ _ _ _ _
  | breathing => exact simulates_breathingStore value
  | br2colors => exact simulates_br2ColorsStore value
  | brlogscale => exact simulates_brLogscaleStore value
  | brDemo => exact simulates_brDemoStoreAt .brDemo value
  | brWhite => exact simulates_brWhiteStore value
  | brLogscaleDemo => exact simulates_brDemoStoreAt .brLogscaleDemo value
  | flower => exact simulates_brFlowerStore value
  | chase => exact simulates_chaseStore value
  | chasingDemo => exact simulates_chasingDemoStore value
  | racing =>
    exact fixes_ite (fixes_steps (by simp [fixes_racingDemo]))
      (fixes_ite (fixes_steps (by simp [fixes_flowingDemo])) fixes_skip)
  | debug => exact fixes_skip

theorem fixes_reads (attr : ShowAttr) : Fixes Chip.works attr.handler := by
  have hshow (mask : U8) (lo : Nat) (cached : PlatformData → Nat)
      (restore : Nat → PlatformData → PlatformData) :
      Fixes Chip.works (restoringShow mask lo cached restore) :=
    fixes_reading fun _ => simulates_seq_fixed
      (fixes_ite (simulates_assign fun _ => rfl) fixes_skip) (fixes_emit _)
  cases attr with
  | brightextend => exact hshow _ _ _ _
  | fadeRate => exact hshow _ _ _ _
  | ceTemp => exact hshow _ _ _ _
  | brWhite => exact fun _ => rfl
  | info => exact fun _ => rfl
  | version => exact fun _ => rfl

theorem simulates_storing (attr : StoreAttr) (parsed : Parsed) (size : Nat) :
    Simulates Chip.works (Works.parsed attr parsed) (storing parsed size attr.body) := by
  cases parsed with
  | error ret => exact fixes_emit _
  | ok value => exact simulates_seq_fixed (simulates_body attr value) (fixes_emit _)

theorem simulates_store (attr : StoreAttr) (parsed : Parsed) (size : Nat) :
    Simulates Chip.works (Works.act (.store attr parsed size)) (attr.handler parsed size) := by
  exact simulates_ite (simulates_seq simulates_cancelBoth (simulates_storing attr parsed size))
    (simulates_storing attr parsed size)

theorem simulates_chaseRepeat : Simulates Chip.works Works.chaseAgain chaseRepeat := by
  intro c
  have hcount : c.works.chaseOps.cnt < c.works.chaseOps.maxCnt ↔
      c.chaseOps.cnt < c.chaseOps.maxCnt := Iff.rfl
  unfold Works.chaseAgain chaseRepeat reading
  simp only [hcount]
  split
  · rfl
  · exact fixes_modeChange DEFAULT 0 _

theorem simulates_breathingRepeat : Simulates Chip.works Works.breatheAgain breathingRepeat := by
  intro c
  have hcount : (c.works.cnt < c.works.maxCnt ∨ 1 ≤ c.works.en) ↔
      (c.brOps.cnt < c.brOps.maxCnt ∨ 1 ≤ c.brOps.en) := Iff.rfl
  unfold Works.breatheAgain breathingRepeat reading
  simp only [hcount]
  split
  · rfl
  · rfl

theorem simulates_chaseWork : Simulates Chip.works Works.chaseTurn (act .chaseWork) := by
  intro c
  have hwork : c.works.workChase = c.workChase := rfl
  unfold Works.chaseTurn
  rw [hwork]
  split
  · rename_i h
    rw [act_chaseWork h]
    have hturn := simulates_steps_cons (f := Works.stopChase) (p := cancelWorkChase)
      (fun _ => rfl) (simulates_steps_cons (f := Works.stopBreathing) (p := cancelWorkBreathing)
        (fun _ => rfl) (simulates_steps_fixed (fixes_chaseEffect c.chaseOps.level)
          (simulates_last simulates_chaseRepeat)))
    exact hturn c
  · rename_i h
    simp [act, reading, guarded, skip, h]

theorem simulates_breathingEffect (rand : Nat → U8) (level : BrLevel) :
    Simulates Chip.works (Works.effect level) (breathingEffect rand level) := by
  unfold Works.effect
  split
  · rename_i h
    rw [h]
    exact simulates_seq_fixed (f := Works.countSix) (fun _ => rfl) fixes_breathWhite
  · rename_i h
    exact fixes_breathingEffect rand h

theorem simulates_breathingWork (rand : Nat → U8) :
    Simulates Chip.works Works.breathTurn (act (.breathingWork rand)) := by
  intro c
  have hwork : c.works.workBreathing = c.workBreathing := rfl
  unfold Works.breathTurn
  rw [hwork]
  split
  · rename_i h
    rw [act_breathingWork h]
    have hturn := simulates_steps_cons (f := Works.stopBreathing) (p := cancelWorkBreathing)
      (fun _ => rfl) (simulates_steps_cons (f := Works.countOne) (p := countBreath)
        (fun _ => rfl) (simulates_steps_cons (simulates_breathingEffect rand c.brOps.level)
          (simulates_last simulates_breathingRepeat)))
    exact hturn c
  · rename_i h
    simp [act, reading, guarded, skip, h]

theorem works_actStep (c : Chip) (a : Action) : (actStep c a).works = Works.act a c.works := by
  cases a with
  | store attr parsed size => exact simulates_store attr parsed size c
  | read attr => exact fixes_reads attr c
  | chaseWork => exact simulates_chaseWork c
  | breathingWork rand => exact simulates_breathingWork rand c

end Ktd2058
