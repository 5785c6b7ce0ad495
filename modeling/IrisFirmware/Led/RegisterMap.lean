import IrisFirmware.Library.Run
import IrisFirmware.Led.Commands

namespace Ktd2058

open Script Run

def Writer.selects : Writer → Prop
  | .selectAllColors => True
  | .selectColor => True
  | .selectOne => True
  | _ => False

def Mapped : Event → Prop
  | .write writer reg _ =>
      (REG_CONTROL ≤ reg ∧ reg ≤ REG_ISELC34) ∧ (writer.selects → REG_ISELA12 ≤ reg)
  | _ => True

def InMap (c : Chip) (a : Action) : Prop := ∀ e ∈ (act a c).2, Mapped e

def BrLevel.overruns : BrLevel → Prop
  | .brNormal => False
  | .brFlowers => False
  | .stop => False
  | _ => True

def ChaseLevel.overruns : ChaseLevel → Prop
  | .chaseUp1 => True
  | .chaseDemo => True
  | .chaseAmz => True
  | _ => False

def StoreAttr.overruns : StoreAttr → UInt32 → Prop
  | .chase, value => value = 9 ∨ value = 10
  | .racing, value => value = 1 ∨ value = 2
  | _, _ => False

def Overruns (c : Chip) : Action → Prop
  | .store attr parsed _ => ∃ value, parsed = .ok value ∧ attr.overruns value
  | .read _ => False
  | .chaseWork => c.workChase = true ∧ c.chaseOps.level.overruns
  | .breathingWork _ => c.workBreathing = true ∧ c.brOps.level.overruns

abbrev Stays (p : Driver) : Prop := Keeps Mapped p

abbrev Leaves (p : Driver) : Prop := Hits (fun e => ¬ Mapped e) p

instance : Inhabited Chip := ⟨allocated (fun _ => 0) ⟨0, 0, 0⟩⟩

@[simp] theorem stays_writeReg (writer : Writer) (reg value : U8) :
    Stays (writeReg writer reg value) ↔ Mapped (.write writer reg value) :=
  ⟨fun h => h default _ (by simp [writeReg]), fun h c e he => by
    obtain rfl : e = .write writer reg value := by simpa [writeReg] using he
    exact h⟩

theorem leaves_writeReg {writer : Writer} {reg value : U8}
    (h : ¬ Mapped (.write writer reg value)) : Leaves (writeReg writer reg value) :=
  fun _ => ⟨_, by simp [writeReg], h⟩

@[simp] theorem stays_msleep (ms : Int) : Stays (msleep ms) := keeps_emit trivial

theorem stays_maskedWrite (mask val : U8) : Stays (maskedWrite REG_CONTROL mask val) :=
  keeps_reading fun _ => by simp [Mapped, Writer.selects]

@[simp] theorem stays_setColor0 (ired igreen iblue : U8) : Stays (setColor0 ired igreen iblue) :=
  keeps_steps (by simp [Mapped, Writer.selects])

@[simp] theorem stays_setColor1 (ired igreen iblue : U8) : Stays (setColor1 ired igreen iblue) :=
  keeps_steps (by simp [Mapped, Writer.selects])

@[simp] theorem stays_selectAllColors (a12 a34 b12 b34 c12 c34 : U8) (delay : Int) :
    Stays (selectAllColors a12 a34 b12 b34 c12 c34 delay) :=
  keeps_steps (by simp [Mapped, Writer.selects])

theorem toNat_reg {reg : Int} (hlo : 0x03 ≤ reg) (hhi : reg ≤ 0x0E) :
    (BitVec.ofInt 8 reg).toNat = reg.toNat := by
  rw [BitVec.toNat_ofInt]
  omega

theorem mapped_selection {writer : Writer} {reg : Int} (hlo : 0x09 ≤ reg) (hhi : reg ≤ 0x0E)
    (value : U8) : Mapped (.write writer (BitVec.ofInt 8 reg) value) := by
  simp only [Mapped, BitVec.le_def, toNat_reg (le_trans (by decide) hlo) hhi]
  refine ⟨⟨?_, ?_⟩, fun _ => ?_⟩ <;> simp <;> omega

theorem stays_selectOne {reg : Int} (hlo : 0x09 ≤ reg) (hhi : reg ≤ 0x0E) (data : U8)
    (delay : Int) : Stays (selectOne reg data delay) :=
  keeps_steps (by simp [mapped_selection hlo hhi data])

theorem leaves_selectOne {reg : Int} {data : U8}
    (h : ¬ Mapped (.write .selectOne (BitVec.ofInt 8 reg) data)) (delay : Int) :
    Leaves (selectOne reg data delay) :=
  hits_steps (List.mem_cons_self ..) (leaves_writeReg h)

theorem leaves_selectColor (color : Selection) : Leaves (selectColor color) :=
  hits_forEach (a := 0x0F) (mem_upTo.mpr (by decide))
    (leaves_writeReg (by simp [Mapped]))

theorem stays_setRandomPalette (imax : U8) (rand : Nat → U8) :
    Stays (setRandomPalette imax rand) := by
  refine keeps_forEach fun i hi => (stays_writeReg _ _ _).mpr ?_
  obtain ⟨hlo, hhi⟩ := mem_upTo.mp hi
  simp only [Mapped, BitVec.le_def, toNat_reg hlo (le_trans hhi (by decide))]
  refine ⟨⟨?_, ?_⟩, False.elim⟩ <;> simp <;> omega

@[simp] theorem stays_modeChange (mode : Int) (fade : U8) : Stays (modeChange mode fade) := by
  refine keeps_reading fun c => keeps_steps ?_
  simp only [List.forall_mem_cons]
  refine ⟨keeps_assign _, ?_, by simp⟩
  have hwrite (value : U8) : Stays (writeReg .modeChange REG_CONTROL value) :=
    (stays_writeReg _ _ _).mpr (by simp [Mapped, Writer.selects])
  split
  · exact hwrite _
  split
  · exact hwrite _
  split
  · exact hwrite _
  split
  · exact keeps_seq (hwrite _) (keeps_assign _)
  · exact keeps_skip

theorem stays_upTo {first last : Int} {body : Int → List Driver}
    (h : ∀ i, first ≤ i → i ≤ last → ∀ p ∈ body i, Stays p) :
    Stays (forEach (upTo first last) fun i => steps (body i)) :=
  keeps_forEach fun i hi => keeps_steps (h i (mem_upTo.mp hi).1 (mem_upTo.mp hi).2)

theorem stays_downTo {first last : Int} {body : Int → List Driver}
    (h : ∀ i, last ≤ i → i ≤ first → ∀ p ∈ body i, Stays p) :
    Stays (forEach (downTo first last) fun i => steps (body i)) :=
  keeps_forEach fun i hi => keeps_steps (h i (mem_downTo.mp hi).1 (mem_downTo.mp hi).2)

theorem stays_chaseOne_down (fade : U8) (delay : Int) : Stays (chaseOne .down fade delay) := by
  refine keeps_seq (stays_modeChange _ _) (stays_downTo fun i hlo hhi => ?_)
  simp (disch := omega) [stays_selectOne]

theorem leaves_chaseOne_up (fade : U8) (delay : Int) : Leaves (chaseOne .up fade delay) := by
  refine hits_seq_right (hits_forEach (a := 0x0F) (mem_upTo.mpr (by decide)) ?_)
  exact hits_steps (List.mem_cons_self ..) (leaves_selectOne (by simp [Mapped]) delay)

theorem stays_chaseTwo (state : ChaseState) (fade : U8) (delay : Int) :
    Stays (chaseTwo state fade delay) := by
  refine keeps_seq (stays_modeChange _ _) ?_
  cases state with
  | up =>
    exact stays_upTo fun i hlo hhi => by
      simp (disch := omega) [stays_selectOne]
  | down =>
    exact stays_downTo fun i hlo hhi => by
      simp (disch := omega) [stays_selectOne]

theorem stays_chaseThree (state : ChaseState) (fade : U8) (delay : Int) :
    Stays (chaseThree state fade delay) := by
  refine keeps_seq (stays_modeChange _ _) ?_
  cases state with
  | up =>
    exact stays_upTo fun i hlo hhi => by
      simp (disch := omega) [stays_selectOne]
  | down =>
    exact stays_downTo fun i hlo hhi => by
      simp (disch := omega) [stays_selectOne]

theorem stays_chaseFour (state : ChaseState) (fade : U8) (delay : Int) :
    Stays (chaseFour state fade delay) := by
  refine keeps_seq (stays_modeChange _ _) ?_
  cases state with
  | up => exact keeps_steps (by simp)
  | down => exact keeps_steps (by simp)

theorem stays_chase2Colors (state : ChaseState) (fade : U8) (delay : Int) :
    Stays (chase2Colors state fade delay) := by
  refine keeps_seq (stays_modeChange _ _) ?_
  cases state with
  | up =>
    refine keeps_seq ?_ ?_
    · exact stays_upTo fun i hlo hhi => by
        simp (disch := omega) [stays_selectOne]
    · exact stays_upTo fun i hlo hhi => by
        simp (disch := omega) [stays_selectOne]
  | down =>
    refine keeps_seq ?_ ?_
    · exact stays_downTo fun i hlo hhi => by
        simp (disch := omega) [stays_selectOne]
    · exact stays_downTo fun i hlo hhi => by
        simp (disch := omega) [stays_selectOne]

theorem stays_raceTwo_up (fade : U8) (delay : Int) : Stays (raceTwo .up fade delay) := by
  refine keeps_seq (stays_modeChange _ _) (stays_upTo fun j hlo hhi => ?_)
  simp (disch := omega) [stays_selectOne]

theorem leaves_raceTwo_down (fade : U8) (delay : Int) : Leaves (raceTwo .down fade delay) := by
  refine hits_seq_right (hits_forEach (a := 0x0E) (mem_downTo.mpr (by decide)) ?_)
  exact hits_steps (List.mem_cons_self ..) (leaves_selectOne (by simp [Mapped]) 0)

theorem stays_flowOne (state : ChaseState) (fade : U8) (delay : Int) (color : FlowColor) :
    Stays (flowOne state fade delay color) := by
  refine keeps_seq (stays_modeChange _ _) ?_
  cases state with
  | up =>
    exact stays_upTo fun i hlo hhi => by
      simp (disch := omega) [stays_selectOne]
  | down =>
    exact stays_downTo fun i hlo hhi => by
      simp (disch := omega) [stays_selectOne]

theorem stays_flowTwo_up (fade : U8) (delay : Int) (color : FlowColor) :
    Stays (flowTwo .up fade delay color) := by
  refine keeps_seq (stays_modeChange _ _) (stays_upTo fun j hlo hhi => ?_)
  simp (disch := omega) [stays_selectOne]

theorem leaves_flowTwo_down (fade : U8) (delay : Int) (color : FlowColor) :
    Leaves (flowTwo .down fade delay color) := by
  refine hits_seq_right (hits_forEach (a := 0x0E) (mem_downTo.mpr (by decide)) ?_)
  exact hits_steps (List.mem_cons_self ..) (leaves_selectOne (by simp [Mapped]) 0)

inductive Helper where
  | selectColor (color : Selection)
  | chaseOne (state : ChaseState) (fade : U8) (delay : Int)
  | chaseTwo (state : ChaseState) (fade : U8) (delay : Int)
  | chaseThree (state : ChaseState) (fade : U8) (delay : Int)
  | chaseFour (state : ChaseState) (fade : U8) (delay : Int)
  | chase2Colors (state : ChaseState) (fade : U8) (delay : Int)
  | raceTwo (state : ChaseState) (fade : U8) (delay : Int)
  | flowOne (state : ChaseState) (fade : U8) (delay : Int) (color : FlowColor)
  | flowTwo (state : ChaseState) (fade : U8) (delay : Int) (color : FlowColor)
deriving DecidableEq, Repr

def Helper.call : Helper → Driver
  | .selectColor color => Ktd2058.selectColor color
  | .chaseOne state fade delay => Ktd2058.chaseOne state fade delay
  | .chaseTwo state fade delay => Ktd2058.chaseTwo state fade delay
  | .chaseThree state fade delay => Ktd2058.chaseThree state fade delay
  | .chaseFour state fade delay => Ktd2058.chaseFour state fade delay
  | .chase2Colors state fade delay => Ktd2058.chase2Colors state fade delay
  | .raceTwo state fade delay => Ktd2058.raceTwo state fade delay
  | .flowOne state fade delay color => Ktd2058.flowOne state fade delay color
  | .flowTwo state fade delay color => Ktd2058.flowTwo state fade delay color

def Helper.overruns : Helper → Prop
  | .selectColor _ => True
  | .chaseOne state _ _ => state = .up
  | .raceTwo state _ _ => state = .down
  | .flowTwo state _ _ _ => state = .down
  | _ => False

theorem leaves_not_stays {p : Driver} (h : Leaves p) : ¬ Stays p := by
  intro hs
  obtain ⟨e, he, hout⟩ := h default
  exact hout (hs default e he)

theorem helper_stays_iff (helper : Helper) : Stays helper.call ↔ ¬ helper.overruns := by
  cases helper with
  | selectColor color =>
    exact iff_of_false (leaves_not_stays (leaves_selectColor color)) (not_not_intro trivial)
  | chaseOne state fade delay =>
    cases state with
    | up => exact iff_of_false (leaves_not_stays (leaves_chaseOne_up fade delay)) (· rfl)
    | down => exact iff_of_true (stays_chaseOne_down fade delay) (fun h => nomatch h)
  | chaseTwo state fade delay => exact iff_of_true (stays_chaseTwo state fade delay) id
  | chaseThree state fade delay => exact iff_of_true (stays_chaseThree state fade delay) id
  | chaseFour state fade delay => exact iff_of_true (stays_chaseFour state fade delay) id
  | chase2Colors state fade delay => exact iff_of_true (stays_chase2Colors state fade delay) id
  | raceTwo state fade delay =>
    cases state with
    | up => exact iff_of_true (stays_raceTwo_up fade delay) (fun h => nomatch h)
    | down => exact iff_of_false (leaves_not_stays (leaves_raceTwo_down fade delay)) (· rfl)
  | flowOne state fade delay color => exact iff_of_true (stays_flowOne state fade delay color) id
  | flowTwo state fade delay color =>
    cases state with
    | up => exact iff_of_true (stays_flowTwo_up fade delay color) (fun h => nomatch h)
    | down => exact iff_of_false (leaves_not_stays (leaves_flowTwo_down fade delay color)) (· rfl)

@[simp] theorem stays_breath (fadeOn fadeOff : U8) (timeOn timeOff : Int) :
    Stays (breath fadeOn fadeOff timeOn timeOff) := keeps_steps (by simp)

theorem stays_brFlowerDemo (rand : Nat → U8) : Stays (brFlowerDemo rand) :=
  keeps_steps (by simp [stays_setRandomPalette])

theorem leaves_breath2Colors (fadeOn fadeOff : U8) (timeOn timeOff : Int) :
    Leaves (breath2Colors fadeOn fadeOff timeOn timeOff) :=
  hits_steps (List.mem_cons_self ..) (leaves_selectColor .color0)

theorem leaves_breathDemo : Leaves breathDemo := by
  refine hits_seq_right (hits_seq_right (hits_seq_right (hits_seq_left ?_)))
  exact hits_forEach (a := 0x99) (by decide) (hits_seq_left (leaves_selectColor _))

theorem leaves_breathWhite : Leaves breathWhite :=
  hits_steps (by simp) (leaves_selectColor .color0)

theorem leaves_breathLogscale (fade ired igrn iblu : U8) :
    Leaves (breathLogscale fade ired igrn iblu) :=
  hits_steps (by simp) (leaves_selectColor .color0)

theorem leaves_chasingDemo : Leaves chasingDemo :=
  hits_steps (List.mem_cons_self ..) (leaves_selectColor .off)

theorem leaves_chaseAmzDemo : Leaves chaseAmzDemo :=
  hits_steps (by simp) (leaves_selectColor .color1)

theorem leaves_racingDemo : Leaves racingDemo :=
  hits_steps (List.mem_cons_self ..) (leaves_selectColor .off)

theorem leaves_flowingDemo : Leaves flowingDemo :=
  hits_steps (by simp) (leaves_selectColor .off)

theorem chaseEffect_stays {level : ChaseLevel} (h : ¬ level.overruns) :
    Stays (chaseEffect level) := by
  cases level with
  | chaseOff => exact keeps_skip
  | chaseUp1 => exact absurd trivial h
  | chaseDown1 => exact stays_chaseOne_down 3 1500
  | chaseUp2 => exact stays_chaseTwo .up 3 1500
  | chaseDown2 => exact stays_chaseTwo .down 3 1500
  | chaseUp3 => exact stays_chaseThree .up 3 1500
  | chaseDown3 => exact stays_chaseThree .down 3 1500
  | chaseUp4 => exact stays_chaseFour .up 3 1500
  | chaseDown4 => exact stays_chaseFour .down 3 1500
  | chase2ColorsUp => exact stays_chase2Colors .up 3 1500
  | chase2ColorsDown => exact stays_chase2Colors .down 3 1500
  | chaseDemo => exact absurd trivial h
  | chaseAmz => exact absurd trivial h
  | unnamed value => exact keeps_skip

theorem chaseEffect_leaves {level : ChaseLevel} (h : level.overruns) :
    Leaves (chaseEffect level) := by
  cases level with
  | chaseUp1 => exact leaves_chaseOne_up 3 1500
  | chaseDemo => exact leaves_chasingDemo
  | chaseAmz => exact leaves_chaseAmzDemo
  | _ => exact h.elim

theorem breathingEffect_stays (rand : Nat → U8) {level : BrLevel} (h : ¬ level.overruns) :
    Stays (breathingEffect rand level) := by
  cases level with
  | brNormal => exact stays_breath _ _ _ _
  | brFlowers => exact stays_brFlowerDemo rand
  | stop => exact stays_modeChange _ _
  | _ => exact absurd trivial h

theorem breathingEffect_leaves (rand : Nat → U8) {level : BrLevel} (h : level.overruns) :
    Leaves (breathingEffect rand level) := by
  cases level with
  | brOff => exact leaves_breathLogscale _ _ _ _
  | br2Colors => exact leaves_breath2Colors _ _ _ _
  | brLogscale => exact leaves_breathLogscale _ _ _ _
  | brDemo => exact leaves_breathDemo
  | brLogscaleDemo => exact leaves_breathLogscale _ _ _ _
  | brWhite => exact hits_seq_right leaves_breathWhite
  | brNormal => exact h.elim
  | brFlowers => exact h.elim
  | stop => exact h.elim

@[simp] theorem stays_cancelBoth : Stays cancelBoth := keeps_seq (keeps_assign _) (keeps_assign _)

@[simp] theorem stays_cancelWorkChase : Stays cancelWorkChase := keeps_assign _

@[simp] theorem stays_cancelWorkBreathing : Stays cancelWorkBreathing := keeps_assign _

@[simp] theorem stays_scheduleWorkChase : Stays scheduleWorkChase := keeps_assign _

@[simp] theorem stays_scheduleWorkBreathing : Stays scheduleWorkBreathing := keeps_assign _

theorem stays_storing {parsed : Parsed} {size : Nat} {body : UInt32 → Driver}
    (h : ∀ value, parsed = .ok value → Stays (body value)) : Stays (storing parsed size body) := by
  cases parsed with
  | error ret => exact keeps_emit trivial
  | ok value => exact keeps_seq (h value rfl) (keeps_emit trivial)

theorem leaves_storing {value : UInt32} {body : UInt32 → Driver} (h : Leaves (body value))
    (size : Nat) : Leaves (storing (.ok value) size body) := hits_seq_left h

theorem stays_modechangeStore (value : UInt32) : Stays (modechangeStore value) :=
  keeps_ite (fun _ => stays_modeChange _ _) fun _ =>
  keeps_ite (fun _ => stays_modeChange _ _) fun _ =>
  keeps_ite (fun _ => stays_modeChange _ _) fun _ =>
  keeps_ite (fun _ => stays_modeChange _ _) fun _ => keeps_skip

theorem stays_brDemoStoreAt (level : BrLevel) (value : UInt32) :
    Stays (brDemoStoreAt level value) := by
  have hstart : Stays (guarded (inRange value 100) (seq
      (assign (Chip.setBrOps fun b => { b with level, maxCnt := value.toNat }))
      scheduleWorkBreathing)) :=
    keeps_guarded fun _ => keeps_seq (keeps_assign _) (keeps_assign _)
  exact keeps_steps (by simp [hstart])

theorem stays_utilColorPalette (fade : U8) (delay : Int) : Stays (utilColorPalette fade delay) :=
  keeps_steps (by simp)

theorem stays_breathingStore (value : UInt32) : Stays (breathingStore value) := by
  refine keeps_steps ?_
  simp only [List.forall_mem_cons]
  refine ⟨stays_cancelBoth, stays_msleep 10, ?_, by simp⟩
  refine keeps_ite (fun _ => keeps_steps (by simp)) fun _ => keeps_guarded fun _ => ?_
  exact keeps_steps (by simp [stays_utilColorPalette])

theorem stays_br2ColorsStore (value : UInt32) : Stays (br2ColorsStore value) := by
  refine keeps_steps ?_
  simp only [List.forall_mem_cons]
  exact ⟨stays_cancelBoth, stays_msleep 10, keeps_guarded fun _ => keeps_steps (by simp), by simp⟩

theorem stays_brLogscaleStore (value : UInt32) : Stays (brLogscaleStore value) := by
  have hmode : Stays (reading fun c => modeChange NORMAL_MODE c.brOps.fadeOn) :=
    keeps_reading fun _ => stays_modeChange _ _
  refine keeps_steps ?_
  simp only [List.forall_mem_cons]
  exact ⟨stays_cancelBoth, stays_msleep 10,
    keeps_guarded fun _ => keeps_steps (by simp [hmode]), by simp⟩

theorem stays_chaseStore {value : UInt32} (h : ¬ (value = 9 ∨ value = 10)) :
    Stays (chaseStore value) := by
  have hmode : Stays (reading fun c => modeChange NORMAL_MODE c.chaseOps.fade) :=
    keeps_reading fun _ => stays_modeChange _ _
  refine keeps_steps ?_
  simp only [List.forall_mem_cons]
  refine ⟨keeps_seq (keeps_assign _) (keeps_assign _), keeps_guarded fun _ => ?_, by simp⟩
  refine keeps_steps ?_
  simp only [List.forall_mem_cons]
  refine ⟨keeps_assign _, ?_, hmode, keeps_assign _, by simp⟩
  refine keeps_ite (fun hv => absurd hv h) fun _ => ?_
  exact keeps_ite (fun _ => keeps_assign _) fun _ =>
    keeps_ite (fun _ => keeps_assign _) fun _ =>
    keeps_ite (fun _ => keeps_assign _) fun _ => keeps_skip

theorem stays_racingDemoStore {value : UInt32} (h : ¬ (value = 1 ∨ value = 2)) :
    Stays (racingDemoStore value) :=
  keeps_ite (fun hv => absurd (.inl hv) h) fun _ =>
  keeps_ite (fun hv => absurd (.inr hv) h) fun _ => keeps_skip

theorem stays_controlStore (limit : UInt32) (mask : U8) (lo : Nat)
    (set : Nat → PlatformData → PlatformData) (value : UInt32) :
    Stays (controlStore limit mask lo set value) :=
  keeps_seq (keeps_assign _) (stays_maskedWrite _ _)

theorem body_stays {attr : StoreAttr} {value : UInt32} (h : ¬ attr.overruns value) :
    Stays (attr.body value) := by
  cases attr with
  | mode => exact stays_modechangeStore value
  | brightextend => exact keeps_seq stays_cancelBoth (stays_controlStore _ _ _ _ value)
  | fadeRate => exact keeps_seq stays_cancelBoth (stays_controlStore _ _ _ _ value)
  | ceTemp => exact stays_controlStore _ _ _ _ value
  | breathing => exact stays_breathingStore value
  | br2colors => exact stays_br2ColorsStore value
  | brlogscale => exact stays_brLogscaleStore value
  | brDemo => exact stays_brDemoStoreAt _ value
  | brWhite => exact keeps_steps (by simp)
  | brLogscaleDemo => exact stays_brDemoStoreAt _ value
  | flower => exact keeps_guarded fun _ => keeps_steps (by simp)
  | chase => exact stays_chaseStore h
  | chasingDemo => exact keeps_guarded fun _ => keeps_steps (by simp)
  | racing => exact stays_racingDemoStore h
  | debug => exact keeps_skip

theorem leaves_chaseStore {value : UInt32} (h : value = 9 ∨ value = 10) :
    Leaves (chaseStore value) := by
  have hlow : value < 20 := by rcases h with rfl | rfl <;> decide
  refine hits_seq_right (hits_seq_left ?_)
  rw [guarded, if_pos hlow]
  refine hits_seq_right (hits_seq_left ?_)
  rw [if_pos h]
  exact hits_steps (by simp) (leaves_selectColor .off)

theorem leaves_racingDemoStore {value : UInt32} (h : value = 1 ∨ value = 2) :
    Leaves (racingDemoStore value) := by
  rcases h with rfl | rfl
  · exact hits_steps (by simp) leaves_racingDemo
  · exact hits_steps (by simp) leaves_flowingDemo

theorem body_leaves {attr : StoreAttr} {value : UInt32} (h : attr.overruns value) :
    Leaves (attr.body value) := by
  cases attr with
  | chase => exact leaves_chaseStore h
  | racing => exact leaves_racingDemoStore h
  | _ => exact h.elim

theorem stays_chaseRepeat : Stays chaseRepeat :=
  keeps_reading fun _ => keeps_ite (fun _ => keeps_seq (keeps_assign _) (keeps_assign _))
    fun _ => keeps_seq (keeps_assign _) (stays_modeChange _ _)

theorem stays_breathingRepeat : Stays breathingRepeat :=
  keeps_reading fun _ => keeps_ite (fun _ => keeps_assign _) fun _ => keeps_assign _

theorem store_inMap_iff (c : Chip) (attr : StoreAttr) (parsed : Parsed) (size : Nat) :
    InMap c (.store attr parsed size) ↔ ¬ Overruns c (.store attr parsed size) := by
  constructor
  · rintro h ⟨value, rfl, hv⟩
    have hleaves : Leaves (attr.handler (.ok value) size) :=
      hits_ite (hits_seq_right (leaves_storing (body_leaves hv) size))
        (leaves_storing (body_leaves hv) size)
    obtain ⟨e, he, hout⟩ := hleaves c
    exact hout (h e he)
  · intro h
    have hbody : Stays (storing parsed size attr.body) :=
      stays_storing fun value hv => body_stays fun ho => h ⟨value, hv, ho⟩
    exact keeps_ite (fun _ => keeps_seq stays_cancelBoth hbody) (fun _ => hbody) c

theorem stays_restoringShow (mask : U8) (lo : Nat) (cached : PlatformData → Nat)
    (restore : Nat → PlatformData → PlatformData) :
    Stays (restoringShow mask lo cached restore) :=
  keeps_reading fun _ => keeps_seq (keeps_guarded fun _ => keeps_assign _) (keeps_emit trivial)

theorem read_inMap (c : Chip) (attr : ShowAttr) : InMap c (.read attr) := by
  have hshow : Stays attr.handler := by
    cases attr with
    | brightextend => exact stays_restoringShow _ _ _ _
    | fadeRate => exact stays_restoringShow _ _ _ _
    | ceTemp => exact stays_restoringShow _ _ _ _
    | brWhite =>
      simp only [ShowAttr.handler, brWhiteShow]
      exact keeps_reading fun _ => keeps_emit trivial
    | info =>
      simp only [ShowAttr.handler, deviceInfo]
      exact keeps_reading fun _ => keeps_emit trivial
    | version => exact keeps_emit trivial
  exact hshow c

theorem chaseWork_inMap_iff (c : Chip) : InMap c .chaseWork ↔ ¬ Overruns c .chaseWork := by
  cases hw : c.workChase with
  | false => simp [InMap, Overruns, act, reading, guarded, skip, hw]
  | true =>
    rw [InMap, act_chaseWork hw]
    constructor
    · rintro h ⟨-, hlevel⟩
      have hleaves : Leaves (steps [cancelWorkChase, cancelWorkBreathing,
          chaseEffect c.chaseOps.level, chaseRepeat]) :=
        hits_steps (by simp) (chaseEffect_leaves hlevel)
      obtain ⟨e, he, hout⟩ := hleaves c
      exact hout (h e he)
    · intro h
      have heffect := chaseEffect_stays fun hlevel => h ⟨hw, hlevel⟩
      exact keeps_steps (by simp [heffect, stays_chaseRepeat]) c

theorem breathingWork_inMap_iff (c : Chip) (rand : Nat → U8) :
    InMap c (.breathingWork rand) ↔ ¬ Overruns c (.breathingWork rand) := by
  cases hw : c.workBreathing with
  | false => simp [InMap, Overruns, act, reading, guarded, skip, hw]
  | true =>
    rw [InMap, act_breathingWork hw]
    constructor
    · rintro h ⟨-, hlevel⟩
      have hleaves : Leaves (steps [cancelWorkBreathing, countBreath,
          breathingEffect rand c.brOps.level, breathingRepeat]) :=
        hits_steps (by simp) (breathingEffect_leaves rand hlevel)
      obtain ⟨e, he, hout⟩ := hleaves c
      exact hout (h e he)
    · intro h
      have heffect := breathingEffect_stays rand fun hlevel => h ⟨hw, hlevel⟩
      have hcount : Stays countBreath := keeps_assign _
      exact keeps_steps (by simp [heffect, hcount, stays_breathingRepeat]) c

theorem inMap_iff (c : Chip) (a : Action) : InMap c a ↔ ¬ Overruns c a := by
  cases a with
  | store attr parsed size => exact store_inMap_iff c attr parsed size
  | read attr => exact iff_of_true (read_inMap c attr) id
  | chaseWork => exact chaseWork_inMap_iff c
  | breathingWork rand => exact breathingWork_inMap_iff c rand

theorem writes_in_map_iff (regs : U8 → U8) (pdata : PlatformData) (actions : List Action) :
    Along actStep InMap (probe regs pdata).1 actions ↔
      Along actStep (fun c a => ¬ Overruns c a) (probe regs pdata).1 actions :=
  along_congr inMap_iff _ _

theorem chase_up_overruns :
    ¬ Along actStep InMap (probe (fun _ => 0) ⟨0, 0, 0⟩).1
      [.store .chase (.ok 1) 2, .chaseWork] := by
  rintro ⟨-, hwork, -⟩
  have hout : Event.write .selectOne 0x0F 0x80 ∈
      (act .chaseWork (actStep (probe (fun _ => 0) ⟨0, 0, 0⟩).1 (.store .chase (.ok 1) 2))).2 :=
    List.mem_of_getElem? (i := 37) rfl
  exact absurd (hwork _ hout).1.2 (by decide)

end Ktd2058
