import Mathlib.Tactic

namespace PegaMotor

abbrev awReverse : Nat := 0
abbrev awForward : Nat := 1
abbrev awFullStep : Nat := 0
abbrev awHalfStep : Nat := 1

structure Itimerspec where
  intervalSec : Int
  intervalNsec : Int
  valueSec : Int
  valueNsec : Int
deriving DecidableEq, Repr

-- timed is a run that steps until the timer started before it expires, or one that earlier
-- commands left pending: the handler of each deletes the newest timer and ends the loop
inductive Act where
  | gpioInit
  | setEnable (enSelect bIsRisingMotor : Bool)
  | stepFunction (direction modeSelect cycleCount : Nat)
  | timed (direction modeSelect : Nat) (timer : Itimerspec) (pending : List Int)
deriving DecidableEq, Repr

structure Motor where
  fullStepDelay : Nat
  halfStepDelay : Nat
  timer : Option Itimerspec
  isTimeout : Bool
  acts : List Act
deriving DecidableEq, Repr

def u8 (x : Int) : Nat := (x % 256).toNat

def u32 (x : Int) : Nat := (x % 2 ^ 32).toNat

def Motor.act (m : Motor) (a : Act) : Motor := { m with acts := m.acts ++ [a] }

def setSpeedLevel (speedLevel : Nat) (m : Motor) : Motor :=
  match speedLevel with
  | 1 => { m with fullStepDelay := 20000, halfStepDelay := 10000 }
  | 2 => { m with fullStepDelay := 10000, halfStepDelay := 5000 }
  | 3 => { m with fullStepDelay := 5000, halfStepDelay := 2500 }
  | 4 => { m with fullStepDelay := 2500, halfStepDelay := 1250 }
  | _ => { m with fullStepDelay := 5000, halfStepDelay := 2500 }

-- none is a division by zero
def setRotateSpeed (angleS stepAngle : Nat) (m : Motor) : Option Motor :=
  if stepAngle = 0 then none
  else
    let nStep := angleS * 10 % 2 ^ 32 / stepAngle
    if nStep = 0 then none
    else
      let nUs := 1000000 / nStep
      some { m with fullStepDelay := nUs, halfStepDelay := nUs / 2 }

def timerSpec (u32msecs : Nat) : Itimerspec :=
  let freqNanosecs : Int := u32msecs * 1000000 % 2 ^ 32
  let sec : Int := u32msecs / 1000
  let nsec : Int := freqNanosecs % 1000000000
  ⟨sec, nsec, sec, nsec⟩

def timerStart (u32msecs : Nat) (m : Motor) : Int × Motor :=
  if u32msecs = 0 then (-1, m)
  else (0, { m with timer := some (timerSpec u32msecs), isTimeout := false })

def timerHandler (m : Motor) : Motor := { m with timer := none, isTimeout := true }

def secondFunctionAction (direction modeSelect : Nat) (pending : List Int) (m : Motor) : Motor :=
  if m.isTimeout then m
  else
    match m.timer with
    | some timer => timerHandler (m.act (.timed direction modeSelect timer pending))
    | none => m

def motorLaunchByTime (bIsRisingMotor : Bool) (direction modeSelect speed u32msecs : Nat)
    (pending : List Int) (m : Motor) : Motor :=
  let m := m.act .gpioInit
  let m := m.act (.setEnable true bIsRisingMotor)
  let m := setSpeedLevel speed m
  let (rtn, m) := timerStart u32msecs m
  let m := if -1 < rtn then secondFunctionAction direction modeSelect pending m else m
  m.act (.setEnable false bIsRisingMotor)

def test (bIsRisingMotor : Bool) (m : Motor) : Option Motor := do
  let m := m.act .gpioInit
  let m := m.act (.setEnable true bIsRisingMotor)
  let m := setSpeedLevel 3 m
  let m := m.act (.stepFunction awForward awFullStep 400)
  let m ← setRotateSpeed 360 9 m
  let m := m.act (.stepFunction awReverse awHalfStep 800)
  return m.act (.setEnable false bIsRisingMotor)

-- perTurn is the number of steps of 360 degrees, rounded to the nearest from the float quotient
def rotateDegrees (bIsRisingMotor : Bool) (modeSelect perTurn direction : Nat) (degree : Int)
    (m : Motor) : Motor :=
  if degree < 0 then m
  else
    let degree := (min degree 360).toNat
    let direction := if direction < awForward then awReverse else awForward
    let steps := (2 * degree * perTurn + 360) / 720 * 42
    let m := m.act .gpioInit
    let m := m.act (.setEnable true bIsRisingMotor)
    let m := setSpeedLevel 3 m
    let m := m.act (.stepFunction direction modeSelect steps)
    m.act (.setEnable false bIsRisingMotor)

def panRotateDegrees : Nat → Int → Motor → Motor := rotateDegrees false awHalfStep 96

def risingRotateDegrees : Nat → Int → Motor → Motor := rotateDegrees true awFullStep 24

def awd8833cDebug (eCmdSetId value1 value2 : Int) (pending : List Int) (m : Motor) :
    Option Motor :=
  match eCmdSetId with
  | 1 => test (0 < value1) m
  | 2 => some (panRotateDegrees (u8 value1) value2 m)
  | 3 => some (risingRotateDegrees (u8 value1) value2 m)
  | 11 =>
    some (motorLaunchByTime false awReverse awHalfStep (u8 value1) (u32 value2) pending m)
  | 12 =>
    some (motorLaunchByTime false awForward awHalfStep (u8 value1) (u32 value2) pending m)
  | 13 =>
    some (motorLaunchByTime true awReverse awFullStep (u8 value1) (u32 value2) pending m)
  | 14 =>
    some (motorLaunchByTime true awForward awFullStep (u8 value1) (u32 value2) pending m)
  | 15 =>
    some (motorLaunchByTime false awReverse awFullStep (u8 value1) (u32 value2) pending m)
  | 16 =>
    some (motorLaunchByTime false awForward awFullStep (u8 value1) (u32 value2) pending m)
  | 17 =>
    some (motorLaunchByTime true awReverse awHalfStep (u8 value1) (u32 value2) pending m)
  | 18 =>
    some (motorLaunchByTime true awForward awHalfStep (u8 value1) (u32 value2) pending m)
  | 70 => setRotateSpeed (u32 value1) (u8 value2) m
  | 82 => some (timerStart (u32 value1) m).2
  | _ => some m

inductive DebugCmdId where
  | Debug_Msg_Control
  | Debug_Print
  | Debug_Set
  | Debug_Get
  | Debug_Motor
  | Schedule_Event
  | other
deriving DecidableEq, Repr

structure DebugMsg where
  eCmdId : DebugCmdId
  value1 : Int
  value2 : Int
  value3 : Int
deriving DecidableEq, Repr

inductive SysDebugCmdId where
  | none
  | Info
  | Set
  | Get
  | Motor
deriving DecidableEq, Repr

structure DebugCmd where
  eCmdId : SysDebugCmdId
  value1 : Int
  value2 : Int
  value3 : Int
deriving DecidableEq, Repr

def debugCommandsProcesser (msg : DebugMsg) (cmd : DebugCmd) : DebugCmd :=
  match msg.eCmdId with
  | .Debug_Print => { cmd with eCmdId := .Info, value1 := msg.value1 }
  | .Debug_Set => ⟨.Set, msg.value1, msg.value2, msg.value3⟩
  | .Debug_Get => { cmd with eCmdId := .Get, value1 := msg.value1 }
  | .Debug_Motor => ⟨.Motor, msg.value1, msg.value2, msg.value3⟩
  | _ => cmd

def debugScheduleCommand (cmd : DebugCmd) (pending : List Int) (m : Motor) : Option Motor :=
  match cmd.eCmdId with
  | .Motor => awd8833cDebug cmd.value1 cmd.value2 cmd.value3 pending m
  | _ => some m

def motorMessage (eCmdSetId : Int) (value1 value2 : BitVec 32) : DebugMsg :=
  ⟨.Debug_Motor, eCmdSetId, value1.toInt, value2.toInt⟩

-- pending are the times, in nanoseconds, after which the timers still running expire
def handled (msg : DebugMsg) (cmd : DebugCmd) (pending : List Int) (m : Motor) : Option Motor :=
  debugScheduleCommand (debugCommandsProcesser msg cmd) pending m

theorem u32_toInt (x : BitVec 32) : u32 x.toInt = x.toNat := by
  have hmod : x.toInt % (2 ^ 32 : Nat) = x.toNat % (2 ^ 32 : Nat) := by
    rw [BitVec.toInt_eq_toNat_bmod, Int.bmod_emod]
  have hlt := x.isLt
  rw [u32]
  norm_num at hmod hlt ⊢
  omega

section timed

def deadline (timer : Itimerspec) : Int := timer.valueSec * 1000000000 + timer.valueNsec

def Lasts (ms : Nat) (timer : Itimerspec) : Prop :=
  deadline timer = ms * 1000000 ∧ 0 ≤ timer.valueNsec ∧ timer.valueNsec < 1000000000

def runTime (timer : Itimerspec) (pending : List Int) : Int :=
  pending.foldl min (deadline timer)

def launchActs (bIsRisingMotor : Bool) (direction modeSelect : Nat) (timer : Itimerspec)
    (pending : List Int) : List Act :=
  [.gpioInit, .setEnable true bIsRisingMotor, .timed direction modeSelect timer pending,
    .setEnable false bIsRisingMotor]

structure RunsFor (ms : BitVec 32) (pending : List Int) : Prop where
  deadline : ∀ m, ∃ timer, timerStart ms.toNat m =
    (0, { m with timer := some timer, isTimeout := false }) ∧ Lasts ms.toNat timer
  launch : ∀ eCmdSetId, 11 ≤ eCmdSetId → eCmdSetId ≤ 18 → ∀ (speed : BitVec 32) cmd m,
    ∃ bIsRisingMotor direction modeSelect timer m',
      handled (motorMessage eCmdSetId speed ms) cmd pending m = some m' ∧
      m'.acts = m.acts ++ launchActs bIsRisingMotor direction modeSelect timer pending ∧
      runTime timer pending = ms.toNat * 1000000

theorem no_wraps {q k sec : Nat} (hq : q < 1000000)
    (heq : 4294967296 * q + 1000000000 * k = 1000000000 * sec) : q = 0 := by
  have hw : 8388608 * q + 1953125 * k = 1953125 * sec := by linarith
  have hdvd : 1953125 ∣ 8388608 * q := (Nat.dvd_add_left ⟨k, rfl⟩).1 ⟨sec, hw⟩
  have hzero : 1953125 ∣ q := Nat.Coprime.dvd_of_dvd_mul_left (by norm_num) hdvd
  exact Nat.eq_zero_of_dvd_of_lt hzero (by linarith)

theorem product_of_exact {ms : Nat} (h : ms < 4294967296)
    (heq : ms / 1000 * 1000000000 + ms * 1000000 % 4294967296 % 1000000000 = ms * 1000000) :
    ms * 1000000 < 4294967296 := by
  have hq := Nat.div_add_mod (ms * 1000000) 4294967296
  have hk := Nat.div_add_mod (ms * 1000000 % 4294967296) 1000000000
  have hlt : ms * 1000000 / 4294967296 < 1000000 := Nat.div_lt_of_lt_mul (by linarith)
  have hzero : ms * 1000000 / 4294967296 = 0 :=
    @no_wraps _ (ms * 1000000 % 4294967296 / 1000000000) (ms / 1000) hlt (by linarith)
  rw [hzero] at hq
  have := Nat.mod_lt (ms * 1000000) (show 4294967296 > 0 by norm_num)
  linarith

theorem exact_of_product {ms : Nat} (h : ms * 1000000 < 4294967296) :
    ms / 1000 * 1000000000 + ms * 1000000 % 4294967296 % 1000000000 = ms * 1000000 := by
  rw [Nat.mod_eq_of_lt h]
  have hms := Nat.div_add_mod ms 1000
  have hsplit : ms * 1000000 = ms % 1000 * 1000000 + 1000000000 * (ms / 1000) := by linarith
  have hlt : ms % 1000 * 1000000 < 1000000000 := by
    have := Nat.mod_lt ms (show 1000 > 0 by norm_num)
    linarith
  rw [hsplit, Nat.add_mul_mod_self_left, Nat.mod_eq_of_lt hlt]
  linarith

theorem lasts_timerSpec {ms : Nat} : Lasts ms (timerSpec ms) ↔
    ms / 1000 * 1000000000 + ms * 1000000 % 4294967296 % 1000000000 = ms * 1000000 := by
  have hlt := Nat.mod_lt (ms * 1000000 % 4294967296) (show 1000000000 > 0 by norm_num)
  rw [Lasts, deadline, timerSpec]
  norm_num
  constructor
  case mp => exact fun h => by exact_mod_cast h.1
  case mpr =>
    exact fun h => ⟨by exact_mod_cast h, Int.emod_nonneg _ (by norm_num), by exact_mod_cast hlt⟩

theorem lasts_timerSpec_iff {ms : Nat} (h : ms < 4294967296) :
    Lasts ms (timerSpec ms) ↔ ms ≤ 4294 := by
  rw [lasts_timerSpec]
  constructor
  case mp =>
    intro heq
    have := product_of_exact h heq
    linarith
  case mpr => exact fun hle => exact_of_product (by linarith)

theorem timerStart_of_pos {u32msecs : Nat} (h : 1 ≤ u32msecs) (m : Motor) :
    timerStart u32msecs m =
      (0, { m with timer := some (timerSpec u32msecs), isTimeout := false }) := by
  rw [timerStart, if_neg (Nat.ne_of_gt h)]

theorem motorLaunchByTime_acts {u32msecs : Nat} (h : 1 ≤ u32msecs) (bIsRisingMotor : Bool)
    (direction modeSelect speed : Nat) (pending : List Int) (m : Motor) :
    (motorLaunchByTime bIsRisingMotor direction modeSelect speed u32msecs pending m).acts =
      m.acts ++ launchActs bIsRisingMotor direction modeSelect (timerSpec u32msecs) pending := by
  have hkeep : ∀ m : Motor, (setSpeedLevel speed m).acts = m.acts := by
    intro m
    unfold setSpeedLevel
    split <;> rfl
  simp [motorLaunchByTime, timerStart_of_pos h, secondFunctionAction, timerHandler, Motor.act,
    launchActs, hkeep]

theorem motor_launches {eCmdSetId : Int} (hlow : 11 ≤ eCmdSetId) (hhigh : eCmdSetId ≤ 18)
    (speed ms : BitVec 32) (cmd : DebugCmd) (pending : List Int) (m : Motor) :
    ∃ bIsRisingMotor direction modeSelect,
      handled (motorMessage eCmdSetId speed ms) cmd pending m =
        some (motorLaunchByTime bIsRisingMotor direction modeSelect (u8 speed.toInt)
          ms.toNat pending m) := by
  rw [← u32_toInt ms]
  interval_cases eCmdSetId
  all_goals exact ⟨_, _, _, rfl⟩

theorem foldl_min_eq_iff {pending : List Int} {t : Int} :
    pending.foldl min t = t ↔ ∀ left ∈ pending, t ≤ left := by
  have hle : pending.foldl min t ≤ t := List.foldl_min.trans_le (min_le_left _ _)
  have hge : t ≤ pending.foldl min t ↔ ∀ left ∈ t :: pending, t ≤ left :=
    List.le_min?_iff List.min?_cons'
  rw [List.forall_mem_cons, and_iff_right le_rfl] at hge
  exact ⟨fun h => hge.mp h.ge, fun h => hle.antisymm (hge.mpr h)⟩

theorem runTime_eq_iff {ms : Nat} {timer : Itimerspec} (h : Lasts ms timer) (pending : List Int) :
    runTime timer pending = ms * 1000000 ↔ ∀ left ∈ pending, ms * 1000000 ≤ left := by
  rw [runTime, ← h.1, foldl_min_eq_iff]

theorem motor_runs_as_long_as_asked_iff (ms : BitVec 32) (h : 1 ≤ ms.toNat) (pending : List Int) :
    RunsFor ms pending ↔ ms.toNat ≤ 4294 ∧ ∀ left ∈ pending, ms.toNat * 1000000 ≤ left := by
  have hlt : ms.toNat < 4294967296 := ms.isLt
  constructor
  case mp =>
    intro hruns
    obtain ⟨timer, hstart, hlasts⟩ := hruns.deadline ⟨0, 0, none, false, []⟩
    rw [timerStart_of_pos h] at hstart
    simp only [Prod.mk.injEq, Motor.mk.injEq, Option.some.injEq] at hstart
    rw [← hstart.2.2.2.1] at hlasts
    refine ⟨(lasts_timerSpec_iff hlt).1 hlasts, ?_⟩
    obtain ⟨b, d, s, timer, m', hrun, hacts, htime⟩ :=
      hruns.launch 11 (by decide) (by decide) 1#32 ⟨.none, 0, 0, 0⟩ ⟨0, 0, none, false, []⟩
    obtain ⟨b', d', s', hrun'⟩ := @motor_launches 11 (by decide) (by decide) 1#32 ms
      ⟨.none, 0, 0, 0⟩ pending ⟨0, 0, none, false, []⟩
    rw [← Option.some.inj (hrun'.symm.trans hrun), motorLaunchByTime_acts h] at hacts
    have hsame : timerSpec ms.toNat = timer := by
      simp only [launchActs, List.nil_append, List.cons.injEq, Act.timed.injEq] at hacts
      exact hacts.2.2.1.2.2.1
    rw [← hsame] at htime
    exact (runTime_eq_iff hlasts pending).1 htime
  case mpr =>
    intro ⟨hle, hpending⟩
    have hlasts := (lasts_timerSpec_iff hlt).2 hle
    refine ⟨fun m => ⟨_, timerStart_of_pos h m, hlasts⟩, ?_⟩
    intro eCmdSetId hlow hhigh speed cmd m
    obtain ⟨bIsRisingMotor, direction, modeSelect, hrun⟩ :=
      motor_launches hlow hhigh speed ms cmd pending m
    exact ⟨bIsRisingMotor, direction, modeSelect, _, _, hrun,
      motorLaunchByTime_acts h _ _ _ _ pending m, (runTime_eq_iff hlasts pending).2 hpending⟩

theorem one_second_runs_as_long_as_asked : RunsFor 1000#32 [2000000000] :=
  (motor_runs_as_long_as_asked_iff 1000#32 (by decide) [2000000000]).mpr ⟨by decide, by decide⟩

theorem five_seconds_run_short : ¬ ∀ ms : BitVec 32, 1 ≤ ms.toNat → RunsFor ms [] := by
  intro h
  obtain ⟨timer, hstart, hlasts⟩ := (h 5000#32 (by decide)).deadline ⟨0, 0, none, false, []⟩
  have hspec : some timer = some ⟨5, 705032704, 5, 705032704⟩ :=
    (congrArg (fun r => r.2.timer) hstart).symm
  cases hspec
  exact absurd hlasts.1 (by decide)

end timed

section rotate

def stepsPerSecond (angle step : Int) : Int := (10 * angle).fdiv step

structure RotatesAsAsked (value1 value2 : BitVec 32) : Prop where
  total : ∀ cmd pending m, (handled (motorMessage 70 value1 value2) cmd pending m).isSome
  operands : 1 ≤ stepsPerSecond value1.toInt value2.toInt →
    (u32 value1.toInt * 10 % 2 ^ 32 : Nat) = 10 * value1.toInt ∧
      u8 value2.toInt = value2.toInt
  delays : 1 ≤ stepsPerSecond value1.toInt value2.toInt → ∀ cmd pending m m',
    handled (motorMessage 70 value1 value2) cmd pending m = some m' →
      m'.fullStepDelay = 1000000 / stepsPerSecond value1.toInt value2.toInt ∧
      m'.halfStepDelay = m'.fullStepDelay / 2
  refused : ¬ 1 ≤ stepsPerSecond value1.toInt value2.toInt → ∀ cmd pending m m',
    handled (motorMessage 70 value1 value2) cmd pending m = some m' →
      m'.fullStepDelay = m.fullStepDelay ∧ m'.halfStepDelay = m.halfStepDelay

def ExactRate (angle step : Int) : Prop :=
  0 < step ∧ step ≤ 255 ∧ step ≤ 10 * angle ∧ 10 * angle < 2 ^ 32

theorem handled_rotate (value1 value2 : BitVec 32) (cmd : DebugCmd) (pending : List Int)
    (m : Motor) : handled (motorMessage 70 value1 value2) cmd pending m =
      setRotateSpeed (u32 value1.toInt) (u8 value2.toInt) m :=
  rfl

theorem one_le_fdiv_iff {x step : Int} (hstep : 0 < step) : 1 ≤ x.fdiv step ↔ step ≤ x := by
  rw [Int.fdiv_eq_ediv_of_nonneg x hstep.le, Int.le_ediv_iff_mul_le hstep, one_mul]

theorem exactRate_of_operands {value1 value2 : BitVec 32}
    (hrate : 1 ≤ stepsPerSecond value1.toInt value2.toInt)
    (hangle : (u32 value1.toInt * 10 % 2 ^ 32 : Nat) = 10 * value1.toInt)
    (hstep : u8 value2.toInt = value2.toInt) : ExactRate value1.toInt value2.toInt := by
  have hne : value2.toInt ≠ 0 := by
    intro hzero
    rw [stepsPerSecond, hzero, Int.fdiv_zero] at hrate
    exact absurd hrate (by decide)
  have hbyte : u8 value2.toInt < 256 := by
    have := Int.emod_lt_of_pos value2.toInt (show 0 < 256 by decide)
    rw [u8]
    omega
  have hpos : 0 < value2.toInt := by omega
  refine ⟨hpos, by omega, (one_le_fdiv_iff hpos).1 hrate, ?_⟩
  rw [← hangle]
  exact_mod_cast Nat.mod_lt _ (by norm_num)

theorem operands_of_exactRate {angle step : Int} (h : ExactRate angle step) :
    ((u32 angle * 10 % 2 ^ 32 : Nat) : Int) = 10 * angle ∧ (u8 step : Int) = step := by
  obtain ⟨hpos, hbyte, hle, hlt⟩ := h
  rw [u32, u8]
  norm_num at hlt ⊢
  omega

theorem setRotateSpeed_of_exactRate {angle step : Int} (h : ExactRate angle step) (m : Motor) :
    ∃ nUs : Nat, nUs = 1000000 / stepsPerSecond angle step ∧
      setRotateSpeed (u32 angle) (u8 step) m =
        some { m with fullStepDelay := nUs, halfStepDelay := nUs / 2 } := by
  obtain ⟨hangle, hstep⟩ := operands_of_exactRate h
  obtain ⟨hpos, hbyte, hle, hlt⟩ := h
  have hrate : ((u32 angle * 10 % 2 ^ 32 / u8 step : Nat) : Int) = stepsPerSecond angle step := by
    rw [stepsPerSecond, Int.fdiv_eq_ediv_of_nonneg _ hpos.le, ← hangle, Int.natCast_div, hstep]
  have hnStep : u32 angle * 10 % 2 ^ 32 / u8 step ≠ 0 := by
    have := (one_le_fdiv_iff hpos).2 hle
    rw [← stepsPerSecond] at this
    omega
  refine ⟨1000000 / (u32 angle * 10 % 2 ^ 32 / u8 step), ?_, ?_⟩
  · rw [← hrate]
    norm_cast
  · rw [setRotateSpeed, if_neg (by omega), if_neg hnStep]

theorem setRotateSpeed_forgets {angleS stepAngle : Nat} {m n : Motor}
    (h : setRotateSpeed angleS stepAngle m ≠ none) :
    ∃ m' n', setRotateSpeed angleS stepAngle m = some m' ∧
      setRotateSpeed angleS stepAngle n = some n' ∧ m'.fullStepDelay = n'.fullStepDelay := by
  unfold setRotateSpeed at h ⊢
  split at h
  case isTrue => exact absurd rfl h
  case isFalse hstep =>
    dsimp only at h
    split at h
    case isTrue => exact absurd rfl h
    case isFalse hnStep =>
      rw [if_neg hstep, if_neg hstep]
      dsimp only
      rw [if_neg hnStep, if_neg hnStep]
      exact ⟨_, _, rfl, rfl, rfl⟩

theorem motor_rotates_as_asked_iff (value1 value2 : BitVec 32) :
    RotatesAsAsked value1 value2 ↔ ExactRate value1.toInt value2.toInt := by
  constructor
  case mp =>
    intro hasked
    by_cases hrate : 1 ≤ stepsPerSecond value1.toInt value2.toInt
    case pos =>
      obtain ⟨hangle, hstep⟩ := hasked.operands hrate
      exact exactRate_of_operands hrate hangle hstep
    case neg =>
      let slow : Motor := ⟨20000, 10000, none, false, []⟩
      let fast : Motor := ⟨2500, 1250, none, false, []⟩
      let idle : DebugCmd := ⟨.none, 0, 0, 0⟩
      have hsome : setRotateSpeed (u32 value1.toInt) (u8 value2.toInt) slow ≠ none :=
        Option.isSome_iff_ne_none.1 (hasked.total idle [] slow)
      obtain ⟨m', n', hm, hn, heq⟩ := @setRotateSpeed_forgets _ _ slow fast hsome
      have hslow := (hasked.refused hrate idle [] slow m' hm).1
      have hfast := (hasked.refused hrate idle [] fast n' hn).1
      rw [heq, hfast] at hslow
      exact absurd hslow (by decide)
  case mpr =>
    intro hexact
    have hrate : 1 ≤ stepsPerSecond value1.toInt value2.toInt :=
      (one_le_fdiv_iff hexact.1).2 hexact.2.2.1
    refine ⟨?_, fun _ => operands_of_exactRate hexact, ?_, fun h => absurd hrate h⟩
    · intro cmd pending m
      obtain ⟨nUs, -, hset⟩ := setRotateSpeed_of_exactRate hexact m
      rw [handled_rotate, hset]
      rfl
    · intro _ cmd pending m m' hrun
      obtain ⟨nUs, hval, hset⟩ := setRotateSpeed_of_exactRate hexact m
      rw [handled_rotate, hset] at hrun
      cases hrun
      exact ⟨hval, rfl⟩

theorem zero_step_angle_divides_by_zero : ¬ ∀ value1 value2, RotatesAsAsked value1 value2 := by
  intro h
  have := (h 360#32 0#32).total ⟨.none, 0, 0, 0⟩ [] ⟨5000, 2500, none, false, []⟩
  exact absurd this (by decide)

end rotate

end PegaMotor
