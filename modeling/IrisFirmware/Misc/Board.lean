import Mathlib.Logic.Function.Basic
import Mathlib.Tactic

namespace PegaBoard

abbrev ENABLE : Nat := 1
abbrev DISABLE : Nat := 0

abbrev gpioLow : Int := 0
abbrev gpioHigh : Int := 1

abbrev padGpio8 : Nat := 16
abbrev padPmGpio2 : Nat := 69
abbrev padPmGpio1 : Nat := 70
abbrev padPmGpio0 : Nat := 71
abbrev padPmFuartRx : Nat := 80
abbrev padPmFuartTx : Nat := 81

abbrev audioShutdown : Nat := padGpio8
abbrev irCutIn1 : Nat := padPmFuartRx
abbrev irCutIn2 : Nat := padPmFuartTx
abbrev ledR : Nat := padPmGpio2
abbrev ledG : Nat := padPmGpio1
abbrev ledB : Nat := padPmGpio0

abbrev pwmCh6 : Nat := 6
abbrev pwmCh7 : Nat := 7
abbrev pwmLedFreq : Nat := 20000
abbrev pwmLedDuty : Nat := 50
abbrev pwmSpotLedFreq : Nat := 30000
abbrev pwmSpotLedDuty : Nat := 50

structure Pwm where
  period : Nat
  dutyCycle : Nat
  enable : Bool
deriving DecidableEq, Repr

-- coil holds the levels of the two filter inputs at the last pulse
structure Board where
  gpio : Nat → Bool
  pwm : Nat → Pwm
  coil : Option (Bool × Bool)
  bIrcutEnable : Int

def toU32 (v : Int) : Nat := (v % 2 ^ 32).toNat

def toU8 (v : Int) : Nat := (v % 2 ^ 8).toNat

def powerUp : Board := ⟨fun _ => false, fun _ => ⟨0, 0, false⟩, none, -1⟩

def pinOutputSet (b : Board) (sGpioNum : Nat) (bHigh : Int) : Board :=
  { b with gpio := Function.update b.gpio sGpioNum (decide (bHigh ≠ 0)) }

def irCut1CtrlOn (b : Board) : Board := pinOutputSet b irCutIn1 gpioLow
def irCut1CtrlOff (b : Board) : Board := pinOutputSet b irCutIn1 gpioHigh
def irCut2CtrlOn (b : Board) : Board := pinOutputSet b irCutIn2 gpioLow
def irCut2CtrlOff (b : Board) : Board := pinOutputSet b irCutIn2 gpioHigh

def ledRCtrlOn (b : Board) : Board := pinOutputSet b ledR gpioHigh
def ledRCtrlOff (b : Board) : Board := pinOutputSet b ledR gpioLow
def ledGCtrlOn (b : Board) : Board := pinOutputSet b ledG gpioHigh
def ledGCtrlOff (b : Board) : Board := pinOutputSet b ledG gpioLow
def ledBCtrlOn (b : Board) : Board := pinOutputSet b ledB gpioHigh
def ledBCtrlOff (b : Board) : Board := pinOutputSet b ledB gpioLow

def ampShutdownOn (b : Board) : Board := pinOutputSet b audioShutdown gpioLow
def ampShutdownOff (b : Board) : Board := pinOutputSet b audioShutdown gpioHigh

def hwAmpReset (b : Board) : Board := ampShutdownOff (ampShutdownOn b)

def irCutStatusSet (b : Board) (enable : Int) : Board := { b with bIrcutEnable := enable }

def pulse (b : Board) : Board := { b with coil := some (b.gpio irCutIn1, b.gpio irCutIn2) }

def irCutControl (b : Board) (bFlag : Nat) : Board :=
  let b := irCutStatusSet b bFlag
  let b := if bFlag = ENABLE then irCut2CtrlOn (irCut1CtrlOff b) else irCut2CtrlOff (irCut1CtrlOn b)
  irCut2CtrlOff (irCut1CtrlOff (pulse b))

def pwmConfig (b : Board) (pwm period dutyPercent : Nat) : Board :=
  let dutyCycle := period / 100 * dutyPercent % 2 ^ 32
  let channel := { b.pwm pwm with period := period, dutyCycle := dutyCycle }
  { b with pwm := Function.update b.pwm pwm channel }

def pwmControl (b : Board) (pwm : Nat) (bEnable : Int) : Board :=
  { b with pwm := Function.update b.pwm pwm { b.pwm pwm with enable := decide (bEnable = 1) } }

def irLedCtrlOn (b : Board) : Board := pwmControl b pwmCh6 1
def irLedCtrlOff (b : Board) : Board := pwmControl b pwmCh6 0
def spotLightCtrlOn (b : Board) : Board := pwmControl b pwmCh7 1
def spotLightCtrlOff (b : Board) : Board := pwmControl b pwmCh7 0

-- the outputs of Pega_Gpio_init that a modelled command drives
def gpioInit (b : Board) : Board :=
  [audioShutdown, irCutIn1, irCutIn2, ledR, ledG, ledB].foldl
    (fun b pin => pinOutputSet b pin gpioLow) b

def pwmInit (b : Board) (bIsOn : Nat) : Board :=
  let on : Int := if 1 < bIsOn then 1 else bIsOn
  let b := pwmControl (pwmConfig b pwmCh6 pwmLedFreq pwmLedDuty) pwmCh6 on
  pwmControl (pwmConfig b pwmCh7 pwmSpotLedFreq pwmSpotLedDuty) pwmCh7 on

def boardInit : Board := pwmInit (gpioInit powerUp) 0

def coilPulse (bFlag : Nat) : Bool × Bool := (decide (bFlag = ENABLE), decide (bFlag ≠ ENABLE))

section pinOutputSet

variable (b : Board) (p : Nat) (v : Int)

@[simp] theorem pinOutputSet_gpio_self : (pinOutputSet b p v).gpio p = decide (v ≠ 0) := by
  simp [pinOutputSet]

theorem pinOutputSet_gpio_other {q : Nat} (h : q ≠ p) :
    (pinOutputSet b p v).gpio q = b.gpio q := by
  simp [pinOutputSet, h]

end pinOutputSet

section pwmConfig

variable (b : Board) (ch : Nat)

@[simp] theorem pwmConfig_pwm_self (period duty : Nat) :
    (pwmConfig b ch period duty).pwm ch =
      { b.pwm ch with period := period, dutyCycle := period / 100 * duty % 2 ^ 32 } := by
  simp [pwmConfig]

theorem pwmConfig_pwm_other {c : Nat} (h : c ≠ ch) (period duty : Nat) :
    (pwmConfig b ch period duty).pwm c = b.pwm c := by
  simp [pwmConfig, h]

@[simp] theorem pwmControl_coil (v : Int) : (pwmControl b ch v).coil = b.coil := rfl

@[simp] theorem pwmControl_pwm_self (v : Int) :
    (pwmControl b ch v).pwm ch = { b.pwm ch with enable := decide (v = 1) } := by
  simp [pwmControl]

theorem pwmControl_pwm_other {c : Nat} (h : c ≠ ch) (v : Int) :
    (pwmControl b ch v).pwm c = b.pwm c := by
  simp [pwmControl, h]

end pwmConfig

section irCutControl

variable (b : Board) (bFlag : Nat)

@[simp] theorem irCutControl_coil : (irCutControl b bFlag).coil = some (coilPulse bFlag) := by
  by_cases h : bFlag = ENABLE <;>
    simp [irCutControl, irCut1CtrlOn, irCut1CtrlOff, irCut2CtrlOn, irCut2CtrlOff, pulse, h,
      pinOutputSet, irCutStatusSet, coilPulse]

@[simp] theorem irCutControl_pwm : (irCutControl b bFlag).pwm = b.pwm := by
  by_cases h : bFlag = ENABLE <;>
    simp [irCutControl, irCut1CtrlOn, irCut1CtrlOff, irCut2CtrlOn, irCut2CtrlOff, pulse, h,
      pinOutputSet, irCutStatusSet]

theorem irCutControl_gpio_other {q : Nat} (h1 : q ≠ irCutIn1) (h2 : q ≠ irCutIn2) :
    (irCutControl b bFlag).gpio q = b.gpio q := by
  by_cases h : bFlag = ENABLE <;>
    simp [irCutControl, irCut1CtrlOn, irCut1CtrlOff, irCut2CtrlOn, irCut2CtrlOff, pulse, h,
      pinOutputSet, irCutStatusSet, h1, h2]

end irCutControl

end PegaBoard
