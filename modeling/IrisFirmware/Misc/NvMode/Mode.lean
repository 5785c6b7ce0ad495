import Mathlib.Data.Rat.Floor
import IrisFirmware.Library.Run
import IrisFirmware.Misc.Board

namespace PegaNvMode

open PegaBoard

abbrev TRUE : Nat := 1
abbrev FALSE : Nat := 0

abbrev notThing : Int := 0
abbrev nvModeDay : Int := 3
abbrev nvModeStateNight : Int := 2
abbrev nvModeStateMax : Nat := 3

structure NvDef where
  fLux : ℚ
  fOffset : ℚ
  fLuxCal : ℚ
  fNightModeThd : ℚ
  fDayModeThd : ℚ
  bNVModeSet : Nat
  bIsNVModeAuto : Nat
  bIsNightMode : Nat
  u8DayModeCounts : Nat
  u8NightModeCounts : Nat
  sTriggerCounts : Int
deriving DecidableEq, Repr

structure NvState where
  nv : NvDef
  initialLSValue : Int
  board : Board

def stNVmode : NvDef where
  fLux := 0xFFFFFF
  fOffset := 0
  fLuxCal := 1
  fNightModeThd := 2
  fDayModeThd := 5
  bNVModeSet := FALSE
  bIsNVModeAuto := TRUE
  bIsNightMode := nvModeStateMax
  u8DayModeCounts := 0
  u8NightModeCounts := 0
  sTriggerCounts := 4

def nvStart : NvState := ⟨stNVmode, 0x7FFFFFFF, boardInit⟩

def luxUpdate (s : NvState) (fLux : ℚ) : NvState :=
  let scaled := if s.nv.fLuxCal ≠ 0 then fLux * s.nv.fLuxCal else fLux
  let lux := scaled + s.nv.fOffset
  { s with
    nv := { s.nv with fLux := lux }
    initialLSValue :=
      if s.initialLSValue = 0x7FFFFFFF then lux.num.tdiv lux.den else s.initialLSValue }

def forceDayNightMode (b : Board) (isNightMode : Nat) : Board :=
  if isNightMode ≠ 0 then irLedCtrlOn (irCutControl b DISABLE)
  else irCutControl (irLedCtrlOff b) ENABLE

def nightModeSet (s : NvState) : NvState :=
  if s.nv.bIsNightMode = TRUE then s
  else { s with
    nv := { s.nv with bIsNightMode := TRUE }
    board := forceDayNightMode s.board TRUE }

def dayModeSet (s : NvState) : NvState :=
  if s.nv.bIsNightMode = FALSE then s
  else { s with
    nv := { s.nv with bIsNightMode := FALSE }
    board := forceDayNightMode s.board FALSE }

def setNightFlag (s : NvState) (m : Nat) : NvState :=
  { s with nv := { s.nv with bIsNightMode := m } }

def setModeSet (s : NvState) (flag : Nat) : NvState :=
  { s with nv := { s.nv with bNVModeSet := flag } }

def modeManualSet (s : NvState) : NvState :=
  if s.nv.bNVModeSet = TRUE then s
  else if s.nv.bIsNightMode = TRUE then setModeSet (nightModeSet (setNightFlag s FALSE)) TRUE
  else setModeSet (dayModeSet (setNightFlag s TRUE)) TRUE

def dayNighModeManualSet (s : NvState) (bNightMode : Nat) : NvState :=
  { s with nv := { s.nv with
    bNVModeSet := FALSE, bIsNightMode := bNightMode, bIsNVModeAuto := FALSE } }

def controlSet (s : NvState) (bFlag : Nat) : NvState :=
  { s with nv := { s.nv with
    bIsNVModeAuto := bFlag, u8DayModeCounts := 0, u8NightModeCounts := 0 } }

def setDayCounts (s : NvState) (n : Nat) : NvState :=
  { s with nv := { s.nv with u8DayModeCounts := n } }

def setNightCounts (s : NvState) (n : Nat) : NvState :=
  { s with nv := { s.nv with u8NightModeCounts := n } }

def nightReading (s : NvState) (rtn : Int) : NvState × Int :=
  if s.nv.fLux < s.nv.fNightModeThd then
    if s.nv.sTriggerCounts - 1 ≤ s.nv.u8NightModeCounts then
      (nightModeSet (setDayCounts s 0), nvModeStateNight)
    else (setNightCounts s ((s.nv.u8NightModeCounts + 1) % 2 ^ 8), rtn)
  else (s, rtn)

def dayReading (s : NvState) (rtn : Int) : NvState × Int :=
  if s.nv.fDayModeThd < s.nv.fLux then
    if s.nv.sTriggerCounts - 1 ≤ s.nv.u8DayModeCounts then
      (dayModeSet (setNightCounts s 0), nvModeDay)
    else (setDayCounts s ((s.nv.u8DayModeCounts + 1) % 2 ^ 8), rtn)
  else (s, rtn)

-- fLux is what OPT300x_Read_Lux_Handler returns to this call
def processing (s : NvState) (fLux : ℚ) : NvState × Int :=
  if s.nv.bIsNVModeAuto ≠ TRUE then (modeManualSet s, notThing)
  else if fLux < 0 then (s, notThing)
  else
    let r := nightReading (luxUpdate s fLux) notThing
    dayReading r.1 r.2

def diagLuxGet (s : NvState) (fLux : ℚ) : ℚ × NvState :=
  ((luxUpdate s fLux).nv.fLux, luxUpdate s fLux)

def diagForceDayNightMode (s : NvState) (isNightMode : Nat) : NvState :=
  let t := { s with nv := { s.nv with bIsNVModeAuto := FALSE, bNVModeSet := TRUE } }
  if t.nv.bIsNightMode ≠ isNightMode then
    { setNightFlag t isNightMode with board := forceDayNightMode t.board isNightMode }
  else t

inductive Op where
  | manualSet (bNightMode : Bool)
  | nightModeSet (dayNight : Bool)
  | controlSet (bFlag : Bool)
  | processing (fLux : ℚ)
  | force (isNightMode : Bool)
deriving DecidableEq, Repr

def step (s : NvState) : Op → NvState
  | .manualSet m => dayNighModeManualSet s m.toNat
  | .nightModeSet m => setNightFlag s m.toNat
  | .controlSet b => controlSet s b.toNat
  | .processing lux => (processing s lux).1
  | .force m => diagForceDayNightMode s m.toNat

@[simp] theorem forceDayNightMode_coil (b : Board) (m : Nat) :
    (forceDayNightMode b m).coil = some (coilPulse (if m ≠ 0 then DISABLE else ENABLE)) := by
  by_cases h : m = 0 <;> simp [forceDayNightMode, h, irLedCtrlOn, irLedCtrlOff]

@[simp] theorem forceDayNightMode_irLed (b : Board) (m : Nat) :
    ((forceDayNightMode b m).pwm pwmCh6).enable = decide (m ≠ 0) := by
  by_cases h : m = 0 <;> simp [forceDayNightMode, h, irLedCtrlOn, irLedCtrlOff]

example : (processing nvStart 1).2 = notThing := by decide +kernel

end PegaNvMode
