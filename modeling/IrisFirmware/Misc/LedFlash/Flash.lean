import IrisFirmware.Library.Run
import IrisFirmware.Library.Worker
import IrisFirmware.Misc.Board

namespace PegaLedFlash

open PegaBoard Worker

abbrev colorR : Nat := 1
abbrev colorG : Nat := 2
abbrev colorB : Nat := 4

@[match_pattern] abbrev patternNone : Nat := 0
@[match_pattern] abbrev patternColorRed : Nat := 1
@[match_pattern] abbrev patternColorGreen : Nat := 2
@[match_pattern] abbrev patternColorBlue : Nat := 3
@[match_pattern] abbrev patternColorCyan : Nat := 4
@[match_pattern] abbrev patternColorMagenta : Nat := 5
@[match_pattern] abbrev patternColorYellow : Nat := 6
@[match_pattern] abbrev patternColorWhite : Nat := 7
@[match_pattern] abbrev patternFlashingRed : Nat := 8
@[match_pattern] abbrev patternFlashingGreen : Nat := 9
@[match_pattern] abbrev patternFlashingBlue : Nat := 10
@[match_pattern] abbrev patternFlashingCyan : Nat := 11
@[match_pattern] abbrev patternFlashingMagenta : Nat := 12
@[match_pattern] abbrev patternFlashingYellow : Nat := 13
@[match_pattern] abbrev patternFlashingWhite : Nat := 14

@[match_pattern] abbrev stateNone : Nat := 0
@[match_pattern] abbrev stateOff : Nat := 1
@[match_pattern] abbrev stateSystemStartUp : Nat := 2
@[match_pattern] abbrev stateWifiReady : Nat := 3
@[match_pattern] abbrev stateWifiOff : Nat := 4
@[match_pattern] abbrev stateWifiFwError : Nat := 5
@[match_pattern] abbrev statePowerOff : Nat := 6

structure Flashing where
  bIsLedFlashing : Nat
  eLedFlashingPattern : Nat
  eLedFlashingColor : Nat
  u16Period : Nat
deriving DecidableEq, Repr

inductive Phase where
  | created
  | lit
  | dark
deriving DecidableEq, Repr

structure LedFlash where
  eLedState : Nat
  eLedStatePrev : Nat
  stLed : Flashing
  pool : Pool Phase
  board : Board

def ledFlashInit (b : Board) : LedFlash := ⟨stateNone, stateNone, ⟨0, 0, 0, 0⟩, vacant, b⟩

def hasColor (s : LedFlash) (color : Nat) : Bool := s.stLed.eLedFlashingColor &&& color ≠ 0

def onBoard (f : Board → Board) (s : LedFlash) : LedFlash := { s with board := f s.board }

@[simp] theorem onBoard_eLedState (f : Board → Board) (s : LedFlash) :
    (onBoard f s).eLedState = s.eLedState := rfl

@[simp] theorem onBoard_stLed (f : Board → Board) (s : LedFlash) :
    (onBoard f s).stLed = s.stLed := rfl

def colorsOn (s : LedFlash) : LedFlash :=
  let s := if hasColor s colorR then onBoard ledRCtrlOn s else s
  let s := if hasColor s colorG then onBoard ledGCtrlOn s else s
  if hasColor s colorB then onBoard ledBCtrlOn s else s

def colorsOff (s : LedFlash) : LedFlash :=
  let s := if hasColor s colorR then onBoard ledRCtrlOff s else s
  let s := if hasColor s colorG then onBoard ledGCtrlOff s else s
  if hasColor s colorB then onBoard ledBCtrlOff s else s

def taskStart (s : LedFlash) : LedFlash :=
  { s with stLed := { s.stLed with
    bIsLedFlashing := 1
    u16Period := if s.stLed.u16Period < 50 then 100 else s.stLed.u16Period } }

def taskHandler (phase : Phase) (s : LedFlash) : LedFlash × Phase :=
  match phase with
  | .created => (colorsOn (taskStart s), .lit)
  | .lit => (colorsOff s, .dark)
  | .dark => (colorsOn s, .lit)

def taskTurn (id : Nat) (s : LedFlash) : LedFlash :=
  match s.pool.threads.lookup id with
  | none => s
  | some phase =>
    let r := taskHandler phase s
    { r.1 with pool := resume id r.2 r.1.pool }

def handlerStart (s : LedFlash) : LedFlash := { s with pool := create .created s.pool }

def ledFlashingCheck (s : LedFlash) : Bool := 0 < s.stLed.bIsLedFlashing

def chanel (s : LedFlash) : LedFlash := { s with pool := cancel s.pool }

def ledsOff (s : LedFlash) : LedFlash :=
  onBoard ledBCtrlOff (onBoard ledGCtrlOff (onBoard ledRCtrlOff s))

def flashColor (s : LedFlash) (color : Nat) : LedFlash × Int :=
  (handlerStart { s with stLed := { s.stLed with eLedFlashingColor := color } }, 0)

def patternSet (s : LedFlash) (ePattern : Nat) : LedFlash × Int :=
  let s := ledsOff (chanel s)
  let s := { s with stLed := { s.stLed with
    eLedFlashingPattern := ePattern % 2 ^ 8
    u16Period := 500 } }
  match ePattern with
  | patternColorRed => (onBoard ledRCtrlOn s, 0)
  | patternColorGreen => (onBoard ledGCtrlOn s, 0)
  | patternColorBlue => (onBoard ledBCtrlOn s, 0)
  | patternColorCyan => (onBoard ledBCtrlOn (onBoard ledGCtrlOn s), 0)
  | patternColorMagenta => (onBoard ledBCtrlOn (onBoard ledRCtrlOn s), 0)
  | patternColorYellow => (onBoard ledGCtrlOn (onBoard ledRCtrlOn s), 0)
  | patternColorWhite => (onBoard ledBCtrlOn (onBoard ledGCtrlOn (onBoard ledRCtrlOn s)), 0)
  | patternFlashingRed => flashColor s colorR
  | patternFlashingGreen => flashColor s colorG
  | patternFlashingBlue => flashColor s colorB
  | patternFlashingCyan => flashColor s (colorG + colorB)
  | patternFlashingMagenta => flashColor s (colorR + colorB)
  | patternFlashingYellow => flashColor s (colorR + colorG)
  | patternFlashingWhite => flashColor s (colorR + colorG + colorB)
  | _ => (s, -1)

def patternPriorityTbl : List (Nat × Int) :=
  [(stateNone, 0), (stateOff, 1), (stateSystemStartUp, 5), (stateWifiReady, 10),
    (stateWifiOff, 10), (stateWifiFwError, 10), (statePowerOff, 100)]

def statePriorityGet (ePattern : Nat) : Int := (patternPriorityTbl.lookup ePattern).getD (-1)

def statePattern (estate : Nat) : Nat :=
  match estate with
  | stateOff => patternNone
  | stateSystemStartUp => patternFlashingYellow
  | stateWifiReady => patternColorBlue
  | stateWifiOff => patternColorYellow
  | stateWifiFwError => patternColorRed
  | statePowerOff => patternNone
  | _ => patternNone

def commitState (s : LedFlash) (estate : Nat) : LedFlash :=
  { s with
    eLedStatePrev := if s.eLedStatePrev ≠ s.eLedState then s.eLedState else s.eLedStatePrev
    eLedState := estate % 2 ^ 8 }

def stateSet (s : LedFlash) (estate : Nat) : LedFlash × Int :=
  if s.eLedState = estate then (s, 1)
  else if statePriorityGet estate < 0 then (s, -3)
  else if statePriorityGet estate < statePriorityGet s.eLedState then (s, -2)
  else patternSet (commitState s estate) (statePattern (estate % 2 ^ 8))

end PegaLedFlash
