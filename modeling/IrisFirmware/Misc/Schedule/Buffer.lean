import IrisFirmware.Library.Run

namespace PegaSchedule

abbrev schBuffMax : Nat := 12
abbrev sch100ms : Nat := 1

abbrev schEVTNone : Nat := 0
abbrev schEVTDeleteAll : Nat := 1
abbrev schEVTLoadWifiFw : Nat := 2
abbrev schEVTSystemDiagCmdExecution : Nat := 200
abbrev schEVTSystemDebugInfoExecution : Nat := 201
abbrev schEVTFactoryReset : Nat := 202
abbrev schEVTMax : Nat := 203

structure SchDef where
  enEVT : Nat
  wTMCount : Int
  wTMTime : Int
deriving DecidableEq, Repr

structure Sched where
  schBuff : List SchDef
  schCnt : Nat
deriving DecidableEq, Repr

def toInt32 (w : Nat) : Int := Int.bmod w (2 ^ 32)

theorem toInt32_of_lt {w : Nat} (h : w < 2 ^ 31) : toInt32 w = (w : Int) := by
  have hlow : -((2 ^ 32 : Nat) : Int) ≤ (w : Int) * 2 := by
    have hneg : -((2 ^ 32 : Nat) : Int) ≤ 0 := by decide
    exact hneg.trans (by positivity)
  have hhigh : (w : Int) * 2 < ((2 ^ 32 : Nat) : Int) := by
    norm_num
    omega
  exact Int.bmod_eq_of_le_mul_two hlow hhigh

def slot (b : List SchDef) (i : Nat) : SchDef := b.getD i ⟨schEVTNone, 0, 0⟩

def buffReset (s : Sched) : Sched :=
  ⟨s.schBuff.map fun e => { e with enEVT := schEVTNone, wTMCount := 0 }, 0⟩

def timeoutCheck (e : SchDef) : SchDef × Bool :=
  if e.enEVT = schEVTNone then (e, false)
  else
    let ticked := { e with wTMTime := e.wTMTime + 1 }
    if 0 < ticked.wTMCount then
      let counted := { ticked with wTMCount := ticked.wTMCount - 1 }
      (counted, decide (counted.wTMCount ≤ 0))
    else (ticked, false)

def eventTimeoutCheck (s : Sched) (i : Nat) : Sched × Bool :=
  let r := timeoutCheck (slot s.schBuff i)
  ({ s with schBuff := s.schBuff.set i r.1 }, r.2)

def shiftDown (b : List SchDef) (i : Nat) : List SchDef :=
  (List.range' i (schBuffMax - 1 - i)).foldl (fun b k => b.set k (slot b (k + 1))) b

def buffReschedlue (s : Sched) (i : Nat) : Sched :=
  ⟨shiftDown s.schBuff i, if 0 < s.schCnt then s.schCnt - 1 else s.schCnt⟩

def eventGetFrom (s : Sched) (i : Nat) : Nat → Nat × Sched
  | 0 => (schEVTNone, s)
  | n + 1 =>
    let r := eventTimeoutCheck s i
    if r.2 then ((slot r.1.schBuff i).enEVT, buffReschedlue r.1 i)
    else eventGetFrom r.1 (i + 1) n

def eventGet (s : Sched) : Nat × Sched :=
  if s.schCnt = 0 then (schEVTNone, s) else eventGetFrom s 0 (s.schCnt + 1)

def eventFind (s : Sched) (eEvent : Nat) : Option Nat :=
  (List.range (s.schCnt + 1)).find? fun i => (slot s.schBuff i).enEVT == eEvent

def timeCountSet (s : Sched) (i wDelayTime : Nat) : Sched :=
  { s with schBuff :=
      s.schBuff.set i ⟨(slot s.schBuff i).enEVT, toInt32 wDelayTime, 0⟩ }

def eventStore (s : Sched) (eEvent : Nat) : Sched :=
  ⟨s.schBuff.set s.schCnt { slot s.schBuff s.schCnt with enEVT := eEvent }, s.schCnt + 1⟩

def eventPush (s : Sched) (eEvent wDelayTime : Nat) : Sched × Bool :=
  if schEVTMax ≤ eEvent then (s, false)
  else match eventFind s eEvent with
    | some i => (timeCountSet s i wDelayTime, true)
    | none =>
      if schBuffMax - 1 ≤ s.schCnt then (s, false)
      else (timeCountSet (eventStore s eEvent) s.schCnt wDelayTime, true)

def eventCancel (s : Sched) (ucEvent : Nat) : Sched × Bool :=
  if schEVTMax ≤ ucEvent then (s, false)
  else if ucEvent = schEVTDeleteAll then (buffReset s, true)
  else match eventFind s ucEvent with
    | some i => (buffReschedlue s i, true)
    | none => (s, false)

inductive Handler where
  | none
  | loadFirmwareEnable
  | diagMsgqCmdExecution
  | debugScheduleCommand
  | printed (eEvent : Nat)
deriving DecidableEq, Repr

def handlerOf (eEvent : Nat) : Handler :=
  if eEvent = schEVTNone ∨ eEvent = schEVTDeleteAll ∨ eEvent = schEVTFactoryReset then .none
  else if eEvent = schEVTLoadWifiFw then .loadFirmwareEnable
  else if eEvent = schEVTSystemDiagCmdExecution then .diagMsgqCmdExecution
  else if eEvent = schEVTSystemDebugInfoExecution then .debugScheduleCommand
  else .printed eEvent

def eventProcessing (s : Sched) : Handler × Sched := (handlerOf (eventGet s).1, (eventGet s).2)

def handlerStart : Sched := buffReset ⟨List.replicate schBuffMax ⟨0, 0, 0⟩, 0⟩

inductive Op where
  | push (eEvent wDelayTime : Nat)
  | cancel (ucEvent : Nat)
  | round
  | reset
deriving DecidableEq, Repr

def step (s : Sched) : Op → Sched
  | .push e d => (eventPush s e d).1
  | .cancel e => (eventCancel s e).1
  | .round => (eventGet s).2
  | .reset => buffReset s

example : (eventPush handlerStart 200 1).2 = true ∧
    (eventGet (eventPush handlerStart 200 1).1).1 = 200 := by decide

end PegaSchedule
