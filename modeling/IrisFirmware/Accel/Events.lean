import IrisFirmware.Accel.Rate

namespace Lis2dw12

open Fallible

structure Event where
  irqMask : Byte
  reqOdr : Nat
deriving DecidableEq, Repr

-- the entries a table leaves out are zero
def events : HwId → EventId → Event
  | _, .FF => ⟨0x10, 25⟩
  | _, .WAKEUP => ⟨0x20, 25⟩
  | _, .SixD => ⟨0x80, 25⟩
  | .AIS2DW12, .TAP => ⟨0, 0⟩
  | .AIS2DW12, .DTAP => ⟨0, 0⟩
  | _, .TAP => ⟨0x40, 400⟩
  | _, .DTAP => ⟨0x08, 400⟩

def eventIds : List EventId := [.FF, .WAKEUP, .SixD, .TAP, .DTAP]

def manipulateBit (intReg irqMask : Byte) (en : Bool) : Byte :=
  (intReg &&& ~~~(1#8 <<< ffs irqMask)) ||| ((if en then 1#8 else 0#8) <<< ffs irqMask)

def checkEventsOdrDependency (hw : Hw) (odr : Nat) (id : EventId) (enable : Bool) : Nat :=
  eventIds.foldl (fun ret i =>
    let currentOdr := (events hw.hwId i).reqOdr
    if currentOdr = 0 then ret
    else if i ∈ hw.enableEvMask then
      if i = id ∧ ¬ enable then ret else max currentOdr (if enable then odr else ret)
    else if i = id then
      if enable then max currentOdr odr else ret
    else ret) 0

inductive ChanType where
  | ACCEL
  | TEMP
  | TIMESTAMP
deriving DecidableEq, Repr

inductive EvType where
  | THRESH
  | CHANGE
  | GESTURE
  | other
deriving DecidableEq, Repr

inductive EvDir where
  | EITHER
  | RISING
  | FALLING
  | SINGLETAP
  | DOUBLETAP
  | other
deriving DecidableEq, Repr

def eventOf : ChanType → EvType → EvDir → Option EventId
  | .ACCEL, .THRESH, .FALLING => some .FF
  | .ACCEL, .THRESH, .RISING => some .WAKEUP
  | .ACCEL, .CHANGE, .EITHER => some .SixD
  | .ACCEL, .GESTURE, .SINGLETAP => some .TAP
  | .ACCEL, .GESTURE, .DOUBLETAP => some .DTAP
  | _, _, _ => none

def configureEvent (id : EventId) (enable : Bool) : M Unit := do
  let intVal ← readLocked ctrl4Int1CtrlAddr
  let event := events (← get).hwId id
  writeLocked ctrl4Int1CtrlAddr (manipulateBit intVal event.irqMask enable)
  let reqOdr := checkEventsOdrDependency (← get) event.reqOdr id enable
  modify fun hw => { hw with reqOdrEvents := reqOdr }
  setOdr .ACC reqOdr
  modify fun hw => { hw with
    enableEvMask := if enable then insert id hw.enableEvMask else hw.enableEvMask.erase id }

def writeEventConfig (chan : ChanType) (type : EvType) (dir : EvDir) (enable : Bool) :
    M Unit := do
  match eventOf chan type dir with
  | none => throw .EINVAL
  | some id =>
    if id = .DTAP then
      writeWithMaskLocked wakeUpThsAddr singleDoubleTapMask (if enable then 1 else 0)
    configureEvent id enable

end Lis2dw12
