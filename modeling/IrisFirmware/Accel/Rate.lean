import IrisFirmware.Accel.Device

namespace Lis2dw12

open Fallible

def getOdrIdx (id : SensorId) (odr : Nat) : M Nat := do
  match (odrTable (← get).hwId id).findIdx? (·.hz = odr) with
  | some i => return i
  | none => throw .EINVAL

def checkOdrDependency (hw : Hw) (odr : Nat) (refId : SensorId) : Nat :=
  if 0 < odr then
    if refId ∈ hw.enableMask then max (hw.odr refId) odr else odr
  else if refId ∈ hw.enableMask then hw.odr refId else 0

def updOdr (hw : Hw) (sensor : SensorId) (reqOdr : Nat) : Nat :=
  [SensorId.ACC, .TEMP].foldl (fun upd i =>
    if i = sensor then upd
    else
      let odr := checkOdrDependency hw upd i
      if upd < odr then odr else upd) reqOdr

def setOdr (sensor : SensorId) (reqOdr : Nat) : M Unit := do
  let hw ← get
  let upd := updOdr hw sensor reqOdr
  let (upd, mode) :=
    if 100 < upd then
      if hw.hwId ≠ .AIS2DW12 then (100, lpModeVal) else (upd, hpModeVal)
    else (upd, lpModeVal)
  let i ← getOdrIdx .ACC (max hw.reqOdrEvents (if 0 < reqOdr then upd else 0))
  let odr := ((odrTable hw.hwId .ACC).getD i ⟨0, 0⟩).val
  writeUncached ctrl1Addr ((odr <<< ffs odrMask) ||| (mode <<< ffs modeMask) ||| lp2ModeVal)

def sensorSetEnable (sensor : SensorId) (enable : Bool) : M Unit := do
  let hw ← get
  setOdr sensor (if enable then hw.odr sensor else 0)
  if enable then
    if sensor = .TEMP then
      modify fun hw => { hw with oldktime := 1000000000 / hw.odr sensor, hrTimer := true }
    modify fun hw => { hw with enableMask := insert sensor hw.enableMask }
  else
    if sensor = .TEMP then
      modify fun hw => { hw with iioWork := false, hrTimer := false }
    modify fun hw => { hw with enableMask := hw.enableMask.erase sensor }

def le16 (data : List Byte) : Int :=
  ((data.getD 1 0 ++ data.getD 0 0 : BitVec 16)).toInt

def readOneshot (sensor : SensorId) (addr : Addr) : M Int := do
  sensorSetEnable sensor true
  let data ← readBytes [addr, addr + 1]
  ignoring (sensorSetEnable sensor false)
  return if sensor = .ACC then le16 data else (le16 data).shiftRight 4

end Lis2dw12
