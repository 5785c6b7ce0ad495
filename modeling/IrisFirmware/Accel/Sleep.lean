import IrisFirmware.Accel.Fifo
import IrisFirmware.Accel.Events

namespace Lis2dw12

open Fallible

abbrev wuInt1Mask : Byte := 0x20

def wakeUpSensors : Finset SensorId := {.ACC}

-- registers up to the last one, 0x3f
def regcacheRegs : List Addr := (List.range 0x40).map (BitVec.ofNat 8)

def regcacheMarkDirty : D Unit := modify fun d => { d with cacheDirty := true }

def regcacheSync : D Unit := do
  if (← get).cacheDirty then
    onHw (onRegmap (Regmap.sync isVolatileReg .busFault regcacheRegs))
    modify fun d => { d with cacheDirty := false }

def cancelWorkqueue : D Unit :=
  modify fun d => { d with iioWork := false, hrTimer := false }

-- the timer runs out and queues the work
def tempPollFunctionRead : D Unit := do
  if (← get).hrTimer then modify fun d => { d with hrTimer := false, iioWork := true }

def tempPollFunctionWork : D Unit := do
  if (← get).iioWork then
    modify fun d => { d with iioWork := false, hrTimer := true }
    ignoring (onHw (readBytes [tempOutTLAddr, tempOutTLAddr + 1]))

def configureWakeUp : M Unit := do
  let hw ← get
  onRegmap (Regmap.bypassed do
    Regmap.updateBits isVolatileReg .busFault ctrl4Int1CtrlAddr wuInt1Mask (shiftVal 0 wuInt1Mask)
    Regmap.updateBits isVolatileReg .busFault wakeUpThsAddr wakeUpThsMask
      (shiftVal 2 wakeUpThsMask)
    Regmap.write isVolatileReg .busFault ctrl1Addr
      (((odrTable hw.hwId .ACC).getD 2 ⟨0, 0⟩).val <<< ffs odrMask)
    let _ ← Regmap.read isVolatileReg .busFault allIntSrcAddr
    Regmap.updateBits isVolatileReg .busFault ctrl4Int1CtrlAddr wuInt1Mask (shiftVal 1 wuInt1Mask))

def suspendSensor (sensor : SensorId) : M Unit := do
  if sensor ∈ (← get).enableMask then
    if sensor ∈ wakeUpSensors then configureWakeUp else setOdr sensor 0

def suspendSensors : D Unit := do
  onHw (suspendSensor .ACC)
  onHw (suspendSensor .TEMP)

def suspend : D Unit := do
  cancelWorkqueue
  if .ACC ∈ (← get).enableMask then suspendFifo
  suspendSensors
  regcacheMarkDirty

def resumeSensor (sensor : SensorId) : M Unit := do
  let hw ← get
  if sensor ∈ hw.enableMask then setOdr sensor (hw.odr sensor)

def resumeSensors : D Unit := do
  onHw (resumeSensor .ACC)
  onHw (resumeSensor .TEMP)

def resume : D Unit := do
  flushFifoDuringResume
  ignoring regcacheSync
  if .ACC ∈ (← get).enableMask then ignoring (onHw (readBytes [allIntSrcAddr]))
  resumeSensors
  if .ACC ∈ (← get).enableMask then setFifoMode fifoContinuous

end Lis2dw12
