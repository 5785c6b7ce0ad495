import IrisFirmware.Accel.Driver

namespace Lis2dw12

open Fallible

def getTimestamp : D Int := do
  let d ← get
  set { d with clock := fun n => d.clock (n + 1) }
  return d.clock 0

def ewma (old new weight : Int) : Int := old + ((128 - weight) * (new - old)).tdiv 128

def updateFifo (sensor : SensorId) (enable : Bool) : D Unit := do
  if enable then
    let now ← getTimestamp
    modify fun d => { d with
      tsIrq := now
      ts := now
      deltaTs := (1000000000 : Int).tdiv (d.odr sensor) * d.watermark
      samples := 0 }
  if sensor = .ACC then
    onHw (writeWithMaskLocked fifoCtrlAddr fifoModeMask
      (if enable then fifoContinuous else fifoBypass))
  onHw (sensorSetEnable sensor enable)

def updateFifoWatermark (watermark : Byte) : D Unit :=
  onHw (writeWithMaskLocked fifoCtrlAddr fthMask watermark)

def setHwfifoWatermark (val : Int) : D Unit := do
  claimDirectMode .ACC
  if .ACC ∈ (← get).buffered then throw .EBUSY
  if val < 1 ∨ 31 < val then throw .EINVAL
  updateFifoWatermark (BitVec.ofInt 8 val)
  modify fun d => { d with watermark := val.toNat }

-- what the buffer core calls: preenable before a buffer takes samples, postdisable after
def enableBuffer (sensor : SensorId) : D Unit := do
  if sensor ∈ (← get).buffered then return
  updateFifo sensor true
  modify fun d => { d with buffered := insert sensor d.buffered }

def disableBuffer (sensor : SensorId) : D Unit := do
  if sensor ∉ (← get).buffered then return
  modify fun d => { d with buffered := d.buffered.erase sensor }
  updateFifo sensor false

def stamp (deltaTs : Int) (d : Driver) (sample : Sample) : Driver :=
  let d := { d with samples := d.samples + 1 }
  if d.samples < d.stdLevel then { d with ts := d.ts + deltaTs }
  else
    let now := d.clock 0
    let ts := min now d.ts
    { d with
      clock := fun n => d.clock (n + 1)
      ts := ts + deltaTs
      pushed := if .ACC ∈ d.buffered then d.pushed ++ [⟨sample, ts, now⟩] else d.pushed }

def readEntries (n : Nat) : D (List Sample) := do
  onHw (onRegmap (Regmap.transfer .busFault))
  let d ← get
  set { d with fifo := fun k => d.fifo (k + n) }
  return (List.range n).map d.fifo

abbrev dataSize : Nat := 6

def readChunk (deltaTs : Int) (n : Nat) : D Unit := do
  let buff ← readEntries n
  modify fun d => buff.foldl (stamp deltaTs) d

-- each chunk read shortens what is left, so fuel for every byte is enough
def readChunks (deltaTs : Int) : Nat → Nat → D Unit
  | 0, _ => return
  | fuel + 1, left => do
    if left = 0 then return
    let wordLen := min left (6 * dataSize)
    readChunk deltaTs (wordLen / dataSize)
    readChunks deltaTs fuel (left - wordLen)

def fifoLen (status : Byte) : Nat :=
  if status &&& fifoSamplesOvrMask = 0 then (status &&& fifoSamplesDiffMask).toNat * dataSize
  else fifoSamplesDiffMask.toNat * dataSize

def readFifo : D Nat := do
  let status ← onHw (readBytes [fifoSamplesAddr])
  let d ← get
  let deltaTs := d.deltaTs.tdiv d.watermark
  let len := fifoLen (status.getD 0 0)
  readChunks deltaTs len len
  return len

def flushFifo : D Unit := do
  let err ← outcome readFifo
  let now ← getTimestamp
  modify fun d => { d with tsIrq := now }
  match err with
  | .ok _ => return
  | .error e => throw e

def setFifoMode (mode : Byte) : D Unit :=
  onHw (writeWithMaskLocked fifoCtrlAddr fifoModeMask mode)

def flushFifoDuringResume : D Unit := ignoring readFifo

def suspendFifo : D Unit := do
  ignoring readFifo
  setFifoMode fifoBypass

def handlerIrq : D Unit := do
  let now ← getTimestamp
  modify fun d => { d with deltaTs := ewma d.deltaTs (now - d.tsIrq) 120, tsIrq := now }

def handlerThread : D Unit := ignoring do
  let status ← onHw (readBytes [statusAddr])
  if status.getD 0 0 &&& statusFthMask ≠ 0 then ignoring readFifo

end Lis2dw12
