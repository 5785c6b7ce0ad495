import IrisFirmware.Accel.Rate

namespace Lis2dw12

open Fallible

-- the six bytes of one FIFO entry
abbrev Sample := BitVec 48

structure Push where
  sample : Sample
  ts : Int
  now : Int
deriving DecidableEq, Repr

-- clock and fifo hold the coming readings of the clock and the coming entries of the FIFO;
-- pushed holds what reached the accelerometer's buffer
structure Driver extends Hw where
  gain : SensorId → Nat
  stdLevel : Nat
  watermark : Nat
  samples : Nat
  deltaTs : Int
  tsIrq : Int
  ts : Int
  buffered : Finset SensorId
  cacheDirty : Bool
  clock : Nat → Int
  fifo : Nat → Sample
  pushed : List Push

abbrev D (α : Type) := EStateM Errno Driver α

def onHw {α : Type} (x : M α) : D α := within Driver.toHw (fun hw d => { d with toHw := hw }) x

-- IIO_G_TO_M_S_2 of the kernel the driver is built with
class Kernel where
  gToMS2 : Nat → Nat

@[reducible] def truncating : Kernel := ⟨fun g => g * 980665 / 100000⟩

open Kernel

variable [Kernel]

def probedDriver {hwId : HwId} (rates : Rates hwId) (dev : Addr → Byte)
    (cache : Addr → Option Byte) (clock : Nat → Int) (fifo : Nat → Sample) : Driver where
  toHw := probed rates dev cache
  gain
    | .ACC => gToMS2 244
    | .TEMP => 16
  stdLevel := 0
  watermark := 1
  samples := 0
  deltaTs := 0
  tsIrq := 0
  ts := 0
  buffered := ∅
  cacheDirty := false
  clock := clock
  fifo := fifo
  pushed := []

def u16 (val : Int) : Nat := (val % 65536).toNat

def claimDirectMode (sensor : SensorId) : D Unit := do
  if sensor ∈ (← get).buffered then throw .EBUSY

structure StdEntry where
  odr : Nat
  val : Nat
deriving DecidableEq, Repr

def stdTable : List StdEntry :=
  [⟨12, 12⟩, ⟨25, 18⟩, ⟨50, 24⟩, ⟨100, 24⟩, ⟨200, 32⟩, ⟨400, 48⟩, ⟨800, 64⟩, ⟨1600, 64⟩]

structure Fs where
  gain : Nat
  val : Byte
deriving DecidableEq, Repr

def fsTable : SensorId → List Fs
  | .ACC => [⟨gToMS2 244, 0x0⟩, ⟨gToMS2 488, 0x1⟩, ⟨gToMS2 976, 0x2⟩, ⟨gToMS2 1952, 0x3⟩]
  | .TEMP => [⟨16, 0x0⟩]

abbrev ctrl6Addr : Addr := 0x25
abbrev fsMask : Byte := 0x30
abbrev fifoCtrlAddr : Addr := 0x2e
abbrev fifoModeMask : Byte := 0xe0
abbrev fthMask : Byte := 0x1f
abbrev fifoSamplesDiffMask : Byte := 0x3f
abbrev fifoSamplesOvrMask : Byte := 0x40
abbrev statusFthMask : Byte := 0x80

abbrev fifoBypass : Byte := 0x0
abbrev fifoContinuous : Byte := 0x6

def setFs (sensor : SensorId) (gain : Nat) : D Unit := do
  match (fsTable sensor).find? (gain ≤ ·.gain) with
  | none => throw .EINVAL
  | some fs =>
    onHw (writeWithMaskLocked ctrl6Addr fsMask fs.val)
    modify fun d => { d with gain := Function.update d.gain sensor gain }

def setStdLevel (odr : Nat) : D Unit := do
  match stdTable.find? (·.odr = odr) with
  | none => throw .EINVAL
  | some entry => modify fun d => { d with stdLevel := entry.val }

inductive InfoMask where
  | SCALE
  | SAMP_FREQ
  | other
deriving DecidableEq, Repr

def writeRaw (sensor : SensorId) (val val2 : Int) (mask : InfoMask) : D Unit := do
  claimDirectMode sensor
  match mask with
  | .SCALE =>
    if sensor = .TEMP then throw .EINVAL
    setFs sensor (u16 val2)
  | .SAMP_FREQ =>
    if sensor = .ACC then setStdLevel (u16 val)
    let _ ← onHw (getOdrIdx sensor (u16 val))
    modify fun d => { d with odr := Function.update d.odr sensor (u16 val) }
  | .other => throw .EINVAL

def readRaw (sensor : SensorId) (addr : Addr) : D Int := do
  claimDirectMode sensor
  onHw (readOneshot sensor addr)

end Lis2dw12
