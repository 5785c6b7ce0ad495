import IrisFirmware.Accel.Driver
import IrisFirmware.Accel.Events

namespace Lis2dw12

open Fallible

-- what hw->odr_entry points at; behindNull is the place of the table in a settings at address 0
inductive OdrEntry where
  | null
  | behindNull
  | table (hwId : HwId)
deriving DecidableEq, Repr

structure EventHw extends Hw where
  odrEntry : OdrEntry
  sixDThreshold : Nat
  freefallThreshold : Nat
  wkThMg : Nat
  wkDurMs : Nat
  tapThreshold : Nat
  tapQuietTime : Nat
  tapShockTime : Nat
  dtapDuration : Nat

-- an oops is a bad pointer followed or a division by zero
inductive Fault where
  | errno (e : Errno)
  | oops
deriving DecidableEq, Repr

abbrev E (α : Type) := EStateM Fault EventHw α

def onDevice {α : Type} (x : M α) : E α := fun s =>
  match x s.toHw with
  | .ok a hw => .ok a { s with toHw := hw }
  | .error e hw => .error (.errno e) { s with toHw := hw }

def readWithMask (addr : Addr) (mask : Byte) : M Byte := do
  let data ← readLocked addr
  return Register.field mask (ffs mask) data

abbrev tapThsXAddr : Addr := 0x30
abbrev tapThsYAddr : Addr := 0x31
abbrev tapThsZAddr : Addr := 0x32
abbrev intDurAddr : Addr := 0x33
abbrev wakeUpDurAddr : Addr := 0x35
abbrev freeFallAddr : Addr := 0x36

abbrev tapThsMask : Byte := 0x1f
abbrev sixdThsMask : Byte := 0x60
abbrev shockMask : Byte := 0x03
abbrev quietMask : Byte := 0x0c
abbrev latencyMask : Byte := 0xf0
abbrev wakeUpDurMask : Byte := 0x60
abbrev freeFallThsMask : Byte := 0x07

def fsXlG : List Int := [2, 4, 8, 16]

def getXlFs : E Int := do
  let fsXl ← onDevice (readWithMask ctrl6Addr fsMask)
  return fsXlG.getD fsXl.toNat 0

-- none where *xl_odr is left as it was
def getXlOdr : E (Option Nat) := do
  let odrXl ← onDevice (readWithMask ctrl1Addr odrMask)
  if odrXl = 0 then return none
  match (← get).odrEntry with
  | .table hwId =>
    match (odrTable hwId .ACC).find? (·.val = odrXl) with
    | some entry => return some entry.hz
    | none => throw (.errno .EINVAL)
  | _ => throw .oops

-- odr is what the local variable of that name holds before it is assigned
def getDefaultXlOdr (odr : Int) (id : EventId) : E Int := do
  let xlOdr ← getXlOdr
  let odr := (xlOdr.map Int.ofNat).getD odr
  let reqOdr : Int := (events (← get).hwId id).reqOdr
  return if reqOdr < odr then odr else reqOdr

def int32 (v : Int) : Int := Int.bmod v (2 ^ 32)

def u32 (v : Int) : Nat := (v % 2 ^ 32).toNat

def u8 (v : Int) : Nat := (v % 2 ^ 8).toNat

-- the cast to u8 comes before the comparison with the maximum
def saturated (mask : Byte) (tmp : Int) : Nat := min (u8 tmp) (mask >>> ffs mask).toNat

def divided (a b : Int) : Option Int := if b = 0 then none else some (a.tdiv b)

def wakeUpThersholdCode (mg fs : Int) : Option Nat :=
  (divided (int32 (mg * 64)) (fs * 1000)).map (saturated wakeUpThsMask)

def wakeUpDurationCode (ms rate : Int) : Option Nat :=
  (divided (int32 (ms * rate)) 32000).map (saturated wakeUpDurMask)

def tapThresholdCode (mg fs : Int) : Option Nat :=
  (divided (int32 (mg * 32)) (fs * 1000)).map (saturated tapThsMask)

-- up to shortest / rate the code is 0, above it one step is lsb / rate
def tapTimeCode (mask : Byte) (shortest lsb ms rate : Int) : Option Nat := do
  let idle ← divided shortest rate
  let tmp ← if ms ≤ idle then some 0 else divided (int32 (ms * rate)) lsb
  return saturated mask tmp

def tapQuietTimeCode (ms rate : Int) : Option Nat := tapTimeCode quietMask 2000 4000 ms rate

def tapShockTimeCode (ms rate : Int) : Option Nat := tapTimeCode quietMask 4000 8000 ms rate

def dtapDurationCode (ms rate : Int) : Option Nat := tapTimeCode latencyMask 16000 32000 ms rate

def writeFields (code : Nat) : List (Addr × Byte) → E Unit
  | [] => return
  | r :: rs => do
    onDevice (writeWithMaskLocked r.1 r.2 code)
    writeFields code rs

def writeCode (code : Option Nat) (rs : List (Addr × Byte)) : E Unit :=
  match code with
  | some code => writeFields code rs
  | none => throw .oops

def setWakeUpThershold (mg : Int) : E Unit := do
  let fs ← getXlFs
  writeCode (wakeUpThersholdCode mg fs) [(wakeUpThsAddr, wakeUpThsMask)]
  modify fun s => { s with wkThMg := u32 mg }

def setWakeUpDuration (odr ms : Int) : E Unit := do
  let rate ← getDefaultXlOdr odr .WAKEUP
  writeCode (wakeUpDurationCode ms rate) [(wakeUpDurAddr, wakeUpDurMask)]
  modify fun s => { s with wkDurMs := u32 ms }

def setTapThreshold (mg : Int) : E Unit := do
  let fs ← getXlFs
  writeCode (tapThresholdCode mg fs)
    [(tapThsXAddr, tapThsMask), (tapThsYAddr, tapThsMask), (tapThsZAddr, tapThsMask)]
  modify fun s => { s with tapThreshold := u32 mg }

def setTapQuietTime (odr : Int) (ms : Nat) : E Unit := do
  let rate ← getDefaultXlOdr odr .TAP
  writeCode (tapQuietTimeCode ms rate) [(intDurAddr, quietMask)]
  modify fun s => { s with tapQuietTime := ms }

def setTapShockTime (odr : Int) (ms : Nat) : E Unit := do
  let rate ← getDefaultXlOdr odr .TAP
  writeCode (tapShockTimeCode ms rate) [(intDurAddr, shockMask)]
  modify fun s => { s with tapShockTime := ms }

def setDtapDuration (odr ms : Int) : E Unit := do
  let rate ← getDefaultXlOdr odr .TAP
  writeCode (dtapDurationCode ms rate) [(intDurAddr, latencyMask)]
  modify fun s => { s with dtapDuration := u32 ms }

structure Threshold where
  val : Byte
  least : Nat
deriving DecidableEq, Repr

def freeFallThreshold : List Threshold :=
  [⟨0x00, 156⟩, ⟨0x01, 219⟩, ⟨0x02, 250⟩, ⟨0x03, 312⟩, ⟨0x04, 344⟩, ⟨0x05, 406⟩, ⟨0x06, 469⟩,
    ⟨0x07, 500⟩]

def sixDThresholds : List Threshold := [⟨0x00, 80⟩, ⟨0x01, 70⟩, ⟨0x02, 60⟩, ⟨0x03, 50⟩]

-- the table's mg is a u32, so the request is compared as one
def setFreefallThreshold (mg : Int) : E Unit := do
  match freeFallThreshold.find? (·.least ≤ u32 mg) with
  | none => throw (.errno .EINVAL)
  | some entry =>
    onDevice (writeWithMaskLocked freeFallAddr freeFallThsMask entry.val)
    modify fun s => { s with freefallThreshold := u32 mg }

def set6DThreshold (deg : Int) : E Unit := do
  match sixDThresholds.find? (fun entry => (entry.least : Int) ≤ deg) with
  | none => throw (.errno .EINVAL)
  | some entry =>
    onDevice (writeWithMaskLocked tapThsXAddr sixdThsMask entry.val)
    modify fun s => { s with sixDThreshold := u32 deg }

inductive EvInfo where
  | VALUE
  | PERIOD
  | RESET_TIMEOUT
  | TAP2_MIN_DELAY
  | other
deriving DecidableEq, Repr

def writeEventValue (odr : Int) (chan : ChanType) (type : EvType) (dir : EvDir) (info : EvInfo)
    (val : Int) : E Unit :=
  match chan, type, dir, info with
  | .ACCEL, .THRESH, .FALLING, .VALUE => setFreefallThreshold val
  | .ACCEL, .THRESH, .RISING, .VALUE => setWakeUpThershold val
  | .ACCEL, .THRESH, .RISING, .PERIOD => setWakeUpDuration odr val
  | .ACCEL, .CHANGE, .EITHER, .VALUE => set6DThreshold val
  | .ACCEL, .GESTURE, .SINGLETAP, .VALUE => setTapThreshold val
  | .ACCEL, .GESTURE, .SINGLETAP, .RESET_TIMEOUT => setTapQuietTime odr (u8 val)
  | .ACCEL, .GESTURE, .DOUBLETAP, .VALUE => setTapThreshold val
  | .ACCEL, .GESTURE, .DOUBLETAP, .RESET_TIMEOUT => setTapQuietTime odr (u8 val)
  | .ACCEL, .GESTURE, .DOUBLETAP, .TAP2_MIN_DELAY => setDtapDuration odr val
  | _, _, _, _ => throw (.errno .EINVAL)

end Lis2dw12
