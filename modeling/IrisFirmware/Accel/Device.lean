import Mathlib.Data.Finset.Lattice.Fold
import IrisFirmware.Library.Regmap

namespace Lis2dw12

open Fallible Metered

inductive HwId where
  | LIS2DW12
  | IIS2DLPC
  | AIS2IH
  | AIS2DW12
deriving DecidableEq, Repr

inductive SensorId where
  | ACC
  | TEMP
deriving DecidableEq, Repr

inductive EventId where
  | FF
  | WAKEUP
  | SixD
  | TAP
  | DTAP
deriving DecidableEq, Repr

inductive Errno where
  | busFault
  | EINVAL
  | EBUSY
deriving DecidableEq, Repr

abbrev Addr := BitVec 8
abbrev Byte := BitVec 8

abbrev tempOutTLAddr : Addr := 0x0d
abbrev whoamiAddr : Addr := 0x0f
abbrev ctrl1Addr : Addr := 0x20
abbrev ctrl4Int1CtrlAddr : Addr := 0x23
abbrev outTAddr : Addr := 0x26
abbrev statusAddr : Addr := 0x27
abbrev outXLAddr : Addr := 0x28
abbrev outYLAddr : Addr := 0x2a
abbrev outZLAddr : Addr := 0x2c
abbrev fifoSamplesAddr : Addr := 0x2f
abbrev wakeUpThsAddr : Addr := 0x34
abbrev statusDupAddr : Addr := 0x37
abbrev wuSrcAddr : Addr := 0x38
abbrev tapSrcAddr : Addr := 0x39
abbrev sixdSrcAddr : Addr := 0x3a
abbrev allIntSrcAddr : Addr := 0x3b
abbrev absIntXAddr : Addr := 0x3c
abbrev absIntYAddr : Addr := 0x3d
abbrev absIntZAddr : Addr := 0x3e

abbrev odrMask : Byte := 0xf0
abbrev modeMask : Byte := 0x0c
abbrev wakeUpThsMask : Byte := 0x3f
abbrev singleDoubleTapMask : Byte := 0x80

abbrev lpModeVal : Byte := 0x00
abbrev hpModeVal : Byte := 0x01
abbrev lp2ModeVal : Byte := 0x01

def isVolatileReg (reg : Addr) : Bool :=
  reg ∈ [tempOutTLAddr, tempOutTLAddr + 1, whoamiAddr, outTAddr, statusAddr, outXLAddr,
    outXLAddr + 1, outYLAddr, outYLAddr + 1, outZLAddr, outZLAddr + 1, fifoSamplesAddr,
    statusDupAddr, wuSrcAddr, tapSrcAddr, sixdSrcAddr, allIntSrcAddr, absIntXAddr, absIntYAddr,
    absIntZAddr]

structure Odr where
  hz : Nat
  val : Byte
deriving DecidableEq, Repr

def fullOdrTable : List Odr :=
  [⟨0, 0x0⟩, ⟨12, 0x2⟩, ⟨25, 0x3⟩, ⟨50, 0x4⟩, ⟨100, 0x5⟩, ⟨200, 0x6⟩, ⟨400, 0x7⟩, ⟨800, 0x8⟩,
    ⟨1600, 0x9⟩]

-- size 9 with five entries given: the others are zero
def automotiveOdrTable : List Odr :=
  [⟨0, 0x0⟩, ⟨12, 0x2⟩, ⟨25, 0x3⟩, ⟨50, 0x4⟩, ⟨100, 0x5⟩, ⟨0, 0⟩, ⟨0, 0⟩, ⟨0, 0⟩, ⟨0, 0⟩]

def tempOdrTable : List Odr := [⟨0, 0x0⟩, ⟨12, 0x2⟩, ⟨25, 0x3⟩, ⟨50, 0x4⟩]

def odrTable : HwId → SensorId → List Odr
  | .LIS2DW12, .ACC => fullOdrTable
  | .IIS2DLPC, .ACC => fullOdrTable
  | .AIS2IH, .ACC => fullOdrTable
  | .AIS2DW12, .ACC => automotiveOdrTable
  | _, .TEMP => tempOdrTable

-- iioWork is a queued poll of the temperature, hrTimer the timer that queues it
structure Hw where
  regmap : Regmap.Map Addr 8
  hwId : HwId
  odr : SensorId → Nat
  enableMask : Finset SensorId
  enableEvMask : Finset EventId
  reqOdrEvents : Nat
  oldktime : Nat
  hrTimer : Bool
  iioWork : Bool

abbrev M (α : Type) := EStateM Errno Hw α

def onRegmap {α : Type} (x : EStateM Errno (Regmap.Map Addr 8) α) : M α :=
  within Hw.regmap (fun m hw => { hw with regmap := m }) x

def readLocked (addr : Addr) : M Byte := onRegmap (Regmap.read isVolatileReg .busFault addr)

def writeLocked (addr : Addr) (val : Byte) : M Unit :=
  onRegmap (Regmap.write isVolatileReg .busFault addr val)

-- the lowest bit set; no caller has an empty mask
def ffs (mask : Byte) : Nat := ((List.range 8).find? fun i => mask.getLsbD i).getD 0

def shiftVal (val mask : Byte) : Byte := (val <<< ffs mask) &&& mask

def writeWithMaskLocked (addr : Addr) (mask data : Byte) : M Unit :=
  onRegmap (Regmap.updateBits isVolatileReg .busFault addr mask (shiftVal data mask))

def readBytes (addrs : List Addr) : M (List Byte) :=
  onRegmap (Regmap.bulkRead isVolatileReg .busFault addrs)

def writeUncached (addr : Addr) (val : Byte) : M Unit :=
  onRegmap (Regmap.bypassed (Regmap.write isVolatileReg .busFault addr val))

abbrev hwBus (hw : Hw) : Nat → Bool := hw.regmap.bus

theorem onRegmap_costs {hw : Hw} {k : Nat} {α : Type} {x : EStateM Errno (Regmap.Map Addr 8) α}
    {P : α → Regmap.Map Addr 8 → Prop} {F : Nat → Regmap.Map Addr 8 → Prop}
    (h : Costs Regmap.Map.bus k x hw.regmap P F) :
    Costs hwBus k (onRegmap x) hw (fun a t => ∃ m, t = { hw with regmap := m } ∧ P a m)
      fun n t => ∃ m, t = { hw with regmap := m } ∧ F n m :=
  Costs.within (fun _ _ => rfl) h

structure Rates (hwId : HwId) where
  odr : SensorId → Nat
  positive : ∀ id, 0 < odr id
  ofTable : ∀ id, odr id ∈ (odrTable hwId id).map Odr.hz

def probed {hwId : HwId} (rates : Rates hwId) (dev : Addr → Byte) (cache : Addr → Option Byte) :
    Hw where
  regmap := ⟨Function.update dev ctrl1Addr 0, cache, false, fun _ => true⟩
  hwId := hwId
  odr := rates.odr
  enableMask := ∅
  enableEvMask := ∅
  reqOdrEvents := 0
  oldktime := 1000000000 / rates.odr .TEMP
  hrTimer := false
  iioWork := false

end Lis2dw12
