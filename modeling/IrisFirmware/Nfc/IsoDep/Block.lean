import Mathlib.Data.List.Basic

namespace Rfal

abbrev Frame := List UInt8

def crcLen : Nat := 2
def prologueSize : Nat := 3
def controlRoom : Nat := 2
def noDid : UInt8 := 0x00
def noNad : UInt8 := 0xff

def xBlockMask : UInt8 := 0xc0
def b1Bit : UInt8 := 0x01
def b2Bit : UInt8 := 0x02
def b3Bit : UInt8 := 0x04
def b6Bit : UInt8 := 0x20
def chainingBit : UInt8 := 0x10
def didBit : UInt8 := 0x08
def nadBit : UInt8 := 0x04
def bnMask : UInt8 := 0x01
def sxxMask : UInt8 := 0x30
def rxMask : UInt8 := 0x10
def wtxmMask : UInt8 := 0x3f

def iBlock : UInt8 := 0x00
def rBlock : UInt8 := 0x80
def sBlock : UInt8 := 0xc0
def pcbInvalid : UInt8 := 0x40

def pcbIsIBlock (pcb : UInt8) : Bool := pcb &&& (xBlockMask ||| (b6Bit ||| b2Bit)) == iBlock ||| b2Bit

def pcbIsRBlock (pcb : UInt8) : Bool :=
  pcb &&& (xBlockMask ||| (b6Bit ||| b3Bit ||| b2Bit)) == rBlock ||| (b6Bit ||| b2Bit)

def pcbIsSBlock (pcb : UInt8) : Bool :=
  pcb &&& (xBlockMask ||| (b3Bit ||| b2Bit ||| b1Bit)) == sBlock ||| b2Bit

def pcbIsChaining (pcb : UInt8) : Bool := pcb &&& chainingBit == chainingBit
def pcbIsDeselect (pcb : UInt8) : Bool := pcb &&& sxxMask == 0x00
def pcbIsWtx (pcb : UInt8) : Bool := pcb &&& sxxMask == 0x30
def pcbIsAck (pcb : UInt8) : Bool := pcb &&& rxMask == 0x00
def pcbIsNak (pcb : UInt8) : Bool := pcb &&& rxMask == 0x10
def pcbHasDid (pcb : UInt8) : Bool := pcb &&& didBit == didBit
def pcbHasNad (pcb : UInt8) : Bool := pcb &&& nadBit == nadBit

def pcbIsSDeselect (pcb : UInt8) : Bool := pcbIsSBlock pcb && pcbIsDeselect pcb
def pcbIsSWtx (pcb : UInt8) : Bool := pcbIsSBlock pcb && pcbIsWtx pcb
def pcbIsRAck (pcb : UInt8) : Bool := pcbIsRBlock pcb && pcbIsAck pcb
def pcbIsRNak (pcb : UInt8) : Bool := pcbIsRBlock pcb && pcbIsNak pcb

def pcbIBlock (bn : UInt8) : UInt8 := 0x00 ||| iBlock ||| b2Bit ||| (bn &&& bnMask)
def pcbRBlock (bn : UInt8) : UInt8 := 0x00 ||| rBlock ||| b6Bit ||| b2Bit ||| (bn &&& bnMask)
def pcbRAck (bn : UInt8) : UInt8 := pcbRBlock bn ||| 0x00
def pcbRNak (bn : UInt8) : UInt8 := pcbRBlock bn ||| 0x10
def pcbSBlock : UInt8 := 0x00 ||| sBlock ||| b2Bit
def pcbSDsl : UInt8 := pcbSBlock ||| 0x00
def pcbSWtx : UInt8 := pcbSBlock ||| 0x30

def getBn (pcb : UInt8) : UInt8 := pcb &&& bnMask
def getWtxm (inf : UInt8) : UInt8 := inf &&& wtxmMask
def isWtxmValid (wtxm : UInt8) : Bool := 1 ≤ wtxm && wtxm ≤ 59
def nextBn (bn : UInt8) : UInt8 := (bn ^^^ 0x01) &&& bnMask
def toggleBn (bn : UInt8) : UInt8 := (bn ^^^ 0x01) &&& bnMask

inductive Msg where
  | i (bn : UInt8) (chaining : Bool) (inf : List UInt8)
  | ack (bn : UInt8)
  | nak (bn : UInt8)
  | wtx (wtxm : UInt8)
  | dsl
deriving DecidableEq, Repr

def Msg.pcb : Msg → UInt8
  | .i bn chaining _ => if chaining then pcbIBlock bn ||| chainingBit else pcbIBlock bn
  | .ack bn => pcbRAck bn
  | .nak bn => pcbRNak bn
  | .wtx _ => pcbSWtx
  | .dsl => pcbSDsl

def Msg.inf : Msg → List UInt8
  | .i _ _ inf => inf
  | .wtx wtxm => [wtxm]
  | _ => []

def Msg.bytes (did : UInt8) (m : Msg) : Frame :=
  if did = noDid then m.pcb :: m.inf else (m.pcb ||| didBit) :: did :: m.inf

def hdrLenOf (did : UInt8) : Nat := if did = noDid then 1 else 2

def Bit (bn : UInt8) : Prop := bn = 0 ∨ bn = 1

def Msg.Numbered : Msg → Prop
  | .i bn _ _ => Bit bn
  | .ack bn => Bit bn
  | .nak bn => Bit bn
  | _ => True

theorem Bit.toggle {bn : UInt8} (h : Bit bn) : Bit (toggleBn bn) := by
  rcases h with rfl | rfl
  · exact .inr rfl
  · exact .inl rfl

theorem Bit.toggle_ne {bn : UInt8} (h : Bit bn) : toggleBn bn ≠ bn := by
  rcases h with rfl | rfl <;> decide

theorem Bit.eq_toggle {a b : UInt8} (ha : Bit a) (hb : Bit b) (h : a ≠ b) : toggleBn a = b := by
  rcases ha with rfl | rfl <;> rcases hb with rfl | rfl
  · exact absurd rfl h
  · rfl
  · rfl
  · exact absurd rfl h

end Rfal
