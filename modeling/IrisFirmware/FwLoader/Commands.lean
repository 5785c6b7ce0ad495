import IrisFirmware.FwLoader.Crc

namespace FwLoader

open Lfsr

structure UartBaudrate where
  iBaudRate : BitVec 32
  iUartDivisor : BitVec 32
  iClkDivisor : BitVec 32
deriving DecidableEq, Repr

def uartCfgTbl : List UartBaudrate :=
  [⟨115200#32, 16#32, 0x0075f6fd#32⟩, ⟨3000000#32, 1#32, 0x00c00000#32⟩,
    ⟨4000000#32, 1#32, 0x01000000#32⟩]

def clkDivAddr : BitVec 32 := 0x7f00008f#32
def uartDivAddr : BitVec 32 := 0x7f000090#32
def uartMcrAddr : BitVec 32 := 0x7f000091#32
def uartReinitAddr : BitVec 32 := 0x7f000092#32
def uartIcrAddr : BitVec 32 := 0x7f000093#32
def uartFcrAddr : BitVec 32 := 0x7f000094#32

def mcr : BitVec 32 := 0x00000022#32
def initUart : BitVec 32 := 0x00000001#32
def icr : BitVec 32 := 0x000000c7#32
def fcr : BitVec 32 := 0x000000c7#32

def owlA0a : BitVec 16 := 0x8000#16
def owlA0c : BitVec 16 := 0x8001#16

def payloadLen : BitVec 32 := 52#32

def uartConfig (chipId : BitVec 16) (cfg : UartBaudrate) : List Byte :=
  let back : BitVec 32 := if chipId = owlA0a ∨ chipId = owlA0c then 1#32 else 0#32
  [clkDivAddr - back, cfg.iClkDivisor, uartDivAddr - back, cfg.iUartDivisor, uartMcrAddr - back,
    mcr, uartReinitAddr - back, initUart, uartIcrAddr - back, icr, uartFcrAddr - back, fcr].flatMap le32

def cmd5Start (len : BitVec 32) : List Byte :=
  [0x05#8, 0x00#8, 0x00#8, 0x00#8, 0x00#8, 0x00#8, 0x00#8, 0x00#8] ++ le32 len

def mBufferCmd7ChangeTimeoutValue : List Byte :=
  [0x07#8, 0x00#8, 0x00#8, 0x00#8, 0x70#8, 0x00#8, 0x00#8, 0x00#8, 0x00#8, 0x00#8, 0x00#8, 0x00#8,
    0x5b#8, 0x88#8, 0xf8#8, 0xba#8]

-- an `unsigned long` has `w` bits, a `uint32` the 32 of them that are sent
def withCrc (w : Nat) (block : List Byte) : List Byte :=
  block ++ le32 (swapl ((updateCrc w 0#w block).setWidth 32))

def mBufferCmd5Header (w : Nat) : List Byte := withCrc w (cmd5Start payloadLen)

def cmd5Payload (w : Nat) (chipId : BitVec 16) (cfg : UartBaudrate) : List Byte :=
  withCrc w (uartConfig chipId cfg)

theorem updateCrc_append {w : Nat} (acc : BitVec w) (bs cs : List Byte) :
    updateCrc w acc (bs ++ cs) = updateCrc w (updateCrc w acc bs) cs := List.foldl_append

def Checks (w : Nat) (block : List Byte) : Prop := (updateCrc w 0#w block).setWidth 32 = 0#32

theorem checks_iff {w : Nat} (hw : 32 ≤ w) (block : List Byte) :
    Checks w block ↔ crc32Register.code 0#32 (block.flatMap upBits) = 0#32 := by
  rw [Checks, updateCrc_eq hw, BitVec.setWidth_ofNat_of_le hw]

theorem withCrc_checks {w : Nat} (hw : 32 ≤ w) (block : List Byte) :
    Checks w (withCrc w block) := by
  have hlen (x : BitVec 32) : ((le32 x).flatMap upBits).length ≤ 32 := Nat.le_refl 32
  rw [Checks, withCrc, updateCrc_append, updateCrc_eq hw, crc32Register.code_eq_zero_iff (hlen _),
    place_swapl]

theorem not_checks_of_burst {w : Nat} (hw : 32 ≤ w) {block other : List Byte}
    (hblock : Checks w block) (h : Burst upBits 32 block other) : ¬ Checks w other := by
  rw [checks_iff hw] at hblock ⊢
  have hne := code_ne_of_burst crc32Register h 0#32
  rw [hblock] at hne
  exact fun hother => hne hother.symm

theorem cmd7_checks {w : Nat} (hw : 32 ≤ w) : Checks w mBufferCmd7ChangeTimeoutValue := by
  rw [checks_iff hw]
  decide +kernel

theorem commands_check {w : Nat} (hw : 32 ≤ w) (chipId : BitVec 16) (cfg : UartBaudrate)
    {frame : List Byte} (hframe : frame ∈ [mBufferCmd7ChangeTimeoutValue, mBufferCmd5Header w,
      cmd5Payload w chipId cfg]) :
    Checks w frame ∧ (∀ other, Burst upBits 32 frame other → ¬ Checks w other) ∧
      ((mBufferCmd5Header w).drop 8).take 4 =
        le32 (BitVec.ofNat 32 (cmd5Payload w chipId cfg).length) := by
  have hchecks : Checks w frame := by
    simp only [List.mem_cons, List.not_mem_nil, or_false] at hframe
    rcases hframe with rfl | rfl | rfl
    · exact cmd7_checks hw
    · exact withCrc_checks hw _
    · exact withCrc_checks hw _
  exact ⟨hchecks, fun _ => not_checks_of_burst hw hchecks, rfl⟩

theorem owlCommands_check : 32 ≤ 64 ∧
    Checks 64 (cmd5Payload 64 owlA0a (uartCfgTbl.get ⟨1, by decide⟩)) :=
  ⟨by decide, (commands_check (by decide) owlA0a (uartCfgTbl.get ⟨1, by decide⟩) (by simp)).1⟩

end FwLoader
