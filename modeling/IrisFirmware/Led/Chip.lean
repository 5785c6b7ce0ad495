import IrisFirmware.Library.Script

namespace Ktd2058

open Script

abbrev U8 := BitVec 8

abbrev REG_CONTROL : U8 := 0x02
abbrev REG_IRED0 : U8 := 0x03
abbrev REG_IGRN0 : U8 := 0x04
abbrev REG_IBLU0 : U8 := 0x05
abbrev REG_IRED1 : U8 := 0x06
abbrev REG_IGRN1 : U8 := 0x07
abbrev REG_IBLU1 : U8 := 0x08
abbrev REG_ISELA12 : U8 := 0x09
abbrev REG_ISELC34 : U8 := 0x0E

abbrev GLOBAL_OFF : Int := 0
abbrev NIGHT_MODE : Int := 1
abbrev NORMAL_MODE : Int := 2
abbrev DEFAULT : Int := 3

inductive BrLevel where
  | brOff
  | brNormal
  | br2Colors
  | brLogscale
  | brDemo
  | brFlowers
  | brLogscaleDemo
  | brWhite
  | stop
deriving DecidableEq, Repr

inductive ChaseLevel where
  | chaseOff
  | chaseUp1
  | chaseDown1
  | chaseUp2
  | chaseDown2
  | chaseUp3
  | chaseDown3
  | chaseUp4
  | chaseDown4
  | chase2ColorsUp
  | chase2ColorsDown
  | chaseDemo
  | chaseAmz
  | unnamed (value : Nat)
deriving DecidableEq, Repr

def ChaseLevel.ofValue : Nat → ChaseLevel
  | 0 => .chaseOff
  | 1 => .chaseUp1
  | 2 => .chaseDown1
  | 3 => .chaseUp2
  | 4 => .chaseDown2
  | 5 => .chaseUp3
  | 6 => .chaseDown3
  | 7 => .chaseUp4
  | 8 => .chaseDown4
  | 9 => .chase2ColorsUp
  | 10 => .chase2ColorsDown
  | 11 => .chaseDemo
  | 12 => .chaseAmz
  | value => .unnamed value

structure PlatformData where
  brightextend : Nat
  ceTemp : Nat
  fadeRate : Nat
deriving DecidableEq, Repr

structure BreathOps where
  level : BrLevel
  fadeOn : U8
  fadeOff : U8
  timeOn : Int
  timeOff : Int
  en : Nat
  cnt : Nat
  maxCnt : Nat
deriving DecidableEq, Repr

structure ChaseOps where
  level : ChaseLevel
  fade : U8
  delay : Int
  cnt : Nat
  maxCnt : Nat
deriving DecidableEq, Repr

structure Chip where
  regs : U8 → U8
  pdata : PlatformData
  brOps : BreathOps
  chaseOps : ChaseOps
  workChase : Bool
  workBreathing : Bool

inductive Writer where
  | chipInit
  | modeChange
  | maskedWrite
  | setColor0
  | setColor1
  | setRandomPalette
  | selectAllColors
  | selectColor
  | selectOne
deriving DecidableEq, Repr

inductive Event where
  | write (writer : Writer) (reg value : U8)
  | msleep (ms : Int)
  | stored (ret : Except Int Nat)
  | shown (text : String)

abbrev Driver := Script Chip Event

def Chip.readReg (c : Chip) (reg : U8) : U8 := c.regs reg

def writeReg (writer : Writer) (reg value : U8) : Driver := fun c =>
  ({ c with regs := Function.update c.regs reg value }, [.write writer reg value])

def maskedWrite (reg mask val : U8) : Driver := reading fun c =>
  writeReg .maskedWrite reg ((c.readReg reg &&& ~~~mask) ||| (val &&& mask))

def msleep (ms : Int) : Driver := emit (.msleep ms)

def setColor0 (ired igreen iblue : U8) : Driver := steps
  [writeReg .setColor0 REG_IRED0 ired,
   writeReg .setColor0 REG_IGRN0 igreen,
   writeReg .setColor0 REG_IBLU0 iblue]

def setColor1 (ired igreen iblue : U8) : Driver := steps
  [writeReg .setColor1 REG_IRED1 ired,
   writeReg .setColor1 REG_IGRN1 igreen,
   writeReg .setColor1 REG_IBLU1 iblue]

def selectAllColors (isela12 isela34 iselb12 iselb34 iselc12 iselc34 : U8) (delay : Int) :
    Driver := steps
  [writeReg .selectAllColors 0x09 isela12,
   writeReg .selectAllColors 0x0A isela34,
   writeReg .selectAllColors 0x0B iselb12,
   writeReg .selectAllColors 0x0C iselb34,
   writeReg .selectAllColors 0x0D iselc12,
   writeReg .selectAllColors 0x0E iselc34,
   msleep delay]

inductive Selection where
  | color0
  | color1
  | off
  | given (sel : U8)
deriving DecidableEq, Repr

def Selection.isel : Selection → U8
  | .color0 => 0x88
  | .color1 => 0xFF
  | .off => 0x00
  | .given sel => sel

-- the loop bound is inclusive and reaches the register after REG_ISELC34
def selectColor (color : Selection) : Driver :=
  forEach (upTo 0x09 0x0F) fun i => writeReg .selectColor (BitVec.ofInt 8 i) color.isel

def setRandomPalette (imax : U8) (rand : Nat → U8) : Driver :=
  forEach (upTo 0x03 0x08) fun i =>
    let draw := (rand (i - 0x03).toNat).toNat % 5
    writeReg .setRandomPalette (BitVec.ofInt 8 i) (BitVec.ofNat 8 (imax.toNat / (2 <<< draw)))

def selectOne (reg : Int) (data : U8) (delay : Int) : Driver := steps
  [writeReg .selectOne (BitVec.ofInt 8 reg) data,
   msleep delay]

def controlValue (pdata : PlatformData) (fade : U8) : U8 :=
  BitVec.ofNat 8 (pdata.brightextend <<< 5 ||| pdata.ceTemp <<< 3 ||| fade.toNat)

def cacheFadeRate (fade : U8) : Driver :=
  assign fun c => { c with pdata := { c.pdata with fadeRate := fade.toNat } }

def modeChange (mode : Int) (fade : U8) : Driver := reading fun c =>
  let value := controlValue c.pdata fade
  steps
    [cacheFadeRate fade,
     if mode = GLOBAL_OFF then writeReg .modeChange REG_CONTROL value
     else if mode = NIGHT_MODE then writeReg .modeChange REG_CONTROL (0x40 ||| value)
     else if mode = NORMAL_MODE then writeReg .modeChange REG_CONTROL (0x80 ||| value)
     else if mode = DEFAULT then
       seq (writeReg .modeChange REG_CONTROL (0x07 ||| value)) (cacheFadeRate 0x07)
     else skip]

def utilColorPalette (fade : U8) (delay : Int) : Driver := steps
  [modeChange DEFAULT 0x00,
   setColor0 0x00 0x00 0x00,
   setColor1 0x80 0x80 0x80,
   selectAllColors 0x88 0x89 0xAB 0xCD 0xEF 0xFF 0,
   modeChange NORMAL_MODE fade,
   msleep delay]

def chipInit : Driver := reading fun c =>
  seq (writeReg .chipInit REG_CONTROL (BitVec.ofNat 8
      (c.pdata.brightextend <<< 5 ||| c.pdata.ceTemp <<< 3 ||| c.pdata.fadeRate)))
    (assign fun c =>
      { c with
        brOps := { c.brOps with level := .brOff }
        chaseOps := { c.chaseOps with level := .chaseOff } })

def allocated (regs : U8 → U8) (pdata : PlatformData) : Chip where
  regs
  pdata
  brOps := ⟨.brOff, 0, 0, 0, 0, 0, 0, 0⟩
  chaseOps := ⟨.chaseOff, 0, 0, 0, 0⟩
  workChase := false
  workBreathing := false

def probe (regs : U8 → U8) (pdata : PlatformData) : Chip × List Event :=
  seq chipInit (modeChange GLOBAL_OFF 0) (allocated regs pdata)

end Ktd2058
