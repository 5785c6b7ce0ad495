import IrisFirmware.Led.Patterns

namespace Ktd2058

open Script

abbrev Parsed := Except Int UInt32

def Chip.setBrOps (f : BreathOps → BreathOps) (c : Chip) : Chip :=
  { c with brOps := f c.brOps }

def Chip.setChaseOps (f : ChaseOps → ChaseOps) (c : Chip) : Chip :=
  { c with chaseOps := f c.chaseOps }

def cancelWorkChase : Driver := assign fun c => { c with workChase := false }

def cancelWorkBreathing : Driver := assign fun c => { c with workBreathing := false }

def scheduleWorkChase : Driver := assign fun c => { c with workChase := true }

def scheduleWorkBreathing : Driver := assign fun c => { c with workBreathing := true }

def cancelBoth : Driver := seq cancelWorkChase cancelWorkBreathing

def storing (parsed : Parsed) (size : Nat) (body : UInt32 → Driver) : Driver :=
  match parsed with
  | .error ret => emit (.stored (.error ret))
  | .ok value => seq (body value) (emit (.stored (.ok size)))

def inRange (value limit : UInt32) : Prop := 0 < value ∧ value < limit

instance (value limit : UInt32) : Decidable (inRange value limit) :=
  inferInstanceAs (Decidable (_ ∧ _))

def brDemoStoreAt (level : BrLevel) (value : UInt32) : Driver := steps
  [cancelBoth,
   msleep 10,
   modeChange DEFAULT 0,
   msleep 4000,
   guarded (inRange value 100) <| seq
     (assign (Chip.setBrOps fun b => { b with level, maxCnt := value.toNat }))
     scheduleWorkBreathing]

def brLogscaleDemoStore : UInt32 → Driver := brDemoStoreAt .brLogscaleDemo

def brDemoStore : UInt32 → Driver := brDemoStoreAt .brDemo

def clamped (value limit : UInt32) : UInt32 := if limit < value then limit else value

theorem toNat_clamped (value limit : UInt32) :
    (clamped value limit).toNat = min value.toNat limit.toNat := by
  unfold clamped
  split
  · rename_i h
    exact (min_eq_right (Nat.le_of_lt (UInt32.lt_iff_toNat_lt.mp h))).symm
  · rename_i h
    exact (min_eq_left (UInt32.le_iff_toNat_le.mp (UInt32.not_lt.mp h))).symm

def setBrightextend (v : Nat) (p : PlatformData) : PlatformData := { p with brightextend := v }

def setFadeRate (v : Nat) (p : PlatformData) : PlatformData := { p with fadeRate := v }

def setCeTemp (v : Nat) (p : PlatformData) : PlatformData := { p with ceTemp := v }

def controlStore (limit : UInt32) (mask : U8) (lo : Nat)
    (set : Nat → PlatformData → PlatformData) (value : UInt32) : Driver :=
  let value := (clamped value limit).toNat
  seq (assign fun c => { c with pdata := set value c.pdata })
    (maskedWrite REG_CONTROL mask (BitVec.ofNat 8 (value <<< lo)))

def brightextendStore (value : UInt32) : Driver :=
  seq cancelBoth (controlStore 0x01 0x02 5 setBrightextend value)

def fadeRateStore (value : UInt32) : Driver :=
  seq cancelBoth (controlStore 0x07 0x07 0 setFadeRate value)

def ceTempStore (value : UInt32) : Driver := controlStore 0x03 0x18 3 setCeTemp value

def hex (value : Nat) : String := "0x" ++ String.ofList (Nat.toDigits 16 value)

def hexLine (value : Nat) : String := hex value ++ "\n"

def restoringShow (mask : U8) (lo : Nat) (cached : PlatformData → Nat)
    (restore : Nat → PlatformData → PlatformData) : Driver := reading fun c =>
  let regVal := ((c.readReg REG_CONTROL &&& mask) >>> lo).toNat
  seq (guarded (regVal ≠ cached c.pdata)
      (assign fun c => { c with pdata := restore regVal c.pdata }))
    (emit (.shown (hexLine regVal)))

def brightextendShow : Driver := restoringShow 0x20 5 PlatformData.brightextend setBrightextend

def fadeRateShow : Driver := restoringShow 0x07 0 PlatformData.fadeRate setFadeRate

def ceTempShow : Driver := restoringShow 0x18 3 PlatformData.ceTemp setCeTemp

def breathingStore (value : UInt32) : Driver := steps
  [cancelBoth,
   msleep 10,
   if inRange value 100 then steps
     [setColor0 0x00 0x00 0x00,
      setColor1 0x80 0x80 0x80,
      selectAllColors 0x88 0x89 0xAB 0xCD 0xEF 0xFF 0,
      assign (Chip.setBrOps fun b =>
        { b with cnt := 0, en := 0, maxCnt := value.toNat, level := .brNormal }),
      scheduleWorkBreathing]
   else guarded (value = 100) <| steps
     [cancelWorkBreathing,
      msleep 10,
      utilColorPalette 7 1000]]

def brWhiteStore (value : UInt32) : Driver := steps
  [cancelBoth,
   msleep 10,
   assign (Chip.setBrOps fun b => { b with cnt := 6, maxCnt := 5 }),
   assign (Chip.setBrOps fun b =>
     if value ≤ 0 then { b with en := 0, level := .stop }
     else { b with en := 1, level := .brWhite }),
   scheduleWorkBreathing]

def brWhiteShow : Driver := reading fun c =>
  let ledEn := if c.brOps.en ≠ 0 then "RingLED Enable\n" else "RingLED Disable\n"
  emit (.shown ("RingLED Status:\n" ++ ledEn))

def br2ColorsStore (value : UInt32) : Driver := steps
  [cancelBoth,
   msleep 10,
   guarded (inRange value 100) <| steps
     [assign (Chip.setBrOps fun b =>
        { b with cnt := 0, en := 0, maxCnt := value.toNat, level := .br2Colors }),
      modeChange DEFAULT 0,
      msleep 4000,
      setColor0 0xC0 0x40 0x00,
      setColor1 0x08 0x00 0x00,
      scheduleWorkBreathing]]

def brLogscaleStore (value : UInt32) : Driver := steps
  [cancelBoth,
   msleep 10,
   guarded (inRange value 8) <| steps
     [setColor0 0xFF 0xFF 0xFF,
      assign (Chip.setBrOps fun b =>
        { b with cnt := 0, en := 0, maxCnt := value.toNat, level := .brLogscale }),
      modeChange DEFAULT 0,
      msleep 4000,
      reading fun c => modeChange NORMAL_MODE c.brOps.fadeOn,
      scheduleWorkBreathing]]

def chaseStore (value : UInt32) : Driver := steps
  [seq cancelWorkBreathing cancelWorkChase,
   guarded (value < 20) <| steps
     [assign (Chip.setChaseOps fun _ =>
        { level := .ofValue value.toNat, fade := 0, cnt := 0, maxCnt := 1, delay := 2000 }),
      if value = 9 ∨ value = 10 then steps
        [assign (Chip.setChaseOps fun o => { o with maxCnt := 5 }),
         modeChange DEFAULT 0,
         msleep 4000,
         selectColor .off]
      else if value = 1 ∨ value = 4 then
        assign (Chip.setChaseOps fun o => { o with maxCnt := o.maxCnt * 2 })
      else if value = 5 ∨ value = 6 then
        assign (Chip.setChaseOps fun o => { o with maxCnt := o.maxCnt * 3 })
      else if value = 7 ∨ value = 8 then
        assign (Chip.setChaseOps fun o => { o with maxCnt := o.maxCnt * 4 })
      else skip,
      reading fun c => modeChange NORMAL_MODE c.chaseOps.fade,
      scheduleWorkChase]]

def modechangeStore (value : UInt32) : Driver :=
  if value = 0 then modeChange GLOBAL_OFF 7
  else if value = 1 then modeChange NIGHT_MODE 7
  else if value = 2 then modeChange NORMAL_MODE 7
  else if value = 3 then modeChange DEFAULT 7
  else skip

def brFlowerStore (value : UInt32) : Driver :=
  guarded (inRange value 100) <| steps
    [assign (Chip.setBrOps fun b =>
       { b with cnt := 0, en := 0, maxCnt := value.toNat, level := .brFlowers }),
     modeChange DEFAULT 0,
     msleep 4000,
     scheduleWorkBreathing]

def chasingDemoStore (value : UInt32) : Driver :=
  guarded (inRange value 100) <| steps
    [modeChange DEFAULT 0,
     msleep 4000,
     assign (Chip.setChaseOps fun o => { o with level := .chaseDemo }),
     scheduleWorkChase]

def racingDemoStore (value : UInt32) : Driver :=
  if value = 1 then steps [modeChange DEFAULT 0, msleep 4000, racingDemo]
  else if value = 2 then steps [modeChange DEFAULT 0, msleep 4000, flowingDemo]
  else skip

def debugStore (_value : UInt32) : Driver := skip

def deviceInfo : Driver := reading fun c =>
  let regVal := (upTo 0x00 0x08).map fun i => c.readReg (BitVec.ofInt 8 i)
  emit (.shown (String.intercalate "," (regVal.map fun val => hex val.toNat) ++ "\n"))

def deviceVersion : Driver := emit (.shown "0.01\n")

def chaseEffect : ChaseLevel → Driver
  | .chaseUp1 => chaseOne .up 3 1500
  | .chaseDown1 => chaseOne .down 3 1500
  | .chaseUp2 => chaseTwo .up 3 1500
  | .chaseDown2 => chaseTwo .down 3 1500
  | .chaseUp3 => chaseThree .up 3 1500
  | .chaseDown3 => chaseThree .down 3 1500
  | .chaseUp4 => chaseFour .up 3 1500
  | .chaseDown4 => chaseFour .down 3 1500
  | .chase2ColorsUp => chase2Colors .up 3 1500
  | .chase2ColorsDown => chase2Colors .down 3 1500
  | .chaseDemo => chasingDemo
  | .chaseAmz => chaseAmzDemo
  | .chaseOff => skip
  | .unnamed _ => skip

def chaseRepeat : Driver := reading fun c =>
  if c.chaseOps.cnt < c.chaseOps.maxCnt then seq
    (assign (Chip.setChaseOps fun o => { o with cnt := o.cnt + 1 }))
    scheduleWorkChase
  else seq
    (assign (Chip.setChaseOps fun o => { o with cnt := 0, level := .chaseOff }))
    (modeChange DEFAULT 0)

def chaseCtrlWork : Driver := steps
  [cancelWorkBreathing,
   reading fun c => chaseEffect c.chaseOps.level,
   chaseRepeat]

def breathingEffect (rand : Nat → U8) : BrLevel → Driver
  | .brNormal => breath 0x07 0x03 1500 1500
  | .br2Colors => breath2Colors 0x07 0x03 1500 1500
  | .brLogscale => breathLogscale 0x07 0xC0 0xC0 0x00
  | .brDemo => breathDemo
  | .brWhite => seq (assign (Chip.setBrOps fun b => { b with cnt := 6 })) breathWhite
  | .brFlowers => brFlowerDemo rand
  | .brLogscaleDemo => breathLogscale 2 0xC0 0xC0 0x00
  | .brOff => breathLogscale 6 0xC0 0x09 0x30
  | .stop => modeChange GLOBAL_OFF 0x02

def breathingRepeat : Driver := reading fun c =>
  if c.brOps.cnt < c.brOps.maxCnt ∨ 1 ≤ c.brOps.en then scheduleWorkBreathing
  else assign (Chip.setBrOps fun b =>
    { b with cnt := 0, maxCnt := 0, en := 0, level := .brOff })

def countBreath : Driver := assign (Chip.setBrOps fun b => { b with cnt := b.cnt + 1 })

def breathingCtrlWork (rand : Nat → U8) : Driver := steps
  [countBreath,
   reading fun c => breathingEffect rand c.brOps.level,
   breathingRepeat]

inductive StoreAttr where
  | mode
  | brightextend
  | fadeRate
  | ceTemp
  | breathing
  | br2colors
  | brlogscale
  | brDemo
  | brWhite
  | brLogscaleDemo
  | flower
  | chase
  | chasingDemo
  | racing
  | debug
deriving DecidableEq, Repr

inductive ShowAttr where
  | brightextend
  | fadeRate
  | ceTemp
  | brWhite
  | info
  | version
deriving DecidableEq, Repr

def StoreAttr.body : StoreAttr → UInt32 → Driver
  | .mode => modechangeStore
  | .brightextend => brightextendStore
  | .fadeRate => fadeRateStore
  | .ceTemp => ceTempStore
  | .breathing => breathingStore
  | .br2colors => br2ColorsStore
  | .brlogscale => brLogscaleStore
  | .brDemo => brDemoStore
  | .brWhite => brWhiteStore
  | .brLogscaleDemo => brLogscaleDemoStore
  | .flower => brFlowerStore
  | .chase => chaseStore
  | .chasingDemo => chasingDemoStore
  | .racing => racingDemoStore
  | .debug => debugStore

-- ce_temp alone cancels the works before it parses
def StoreAttr.handler (attr : StoreAttr) (parsed : Parsed) (size : Nat) : Driver :=
  if attr = .ceTemp then seq cancelBoth (storing parsed size attr.body)
  else storing parsed size attr.body

def ShowAttr.handler : ShowAttr → Driver
  | .brightextend => brightextendShow
  | .fadeRate => fadeRateShow
  | .ceTemp => ceTempShow
  | .brWhite => brWhiteShow
  | .info => deviceInfo
  | .version => deviceVersion

inductive Action where
  | store (attr : StoreAttr) (parsed : Parsed) (size : Nat)
  | read (attr : ShowAttr)
  | chaseWork
  | breathingWork (rand : Nat → U8)

def act : Action → Driver
  | .store attr parsed size => attr.handler parsed size
  | .read attr => attr.handler
  | .chaseWork => reading fun c =>
      guarded (c.workChase = true) (seq cancelWorkChase chaseCtrlWork)
  | .breathingWork rand => reading fun c =>
      guarded (c.workBreathing = true)
        (seq cancelWorkBreathing (breathingCtrlWork rand))

def actStep (c : Chip) (a : Action) : Chip := (act a c).1

theorem act_chaseWork {c : Chip} (h : c.workChase = true) :
    act .chaseWork c = steps
      [cancelWorkChase, cancelWorkBreathing, chaseEffect c.chaseOps.level, chaseRepeat] c := by
  simp only [act, reading, guarded, h, if_true]
  rfl

theorem act_breathingWork {c : Chip} (h : c.workBreathing = true) (rand : Nat → U8) :
    act (.breathingWork rand) c = steps
      [cancelWorkBreathing, countBreath, breathingEffect rand c.brOps.level, breathingRepeat]
      c := by
  simp only [act, reading, guarded, h, if_true]
  rfl

end Ktd2058
