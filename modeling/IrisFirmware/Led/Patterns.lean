import IrisFirmware.Led.Chip

namespace Ktd2058

open Script

inductive ChaseState where
  | up
  | down
deriving DecidableEq, Repr

inductive FlowColor where
  | color0
  | color1
deriving DecidableEq, Repr

def chaseOne (state : ChaseState) (fade : U8) (delay : Int) : Driver :=
  seq (modeChange NORMAL_MODE fade) <|
    match state with
    | .up => forEach (upTo 0x09 0x0F) fun i => steps
        [selectOne i 0x80 delay,
         selectOne i 0xF8 delay,
         selectOne i 0xFF 0]
    | .down => forEach (downTo 0x0E 0x09) fun i => steps
        [selectOne i 0x08 delay,
         selectOne i 0x8F delay,
         selectOne i 0xFF 0]

def chaseTwo (state : ChaseState) (fade : U8) (delay : Int) : Driver :=
  seq (modeChange NORMAL_MODE fade) <|
    match state with
    | .up => forEach (upTo 0x09 0x0B) fun i => steps
        [selectOne i 0x80 0,
         selectOne (i + 3) 0x80 delay,
         selectOne i 0xF8 0,
         selectOne (i + 3) 0xF8 delay,
         selectOne i 0xFF 0,
         selectOne (i + 3) 0xFF 0]
    | .down => forEach (downTo 0x0E 0x0C) fun i => steps
        [selectOne i 0x08 0,
         selectOne (i - 3) 0x08 delay,
         selectOne i 0x8F 0,
         selectOne (i - 3) 0x8F delay,
         selectOne i 0xFF 0,
         selectOne (i - 3) 0xFF 0]

def chaseThree (state : ChaseState) (fade : U8) (delay : Int) : Driver :=
  seq (modeChange NORMAL_MODE fade) <|
    match state with
    | .up => forEach (upTo 0x09 0x0A) fun i => steps
        [selectOne i 0x80 0,
         selectOne (i + 2) 0x80 0,
         selectOne (i + 4) 0x80 delay,
         selectOne i 0xF8 0,
         selectOne (i + 2) 0xF8 0,
         selectOne (i + 4) 0xF8 delay,
         selectOne i 0xFF 0,
         selectOne (i + 2) 0xFF 0,
         selectOne (i + 4) 0xFF 0]
    | .down => forEach (downTo 0x0E 0x0D) fun i => steps
        [selectOne i 0x08 0,
         selectOne (i - 2) 0x08 0,
         selectOne (i - 4) 0x08 delay,
         selectOne i 0x8F 0,
         selectOne (i - 2) 0x8F 0,
         selectOne (i - 4) 0x8F delay,
         selectOne i 0xFF 0,
         selectOne (i - 2) 0xFF 0,
         selectOne (i - 4) 0xFF 0]

def chaseFour (state : ChaseState) (fade : U8) (delay : Int) : Driver :=
  seq (modeChange NORMAL_MODE fade) <|
    match state with
    | .up => steps
        [selectAllColors 0x8F 0xF8 0xFF 0x8F 0xF8 0xFF delay,
         selectAllColors 0xF8 0xFF 0x8F 0xF8 0xFF 0x8F delay,
         selectAllColors 0xFF 0x8F 0xF8 0xFF 0x8F 0xF8 delay]
    | .down => steps
        [selectAllColors 0xFF 0x8F 0xF8 0xFF 0x8F 0xF8 delay,
         selectAllColors 0xF8 0xFF 0x8F 0xF8 0xFF 0x8F delay,
         selectAllColors 0x8F 0xF8 0xFF 0x8F 0xF8 0xFF delay]

def chase2Colors (state : ChaseState) (fade : U8) (delay : Int) : Driver :=
  seq (modeChange NORMAL_MODE fade) <|
    match state with
    | .up => seq
        (forEach (upTo 0x09 0x0B) fun i => steps
          [selectOne i 0x80 0,
           selectOne (i + 3) 0xF0 delay,
           selectOne i 0x08 0,
           selectOne (i + 3) 0x0F delay,
           selectOne i 0x00 0,
           selectOne (i + 3) 0x00 0])
        (forEach (upTo 0x0C 0x0E) fun i => steps
          [selectOne i 0x80 0,
           selectOne (i - 3) 0xF0 delay,
           selectOne i 0x08 0,
           selectOne (i - 3) 0x0F delay,
           selectOne i 0x00 0,
           selectOne (i - 3) 0x00 0])
    | .down => seq
        (forEach (downTo 0x0E 0x0C) fun i => steps
          [selectOne i 0x08 0,
           selectOne (i - 3) 0x0F delay,
           selectOne i 0x80 0,
           selectOne (i - 3) 0xF0 delay,
           selectOne i 0x00 0,
           selectOne (i - 3) 0x00 0])
        (forEach (downTo 0x0B 0x09) fun i => steps
          [selectOne i 0x08 0,
           selectOne (i + 3) 0x0F delay,
           selectOne i 0x80 0,
           selectOne (i + 3) 0xF0 delay,
           selectOne i 0x00 0,
           selectOne (i + 3) 0x00 0])

def repeated (n : Nat) (p : Driver) : Driver := steps (List.replicate n p)

def chasingDemo : Driver := steps
  [selectColor .off,
   setColor0 0xC0 0xC0 0xC0,
   setColor1 0x00 0x00 0x00,
   forEach (downTo 7 1) fun fade => chaseOne .up (BitVec.ofInt 8 fade) 83,
   selectColor .off,
   setColor1 0x20 0x00 0x00,
   repeated 3 (chaseOne .up 1 83),
   repeated 3 (chaseOne .down 1 83),
   repeated 3 (chaseTwo .down 1 83),
   setColor0 0xC0 0x00 0x00,
   setColor1 0x00 0x00 0x10,
   repeated 3 (chaseTwo .down 1 83),
   selectColor .off,
   setColor1 0x00 0x00 0xC0,
   repeated 8 (chase2Colors .down 2 83),
   selectColor .off,
   setColor0 0xC0 0xC0 0x00,
   setColor1 0x00 0x00 0x10,
   repeated 3 (chaseTwo .down 1 83),
   repeated 3 (chaseThree .down 1 83),
   forEach (upTo 0 2) fun fade => chaseFour .down (BitVec.ofInt 8 fade) 83,
   forEach (downTo 2 0) fun fade => chaseFour .up (BitVec.ofInt 8 fade) 83,
   repeated 3 (chaseThree .up 0 83),
   repeated 3 (chaseTwo .up 1 83),
   forEach (upTo 1 7) fun fade => chaseOne .up (BitVec.ofInt 8 fade) 83,
   selectColor .off]

def chaseAmzDemo : Driver := steps
  [msleep 1700,
   setColor0 0x04 0xC0 0xC0,
   setColor1 0x00 0x00 0x20,
   selectColor .color1,
   modeChange NORMAL_MODE 7,
   msleep 3000,
   chaseOne .up 3 110,
   modeChange DEFAULT 0,
   setColor0 0xC0 0x48 0x00,
   setColor1 0x00 0x00 0x00,
   chaseOne .up 3 110,
   modeChange GLOBAL_OFF 3,
   msleep 30]

def breath (fadeOn fadeOff : U8) (timeOn timeOff : Int) : Driver := steps
  [modeChange NORMAL_MODE fadeOn,
   msleep timeOn,
   modeChange GLOBAL_OFF fadeOff,
   msleep timeOff]

def breath2Colors (fadeOn fadeOff : U8) (timeOn timeOff : Int) : Driver := steps
  [selectColor .color0,
   modeChange NORMAL_MODE fadeOn,
   msleep timeOn,
   modeChange GLOBAL_OFF fadeOff,
   msleep timeOff,
   selectColor .color1,
   modeChange NORMAL_MODE fadeOn,
   msleep timeOn,
   modeChange GLOBAL_OFF fadeOff,
   msleep timeOff]

def paletteList : List U8 := [0x99, 0xAA, 0xBB, 0xCC, 0xDD, 0xEE, 0xFF]

def breathDemo : Driver := steps
  [assign fun c =>
     { c with
       brOps := { c.brOps with fadeOn := 0x07, fadeOff := 3, timeOn := 1500, timeOff := 1500 } },
   setColor0 0x00 0x00 0x00,
   setColor1 0xC0 0xC0 0xC0,
   forEach paletteList fun sel => seq (selectColor (.given sel)) <| reading fun c =>
     breath c.brOps.fadeOn c.brOps.fadeOff c.brOps.timeOn c.brOps.timeOff]

def gammaTable : List U8 := [4, 5, 7, 10, 16, 24, 36, 52, 72, 97, 124, 176]

def minBrightness : U8 := 0x04

def breathWhite : Driver := steps
  [modeChange NORMAL_MODE 0x01,
   selectColor .color0,
   forEach gammaTable fun brightness =>
     seq (setColor0 brightness brightness brightness) (msleep 160),
   msleep 1000,
   modeChange NORMAL_MODE 0x04,
   setColor0 minBrightness minBrightness minBrightness,
   msleep 2000]

-- the product starts at a, so an exponent of 0 gives a as well
def ktdPow (a : Int) (b : Nat) : Int := (List.range (b - 1)).foldl (fun c _ => c * a) a

def divRoundUp (n d : Int) : Int := (n + d - 1).tdiv d

def breathLogscale (fade ired igrn iblu : U8) : Driver :=
  let delayMs : Int := 900
  steps
    [modeChange DEFAULT 0,
     setColor0 0x00 0x00 0x00,
     selectColor .color0,
     modeChange NORMAL_MODE fade,
     forEach (upTo 0 7) fun i =>
       let gain := ktdPow 2 (7 - i).toNat
       seq (setColor0 (BitVec.ofInt 8 (divRoundUp ired.toNat gain))
           (BitVec.ofInt 8 (divRoundUp igrn.toNat gain))
           (BitVec.ofInt 8 (divRoundUp iblu.toNat gain)))
         (msleep delayMs),
     msleep (delayMs * 3),
     setColor0 0x00 0x00 0x00,
     msleep 900]

def brFlowerDemo (rand : Nat → U8) : Driver := steps
  [setRandomPalette 0xFF rand,
   selectAllColors 0x80 0xF0 0x80 0xF0 0x80 0xF0 0,
   breath 0x07 0x03 1500 1000,
   setRandomPalette 0xFF fun k => rand (k + 6),
   selectAllColors 0x0F 0x08 0x0F 0x08 0x0F 0x08 0,
   breath 0x07 0x03 1500 1000]

-- going down, j runs over register numbers and is still used as an offset
def raceTwo (state : ChaseState) (fade : U8) (delay : Int) : Driver :=
  seq (modeChange NORMAL_MODE fade) <|
    match state with
    | .up => forEach (upTo 0 2) fun j => steps
        [selectOne (0x09 + j) 0x80 0,
         selectOne (0x0E - j) 0x08 delay,
         selectOne (0x09 + j) 0xF8 0,
         selectOne (0x0E - j) 0x8F delay,
         selectOne (0x09 + j) 0xFF 0,
         selectOne (0x0E - j) 0xFF 0]
    | .down => forEach (downTo 0x0E 0x09) fun j => steps
        [selectOne (0x0B - j) 0x08 0,
         selectOne (0x0C + j) 0x80 delay,
         selectOne (0x0B - j) 0x8F 0,
         selectOne (0x0C + j) 0xF8 delay,
         selectOne (0x0B - j) 0xFF 0,
         selectOne (0x0C + j) 0xFF 0]

def FlowColor.selData : FlowColor → U8
  | .color0 => 0x08
  | .color1 => 0x0F

def flowOne (state : ChaseState) (fade : U8) (delay : Int) (color : FlowColor) : Driver :=
  let selData := color.selData
  seq (modeChange NORMAL_MODE fade) <|
    match state with
    | .up => forEach (upTo 0x09 0x0E) fun i => steps
        [selectOne i (selData * 16) delay,
         selectOne i (selData * 17) delay]
    | .down => forEach (downTo 0x0E 0x09) fun i => steps
        [selectOne i selData delay,
         selectOne i (selData * 17) delay]

def flowTwo (state : ChaseState) (fade : U8) (delay : Int) (color : FlowColor) : Driver :=
  let selData := color.selData
  seq (modeChange NORMAL_MODE fade) <|
    match state with
    | .up => forEach (upTo 0 2) fun j => steps
        [selectOne (0x09 + j) (selData * 16) 0,
         selectOne (0x0E - j) selData delay,
         selectOne (0x09 + j) (selData * 17) 0,
         selectOne (0x0E - j) (selData * 17) delay]
    | .down => forEach (downTo 0x0E 0x09) fun j => steps
        [selectOne (0x0B - j) selData 0,
         selectOne (0x0C + j) (selData * 16) delay,
         selectOne (0x0B - j) (selData * 17) 0,
         selectOne (0x0C + j) (selData * 17) delay]

-- a delay written 0.1 is passed as an int and becomes 0
def racingDemo : Driver := steps
  [selectColor .off,
   setColor0 0x00 0xC0 0x00,
   setColor1 0x00 0x00 0x00,
   forEach (downTo 7 1) fun i => raceTwo .up (BitVec.ofInt 8 i) 100,
   repeated 3 (raceTwo .up 1 100),
   repeated 3 (seq (raceTwo .up 1 83) (raceTwo .down 1 83)),
   selectColor .off,
   setColor1 0x08 0x04 0x00,
   repeated 3 (seq (raceTwo .up 1 83) (raceTwo .down 1 83)),
   setColor0 0x00 0x30 0xC0,
   repeated 3 (seq (raceTwo .up 1 83) (raceTwo .down 1 83)),
   repeated 3 (raceTwo .down 1 100),
   forEach (upTo 1 4) fun i => raceTwo .down (BitVec.ofInt 8 i) 0,
   selectColor .off,
   msleep 2000]

def flowingDemo : Driver := steps
  [modeChange DEFAULT 0,
   selectColor .off,
   setColor0 0xC0 0x00 0xC0,
   setColor1 0x00 0x00 0x00,
   repeated 2 (steps
     [flowOne .up 4 83 .color0,
      msleep 100,
      flowOne .down 2 100 .color1,
      flowOne .down 4 83 .color0,
      msleep 100,
      flowOne .up 2 100 .color1,
      setColor0 0xC0 0x09 0x30]),
   msleep 500,
   selectColor .off,
   setColor0 0xC0 0xC0 0x00,
   setColor1 0x00 0x00 0xC0,
   repeated 3 (steps
     [flowTwo .up 4 100 .color0,
      flowTwo .down 2 0 .color1,
      msleep 100,
      flowTwo .down 2 0 .color0,
      flowTwo .up 2 0 .color1,
      msleep 100]),
   modeChange GLOBAL_OFF 3,
   msleep 2000]

end Ktd2058
