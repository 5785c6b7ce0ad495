import IrisFirmware.Library.Run

namespace Motor

abbrev awPanMotor : Nat := 0
abbrev awRisingMotor : Nat := 1
abbrev awFullStep : Nat := 0
abbrev eio : Int := 5

structure MotorControl where
  motor : Nat
  mode : Nat
  en : Bool
  dir : Nat
  cycle : Nat
  delay : Nat
  sp : Nat
deriving DecidableEq, Repr

inductive Call where
  | gpioInit
  | setEnable (enSelect bIsRisingMotor : Nat)
  | setMotorSpeed (speed : Nat)
  | stepFunction (direction modeSelect cycleCount : Nat)
deriving DecidableEq, Repr

structure MotorChip where
  mot : MotorControl
  workMotor : Bool
  lock : Bool
  fullStepDelay : Nat
  halfStepDelay : Nat
  runs : List (List Call)
deriving DecidableEq, Repr

def motorProbe : MotorChip := ⟨⟨0, 0, false, 0, 0, 0, 0⟩, false, false, 5000, 2500, []⟩

inductive Attr where
  | version
  | info
  | motor
  | mode
  | enable
  | dir
  | cycle
  | delay
  | speed
  | stepWork
deriving DecidableEq, Repr

inductive Access where
  | read (attr : Attr)
  | write (attr : Attr) (buf : String)
deriving DecidableEq, Repr

inductive Outcome where
  | blocked
  | shown (text : String)
  | stored (ret : Int)
deriving DecidableEq, Repr

def setMotorSpeed (speed : Nat) : Nat :=
  let speed := if speed = 0 then 1 else if 10 < speed then 10 else speed
  18000 - 1800 * (speed - 1)

def motorVersion (c : MotorChip) : MotorChip × Outcome := (c, .shown "v0.0.0.2")

def showLocked (text : MotorControl → String) (c : MotorChip) : MotorChip × Outcome :=
  if c.lock then (c, .blocked)
  else
    let held := { c with lock := true }
    ({ held with lock := false }, .shown (text held.mot))

def motorShow : MotorChip → MotorChip × Outcome :=
  showLocked fun m => if m.motor ≠ 0 then "Motor: Rising\n" else "Motor: Pan\n"

def modeShow : MotorChip → MotorChip × Outcome :=
  showLocked fun m => if m.mode ≠ 0 then "Mode: Step\n" else "Mode: Degree\n"

def dirShow : MotorChip → MotorChip × Outcome :=
  showLocked fun m => if m.dir ≠ 0 then "Dir: Forward\n" else "Dir: Reverse\n"

def enShow : MotorChip → MotorChip × Outcome :=
  showLocked fun m => if m.en then "Motor: Enable\n" else "Motor: Disable\n"

def cycleShow : MotorChip → MotorChip × Outcome :=
  showLocked fun m => "cycle count: " ++ toString m.cycle ++ "\n"

def delayShow : MotorChip → MotorChip × Outcome :=
  showLocked fun m => "Delay: " ++ toString m.delay ++ "\n"

def spShow : MotorChip → MotorChip × Outcome :=
  showLocked fun m => "Speed: " ++ toString m.sp ++ "\n"

def motorInfo : MotorChip → MotorChip × Outcome :=
  showLocked fun m =>
    "===================================\n" ++
    "Motor Attr:\nMotor: " ++ (if m.motor ≠ 0 then "Rising" else "Pan") ++
    "\nMode:" ++ (if m.mode ≠ 0 then "Step" else "Degree") ++
    "Enable: " ++ (if m.en then "Enable" else "Disable") ++
    "\nDirection: " ++ (if m.dir ≠ 0 then "Forward" else "Reverse") ++
    "\nCycle count: " ++ toString m.cycle ++
    "\nDelay: " ++ toString m.delay ++ "\nSpeed: " ++ toString m.sp ++
    "\n===================================\n"

def onMot (f : MotorControl → MotorControl) (c : MotorChip) : MotorChip := { c with mot := f c.mot }

def motorSet (val : Nat) : MotorChip → MotorChip :=
  onMot fun m => { m with motor := if val ≠ 0 then awPanMotor else awRisingMotor }

def modeSet (val : Nat) : MotorChip → MotorChip :=
  onMot fun m => { m with mode := if val ≠ 0 then 1 else 0 }

def dirSet (val : Nat) : MotorChip → MotorChip :=
  onMot fun m => { m with dir := if val ≠ 0 then 1 else 0 }

def enSet (val : Nat) : MotorChip → MotorChip :=
  onMot fun m => { m with en := decide (val ≠ 0) }

def cycleSet (val : Nat) : MotorChip → MotorChip :=
  onMot fun m => { m with cycle := if val < 1000 then val else 0 }

def spSet (val : Nat) (c : MotorChip) : MotorChip :=
  let sp := if val < 10 then val else 0
  { c with
    mot := { c.mot with sp := sp, delay := setMotorSpeed sp }
    fullStepDelay := setMotorSpeed sp
    halfStepDelay := setMotorSpeed sp / 2 }

def stepOnSet (_val : Nat) (c : MotorChip) : MotorChip := { c with workMotor := true }

section stores

variable (kstrtouint : String → Except Int UInt32)

-- a rejected string returns before mutex_unlock
def storeLocked (set : Nat → MotorChip → MotorChip) (c : MotorChip) (buf : String) :
    MotorChip × Outcome :=
  if c.lock then (c, .blocked)
  else
    let held := { c with lock := true }
    match kstrtouint buf with
    | .error ret => (held, .stored ret)
    | .ok val => ({ set val.toNat held with lock := false }, .stored buf.utf8ByteSize)

def motorStore : MotorChip → String → MotorChip × Outcome := storeLocked kstrtouint motorSet

def modeStore : MotorChip → String → MotorChip × Outcome := storeLocked kstrtouint modeSet

def dirStore : MotorChip → String → MotorChip × Outcome := storeLocked kstrtouint dirSet

def enStore : MotorChip → String → MotorChip × Outcome := storeLocked kstrtouint enSet

def cycleStore : MotorChip → String → MotorChip × Outcome := storeLocked kstrtouint cycleSet

def spStore : MotorChip → String → MotorChip × Outcome := storeLocked kstrtouint spSet

def stepOnStore : MotorChip → String → MotorChip × Outcome := storeLocked kstrtouint stepOnSet

-- an attribute without the handler fails with -eio before the driver is entered
def access (c : MotorChip) : Access → MotorChip × Outcome
  | .read .version => motorVersion c
  | .read .info => motorInfo c
  | .read .motor => motorShow c
  | .read .mode => modeShow c
  | .read .enable => enShow c
  | .read .dir => dirShow c
  | .read .cycle => cycleShow c
  | .read .delay => delayShow c
  | .read .speed => spShow c
  | .read .stepWork => (c, .stored (-eio))
  | .write .motor buf => motorStore kstrtouint c buf
  | .write .mode buf => modeStore kstrtouint c buf
  | .write .enable buf => enStore kstrtouint c buf
  | .write .dir buf => dirStore kstrtouint c buf
  | .write .cycle buf => cycleStore kstrtouint c buf
  | .write .speed buf => spStore kstrtouint c buf
  | .write .stepWork buf => stepOnStore kstrtouint c buf
  | .write .version _ => (c, .stored (-eio))
  | .write .info _ => (c, .stored (-eio))
  | .write .delay _ => (c, .stored (-eio))

end stores

def motorctrlWork (m : MotorControl) : List Call :=
  [.gpioInit, .setEnable m.en.toNat m.motor, .setMotorSpeed m.sp,
    .stepFunction m.dir awFullStep m.cycle, .setEnable 0 0, .setEnable 0 1]

-- the workqueue clears the pending bit and then runs the worker
def runWork (c : MotorChip) : MotorChip :=
  if c.workMotor then
    { c with
      workMotor := false
      fullStepDelay := setMotorSpeed c.mot.sp
      halfStepDelay := setMotorSpeed c.mot.sp / 2
      runs := c.runs ++ [motorctrlWork c.mot] }
  else c

inductive Act where
  | access (a : Access)
  | work
deriving DecidableEq, Repr

def step (kstrtouint : String → Except Int UInt32) (c : MotorChip) : Act → MotorChip
  | .access a => (access kstrtouint c a).1
  | .work => runWork c

end Motor
