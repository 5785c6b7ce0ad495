import Mathlib.Data.Rat.Floor
import IrisFirmware.Misc.Amp.Config

namespace PegaAmp

open Loop

abbrev tasPage : Nat := 0x00
abbrev tasSwReset : Nat := 0x01
abbrev tasPwrCtl : Nat := 0x02
abbrev tasPbCfg1 : Nat := 0x03
abbrev tasBook : Nat := 0x7f

abbrev FAILED : Int := -1
abbrev SUCCEED : Int := 1

-- an address is a book, a page and a register
abbrev Address := Nat × Nat × Nat

structure Chip where
  book : Nat
  page : Nat
  mem : Address → Nat
  landed : List (Address × Nat)

def Chip.write (c : Chip) (reg val : Nat) : Chip where
  book := if reg = tasBook then val else c.book
  page := if reg = tasPage then val else c.page
  mem := Function.update c.mem (c.book, c.page, reg) val
  landed := c.landed ++ [((c.book, c.page, reg), val)]

structure Transfer where
  ok : Bool
  reg : Nat
  val : Nat
deriving DecidableEq, Repr

structure Amp where
  curBook : Nat
  curPage : Nat
  chip : Chip
  calls : List Transfer

def ampStart (mem : Address → Nat) : Amp := ⟨0, 0, ⟨0, 0, mem, []⟩, []⟩

def i2cWrite (ok : Bool) (regAddr regData : Nat) (a : Amp) : Amp × Int :=
  let a := { a with calls := a.calls ++ [⟨ok, regAddr, regData⟩] }
  if ok then ({ a with chip := a.chip.write regAddr regData }, SUCCEED) else (a, FAILED)

def i2cRead (ok : Bool) (regAddr : Nat) (a : Amp) : Nat × Int :=
  if ok then (a.chip.mem (a.chip.book, a.chip.page, regAddr), SUCCEED) else (0, FAILED)

def selectBook (ok : Bool) (book : Nat) (a : Amp) : Amp × Int :=
  if book ≠ a.curBook then i2cWrite ok tasBook book { a with curBook := book } else (a, 0)

def selectPage (ok : Bool) (page : Nat) (a : Amp) : Amp × Int :=
  if page ≠ a.curPage then i2cWrite ok tasPage page { a with curPage := page } else (a, 0)

def writeData (ok : Nat → Bool) (regAddr : Nat) : Nat → List Nat → Amp → Amp × Int
  | _, [], a => (a, 0)
  | i, d :: ds, a =>
    let r := i2cWrite (ok i) ((regAddr + i) % 2 ^ 8) d a
    if r.2 ≠ 0 then (r.1, -1) else writeData ok regAddr (i + 1) ds r.1

structure BulkAnswers where
  book : Bool
  page : Bool
  data : Nat → Bool

def bulkWriteReg (ok : BulkAnswers) (book page regAddr : Nat) (regData : List Nat) (a : Amp) :
    Amp × Int :=
  let b := selectBook ok.book book a
  if b.2 ≠ 0 then (b.1, -1)
  else
    let p := selectPage ok.page page b.1
    if p.2 ≠ 0 then (p.1, -1) else writeData ok.data regAddr 0 regData p.1

def updateBits (okRead okWrite : Bool) (reg mask value : Nat) (a : Amp) : Amp × Int :=
  let r := i2cRead okRead reg a
  if r.2 < 0 then (a, r.2)
  else
    let new := (r.1 &&& (0xff ^^^ mask)) ||| (value &&& mask)
    if r.1 ≠ new then
      let w := i2cWrite okWrite reg new a
      if w.2 < 0 then (w.1, w.2) else (w.1, 0)
    else (a, 0)

-- writes whose results nobody looks at
def perform (ts : List Transfer) (a : Amp) : Amp :=
  ts.foldl (fun a t => (i2cWrite t.ok t.reg t.val a).1) a

def volumeCode (fdB : ℚ) : Nat :=
  let fdB := if fdB < 17 / 2 then 17 / 2 else fdB
  let fdB := if 22 < fdB then 22 else fdB
  ((fdB - 17 / 2) / (1 / 2) + 1).floor.toNat

def selectFirst (ok : Nat → Bool) : List Transfer := [⟨ok 0, tasPage, 0⟩, ⟨ok 1, tasBook, 0⟩]

def softwareReset (ok : Nat → Bool) (a : Amp) : Amp :=
  perform (selectFirst ok ++ [⟨ok 2, tasSwReset, 1⟩]) a

def softwareMute (ok : Nat → Bool) (bMute : Nat) (a : Amp) : Amp :=
  (updateBits (ok 2) (ok 3) tasPwrCtl 0x03 (if bMute ≠ 0 then 0x01 else 0x00)
    (perform (selectFirst ok) a)).1

def volumeControl (ok : Nat → Bool) (fdB : ℚ) (a : Amp) : Amp :=
  (updateBits (ok 2) (ok 3) tasPbCfg1 0x3e (2 * volumeCode fdB % 2 ^ 8)
    (perform (selectFirst ok) a)).1

def regWrite (ok : Nat → Bool) (ucRegID val : Nat) (a : Amp) : Amp :=
  perform (selectFirst ok ++ [⟨ok 2, ucRegID, val⟩]) a

def regRead (ok : Nat → Bool) (ucRegID : Nat) (a : Amp) : Nat × Amp :=
  let b := perform (selectFirst ok) a
  ((i2cRead (ok 2) ucRegID b).1, b)

-- a load that meets a NULL token or a buffer never filled does not return
def LoadExit.returns : LoadExit → Option (List (Nat × Nat))
  | .undefined _ => none
  | .nullToken _ => none
  | .returned ws => some ws

def configWrites (text : List Char) : Option (List (Nat × Nat)) :=
  ((run loadStep (text.length + 1) (loadStart text)).get (load_ends text)).returns

def configTransfers (ok : Nat → Bool) (ws : List (Nat × Nat)) : List Transfer :=
  ws.mapIdx fun i w => ⟨ok i, w.1, w.2⟩

def loadAudioConfigFile (ok : Nat → Bool) (text : List Char) (a : Amp) : Option Amp :=
  (configWrites text).map fun ws => perform (configTransfers ok ws) a

inductive AmpOp where
  | bulkWrite (ok : BulkAnswers) (book page regAddr : Nat) (regData : List Nat)
  | regWrite (ok : Nat → Bool) (ucRegID val : Nat)
  | regRead (ok : Nat → Bool) (ucRegID : Nat)
  | mute (ok : Nat → Bool) (bMute : Nat)
  | volume (ok : Nat → Bool) (fdB : ℚ)
  | reset (ok : Nat → Bool)
  | config (ok : Nat → Bool) (text : List Char)

def ampCall (a : Amp) : AmpOp → Option Amp
  | .bulkWrite ok book page regAddr regData =>
    some (bulkWriteReg ok book page regAddr regData a).1
  | .regWrite ok ucRegID val => some (regWrite ok ucRegID val a)
  | .regRead ok ucRegID => some (regRead ok ucRegID a).2
  | .mute ok bMute => some (softwareMute ok bMute a)
  | .volume ok fdB => some (volumeControl ok fdB a)
  | .reset ok => some (softwareReset ok a)
  | .config ok text => loadAudioConfigFile ok text a

def ampStep (s : Option Amp) (op : AmpOp) : Option Amp := s.bind fun a => ampCall a op

end PegaAmp
