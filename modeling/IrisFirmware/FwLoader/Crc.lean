import Mathlib.Tactic.IntervalCases
import IrisFirmware.Library.Lfsr

namespace FwLoader

abbrev Byte := BitVec 8

open Lfsr

def di : BitVec 32 := 0x07#32

-- `crc` is an int: its bits past the eighth stay until the byte is stored
def crc8Table (i : Byte) : Byte :=
  ((fun crc : BitVec 32 => crc <<< 1 ^^^ (if crc &&& 0x80#32 ≠ 0#32 then di else 0#32))^[8]
    (i.setWidth 32)).setWidth 8

def crc8 (array : List Byte) : Byte := array.foldl (fun crc b => crc8Table (crc ^^^ b)) 0xff#8

section unsignedLong

variable (w : Nat)

def polynomial : BitVec w := 0x04c11db7#w

def crcTable (i : Byte) : BitVec w :=
  (fun crcAccum : BitVec w =>
    if crcAccum &&& 0x80000000#w ≠ 0#w then crcAccum <<< 1 ^^^ polynomial w
    else crcAccum <<< 1)^[8] (i.setWidth w <<< 24)

-- a char reaches the index with its low byte only, signed or not
def updateCrc (crcAccum : BitVec w) (dataBlk : List Byte) : BitVec w :=
  dataBlk.foldl (fun acc b => acc <<< 8 ^^^ crcTable w ((acc >>> 24 ^^^ b.signExtend w).setWidth 8))
    crcAccum

end unsignedLong

def le16 (x : BitVec 16) : List Byte := [x.setWidth 8, (x >>> 8).setWidth 8]

def le32 (x : BitVec 32) : List Byte :=
  [x.setWidth 8, (x >>> 8).setWidth 8, (x >>> 16).setWidth 8, (x >>> 24).setWidth 8]

def swapl (x : BitVec 32) : BitVec 32 :=
  ((x >>> 24) &&& 0xff#32) ||| ((x >>> 8) &&& 0xff00#32) ||| ((x <<< 8) &&& 0xff0000#32) |||
    ((x <<< 24) &&& 0xff000000#32)

def crc8Register : Lfsr 8 := msbFirst 0x07#8 (by decide)

def crc32Register : Lfsr 32 := msbFirst 0x04c11db7#32 (by decide)

theorem and_twoPow_ne {w : Nat} {k : Nat} (hk : k < w) (a : BitVec w) :
    a &&& BitVec.twoPow w k ≠ 0#w ↔ a.getLsbD k = true := by
  rw [BitVec.and_twoPow]
  cases a.getLsbD k
  · simp
  · have hbit : (BitVec.twoPow w k).getLsbD k = true := by simp [hk]
    have hne : BitVec.twoPow w k ≠ 0#w := by
      intro h
      simp [h] at hbit
    simpa using hne

theorem crc8Table_eq (i : Byte) : crc8Table i = crc8Register.steps 8 i := by
  have hstep : (fun crc : BitVec 32 =>
      crc <<< 1 ^^^ (if crc &&& 0x80#32 ≠ 0#32 then di else 0#32)) =
      fold (· <<< 1) (8 - 1) 0x07#32 := by
    funext crc
    have hbit := and_twoPow_ne (k := 7) (by decide) crc
    simp only [show BitVec.twoPow 32 7 = 0x80#32 from rfl] at hbit
    simp only [fold, hbit, di]
    cases crc.getLsbD 7 <;> simp
  rw [crc8Table, hstep, setWidth_folds (by decide) 8 rfl (by decide)]
  simp [crc8Register]

theorem crc8_fold (crc : Byte) (array : List Byte) :
    array.foldl (fun crc b => crc8Table (crc ^^^ b)) crc =
      crc8Register.code crc (array.flatMap upBits) := by
  induction array generalizing crc with
  | nil => rfl
  | cons b array ih =>
    have hbyte : crc8Register.code crc (upBits b) = crc8Table (crc ^^^ b) := by
      rw [crc8Register.code_eq_steps (show (upBits b).length ≤ 8 from Nat.le_refl 8), crc8Table_eq,
        crc8Register, place_upBits (Nat.le_refl 8)]
      simp
    rw [List.foldl_cons, ih, List.flatMap_cons, code_append, hbyte]

theorem crc8_eq (array : List Byte) :
    crc8 array = crc8Register.code 0xff#8 (array.flatMap upBits) :=
  crc8_fold _ _

theorem crcTable_eq {w : Nat} (hw : 32 ≤ w) (i : Byte) :
    (crcTable w i).setWidth 32 = crc32Register.code 0#32 (upBits i) := by
  have htop : (0x80000000#w : BitVec w) = BitVec.twoPow w 31 := by
    apply BitVec.eq_of_toNat_eq
    simp [BitVec.toNat_twoPow]
  have hstep : (fun crcAccum : BitVec w =>
      if crcAccum &&& 0x80000000#w ≠ 0#w then crcAccum <<< 1 ^^^ polynomial w
      else crcAccum <<< 1) = fold (· <<< 1) (32 - 1) (polynomial w) := by
    funext acc
    have hbit := and_twoPow_ne (k := 31) (by omega) acc
    rw [← htop] at hbit
    simp only [fold, hbit]
  have hpoly : (polynomial w).setWidth 32 = 0x04c11db7#32 := BitVec.setWidth_ofNat_of_le hw _
  rw [crcTable, hstep, setWidth_folds hw 8 hpoly (by decide), BitVec.setWidth_shiftLeft_of_le hw,
    BitVec.setWidth_setWidth_of_le _ hw, crc32Register,
    Lfsr.code_eq_steps _ (by decide : 8 ≤ 32), place_upBits (by decide), BitVec.zero_xor,
    length_upBits]

theorem updateCrc_eq {w : Nat} (hw : 32 ≤ w) (crcAccum : BitVec w) (dataBlk : List Byte) :
    (updateCrc w crcAccum dataBlk).setWidth 32 =
      crc32Register.code (crcAccum.setWidth 32) (dataBlk.flatMap upBits) := by
  induction dataBlk generalizing crcAccum with
  | nil => rfl
  | cons b dataBlk ih =>
    have hindex : (crcAccum >>> 24 ^^^ b.signExtend w).setWidth 8 =
        topByte (crcAccum.setWidth 32) ^^^ b := by
      apply BitVec.eq_of_getLsbD_eq
      intro k hk
      have hlow : k < w := by omega
      have hseat : 24 + k < 32 := by omega
      simp [topByte, hk, hlow, hseat, BitVec.getElem_signExtend]
    have hbyte : crc32Register.code (crcAccum.setWidth 32) (upBits b) =
        crcAccum.setWidth 32 <<< 8 ^^^
          crc32Register.code 0#32 (upBits (topByte (crcAccum.setWidth 32) ^^^ b)) :=
      msbFirst_byte (by decide) _ b
    rw [updateCrc, List.foldl_cons, ← updateCrc, ih, BitVec.setWidth_xor,
      BitVec.setWidth_shiftLeft_of_le hw, crcTable_eq hw, hindex, ← hbyte, List.flatMap_cons,
      code_append]

theorem le32_swapl (x : BitVec 32) : le32 (swapl x) =
    [(x >>> 24).setWidth 8, (x >>> 16).setWidth 8, (x >>> 8).setWidth 8, x.setWidth 8] := by
  simp only [le32, List.cons.injEq, and_true]
  refine ⟨?_, ?_, ?_, ?_⟩
  all_goals
    apply BitVec.eq_of_getLsbD_eq
    intro i hi
    interval_cases i <;> simp [swapl]

theorem place_swapl (x : BitVec 32) :
    crc32Register.place 0 ((le32 (swapl x)).flatMap upBits) = x := by
  apply BitVec.eq_of_getLsbD_eq
  intro k hk
  obtain ⟨j, hj, hseat⟩ := crc32Register.seat_onto k hk
  have hlen : 0 + ((le32 (swapl x)).flatMap upBits).length ≤ 32 := Nat.le_refl 32
  have hplace := crc32Register.getLsbD_place hlen hj
  rw [hseat] at hplace
  rw [hplace, le32_swapl, ← hseat]
  interval_cases j <;> simp [upBits, crc32Register, msbFirst, List.range_succ]

end FwLoader
