import Mathlib.Tactic.IntervalCases
import IrisFirmware.Library.Lfsr

namespace Iso15693

open Lfsr

abbrev Byte := BitVec 8

def crcUpdateCcitt (crcSeed : BitVec 16) (dataByte : Byte) : BitVec 16 :=
  let dat := dataByte ^^^ crcSeed.setWidth 8
  let dat := dat ^^^ (dat <<< 4)
  crcSeed >>> 8 ^^^ dat.setWidth 16 <<< 8 ^^^ dat.setWidth 16 <<< 3 ^^^ dat.setWidth 16 >>> 4

def crcCalculateCcitt (preloadValue : BitVec 16) (buf : List Byte) : BitVec 16 :=
  buf.foldl crcUpdateCcitt preloadValue

def preload (picopassMode : Bool) : BitVec 16 := if picopassMode then 0xe012#16 else 0xffff#16

def crcOf (picopassMode : Bool) (buf : List Byte) : BitVec 16 :=
  let crc := crcCalculateCcitt (preload picopassMode) buf
  if picopassMode then crc else ~~~crc

def crcBytes (crc : BitVec 16) : List Byte := [crc.setWidth 8, (crc >>> 8).setWidth 8]

inductive ReturnCode where
  | none
  | framing
  | crc
  | rfCollision
deriving DecidableEq, Repr

def crcCheck (picopassMode : Bool) (outBuf : List Byte) : ReturnCode :=
  if 2 < outBuf.length then
    if outBuf.drop (outBuf.length - 2) =
        crcBytes (crcOf picopassMode (outBuf.take (outBuf.length - 2))) then .none
    else .crc
  else .crc

def bitAt (inBuf : List Byte) (i : Nat) : Bool := (inBuf.getD (i / 8) 0#8).getLsbD (i % 8)

def isEof (inBuf : List Byte) (mp : Nat) : Bool :=
  inBuf.getD (mp / 8) 0#8 &&& 0xe0#8 == 0xa0#8 && inBuf.getD (mp / 8 + 1) 0#8 == 0x03#8

def uint16 (n : Nat) : Nat := n % 65536

-- the place in `inBuf` and in `outBuf`, and the bits of `outBuf`, the lowest of each byte first
structure Cursor where
  mp : Nat
  bp : Nat
  outBits : List Bool
deriving DecidableEq, Repr

def decodeLoop (inBuf : List Byte) (inBufLen outBufLen ignoreBits : Nat) :
    Nat → Cursor → Option (Bool × Cursor)
  | 0, _ => none
  | fuel + 1, c =>
    if c.mp < inBufLen * 8 - 2 then
      let low := bitAt inBuf c.mp
      let high := bitAt inBuf (c.mp + 1)
      let outBits := if !low && high then c.outBits.set c.bp true else c.outBits
      let bp := if low != high then uint16 (c.bp + 1) else c.bp
      let eof := bp % 8 == 0 && isEof inBuf c.mp
      if low == high && !eof && ignoreBits ≤ bp then some (true, ⟨c.mp, bp, outBits⟩)
      else
        let bp := if low == high && !eof then uint16 (bp + 1) else bp
        if outBufLen * 8 ≤ bp || eof then some (false, ⟨c.mp, bp, outBits⟩)
        else decodeLoop inBuf inBufLen outBufLen ignoreBits fuel ⟨uint16 (c.mp + 2), bp, outBits⟩
    else some (false, c)

def bytesOf : List Bool → List Byte
  | b0 :: b1 :: b2 :: b3 :: b4 :: b5 :: b6 :: b7 :: rest =>
    BitVec.ofBoolListLE [b0, b1, b2, b3, b4, b5, b6, b7] :: bytesOf rest
  | _ => []

structure Decoded where
  err : ReturnCode
  outBuf : List Byte
  bitsBeforeCol : Nat
deriving DecidableEq, Repr

def viccDecode (fuel : Nat) (inBuf : List Byte) (inBufLen outBufLen ignoreBits : Nat)
    (picopassMode : Bool) : Option Decoded :=
  if inBuf.getD 0 0#8 &&& 0x1f#8 ≠ 0x17#8 then some ⟨.framing, [], 0⟩
  else if outBufLen = 0 then some ⟨.none, [], 0⟩
  else if inBufLen = 0 then some ⟨.crc, [], 0⟩
  else
    (decodeLoop inBuf inBufLen outBufLen ignoreBits fuel
      ⟨5, 0, List.replicate (outBufLen * 8) false⟩).map fun (collided, c) =>
        let outBuf := bytesOf (c.outBits.take c.bp)
        if collided then ⟨.rfCollision, outBuf, c.bp⟩
        else if c.bp % 8 ≠ 0 then ⟨.crc, outBuf, c.bp⟩
        else ⟨crcCheck picopassMode outBuf, outBuf, c.bp⟩

def ccittRegister : Lfsr 16 := lsbFirst 0x8408#16 (by decide)

theorem ccitt_byte (d : Byte) : ccittRegister.code 0#16 (downBits d) =
    (d ^^^ d <<< 4).setWidth 16 <<< 8 ^^^ (d ^^^ d <<< 4).setWidth 16 <<< 3 ^^^
      (d ^^^ d <<< 4).setWidth 16 >>> 4 := by
  revert d
  decide +kernel

theorem crcUpdateCcitt_eq (crc : BitVec 16) (b : Byte) :
    crcUpdateCcitt crc b = ccittRegister.code crc (downBits b) := by
  have hbyte : ccittRegister.code crc (downBits b) =
      crc >>> 8 ^^^ ccittRegister.code 0#16 (downBits (crc.setWidth 8 ^^^ b)) :=
    lsbFirst_byte (by decide) crc b
  rw [hbyte, ccitt_byte, crcUpdateCcitt, BitVec.xor_comm b]
  simp only [BitVec.xor_assoc]

theorem crcCalculateCcitt_eq (crc : BitVec 16) (buf : List Byte) :
    crcCalculateCcitt crc buf = ccittRegister.code crc (buf.flatMap downBits) := by
  induction buf generalizing crc with
  | nil => rfl
  | cons b buf ih =>
    rw [crcCalculateCcitt, List.foldl_cons, ← crcCalculateCcitt, ih, crcUpdateCcitt_eq,
      List.flatMap_cons, code_append]

theorem place_crcBytes (crc : BitVec 16) :
    ccittRegister.place 0 ((crcBytes crc).flatMap downBits) = crc := by
  apply BitVec.eq_of_getLsbD_eq
  intro k hk
  have hlen : 0 + ((crcBytes crc).flatMap downBits).length ≤ 16 := Nat.le_refl 16
  have hplace : (ccittRegister.place 0 ((crcBytes crc).flatMap downBits)).getLsbD k = _ :=
    ccittRegister.getLsbD_place hlen hk
  rw [hplace]
  interval_cases k <;> simp [crcBytes, downBits, List.range_succ]

theorem code_crcBytes (crc x : BitVec 16) :
    ccittRegister.code crc ((crcBytes x).flatMap downBits) =
      ccittRegister.steps 16 (crc ^^^ x) := by
  have hlen : ((crcBytes x).flatMap downBits).length ≤ 16 := Nat.le_refl 16
  rw [ccittRegister.code_eq_steps hlen, place_crcBytes]
  rfl

def residue (picopassMode : Bool) : BitVec 16 :=
  ccittRegister.steps 16 (if picopassMode then 0#16 else BitVec.allOnes 16)

theorem xor_not_self {w : Nat} (x : BitVec w) : x ^^^ ~~~x = BitVec.allOnes w := by
  apply BitVec.eq_of_getLsbD_eq
  intro i hi
  simp [hi]

theorem crcCheck_residue {picopassMode : Bool} {outBuf : List Byte}
    (h : crcCheck picopassMode outBuf = .none) :
    ccittRegister.code (preload picopassMode) (outBuf.flatMap downBits) = residue picopassMode := by
  rw [crcCheck] at h
  split at h
  next =>
    split at h
    next hcrc =>
      have hflat : outBuf.flatMap downBits =
          (outBuf.take (outBuf.length - 2)).flatMap downBits ++
            (crcBytes (crcOf picopassMode (outBuf.take (outBuf.length - 2)))).flatMap downBits := by
        rw [← hcrc, ← List.flatMap_append, List.take_append_drop]
      rw [hflat, code_append,
        ← crcCalculateCcitt_eq (preload picopassMode) (outBuf.take (outBuf.length - 2)),
        code_crcBytes, residue, crcOf]
      cases picopassMode
      · simp only [Bool.false_eq_true, if_false, xor_not_self]
      · simp
    next => cases h
  next => cases h

theorem crcCheck_burst {picopassMode : Bool} {outBuf other : List Byte}
    (h : crcCheck picopassMode outBuf = .none) (hburst : Burst downBits 16 outBuf other) :
    crcCheck picopassMode other ≠ .none := by
  intro hother
  have hne := code_ne_of_burst ccittRegister hburst (preload picopassMode)
  rw [crcCheck_residue h, crcCheck_residue hother] at hne
  exact hne rfl

theorem crcCheck_appended (picopassMode : Bool) {data : List Byte} (hdata : data ≠ []) :
    crcCheck picopassMode (data ++ crcBytes (crcOf picopassMode data)) = .none := by
  have hlen : (data ++ crcBytes (crcOf picopassMode data)).length = data.length + 2 := by
    simp [crcBytes]
  have hpos := List.length_pos_iff.mpr hdata
  rw [crcCheck, hlen, if_pos (by omega), Nat.add_sub_cancel, List.take_left, List.drop_left,
    if_pos rfl]

theorem bytesOf_downBits (b : Byte) (rest : List Bool) :
    bytesOf (downBits b ++ rest) = b :: bytesOf rest := by
  have hbyte : (BitVec.ofBoolListLE (downBits b) : BitVec 8) = b := by
    apply BitVec.eq_of_getLsbD_eq
    intro i hi
    have hlt : i < 8 := hi
    have hbit : (downBits b)[i]?.getD false = b.getLsbD i := by
      simp [downBits, List.getElem?_range hlt]
    rw [BitVec.getLsbD_ofBoolListLE]
    exact hbit
  exact congrArg (· :: bytesOf rest) hbyte

theorem bytesOf_flatMap (data : List Byte) : bytesOf (data.flatMap downBits) = data := by
  induction data with
  | nil => rfl
  | cons b data ih => rw [List.flatMap_cons, bytesOf_downBits, ih]

structure Response (inBuf : List Byte) (bits : List Bool) : Prop where
  sof : inBuf.getD 0 0#8 &&& 0x1f#8 = 0x17#8
  halves : ∀ j d, bits[j]? = some d →
    bitAt inBuf (5 + 2 * j) = !d ∧ bitAt inBuf (5 + 2 * j + 1) = d
  eof : isEof inBuf (2 * bits.length + 3) = true

theorem isEof_bits {inBuf : List Byte} {k : Nat} (h : isEof inBuf (16 * k + 3) = true) :
    bitAt inBuf (16 * k + 7) = true ∧ bitAt inBuf (16 * k + 8) = true := by
  have hmask : ∀ b : Byte, b &&& 0xe0#8 = 0xa0#8 → b.getLsbD 7 = true := by decide
  have hbyte : (16 * k + 3) / 8 = 2 * k := by omega
  rw [isEof, hbyte, Bool.and_eq_true, beq_iff_eq, beq_iff_eq] at h
  have hindex : (16 * k + 7) / 8 = 2 * k ∧ (16 * k + 7) % 8 = 7 ∧ (16 * k + 8) / 8 = 2 * k + 1 ∧
      (16 * k + 8) % 8 = 0 := by omega
  rw [bitAt, bitAt, hindex.1, hindex.2.1, hindex.2.2.1, hindex.2.2.2]
  exact ⟨hmask _ h.1, by rw [h.2]; decide⟩

theorem no_eof_inside {inBuf : List Byte} {bits : List Bool} (h : Response inBuf bits)
    (hwhole : bits.length % 8 = 0) {n : Nat} (hn : 0 < n) (hlt : n < bits.length) :
    (n % 8 == 0 && isEof inBuf (5 + 2 * (n - 1))) = false := by
  cases hmod : n % 8 == 0
  · rfl
  · obtain ⟨k, rfl⟩ : ∃ k, n = 8 * k := ⟨n / 8, by have := beq_iff_eq.mp hmod; omega⟩
    have hpos : 5 + 2 * (8 * k - 1) = 16 * k + 3 := by omega
    rw [hpos]
    cases heof : isEof inBuf (16 * k + 3)
    · rfl
    · have hj : 8 * k + 1 < bits.length := by omega
      obtain ⟨h7, h8⟩ := isEof_bits heof
      obtain ⟨hlow, hhigh⟩ := h.halves (8 * k + 1) _ (List.getElem?_eq_getElem hj)
      have hindex : 5 + 2 * (8 * k + 1) = 16 * k + 7 := by omega
      rw [hindex] at hlow hhigh
      rw [h7] at hlow
      rw [h8] at hhigh
      rw [← hhigh] at hlow
      cases hlow

def reading (outBufLen : Nat) (done : List Bool) : Cursor :=
  ⟨5 + 2 * done.length, done.length,
    done ++ List.replicate (outBufLen * 8 - done.length) false⟩

theorem reading_set {outBufLen : Nat} {done : List Bool} (h : done.length < outBufLen * 8)
    (d : Bool) :
    (if d then (reading outBufLen done).outBits.set done.length true
      else (reading outBufLen done).outBits) = (reading outBufLen (done ++ [d])).outBits := by
  obtain ⟨n, hn⟩ : ∃ n, outBufLen * 8 - done.length = n + 1 :=
    ⟨outBufLen * 8 - done.length - 1, by omega⟩
  have hnext : outBufLen * 8 - (done ++ [d]).length = n := by
    rw [List.length_append, List.length_singleton]
    omega
  rw [reading, reading, hn, hnext, List.replicate_succ]
  cases d with
  | true => simp [List.set_append_right]
  | false => simp

theorem decodeLoop_bit {inBuf : List Byte} {inBufLen outBufLen ignoreBits fuel : Nat}
    {done : List Bool} {d : Bool} (hlow : bitAt inBuf (5 + 2 * done.length) = !d)
    (hhigh : bitAt inBuf (5 + 2 * done.length + 1) = d)
    (hmp : 5 + 2 * done.length < inBufLen * 8 - 2) (hroom : done.length < outBufLen * 8)
    (hshort : done.length + 1 < 65536) :
    decodeLoop inBuf inBufLen outBufLen ignoreBits (fuel + 1) (reading outBufLen done) =
      if outBufLen * 8 ≤ done.length + 1 ∨
          ((done.length + 1) % 8 == 0 && isEof inBuf (5 + 2 * done.length)) = true then
        some (false, { reading outBufLen (done ++ [d]) with mp := 5 + 2 * done.length })
      else decodeLoop inBuf inBufLen outBufLen ignoreBits fuel
        { reading outBufLen (done ++ [d]) with mp := uint16 (5 + 2 * done.length + 2) } := by
  have hdiff : ((!d) != d) = true ∧ ((!d) == d) = false ∧ (!!d && d) = d := by cases d <;> decide
  have hbp : uint16 (done.length + 1) = done.length + 1 := Nat.mod_eq_of_lt hshort
  have hcount : (done ++ [d]).length = done.length + 1 := by simp
  have hset := reading_set hroom d
  have hmp' : (reading outBufLen done).mp = 5 + 2 * done.length := rfl
  have hbp' : (reading outBufLen done).bp = done.length := rfl
  rw [decodeLoop, hmp', if_pos hmp]
  simp only [hbp', hlow, hhigh, hdiff.1, hdiff.2.1, hdiff.2.2, hset, hbp, if_true, Bool.false_and,
    Bool.false_eq_true, if_false]
  simp only [reading, hcount, Bool.or_eq_true, decide_eq_true_eq]

theorem decodeLoop_response {inBuf : List Byte} {bits : List Bool} (outBufLen ignoreBits : Nat)
    (h : Response inBuf bits) (hwhole : bits.length % 8 = 0)
    (hroom : bits.length ≤ outBufLen * 8) (hshort : 2 * bits.length + 3 < 65536)
    {rest done : List Bool} {fuel : Nat} (hbits : done ++ rest = bits) (hrest : rest ≠ [])
    (hfuel : rest.length ≤ fuel) :
    ∃ mp, decodeLoop inBuf (bits.length / 4 + 2) outBufLen ignoreBits fuel
        (reading outBufLen done) = some (false, { reading outBufLen bits with mp := mp }) := by
  induction rest generalizing done fuel with
  | nil => exact absurd rfl hrest
  | cons d rest ih =>
    obtain ⟨fuel, rfl⟩ : ∃ f, fuel = f + 1 := by
      cases fuel with
      | zero => simp at hfuel
      | succ f => exact ⟨f, rfl⟩
    have hlen : bits.length = done.length + rest.length + 1 := by
      rw [← hbits]
      simp only [List.length_append, List.length_cons]
      omega
    have hbit : bits[done.length]? = some d := by
      rw [← hbits]
      simp
    obtain ⟨hlow, hhigh⟩ := h.halves _ d hbit
    rw [decodeLoop_bit hlow hhigh (by omega) (by omega) (by omega)]
    cases rest with
    | nil =>
      have heof : isEof inBuf (5 + 2 * done.length) = true := by
        have hpos : 5 + 2 * done.length = 2 * bits.length + 3 := by
          simp only [List.length_nil] at hlen
          omega
        rw [hpos]
        exact h.eof
      have hmod : (done.length + 1) % 8 = 0 := by
        simp only [List.length_nil] at hlen
        omega
      rw [if_pos (.inr (by simp [heof, hmod])), hbits]
      exact ⟨_, rfl⟩
    | cons d' rest =>
      have hlt : done.length + 1 < bits.length := by
        simp only [List.length_cons] at hlen
        omega
      have hnone := no_eof_inside h hwhole (Nat.succ_pos done.length) hlt
      rw [Nat.succ_eq_add_one, Nat.add_sub_cancel] at hnone
      have hnext : { reading outBufLen (done ++ [d]) with mp := uint16 (5 + 2 * done.length + 2) } =
          reading outBufLen (done ++ [d]) := by
        have hmp : uint16 (5 + 2 * done.length + 2) = 5 + 2 * (done ++ [d]).length := by
          rw [uint16, List.length_append, List.length_singleton]
          omega
        rw [hmp, reading]
      rw [if_neg (by rw [hnone]; simp; omega), hnext]
      exact ih (show (done ++ [d]) ++ (d' :: rest) = bits by simpa using hbits) (by simp)
        (Nat.le_of_succ_le_succ hfuel)

theorem viccDecode_accepted {fuel : Nat} {inBuf : List Byte}
    {inBufLen outBufLen ignoreBits : Nat} {picopassMode : Bool} {d : Decoded}
    (hd : viccDecode fuel inBuf inBufLen outBufLen ignoreBits picopassMode = some d)
    (h : d.err = .none) : d.outBuf = [] ∨ crcCheck picopassMode d.outBuf = .none := by
  rw [viccDecode] at hd
  split at hd
  next => exact .inl (by rw [← Option.some.inj hd])
  next =>
    split at hd
    next => exact .inl (by rw [← Option.some.inj hd])
    next =>
      split at hd
      next => exact .inl (by rw [← Option.some.inj hd])
      next =>
        obtain ⟨⟨collided, c⟩, -, hend⟩ := Option.map_eq_some_iff.mp hd
        simp only at hend
        split at hend
        next =>
          rw [← hend] at h
          cases h
        next =>
          split at hend
          next =>
            rw [← hend] at h
            cases h
          next =>
            rw [← hend] at h ⊢
            exact .inr h

theorem response_decoded {fuel : Nat} {inBuf data : List Byte} {outBufLen ignoreBits : Nat}
    {picopassMode : Bool} (hdata : data ≠ []) (hshort : data.length ≤ 4093)
    (hroom : data.length + 2 ≤ outBufLen) (hfuel : 8 * (data.length + 2) ≤ fuel)
    (h : Response inBuf
      ((data ++ crcBytes (crcOf picopassMode data)).flatMap downBits)) :
    viccDecode fuel inBuf (2 * (data.length + 2) + 2) outBufLen ignoreBits picopassMode =
      some ⟨.none, data ++ crcBytes (crcOf picopassMode data), 8 * (data.length + 2)⟩ := by
  have hcount : (data ++ crcBytes (crcOf picopassMode data)).length = data.length + 2 := by
    simp [crcBytes]
  have hlen := length_bits length_downBits (data ++ crcBytes (crcOf picopassMode data))
  rw [hcount] at hlen
  have hpos := List.length_pos_iff.mpr hdata
  have hsize : ((data ++ crcBytes (crcOf picopassMode data)).flatMap downBits).length / 4 + 2 =
      2 * (data.length + 2) + 2 := by omega
  have hne : (data ++ crcBytes (crcOf picopassMode data)).flatMap downBits ≠ [] :=
    List.ne_nil_of_length_pos (by omega)
  obtain ⟨mp, hloop⟩ := decodeLoop_response outBufLen ignoreBits h (by omega) (by omega)
    (by omega) (List.nil_append _) hne (hlen ▸ hfuel)
  rw [hsize] at hloop
  have hin : 2 * (data.length + 2) + 2 ≠ 0 := by omega
  have hout : outBufLen ≠ 0 := by omega
  have hwhole : 8 * (data.length + 2) % 8 = 0 := by omega
  have hstart : reading outBufLen [] = ⟨5, 0, List.replicate (outBufLen * 8) false⟩ := rfl
  rw [hstart] at hloop
  rw [viccDecode, if_neg (not_not_intro h.sof), if_neg hout, if_neg hin, hloop, Option.map_some]
  simp only [reading, List.take_left, bytesOf_flatMap, crcCheck_appended picopassMode hdata]
  simp only [hlen, hwhole, ne_eq, not_true_eq_false, Bool.false_eq_true, if_false]

def okResponse : List Byte :=
  [0xb7#8, 0xaa#8, 0xaa#8, 0x52#8, 0xad#8, 0x4a#8, 0xb5#8, 0x03#8]

theorem okResponse_decoded : viccDecode 24 okResponse 8 16 0 false =
    some ⟨.none, [0x00#8] ++ crcBytes (crcOf false [0x00#8]), 24⟩ := by
  have hhalves : ∀ j, j < 24 →
      bitAt okResponse (5 + 2 * j) =
        !(([0x00#8] ++ crcBytes (crcOf false [0x00#8])).flatMap downBits).getD j false ∧
      bitAt okResponse (5 + 2 * j + 1) =
        (([0x00#8] ++ crcBytes (crcOf false [0x00#8])).flatMap downBits).getD j false := by
    decide +kernel
  have hresponse : Response okResponse
      (([0x00#8] ++ crcBytes (crcOf false [0x00#8])).flatMap downBits) := by
    refine ⟨by decide, fun j d hj => ?_, by decide +kernel⟩
    have hlt : j < 24 := (List.getElem?_eq_some_iff.mp hj).1
    have hbit := hhalves j hlt
    rw [List.getD_eq_getElem?_getD, hj] at hbit
    exact hbit
  exact response_decoded (by decide) (by decide) (by decide) (by decide) hresponse

theorem damaged_response_refused {fuel fuel' : Nat} {inBuf inBuf' : List Byte}
    {inBufLen outBufLen ignoreBits inBufLen' outBufLen' ignoreBits' : Nat} {picopassMode : Bool}
    {d d' : Decoded}
    (hd : viccDecode fuel inBuf inBufLen outBufLen ignoreBits picopassMode = some d)
    (hd' : viccDecode fuel' inBuf' inBufLen' outBufLen' ignoreBits' picopassMode = some d')
    (h : d.err = .none) (hburst : Burst downBits 16 d.outBuf d'.outBuf) : d'.err ≠ .none := by
  intro h'
  obtain ⟨hne, hne'⟩ := hburst.ne_nil
  have hcheck := (viccDecode_accepted hd h).resolve_left hne
  have hcheck' := (viccDecode_accepted hd' h').resolve_left hne'
  exact crcCheck_burst hcheck hburst hcheck'

def damagedResponse : List Byte :=
  [0xd7#8, 0xaa#8, 0xaa#8, 0x52#8, 0xad#8, 0x4a#8, 0xb5#8, 0x03#8]

theorem damagedResponse_refused :
    viccDecode 24 damagedResponse 8 16 0 false = some ⟨.crc, [0x01#8, 0x78#8, 0xf0#8], 24⟩ ∧
      (⟨.crc, [0x01#8, 0x78#8, 0xf0#8], 24⟩ : Decoded).err ≠ .none := by
  have hok : viccDecode 24 okResponse 8 16 0 false =
      some ⟨.none, [0x00#8, 0x78#8, 0xf0#8], 24⟩ := by
    decide +kernel
  have hdamaged : viccDecode 24 damagedResponse 8 16 0 false =
      some ⟨.crc, [0x01#8, 0x78#8, 0xf0#8], 24⟩ := by
    decide +kernel
  have hburst : Burst downBits 16 [0x00#8, 0x78#8, 0xf0#8] [0x01#8, 0x78#8, 0xf0#8] :=
    ⟨[], downBits 0x00#8, downBits 0x01#8, [0x78#8, 0xf0#8].flatMap downBits, rfl, rfl, rfl,
      by decide, by decide⟩
  exact ⟨hdamaged, damaged_response_refused hok hdamaged rfl hburst⟩

end Iso15693
