import IrisFirmware.FwLoader.Crc

namespace FwLoader

open Lfsr

def v1HeaderDataReq : Byte := 0xa5#8
def v1RequestAck : Byte := 0x5a#8
def v1StartIndication : Byte := 0xaa#8
def v1ErrorAck : Byte := 0xbf#8

def v3StartIndication : Byte := 0xab#8
def v3HeaderDataReq : Byte := 0xa7#8
def v3RequestAck : Byte := 0x7a#8
def v3TimeoutAck : Byte := 0x7b#8
def v3CrcError : Byte := 0x7c#8

def timeoutValMillisec : BitVec 64 := 4000#64

-- what the boot code was last understood to say, and what went back to it
structure Link where
  newLen : BitVec 16
  newOffset : BitVec 32
  newError : BitVec 16
  chipId : BitVec 16
  timeoutStart : BitVec 64
  exited : Bool
  sent : List (List Byte)
deriving DecidableEq, Repr

def Link.write (l : Link) (frame : List Byte) : Link := { l with sent := l.sent ++ [frame] }

def v1XorFail (l : Link) : Link := l.write [v1ErrorAck]

def v1XorPass (l : Link) : Link := l.write [v1RequestAck]

def ackFrame (ack : Byte) (l : Link) : List Byte :=
  let body := if ack = v3TimeoutAck then ack :: le32 l.newOffset else [ack]
  body ++ [crc8 body]

def recoveryTimeout (now : BitVec 64) (l : Link) : Link :=
  if l.timeoutStart ≠ 0#64 then
    if now - l.timeoutStart > timeoutValMillisec then { l with exited := true } else l
  else { l with timeoutStart := now }

def sendAck (ack : Byte) (now : BitVec 64) (l : Link) : Link :=
  let l := l.write (ackFrame ack l)
  if ack = v3TimeoutAck ∨ ack = v3CrcError then recoveryTimeout now l
  else { l with timeoutStart := 0#64 }

def uint16At (raw : List Byte) (k : Nat) : BitVec 16 := raw.getD (k + 1) 0#8 ++ raw.getD k 0#8

def uint32At (raw : List Byte) (k : Nat) : BitVec 32 := uint16At raw (k + 2) ++ uint16At raw k

-- the bytes of the union that follow the header
def payloadSize (header : Byte) : Nat := if header = v3HeaderDataReq then 9 else 4

def readChar (size : Nat) (incoming : List Byte) : Option (List Byte) :=
  if size ≤ incoming.length then some (incoming.take size) else none

def crcMatch (header : Byte) (raw : List Byte) : Bool :=
  raw.getLast? == some (crc8 (header :: raw.dropLast))

def v1DataReq (raw : List Byte) (l : Link) : Bool × Link :=
  if uint16At raw 0 ^^^ uint16At raw 2 = 0xffff#16 then (true, { l with newLen := uint16At raw 0 })
  else (false, v1XorFail l)

-- the two bytes are compared as ints, with a constant of sixteen bits
def v1StartInd (raw : List Byte) (l : Link) : Bool × Link :=
  if ((raw.getD 0 0#8).setWidth 32 ^^^ (raw.getD 2 0#8).setWidth 32 = 0xffff#32) ∧
      (raw.getD 1 0#8 ^^^ raw.getD 3 0#8 = 0xff#8) then (true, v1XorPass l)
  else (false, v1XorFail l)

def v3StartInd (now : BitVec 64) (raw : List Byte) (l : Link) : Bool × Link :=
  if crcMatch v3StartIndication raw then
    (true, { sendAck v3RequestAck now l with chipId := uint16At raw 0 })
  else (false, sendAck v3CrcError now l)

def v3DataReq (now : BitVec 64) (raw : List Byte) (l : Link) : Bool × Link :=
  if crcMatch v3HeaderDataReq raw then
    (true, { l with
      newLen := uint16At raw 0
      newOffset := uint32At raw 2
      newError := uint16At raw 6 })
  else (false, sendAck v3CrcError now l)

def readHeaderPayload (header : Byte) (incoming : List Byte) (now : BitVec 64) (l : Link) :
    Bool × Link :=
  match readChar (payloadSize header) incoming with
  | none => (false, l)
  | some raw =>
    if header = v1HeaderDataReq then v1DataReq raw l
    else if header = v1StartIndication then v1StartInd raw l
    else if header = v3StartIndication then v3StartInd now raw l
    else if header = v3HeaderDataReq then v3DataReq now raw l
    else (false, l)

def refuse (header : Byte) (now : BitVec 64) (l : Link) : Link :=
  if header = v1HeaderDataReq ∨ header = v1StartIndication then v1XorFail l
  else sendAck v3CrcError now l

def Link.asked (l : Link) : BitVec 16 × BitVec 32 × BitVec 16 × BitVec 16 :=
  (l.newLen, l.newOffset, l.newError, l.chipId)

theorem sendAck_asked (ack : Byte) (now : BitVec 64) (l : Link) :
    (sendAck ack now l).asked = l.asked := by
  rw [sendAck]
  split
  · rw [recoveryTimeout]
    split
    · split <;> rfl
    · rfl
  · rfl

theorem refuse_asked (header : Byte) (now : BitVec 64) (l : Link) :
    (refuse header now l).asked = l.asked := by
  rw [refuse]
  split
  · rfl
  · exact sendAck_asked _ _ _

theorem crcMatch_iff {header : Byte} {raw : List Byte} (hraw : raw ≠ []) :
    crcMatch header raw = true ↔
      crc8Register.code 0xff#8 ((header :: raw).flatMap upBits) = 0#8 := by
  obtain ⟨body, crc, rfl⟩ : ∃ body crc, raw = body ++ [crc] :=
    ⟨raw.dropLast, raw.getLast hraw, (List.dropLast_append_getLast hraw).symm⟩
  have hplace : crc8Register.place 0 (upBits crc) = crc := by
    rw [crc8Register, place_upBits (Nat.le_refl 8)]
    simp
  have hlast : crcMatch header (body ++ [crc]) = true ↔ crc8 (header :: body) = crc := by
    rw [crcMatch, List.getLast?_concat, List.dropLast_concat, beq_iff_eq, Option.some.injEq]
    exact eq_comm
  have hcode : crc8Register.code 0xff#8 ((header :: (body ++ [crc])).flatMap upBits) =
      crc8Register.code (crc8 (header :: body)) (upBits crc) := by
    rw [crc8_eq, ← code_append, ← List.cons_append, List.flatMap_append]
    simp
  rw [hlast, hcode, crc8Register.code_eq_zero_iff (show (upBits crc).length ≤ 8 from Nat.le_refl 8),
    hplace]

theorem crcMatch_burst {header : Byte} {raw other : List Byte} (hraw : raw ≠ [])
    (hother : other ≠ []) (hmatch : crcMatch header raw = true) (h : Burst upBits 8 raw other) :
    crcMatch header other = false := by
  rw [crcMatch_iff hraw] at hmatch
  have hne := code_ne_of_burst crc8Register (h.cons header) 0xff#8
  rw [hmatch] at hne
  cases hcase : crcMatch header other
  · rfl
  · exact absurd ((crcMatch_iff hother).mp hcase).symm hne

theorem complement_burst {n : Nat} {xs ys pre ds es post : List Bool} (hxs : xs.length = n)
    (hys : ys.length = n) (hlen : ds.length = es.length) (hn : ds.length ≤ n)
    (hx : xs ++ xs.map not = pre ++ ds ++ post) (hy : ys ++ ys.map not = pre ++ es ++ post) :
    xs = ys := by
  apply List.ext_getElem (hxs.trans hys.symm)
  intro p hp hp'
  have hx' := congrArg (fun bits => (bits[p]?, bits[n + p]?)) hx
  have hy' := congrArg (fun bits => (bits[p]?, bits[n + p]?)) hy
  simp only [Prod.mk.injEq] at hx' hy'
  rcases Nat.lt_or_ge p pre.length with hlt | hge
  · have h1 : (pre ++ ds ++ post)[p]? = (pre ++ es ++ post)[p]? := by
      rw [List.append_assoc, List.append_assoc, List.getElem?_append_left hlt,
        List.getElem?_append_left hlt]
    rw [← hx'.1, ← hy'.1, List.getElem?_append_left hp, List.getElem?_append_left hp',
      List.getElem?_eq_getElem hp, List.getElem?_eq_getElem hp'] at h1
    exact Option.some.inj h1
  · have h1 : (pre ++ ds ++ post)[n + p]? = (pre ++ es ++ post)[n + p]? := by
      rw [List.getElem?_append_right (by simp only [List.length_append]; omega),
        List.getElem?_append_right (by simp only [List.length_append]; omega)]
      simp only [List.length_append, hlen]
    rw [← hx'.2, ← hy'.2, List.getElem?_append_right (by omega),
      List.getElem?_append_right (by omega), hxs, hys, Nat.add_sub_cancel_left, List.getElem?_map, List.getElem?_map,
      List.getElem?_eq_getElem hp, List.getElem?_eq_getElem hp'] at h1
    simpa using h1

theorem upBits_not (b : Byte) : upBits (~~~b) = (upBits b).map not := by
  apply List.ext_getElem (by simp)
  intro j hj hj'
  have hlt : 7 - j < 8 := by omega
  simp [upBits, hlt]

theorem complement_of {a b c d : Byte} (h : (b ++ a : BitVec 16) ^^^ (d ++ c) = 0xffff#16) :
    c = ~~~a ∧ d = ~~~b := by
  have hall : (0xffff#16) = BitVec.allOnes 16 := by decide
  constructor
  · apply BitVec.eq_of_getLsbD_eq
    intro i hi
    have hbit := congrArg (BitVec.getLsbD · i) h
    have hwide : i < 16 := by omega
    simp only [hall, BitVec.getLsbD_xor, BitVec.getLsbD_append, hi, if_true, BitVec.getLsbD_allOnes,
      hwide, decide_true] at hbit
    simp only [BitVec.getLsbD_not, hi, decide_true, Bool.true_and]
    cases ha : a.getLsbD i <;> simp_all
  · apply BitVec.eq_of_getLsbD_eq
    intro i hi
    have hbit := congrArg (BitVec.getLsbD · (8 + i)) h
    have hwide : 8 + i < 16 := by omega
    have hhigh : ¬ 8 + i < 8 := by omega
    simp only [hall, BitVec.getLsbD_xor, BitVec.getLsbD_append, hhigh, if_false,
      BitVec.getLsbD_allOnes, hwide, decide_true, Nat.add_sub_cancel_left] at hbit
    simp only [BitVec.getLsbD_not, hi, decide_true, Bool.true_and]
    cases hb : b.getLsbD i <;> simp_all

theorem complement_bits {raw : List Byte} (hraw : raw.length = 4)
    (h : uint16At raw 0 ^^^ uint16At raw 2 = 0xffff#16) :
    ∃ xs : List Bool, xs.length = 16 ∧ raw.flatMap upBits = xs ++ xs.map not := by
  match raw, hraw with
  | [a, b, c, d], _ =>
    obtain ⟨hc, hd⟩ : c = ~~~a ∧ d = ~~~b := complement_of h
    exact ⟨upBits a ++ upBits b, rfl, by simp [hc, hd, upBits_not]⟩

theorem complement_refused {raw other : List Byte} (hraw : raw.length = 4)
    (hother : other.length = 4) (h : Burst upBits 8 raw other)
    (hmatch : uint16At raw 0 ^^^ uint16At raw 2 = 0xffff#16) :
    uint16At other 0 ^^^ uint16At other 2 ≠ 0xffff#16 := by
  intro hmatch'
  obtain ⟨xs, hxs, hbits⟩ := complement_bits hraw hmatch
  obtain ⟨ys, hys, hbits'⟩ := complement_bits hother hmatch'
  obtain ⟨pre, ds, es, post, hpre, hpre', hlen, hle, hne⟩ := h
  rw [hbits] at hpre
  rw [hbits'] at hpre'
  have hsame := complement_burst hxs hys hlen (Nat.le_trans hle (by decide)) hpre hpre'
  rw [hsame, hpre'] at hpre
  exact hne ((List.append_cancel_left (List.append_cancel_right hpre)).symm)

theorem startInd_never {a b : Byte} : a.setWidth 32 ^^^ b.setWidth 32 ≠ 0xffff#32 := by
  intro h
  have hbit := congrArg (BitVec.getLsbD · 8) h
  simp at hbit

theorem v1StartInd_refused (raw : List Byte) (l : Link) : v1StartInd raw l = (false, v1XorFail l) :=
  if_neg fun h => startInd_never h.1

theorem readChar_all {size : Nat} {incoming : List Byte} (h : incoming.length = size) :
    readChar size incoming = some incoming := by
  rw [readChar, if_pos (Nat.le_of_eq h.symm), List.take_of_length_le (Nat.le_of_eq h)]

theorem v3DataReq_accepts {now : BitVec 64} {raw : List Byte} {l : Link}
    (h : (v3DataReq now raw l).1 = true) : crcMatch v3HeaderDataReq raw = true := by
  cases hmatch : crcMatch v3HeaderDataReq raw
  · simp [v3DataReq, hmatch] at h
  · rfl

theorem v3StartInd_accepts {now : BitVec 64} {raw : List Byte} {l : Link}
    (h : (v3StartInd now raw l).1 = true) : crcMatch v3StartIndication raw = true := by
  cases hmatch : crcMatch v3StartIndication raw
  · simp [v3StartInd, hmatch] at h
  · rfl

theorem v1DataReq_accepts {raw : List Byte} {l : Link} (h : (v1DataReq raw l).1 = true) :
    uint16At raw 0 ^^^ uint16At raw 2 = 0xffff#16 := by
  apply Decidable.byContradiction
  intro hne
  simp [v1DataReq, hne] at h

theorem damaged_frame {header : Byte} {payload other : List Byte} {now : BitVec 64} {l : Link}
    (hsize : payload.length = payloadSize header)
    (hacc : (readHeaderPayload header payload now l).1 = true)
    (h : Burst upBits 8 payload other) (now' : BitVec 64) (l' : Link) :
    readHeaderPayload header other now' l' = (false, refuse header now' l') := by
  have hother : other.length = payloadSize header :=
    (h.length_eq length_upBits).symm.trans hsize
  have hpos : 0 < payloadSize header := by
    rw [payloadSize]
    split <;> decide
  have hraw : payload ≠ [] := List.ne_nil_of_length_pos (hsize ▸ hpos)
  have hraw' : other ≠ [] := List.ne_nil_of_length_pos (hother ▸ hpos)
  rw [readHeaderPayload, readChar_all hsize] at hacc
  rw [readHeaderPayload, readChar_all hother]
  simp only at hacc ⊢
  split at hacc
  next h1 =>
    subst h1
    have hbad := complement_refused hsize hother h (v1DataReq_accepts hacc)
    simp [v1DataReq, hbad, refuse]
  next h1 =>
  split at hacc
  next =>
    rw [v1StartInd_refused] at hacc
    cases hacc
  next h2 =>
  have hrefuse : refuse header now' l' = sendAck v3CrcError now' l' :=
    if_neg (not_or.mpr ⟨h1, h2⟩)
  split at hacc
  next h3 =>
    subst h3
    have hbad := crcMatch_burst hraw hraw' (v3StartInd_accepts hacc) h
    rw [if_neg h1, if_neg h2, if_pos rfl, hrefuse, v3StartInd, hbad]
    rfl
  next h3 =>
  split at hacc
  next h4 =>
    subst h4
    have hbad := crcMatch_burst hraw hraw' (v3DataReq_accepts hacc) h
    rw [if_neg h1, if_neg h2, if_neg h3, if_pos rfl, hrefuse, v3DataReq, hbad]
    rfl
  next => cases hacc

theorem damaged_frame_refused {header : Byte} {payload other : List Byte} {now : BitVec 64}
    {l : Link} (hsize : payload.length = payloadSize header)
    (hacc : (readHeaderPayload header payload now l).1 = true)
    (h : Burst upBits 8 payload other) (now' : BitVec 64) (l' : Link) :
    readHeaderPayload header other now' l' = (false, refuse header now' l') ∧
      (refuse header now' l').asked = l'.asked :=
  ⟨damaged_frame hsize hacc h now' l', refuse_asked header now' l'⟩

def freshLink : Link := ⟨0#16, 0#32, 0#16, 0#16, 0#64, false, []⟩

def firstRequest : List Byte :=
  [0x10#8, 0x00#8, 0x00#8, 0x00#8, 0x00#8, 0x00#8, 0x00#8, 0x00#8, 0x69#8]

theorem firstRequest_damaged :
    readHeaderPayload v3HeaderDataReq (0x11#8 :: firstRequest.tail) 0 freshLink =
      (false, refuse v3HeaderDataReq 0 freshLink) := by
  have hacc : (readHeaderPayload v3HeaderDataReq firstRequest 0 freshLink).1 = true := by
    decide +kernel
  have hburst : Burst upBits 8 firstRequest (0x11#8 :: firstRequest.tail) :=
    ⟨[], upBits 0x10#8, upBits 0x11#8, firstRequest.tail.flatMap upBits, rfl, rfl, rfl, by decide,
      by decide⟩
  exact (damaged_frame_refused rfl hacc hburst 0 freshLink).1

end FwLoader
