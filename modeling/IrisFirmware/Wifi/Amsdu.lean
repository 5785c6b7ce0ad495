import Mathlib.Tactic

namespace Amsdu

def macAddrLength : Nat := 6
def llcSnapLen : Nat := 8
def eth803HdrLen : Nat := 14
def rxDataBufSize : Nat := 4096

abbrev Frame := List UInt8

def htons (n : Nat) : List UInt8 := [(n / 256).toUInt8, (n % 256).toUInt8]

def ntohs (bs : List UInt8) : Nat := (bs.getD 0 0).toNat * 256 + (bs.getD 1 0).toNat

def rfc1042EthHdr : List UInt8 := [0xaa, 0xaa, 0x03, 0x00, 0x00, 0x00]

def padOf (n : Nat) : Nat := if n % 4 ≠ 0 then 4 - n % 4 else 0

def formAmsduPkt (data : Frame) : List UInt8 :=
  data.take (2 * macAddrLength) ++
    htons (data.length + llcSnapLen - eth803HdrLen) ++
    rfc1042EthHdr ++ (data.drop (2 * macAddrLength)).take 2 ++ data.drop eth803HdrLen

structure Aggr where
  bytes : List UInt8
  pktSize : Nat
  pad : Nat
  taken : List Frame
  queue : List Frame
deriving DecidableEq, Repr

-- the buffer is not cleared: a pad keeps what the memory held at its place
def padBytes (dirty : Nat → UInt8) (offset pad : Nat) : List UInt8 :=
  (List.range pad).map fun i => dirty (offset + i)

def takeFrame (dirty : Nat → UInt8) (a : Aggr) (f : Frame) : Aggr where
  bytes := a.bytes ++ formAmsduPkt f ++
    padBytes dirty (a.pktSize + f.length + llcSnapLen) (padOf (f.length + llcSnapLen))
  pktSize := a.pktSize + (f.length + llcSnapLen + padOf (f.length + llcSnapLen))
  pad := padOf (f.length + llcSnapLen)
  taken := a.taken ++ [f]
  queue := a.queue

def aggregateLoop (dirty : Nat → UInt8) (headroom maxAmsduSize : Nat) : List Frame → Aggr → Aggr
  | [], a => { a with queue := [] }
  | f :: fs, a =>
    if a.pktSize + (f.length + llcSnapLen) + headroom ≤ maxAmsduSize then
      aggregateLoop dirty headroom maxAmsduSize fs (takeFrame dirty a f)
    else { a with queue := f :: fs }

def aggregatePkt (dirty : Nat → UInt8) (txPdSize headroom maxAmsduSize : Nat)
    (bufs : List Frame) : Aggr :=
  aggregateLoop dirty headroom maxAmsduSize bufs ⟨[], txPdSize, 0, [], []⟩

-- the last packet goes without its pad
def Aggr.payload (a : Aggr) : List UInt8 := a.bytes.take (a.bytes.length - a.pad)

def lengthAt (data : List UInt8) : Nat := ntohs ((data.drop (2 * macAddrLength)).take 2)

def getNumAggrpkts (data : List UInt8) (totalPktLen : Nat) : Nat :=
  if eth803HdrLen ≤ totalPktLen then
    if lengthAt data > totalPktLen then 0
    else
      let size := lengthAt data + padOf (lengthAt data + eth803HdrLen) + eth803HdrLen
      getNumAggrpkts (data.drop size) (totalPktLen - size) + 1
  else 0
termination_by totalPktLen
decreasing_by simp only [eth803HdrLen] at *; omega

-- memmove of the addresses over the LLC header
def moveAddresses (data : List UInt8) : List UInt8 :=
  data.take llcSnapLen ++ data.take (2 * macAddrLength) ++
    data.drop (llcSnapLen + 2 * macAddrLength)

def clearLength (data : List UInt8) : List UInt8 :=
  data.take (2 * macAddrLength) ++ [0, 0] ++ data.drop eth803HdrLen

structure Subframe where
  data : List UInt8
  pktLen : Nat
deriving DecidableEq, Repr

def openSubframe (data : List UInt8) : Subframe :=
  if (data.drop eth803HdrLen).take 6 = rfc1042EthHdr then
    ⟨(moveAddresses data).drop llcSnapLen, lengthAt data + eth803HdrLen - llcSnapLen⟩
  else ⟨clearLength data, lengthAt data + eth803HdrLen⟩

-- the bytes are those up to the end of the packet; none: something behind it is read
def deaggregateLoop (data : List UInt8) (totalPktLen : Nat) : Option (List Frame) :=
  if eth803HdrLen ≤ totalPktLen then
    if lengthAt data > totalPktLen then some []
    else
      let pad := padOf (lengthAt data + eth803HdrLen)
      let s := openSubframe data
      if data.length < eth803HdrLen + 6 ∨ s.data.length < s.pktLen then none
      else
        (deaggregateLoop (s.data.drop (s.pktLen + pad))
          (totalPktLen - (lengthAt data + pad + eth803HdrLen))).map (s.data.take s.pktLen :: ·)
  else some []
termination_by totalPktLen
decreasing_by simp only [eth803HdrLen] at *; omega

-- pdesc: the buffer is a socket buffer of the host's own
structure Rx where
  pdesc : Bool
  recvAmsduPacket : Bool
  uap : Bool
  stations : List (List UInt8)
deriving DecidableEq, Repr

def Rx.uapCheckForward (rx : Rx) (data : List UInt8) : Bool :=
  (data.getD 0 0).toNat.testBit 0 || data.take macAddrLength ∈ rx.stations

def Rx.forward (rx : Rx) (data : List UInt8) (totalPktLen : Nat) : Bool :=
  if eth803HdrLen ≤ totalPktLen then
    let forward := rx.uap && rx.uapCheckForward data
    if lengthAt data > totalPktLen then forward
    else
      let size := lengthAt data + padOf (lengthAt data + eth803HdrLen) + eth803HdrLen
      forward || rx.forward (data.drop size) (totalPktLen - size)
  else false
termination_by totalPktLen
decreasing_by simp only [eth803HdrLen] at *; omega

inductive Deaggregated where
  | refused
  | handedOver (data : List UInt8)
  | frames (fs : List Frame)
deriving DecidableEq, Repr

def Rx.handsOver (rx : Rx) (data : List UInt8) : Bool :=
  rx.pdesc && !rx.forward data data.length && rx.recvAmsduPacket

def deaggregatePkt (rx : Rx) (data : List UInt8) : Option Deaggregated :=
  if data.length > rxDataBufSize then some .refused
  else if rx.handsOver data then some (.handedOver data)
  else (deaggregateLoop data data.length).map .frames

theorem ntohs_htons {n : Nat} (h : n < 65536) : ntohs (htons n) = n := by
  have hhigh : n / 256 < 256 := by omega
  have hlow : n % 256 < 256 := Nat.mod_lt _ (by decide)
  simp only [ntohs, htons, List.getD_cons_zero, List.getD_cons_succ, Nat.toUInt8,
    UInt8.toNat_ofNat', Nat.reducePow]
  omega

theorem padOf_mod (n : Nat) : (n + padOf n) % 4 = 0 := by
  rw [padOf]
  split <;> omega

theorem formAmsduPkt_length {f : Frame} (h : eth803HdrLen ≤ f.length) :
    (formAmsduPkt f).length = f.length + llcSnapLen := by
  simp only [eth803HdrLen] at h
  simp only [formAmsduPkt, htons, rfc1042EthHdr, macAddrLength, eth803HdrLen, llcSnapLen,
    List.length_append, List.length_take, List.length_drop, List.length_cons, List.length_nil]
  omega

theorem frame_split {f : Frame} (h : eth803HdrLen ≤ f.length) :
    ∃ addrs type rest, f = addrs ++ type ++ rest ∧ addrs.length = 12 ∧ type.length = 2 := by
  simp only [eth803HdrLen] at h
  refine ⟨f.take 12, (f.drop 12).take 2, f.drop 14, ?_, ?_, ?_⟩
  · have hdrop : f.drop 12 = (f.drop 12).take 2 ++ f.drop 14 := by
      have hs := List.take_append_drop 2 (f.drop 12)
      rw [List.drop_drop] at hs
      exact hs.symm
    rw [List.append_assoc, ← hdrop, List.take_append_drop]
  · rw [List.length_take]
    omega
  · rw [List.length_take, List.length_drop]
    omega

theorem formAmsduPkt_split {addrs type rest : List UInt8} (ha : addrs.length = 12)
    (ht : type.length = 2) :
    formAmsduPkt (addrs ++ type ++ rest) =
      addrs ++ htons (8 + rest.length) ++ rfc1042EthHdr ++ type ++ rest := by
  have hlen : (addrs ++ type ++ rest).length + llcSnapLen - eth803HdrLen = 8 + rest.length := by
    simp only [List.length_append, llcSnapLen, eth803HdrLen]
    omega
  have htake : (addrs ++ type ++ rest).take (2 * macAddrLength) = addrs := by
    rw [List.append_assoc]
    exact List.take_left' ha
  have hdrop : (addrs ++ type ++ rest).drop (2 * macAddrLength) = type ++ rest := by
    rw [List.append_assoc]
    exact List.drop_left' ha
  have hlast : (addrs ++ type ++ rest).drop eth803HdrLen = rest :=
    List.drop_left' (by rw [List.length_append, ha, ht]; rfl)
  rw [formAmsduPkt, hlen, htake, hdrop, hlast, List.take_left' ht]

theorem openSubframe_form {f : List UInt8} (more : List UInt8) (h : eth803HdrLen ≤ f.length)
    (hmax : f.length < 65536) :
    lengthAt (formAmsduPkt f ++ more) = f.length - macAddrLength ∧
      openSubframe (formAmsduPkt f ++ more) = ⟨f ++ more, f.length⟩ := by
  obtain ⟨addrs, type, rest, rfl, ha, ht⟩ := frame_split h
  have hflen : (addrs ++ type ++ rest).length = 14 + rest.length := by
    simp only [List.length_append, ha, ht]
  have hform : formAmsduPkt (addrs ++ type ++ rest) ++ more =
      addrs ++ (htons (8 + rest.length) ++ (rfc1042EthHdr ++ (type ++ rest ++ more))) := by
    rw [formAmsduPkt_split ha ht]
    simp only [List.append_assoc]
  have htwo : (htons (8 + rest.length)).length = 2 := rfl
  have hdrop12 : (formAmsduPkt (addrs ++ type ++ rest) ++ more).drop (2 * macAddrLength) =
      htons (8 + rest.length) ++ (rfc1042EthHdr ++ (type ++ rest ++ more)) := by
    rw [hform]
    exact List.drop_left' ha
  have hlen : lengthAt (formAmsduPkt (addrs ++ type ++ rest) ++ more) = 8 + rest.length := by
    rw [lengthAt, hdrop12, List.take_left' htwo, ntohs_htons (by omega)]
  have hdrop14 : (formAmsduPkt (addrs ++ type ++ rest) ++ more).drop eth803HdrLen =
      rfc1042EthHdr ++ (type ++ rest ++ more) := by
    have hsum : eth803HdrLen = 2 * macAddrLength + 2 := rfl
    rw [hsum, ← List.drop_drop, hdrop12]
    exact List.drop_left' htwo
  have hdrop20 : (formAmsduPkt (addrs ++ type ++ rest) ++ more).drop
      (llcSnapLen + 2 * macAddrLength) = type ++ rest ++ more := by
    have hsum : llcSnapLen + 2 * macAddrLength = eth803HdrLen + 6 := rfl
    rw [hsum, ← List.drop_drop, hdrop14]
    exact List.drop_left' rfl
  have htake12 : (formAmsduPkt (addrs ++ type ++ rest) ++ more).take (2 * macAddrLength) =
      addrs := by
    rw [hform]
    exact List.take_left' ha
  refine ⟨?_, ?_⟩
  · rw [hlen, hflen, macAddrLength]
    omega
  · have hsnap : ((formAmsduPkt (addrs ++ type ++ rest) ++ more).drop eth803HdrLen).take 6 =
        rfc1042EthHdr := by
      rw [hdrop14]
      exact List.take_left' rfl
    have hhead : ((formAmsduPkt (addrs ++ type ++ rest) ++ more).take llcSnapLen).length =
        llcSnapLen := by
      rw [hform, List.length_take, List.length_append, ha]
      simp only [llcSnapLen]
      omega
    rw [openSubframe, if_pos hsnap, hlen, moveAddresses, htake12, hdrop20, List.append_assoc,
      List.drop_left' hhead, hflen]
    simp only [eth803HdrLen, llcSnapLen, List.append_assoc]
    congr 1
    omega

theorem deaggregateLoop_form {f : List UInt8} (more : List UInt8) (h : eth803HdrLen ≤ f.length)
    (hmax : f.length < 65536) {total : Nat}
    (htotal : f.length + llcSnapLen ≤ total) :
    deaggregateLoop (formAmsduPkt f ++ more) total =
      (deaggregateLoop (more.drop (padOf (f.length + llcSnapLen)))
        (total - (f.length + llcSnapLen + padOf (f.length + llcSnapLen)))).map (f :: ·) := by
  obtain ⟨hlen, hopen⟩ := openSubframe_form more h hmax
  have hsum : f.length - macAddrLength + eth803HdrLen = f.length + llcSnapLen := by
    simp only [eth803HdrLen, macAddrLength, llcSnapLen] at h ⊢
    omega
  have henter : eth803HdrLen ≤ total := by
    omega
  have hfits : ¬ f.length - macAddrLength > total := by
    omega
  have hroom : ¬ ((formAmsduPkt f ++ more).length < eth803HdrLen + 6 ∨
      (f ++ more).length < f.length) := by
    rw [List.length_append, List.length_append, formAmsduPkt_length h]
    simp only [eth803HdrLen, llcSnapLen] at h ⊢
    omega
  rw [deaggregateLoop, if_pos henter, hlen, if_neg hfits]
  simp only [hopen, hsum]
  rw [if_neg hroom, List.take_left' rfl, ← List.drop_drop, List.drop_left' rfl]
  have hstep : f.length - macAddrLength + padOf (f.length + llcSnapLen) + eth803HdrLen =
      f.length + llcSnapLen + padOf (f.length + llcSnapLen) := by omega
  rw [hstep]

def packed (dirty : Nat → UInt8) : Nat → List Frame → List UInt8
  | _, [] => []
  | _, [f] => formAmsduPkt f
  | offset, f :: g :: fs =>
    formAmsduPkt f ++ padBytes dirty (offset + f.length + llcSnapLen)
        (padOf (f.length + llcSnapLen)) ++
      packed dirty (offset + (f.length + llcSnapLen + padOf (f.length + llcSnapLen))) (g :: fs)

theorem padBytes_length (dirty : Nat → UInt8) (offset pad : Nat) :
    (padBytes dirty offset pad).length = pad := by
  rw [padBytes, List.length_map, List.length_range]

theorem deaggregate_packed (dirty : Nat → UInt8) {fs : List Frame} (offset : Nat)
    (h : ∀ f ∈ fs, eth803HdrLen ≤ f.length ∧ f.length < 65536) :
    deaggregateLoop (packed dirty offset fs) (packed dirty offset fs).length = some fs := by
  induction fs generalizing offset with
  | nil =>
    rw [packed, deaggregateLoop]
    rfl
  | cons f fs ih =>
    obtain ⟨h14, hmax⟩ := h f (by simp)
    cases fs with
    | nil =>
      have hform := deaggregateLoop_form [] h14 hmax (formAmsduPkt_length h14).ge
      rw [List.append_nil, List.drop_nil] at hform
      have hend : (formAmsduPkt f).length -
          (f.length + llcSnapLen + padOf (f.length + llcSnapLen)) = 0 := by
        rw [formAmsduPkt_length h14]
        omega
      rw [packed, hform, hend, deaggregateLoop]
      rfl
    | cons g gs =>
      have hrest := ih (offset + (f.length + llcSnapLen + padOf (f.length + llcSnapLen)))
        (fun x hx => h x (List.mem_cons_of_mem _ hx))
      rw [packed, List.append_assoc, deaggregateLoop_form _ h14 hmax]
      · rw [List.drop_left' (padBytes_length _ _ _)]
        have hleft : (formAmsduPkt f ++ (padBytes dirty (offset + f.length + llcSnapLen)
              (padOf (f.length + llcSnapLen)) ++ packed dirty (offset + (f.length + llcSnapLen +
                padOf (f.length + llcSnapLen))) (g :: gs))).length -
            (f.length + llcSnapLen + padOf (f.length + llcSnapLen)) =
            (packed dirty (offset + (f.length + llcSnapLen + padOf (f.length + llcSnapLen)))
              (g :: gs)).length := by
          rw [List.length_append, List.length_append, formAmsduPkt_length h14, padBytes_length]
          omega
        rw [hleft, hrest]
        rfl
      · rw [List.length_append, formAmsduPkt_length h14]
        omega

def padded (dirty : Nat → UInt8) : Nat → List Frame → List UInt8
  | _, [] => []
  | offset, f :: fs =>
    formAmsduPkt f ++ padBytes dirty (offset + f.length + llcSnapLen)
        (padOf (f.length + llcSnapLen)) ++
      padded dirty (offset + (f.length + llcSnapLen + padOf (f.length + llcSnapLen))) fs

def lastPad (fs : List Frame) : Nat :=
  match fs.getLast? with
  | none => 0
  | some f => padOf (f.length + llcSnapLen)

theorem lastPad_concat (fs : List Frame) (f : Frame) :
    lastPad (fs ++ [f]) = padOf (f.length + llcSnapLen) := by
  rw [lastPad, List.getLast?_concat]

theorem padded_eq (dirty : Nat → UInt8) (offset : Nat) (fs : List Frame) :
    ∃ junk : List UInt8, junk.length = lastPad fs ∧
      padded dirty offset fs = packed dirty offset fs ++ junk := by
  induction fs generalizing offset with
  | nil => exact ⟨[], rfl, rfl⟩
  | cons f fs ih =>
    cases fs with
    | nil =>
      refine ⟨_, padBytes_length dirty (offset + f.length + llcSnapLen)
        (padOf (f.length + llcSnapLen)), ?_⟩
      rw [padded, padded, List.append_nil, packed]
    | cons g gs =>
      obtain ⟨junk, hlen, heq⟩ :=
        ih (offset + (f.length + llcSnapLen + padOf (f.length + llcSnapLen)))
      refine ⟨junk, hlen, ?_⟩
      rw [padded, heq, packed, ← List.append_assoc]

theorem padded_concat (dirty : Nat → UInt8) (offset : Nat) {fs : List Frame} (f : Frame)
    (h : ∀ x ∈ fs, eth803HdrLen ≤ x.length) :
    padded dirty offset (fs ++ [f]) = padded dirty offset fs ++ formAmsduPkt f ++
      padBytes dirty (offset + (padded dirty offset fs).length + f.length + llcSnapLen)
        (padOf (f.length + llcSnapLen)) := by
  induction fs generalizing offset with
  | nil =>
    rw [List.nil_append, padded, padded, padded]
    simp
  | cons x xs ih =>
    have hx := h x (by simp)
    rw [List.cons_append, padded, ih _ (fun y hy => h y (List.mem_cons_of_mem _ hy)), padded]
    have hoff : offset + (x.length + llcSnapLen + padOf (x.length + llcSnapLen)) +
          (padded dirty (offset + (x.length + llcSnapLen + padOf (x.length + llcSnapLen)))
            xs).length =
        offset + (x.length + llcSnapLen + (padOf (x.length + llcSnapLen) +
          (padded dirty (offset + (x.length + llcSnapLen + padOf (x.length + llcSnapLen)))
            xs).length)) := by omega
    simp only [List.append_assoc, List.length_append, formAmsduPkt_length hx, padBytes_length,
      hoff]

structure Built (dirty : Nat → UInt8) (txPdSize maxAmsduSize : Nat) (a : Aggr) : Prop where
  bytes : a.bytes = padded dirty txPdSize a.taken
  size : a.pktSize = txPdSize + a.bytes.length
  pad : a.pad = lastPad a.taken
  whole : ∀ f ∈ a.taken, eth803HdrLen ≤ f.length ∧ f.length ≤ maxAmsduSize
  room : a.bytes ≠ [] → a.pktSize ≤ maxAmsduSize + a.pad

theorem takeFrame_built {dirty : Nat → UInt8} {txPdSize headroom maxAmsduSize : Nat} {a : Aggr}
    {f : Frame} (h : Built dirty txPdSize maxAmsduSize a) (h14 : eth803HdrLen ≤ f.length)
    (hfits : a.pktSize + (f.length + llcSnapLen) + headroom ≤ maxAmsduSize) :
    Built dirty txPdSize maxAmsduSize (takeFrame dirty a f) where
  bytes := by
    have h14s := fun x hx => (h.whole x hx).1
    simp only [takeFrame]
    rw [padded_concat dirty txPdSize f h14s, ← h.bytes, ← h.size]
  size := by
    simp only [takeFrame, List.length_append, padBytes_length, formAmsduPkt_length h14, h.size]
    omega
  pad := (lastPad_concat a.taken f).symm
  whole := by
    intro x hx
    rcases List.mem_append.mp hx with hx | hx
    · exact h.whole x hx
    · rw [List.mem_singleton.mp hx]
      exact ⟨h14, by omega⟩
  room := by
    intro _
    simp only [takeFrame]
    omega

theorem Built.payload {dirty : Nat → UInt8} {txPdSize maxAmsduSize : Nat} {a : Aggr}
    (h : Built dirty txPdSize maxAmsduSize a) : a.payload = packed dirty txPdSize a.taken := by
  obtain ⟨junk, hlen, heq⟩ := padded_eq dirty txPdSize a.taken
  rw [Aggr.payload, h.pad, h.bytes, heq, List.length_append, hlen, Nat.add_sub_cancel,
    List.take_left' rfl]

def Stops (headroom maxAmsduSize : Nat) (a : Aggr) : Prop :=
  ∀ f fs, a.queue = f :: fs → maxAmsduSize < a.pktSize + (f.length + llcSnapLen) + headroom

theorem aggregateLoop_spec {dirty : Nat → UInt8} {txPdSize maxAmsduSize : Nat} (headroom : Nat)
    {bufs : List Frame} {a : Aggr} (h : Built dirty txPdSize maxAmsduSize a)
    (h14 : ∀ f ∈ bufs, eth803HdrLen ≤ f.length) :
    Built dirty txPdSize maxAmsduSize (aggregateLoop dirty headroom maxAmsduSize bufs a) ∧
      (aggregateLoop dirty headroom maxAmsduSize bufs a).taken ++
        (aggregateLoop dirty headroom maxAmsduSize bufs a).queue = a.taken ++ bufs ∧
      Stops headroom maxAmsduSize (aggregateLoop dirty headroom maxAmsduSize bufs a) := by
  induction bufs generalizing a with
  | nil =>
    refine ⟨⟨h.bytes, h.size, h.pad, h.whole, h.room⟩, rfl, fun f fs hq => ?_⟩
    simp [aggregateLoop] at hq
  | cons f fs ih =>
    rw [aggregateLoop]
    split
    · rename_i hfits
      obtain ⟨hb, htaken, hstop⟩ := ih (takeFrame_built h (h14 f (by simp)) hfits)
        (fun x hx => h14 x (List.mem_cons_of_mem _ hx))
      refine ⟨hb, htaken.trans ?_, hstop⟩
      simp [takeFrame]
    · rename_i hfull
      refine ⟨⟨h.bytes, h.size, h.pad, h.whole, h.room⟩, rfl, fun g gs hq => ?_⟩
      obtain ⟨rfl, _⟩ := List.cons.inj hq
      exact Nat.lt_of_not_le hfull

theorem aggregate_round_trip (dirty : Nat → UInt8) (txPdSize headroom maxAmsduSize : Nat)
    (bufs : List Frame) (rx : Rx) (h14 : ∀ f ∈ bufs, eth803HdrLen ≤ f.length)
    (hmax : maxAmsduSize ≤ rxDataBufSize) :
    deaggregatePkt rx (aggregatePkt dirty txPdSize headroom maxAmsduSize bufs).payload =
        some (if rx.handsOver (aggregatePkt dirty txPdSize headroom maxAmsduSize bufs).payload then
            .handedOver (aggregatePkt dirty txPdSize headroom maxAmsduSize bufs).payload
          else .frames (aggregatePkt dirty txPdSize headroom maxAmsduSize bufs).taken) ∧
      (aggregatePkt dirty txPdSize headroom maxAmsduSize bufs).taken ++
        (aggregatePkt dirty txPdSize headroom maxAmsduSize bufs).queue = bufs ∧
      Stops headroom maxAmsduSize (aggregatePkt dirty txPdSize headroom maxAmsduSize bufs) := by
  have hstart : Built dirty txPdSize maxAmsduSize ⟨[], txPdSize, 0, [], []⟩ :=
    ⟨rfl, rfl, rfl, fun f hf => (by cases hf), fun h => absurd rfl h⟩
  obtain ⟨hb, htaken, hstop⟩ := aggregateLoop_spec headroom hstart h14
  have hpay := hb.payload
  refine ⟨?_, htaken, hstop⟩
  rw [aggregatePkt]
  generalize aggregateLoop dirty headroom maxAmsduSize bufs ⟨[], txPdSize, 0, [], []⟩ = a
    at hb hpay
  have hlen : a.payload.length ≤ rxDataBufSize := by
    rw [Aggr.payload, List.length_take]
    rcases eq_or_ne a.bytes [] with hnil | hne
    · simp [hnil]
    · have hroom := hb.room hne
      have hsize := hb.size
      omega
  have hframes : deaggregateLoop a.payload a.payload.length = some a.taken := by
    rw [hpay]
    refine deaggregate_packed dirty txPdSize fun f hf => ?_
    obtain ⟨h1, h2⟩ := hb.whole f hf
    exact ⟨h1, by simp only [rxDataBufSize] at hmax; omega⟩
  rw [deaggregatePkt, if_neg (Nat.not_lt.mpr hlen), hframes]
  split <;> rfl

theorem two_round_trip :
    deaggregatePkt ⟨false, true, true, []⟩ (aggregatePkt (fun _ => 0xee) 4 0 60
        [List.replicate 15 1, List.replicate 14 2, List.replicate 14 3]).payload =
      some (.frames [List.replicate 15 1, List.replicate 14 2]) := by
  have htrip := (aggregate_round_trip (fun _ => 0xee) 4 0 60
    [List.replicate 15 1, List.replicate 14 2, List.replicate 14 3] ⟨false, true, true, []⟩
    (by decide) (by decide)).1
  exact htrip.trans rfl

def subframeSize (data : List UInt8) : Nat :=
  lengthAt data + padOf (lengthAt data + eth803HdrLen) + eth803HdrLen

def Contained (data : List UInt8) : Prop :=
  if eth803HdrLen ≤ data.length then
    if lengthAt data > data.length then True
    else eth803HdrLen + 6 ≤ data.length ∧ lengthAt data + eth803HdrLen ≤ data.length ∧
      Contained (data.drop (subframeSize data))
  else True
termination_by data.length
decreasing_by
  simp only [eth803HdrLen, subframeSize, List.length_drop] at *
  omega

structure SameTail (a b : List UInt8) : Prop where
  length : a.length = b.length
  tail : a.drop (2 * macAddrLength) = b.drop (2 * macAddrLength)

theorem SameTail.drop {a b : List UInt8} (h : SameTail a b) {n : Nat}
    (hn : 2 * macAddrLength ≤ n) : a.drop n = b.drop n := by
  rw [← Nat.add_sub_cancel' hn, ← List.drop_drop, ← List.drop_drop, h.tail]

theorem SameTail.lengthAt {a b : List UInt8} (h : SameTail a b) :
    lengthAt a = lengthAt b := by
  rw [Amsdu.lengthAt, Amsdu.lengthAt, h.tail]

theorem subframeSize_ge (data : List UInt8) : eth803HdrLen + 2 ≤ subframeSize data := by
  have hmod := padOf_mod (lengthAt data + eth803HdrLen)
  simp only [subframeSize, eth803HdrLen] at hmod ⊢
  omega

theorem SameTail.rest {a b : List UInt8} (h : SameTail a b) :
    a.drop (subframeSize a) = b.drop (subframeSize b) := by
  have hsize : subframeSize a = subframeSize b := by
    rw [subframeSize, subframeSize, h.lengthAt]
  have hge := subframeSize_ge b
  rw [hsize]
  refine h.drop ?_
  simp only [eth803HdrLen, macAddrLength] at hge ⊢
  omega

theorem SameTail.contained {a b : List UInt8} (h : SameTail a b) :
    Contained a ↔ Contained b := by
  have hrest := h.rest
  rw [Contained.eq_def a, Contained.eq_def b, h.lengthAt, h.length, hrest]

theorem SameTail.getNum {a b : List UInt8} (h : SameTail a b) :
    getNumAggrpkts a a.length = getNumAggrpkts b b.length := by
  have hrest := h.rest
  rw [subframeSize, subframeSize, h.lengthAt] at hrest
  rw [getNumAggrpkts, getNumAggrpkts, h.lengthAt, h.length]
  simp only [hrest]

theorem moveAddresses_length {data : List UInt8} (h : eth803HdrLen + 6 ≤ data.length) :
    (moveAddresses data).length = data.length := by
  simp only [moveAddresses, eth803HdrLen, llcSnapLen, macAddrLength, List.length_append,
    List.length_take, List.length_drop] at h ⊢
  omega

theorem moveAddresses_drop {data : List UInt8} (h : eth803HdrLen + 6 ≤ data.length) {n : Nat}
    (hn : llcSnapLen + 2 * macAddrLength ≤ n) : (moveAddresses data).drop n = data.drop n := by
  have hhead : (data.take llcSnapLen ++ data.take (2 * macAddrLength)).length =
      llcSnapLen + 2 * macAddrLength := by
    simp only [eth803HdrLen, llcSnapLen, macAddrLength, List.length_append,
      List.length_take] at h ⊢
    omega
  rw [moveAddresses, ← Nat.add_sub_cancel' hn, ← List.drop_drop, List.drop_left' hhead,
    List.drop_drop]

theorem clearLength_length {data : List UInt8} (h : eth803HdrLen + 6 ≤ data.length) :
    (clearLength data).length = data.length := by
  simp only [clearLength, eth803HdrLen, macAddrLength, List.length_append,
    List.length_take, List.length_drop, List.length_cons, List.length_nil] at h ⊢
  omega

theorem clearLength_drop {data : List UInt8} (h : eth803HdrLen + 6 ≤ data.length) {n : Nat}
    (hn : eth803HdrLen ≤ n) : (clearLength data).drop n = data.drop n := by
  have hhead : (data.take (2 * macAddrLength) ++ [0, 0]).length = eth803HdrLen := by
    simp only [eth803HdrLen, macAddrLength, List.length_append, List.length_take,
      List.length_cons, List.length_nil] at h ⊢
    omega
  rw [clearLength, ← Nat.add_sub_cancel' hn, ← List.drop_drop, List.drop_left' hhead,
    List.drop_drop]

theorem openSubframe_rest {data : List UInt8} (h : eth803HdrLen + 6 ≤ data.length) :
    ((openSubframe data).data.length < (openSubframe data).pktLen ↔
      data.length < lengthAt data + eth803HdrLen) ∧
    SameTail ((openSubframe data).data.drop ((openSubframe data).pktLen +
      padOf (lengthAt data + eth803HdrLen))) (data.drop (subframeSize data)) := by
  have hge := subframeSize_ge data
  rw [openSubframe]
  split
  · have hsum : llcSnapLen + (lengthAt data + eth803HdrLen - llcSnapLen +
        padOf (lengthAt data + eth803HdrLen)) = subframeSize data := by
      simp only [subframeSize, llcSnapLen, eth803HdrLen]
      omega
    simp only [List.drop_drop, hsum, List.length_drop, moveAddresses_length h]
    refine ⟨?_, ?_, ?_⟩
    · simp only [llcSnapLen, eth803HdrLen] at h ⊢
      omega
    · rw [List.length_drop, List.length_drop, moveAddresses_length h]
    · rw [List.drop_drop, List.drop_drop, moveAddresses_drop h]
      simp only [llcSnapLen, macAddrLength, eth803HdrLen] at hge ⊢
      omega
  · have hsum : lengthAt data + eth803HdrLen + padOf (lengthAt data + eth803HdrLen) =
        subframeSize data := by
      rw [subframeSize]
      omega
    simp only [clearLength_length h, hsum]
    refine ⟨trivial, ?_, ?_⟩
    · rw [List.length_drop, List.length_drop, clearLength_length h]
    · rw [clearLength_drop h (by simp only [eth803HdrLen] at hge ⊢; omega)]

theorem deaggregateLoop_iff (n : Nat) {data : List UInt8} (hn : data.length ≤ n) :
    ((deaggregateLoop data data.length).isSome = true ↔ Contained data) ∧
      ∀ fs, deaggregateLoop data data.length = some fs →
        fs.length = getNumAggrpkts data data.length := by
  induction n generalizing data with
  | zero =>
    obtain rfl : data = [] := List.length_eq_zero_iff.mp (Nat.le_zero.mp hn)
    have hstop : ¬ eth803HdrLen ≤ ([] : List UInt8).length := by decide
    rw [deaggregateLoop, Contained, getNumAggrpkts]
    rw [if_neg hstop, if_neg hstop, if_neg hstop]
    refine ⟨by simp, fun fs hfs => ?_⟩
    rw [← Option.some.inj hfs]
    rfl
  | succ n ih =>
    rw [deaggregateLoop, Contained, getNumAggrpkts]
    split
    · rename_i h14
      split
      · refine ⟨by simp, fun fs hfs => ?_⟩
        rw [← Option.some.inj hfs]
        rfl
      · simp only
        rcases Nat.lt_or_ge data.length (eth803HdrLen + 6) with hshort | h20
        · rw [if_pos (.inl hshort)]
          refine ⟨⟨fun h => (by cases h), fun h => absurd h.1 (Nat.not_le.mpr hshort)⟩,
            fun fs hfs => (by cases hfs)⟩
        · obtain ⟨hover, hsame⟩ := openSubframe_rest h20
          rcases Nat.lt_or_ge data.length (lengthAt data + eth803HdrLen) with hlt | hge
          · rw [if_pos (.inr (hover.mpr hlt))]
            refine ⟨⟨fun h => (by cases h), fun h => absurd h.2.1 (Nat.not_le.mpr hlt)⟩,
              fun fs hfs => (by cases hfs)⟩
          · have hin : ¬ (data.length < eth803HdrLen + 6 ∨
                (openSubframe data).data.length < (openSubframe data).pktLen) :=
              not_or.mpr ⟨Nat.not_lt.mpr h20, fun h => absurd (hover.mp h) (Nat.not_lt.mpr hge)⟩
            have hlen : ((openSubframe data).data.drop ((openSubframe data).pktLen +
                padOf (lengthAt data + eth803HdrLen))).length =
                data.length - subframeSize data := by
              rw [hsame.length, List.length_drop]
            have hsmall : ((openSubframe data).data.drop ((openSubframe data).pktLen +
                padOf (lengthAt data + eth803HdrLen))).length ≤ n := by
              have hsize := subframeSize_ge data
              omega
            obtain ⟨hiff, hcount⟩ := ih hsmall
            have hleft : data.length - (lengthAt data + padOf (lengthAt data + eth803HdrLen) +
                eth803HdrLen) = ((openSubframe data).data.drop ((openSubframe data).pktLen +
                padOf (lengthAt data + eth803HdrLen))).length := hlen.symm
            rw [if_neg hin, hleft]
            refine ⟨?_, fun fs hfs => ?_⟩
            · rw [Option.isSome_map, hiff, hsame.contained]
              exact ⟨fun h => ⟨h20, hge, h⟩, fun h => h.2.2⟩
            · obtain ⟨gs, hgs, rfl⟩ := Option.map_eq_some_iff.mp hfs
              rw [List.length_cons, hcount gs hgs, hsame.getNum, List.length_drop,
                subframeSize, hleft]
    · refine ⟨by simp, fun fs hfs => ?_⟩
      rw [← Option.some.inj hfs]
      rfl

-- the length is checked without the header: the last subframe can reach behind the packet
theorem deaggregate_reads_inside_iff (rx : Rx) (data : List UInt8)
    (h : data.length ≤ rxDataBufSize) :
    ((deaggregatePkt rx data).isSome = true ↔ rx.handsOver data = true ∨ Contained data) ∧
      ∀ fs, deaggregatePkt rx data = some (.frames fs) →
        fs.length = getNumAggrpkts data data.length := by
  obtain ⟨hiff, hcount⟩ := deaggregateLoop_iff data.length (le_refl data.length)
  rw [deaggregatePkt, if_neg (Nat.not_lt.mpr h)]
  split
  · rename_i hover
    exact ⟨iff_of_true rfl (.inl hover), fun fs hfs => by cases hfs⟩
  · rename_i hover
    rw [Option.isSome_map, hiff, or_iff_right hover]
    refine ⟨Iff.rfl, fun fs hfs => hcount fs ?_⟩
    obtain ⟨gs, hgs, heq⟩ := Option.map_eq_some_iff.mp hfs
    rw [hgs, Deaggregated.frames.inj heq]

def overlong : List UInt8 :=
  List.replicate 12 7 ++ [0, 12] ++ List.replicate 10 1

theorem overlong_reads_behind :
    (deaggregatePkt ⟨false, true, false, []⟩ overlong).isSome = false := by
  have hnot : ¬ Contained overlong := by
    rw [Contained, if_pos (by decide), if_neg (by decide)]
    exact fun h => absurd h.2.1 (by decide)
  have hiff := (deaggregate_reads_inside_iff ⟨false, true, false, []⟩ overlong (by decide)).1
  exact Bool.eq_false_iff.mpr fun h => hnot ((hiff.mp h).resolve_left Bool.false_ne_true)

end Amsdu
