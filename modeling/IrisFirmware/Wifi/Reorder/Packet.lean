import IrisFirmware.Wifi.Reorder.Table

namespace RxReorder

open SeqWindow

variable {β : Type*}

structure Reply (β : Type*) where
  tbl : RxReorderTbl β
  sent : List β
  ret : MlanStatus
deriving DecidableEq, Repr

def Reply.after (sent : List β) (r : Reply β) : Reply β := { r with sent := sent ++ r.sent }

def flushPending (t : RxReorderTbl β) : RxReorderTbl β × List β :=
  if t.flushData then startFlushData { t with flushData := false } else (t, [])

def lastSeqInWindow (t : RxReorderTbl β) : Bool :=
  let endWin := (t.startWin + t.winSize - 1) % maxTidValue
  (endWin > t.startWin && t.lastSeq ≥ t.startWin && t.lastSeq < endWin) ||
    (endWin < t.startWin && (t.lastSeq ≥ t.startWin || t.lastSeq < endWin))

def updateStartWin (t : RxReorderTbl β) (seqNum : Nat) : RxReorderTbl β :=
  if seqNum ≠ t.startWin ∧ t.lastSeq ≠ defaultSeqNum then
    if lastSeqInWindow t then { t with startWin := t.lastSeq + 1 }
    else if seqNum < t.startWin ∧ seqNum > t.lastSeq then { t with startWin := t.lastSeq + 1 }
    else t
  else t

-- the first packets after the setup go straight up, until the head of the window is seen
def checkStart (t : RxReorderTbl β) (seqNum : Nat) (pktType : PktType) (payload : Payload β) :
    Reply β ⊕ RxReorderTbl β :=
  if t.checkStartWin then
    if seqNum = t.startWin then .inr { t with checkStartWin := false }
    else
      let t := { t with pktCount := t.pktCount + 1 }
      if t.pktCount.toNat < t.winSize / 2 then
        if t.lastSeq = seqNum then .inl ⟨t, [], .failure⟩
        else
          .inl ⟨{ t with lastSeq := seqNum },
            if pktType ≠ .bar then dispatchPkt payload else [], .success⟩
      else .inr (updateStartWin { t with checkStartWin := false } seqNum)
  else .inr t

def noDropResync (t : RxReorderTbl β) (seqNum : Nat) (pktType : PktType) :
    RxReorderTbl β × List β :=
  if t.forceNoDrop then
    let r := dispatchPktUntilStartWin t ((t.startWin + t.winSize) % maxTidValue)
    (timerRestart (if pktType ≠ .bar then { r.1 with startWin := seqNum } else r.1), r.2)
  else (t, [])

def isOld (startWin seqNum : Nat) : Bool :=
  if startWin + twoPow11 > maxTidValue - 1 then
    seqNum ≥ (startWin + twoPow11) % maxTidValue && seqNum < startWin
  else seqNum < startWin || seqNum ≥ startWin + twoPow11

def isOutside (startWin endWin seqNum : Nat) : Bool :=
  (endWin < startWin && seqNum < startWin && seqNum > endWin) ||
    (endWin > startWin && (seqNum > endWin || seqNum < startWin))

def movedStartWin (winSize seqNum : Nat) : Nat :=
  if seqNum + 1 ≥ winSize then seqNum + 1 - winSize
  else maxTidValue - (winSize - seqNum) + 1

def slotIndex (startWin seqNum : Nat) : Option Nat :=
  if seqNum ≥ startWin then some (seqNum - startWin)
  else if seqNum + maxTidValue ≥ startWin then some (seqNum + maxTidValue - startWin)
  else none

-- 1UL << i as a t_u64, which C leaves open from the width of unsigned long on
class ULong where
  width : Nat
  fits : width ≤ 64
  bit : Nat → BitVec 64
  bit_eq : ∀ i < width, bit i = 1#64 <<< i

@[reducible] def arm32 : ULong where
  width := 32
  fits := by decide
  bit i := (1#32 <<< i).setWidth 64
  bit_eq := by decide

variable [ULong]

-- none: the slot lies outside the allocation
def storePkt (t : RxReorderTbl β) (seqNum : Nat) (payload : Payload β) :
    Option (RxReorderTbl β × MlanStatus) :=
  (slotIndex t.startWin seqNum).bind fun i =>
    match t.slots[i]? with
    | none => none
    | some (some _) => some (t, .failure)
    | some none =>
      some ({ t with
        slots := t.slots.set i (some payload)
        bitmap := t.bitmap ||| ULong.bit i }, .success)

def settleTimer (prevStartWin : Nat) (t : RxReorderTbl β) : RxReorderTbl β :=
  if t.bitmap = 0 then { t with timerIsSet := false }
  else if !t.timerIsSet || prevStartWin ≠ t.startWin then timerRestart t
  else t

def placePkt (t : RxReorderTbl β) (seqNum : Nat) (pktType : PktType) (payload : Payload β) :
    Option (Reply β) :=
  match if pktType ≠ .bar then storePkt t seqNum payload else some (t, .success) with
  | none => none
  | some (t, .failure) => some ⟨t, [], .failure⟩
  | some (t, .success) => some ⟨(scanAndDispatch t).1, (scanAndDispatch t).2, .success⟩

def shiftWindow (t : RxReorderTbl β) (endWin seqNum : Nat) : RxReorderTbl β × List β :=
  if isOutside t.startWin endWin seqNum then
    dispatchPktUntilStartWin t (movedStartWin t.winSize seqNum)
  else (t, [])

def admitPkt (t : RxReorderTbl β) (seqNum : Nat) (pktType : PktType) (payload : Payload β) :
    Option (Reply β) :=
  let endWin := (t.startWin + t.winSize - 1) % maxTidValue
  if !t.forceNoDrop && isOld t.startWin seqNum then some ⟨t, [], .failure⟩
  else
    let t := { t with forceNoDrop := false }
    let seqNum := if pktType = .bar then (seqNum + t.winSize - 1) % maxTidValue else seqNum
    let r := shiftWindow t endWin seqNum
    (placePkt r.1 seqNum pktType payload).map (Reply.after r.2)

def orderPkt (t : RxReorderTbl β) (seqNum : Nat) (pktType : PktType) (payload : Payload β) :
    Option (Reply β) :=
  (admitPkt t seqNum pktType payload).map fun r =>
    { r with tbl := settleTimer t.startWin r.tbl }

def rxreorderTblPkt (t : RxReorderTbl β) (seqNum : Nat) (pktType : PktType)
    (payload : Payload β) : Option (Reply β) :=
  let f := flushPending t
  if pktType = .amsdu ∧ f.1.amsdu = false then
    some ⟨f.1, f.2 ++ dispatchPkt payload, .success⟩
  else
    match checkStart f.1 seqNum pktType payload with
    | .inl r => some (r.after f.2)
    | .inr t =>
      let r := noDropResync t seqNum pktType
      (orderPkt r.1 seqNum pktType payload).map (Reply.after (f.2 ++ r.2))

end RxReorder
