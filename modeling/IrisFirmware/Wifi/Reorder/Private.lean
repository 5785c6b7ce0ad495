import IrisFirmware.Wifi.Reorder.Packet

namespace RxReorder

variable {β : Type*}

def tlvTypeRxbaSync : Nat := 0x100 + 153

def isFor (tid : Nat) (ta : Vector UInt8 6) (t : RxReorderTbl β) : Bool :=
  t.ta = ta && t.tid = tid

def getRxreorderTbl (tbls : List (RxReorderTbl β)) (tid : Nat) (ta : Vector UInt8 6) :
    Option (RxReorderTbl β) :=
  tbls.find? (isFor tid ta)

def setEntry (tbls : List (RxReorderTbl β)) (tid : Nat) (ta : Vector UInt8 6)
    (u : RxReorderTbl β) : List (RxReorderTbl β) :=
  match tbls with
  | [] => []
  | t :: ts => if isFor tid ta t then u :: ts else t :: setEntry ts tid ta u

def deleteRxreorderTblEntry (tbls : List (RxReorderTbl β)) (t : RxReorderTbl β) :
    List (RxReorderTbl β) × List β :=
  (tbls.eraseP (isFor t.tid t.ta),
    (dispatchPktUntilStartWin t ((t.startWin + t.winSize) % maxTidValue)).2)

structure Alloc where
  node : Bool
  slots : Bool
deriving DecidableEq, Repr

def newNode (tid : Nat) (ta : Vector UInt8 6) (winSize seqNum lastSeq : Nat) :
    RxReorderTbl β where
  tid := tid
  ta := ta
  startWin := seqNum
  lastSeq := lastSeq
  slots := List.replicate winSize none
  timerIsSet := false
  baStatus := .setupInprogress
  amsdu := false
  forceNoDrop := false
  checkStartWin := true
  pktCount := 0
  flushData := false
  bitmap := 0

def createRxreorderTbl (tbls : List (RxReorderTbl β)) (alloc : Alloc) (ta : Vector UInt8 6)
    (tid winSize seqNum lastSeq : Nat) : List (RxReorderTbl β) × List β :=
  if tid ≥ maxNumTid then (tbls, [])
  else
    let r := match getRxreorderTbl tbls tid ta with
      | some t => deleteRxreorderTblEntry tbls t
      | none => (tbls, [])
    if alloc.node && alloc.slots then
      (r.1 ++ [newNode tid ta winSize seqNum lastSeq], r.2)
    else r

structure AddBaParam where
  rxWinSize : Nat
  rxAmsdu : Bool
deriving DecidableEq, Repr

structure AddBaReq where
  peerMacAddr : Vector UInt8 6
  blockAckParamSet : BitVec 16
  ssn : Nat
deriving DecidableEq, Repr

def paramTid (p : BitVec 16) : Nat := ((p &&& 0x3c) >>> 2).toNat
def paramWinSize (p : BitVec 16) : Nat := ((p &&& 0xffc0) >>> 6).toNat

def rspWinSize (param : AddBaParam) (req : AddBaReq) : Nat :=
  if paramWinSize req.blockAckParamSet ≠ 0 then
    min (paramWinSize req.blockAckParamSet) param.rxWinSize
  else param.rxWinSize

def addbaRspgen (tbls : List (RxReorderTbl β)) (param : AddBaParam) (declined : Bool)
    (alloc : Alloc) (lastSeq : Nat) (req : AddBaReq) : List (RxReorderTbl β) × List β :=
  if declined then (tbls, [])
  else createRxreorderTbl tbls alloc req.peerMacAddr (paramTid req.blockAckParamSet)
    (rspWinSize param req) req.ssn lastSeq

def retAddbaResp (tbls : List (RxReorderTbl β)) (param : AddBaParam) (accepted : Bool)
    (ta : Vector UInt8 6) (paramSet : BitVec 16) : List (RxReorderTbl β) × List β :=
  match getRxreorderTbl tbls (paramTid paramSet) ta with
  | none => (tbls, [])
  | some t =>
    if accepted then
      (setEntry tbls (paramTid paramSet) ta
        { t with
          baStatus := .setupComplete
          amsdu := paramSet &&& 0x1 ≠ 0 && param.rxAmsdu }, [])
    else deleteRxreorderTblEntry tbls t

inductive DelbaType where
  | sent
  | receive
deriving DecidableEq, Repr

def cleanupRxReorderTbl (initiator : Bool) : DelbaType → Bool
  | .receive => initiator
  | .sent => !initiator

def deleteBastreamTbl (tbls : List (RxReorderTbl β)) (tid : Nat) (ta : Vector UInt8 6)
    (type : DelbaType) (initiator : Bool) : List (RxReorderTbl β) × List β :=
  if cleanupRxReorderTbl initiator type then
    match getRxreorderTbl tbls tid ta with
    | none => (tbls, [])
    | some t => deleteRxreorderTblEntry tbls t
  else (tbls, [])

def cleanupReorderTbl (tbls : List (RxReorderTbl β)) : List (RxReorderTbl β) × List β :=
  match tbls with
  | [] => ([], [])
  | t :: ts =>
    let r := cleanupReorderTbl ts
    (r.1, (deleteRxreorderTblEntry (t :: ts) t).2 ++ r.2)

def cleanupTids (ta : Vector UInt8 6) : List Nat → List (RxReorderTbl β) →
    List (RxReorderTbl β) × List β
  | [], tbls => (tbls, [])
  | i :: is, tbls =>
    match getRxreorderTbl tbls i ta with
    | none => cleanupTids ta is tbls
    | some t =>
      let d := deleteRxreorderTblEntry tbls t
      let r := cleanupTids ta is d.1
      (r.1, d.2 ++ r.2)

def cleanupStation (tbls : List (RxReorderTbl β)) (ta : Vector UInt8 6) :
    List (RxReorderTbl β) × List β :=
  cleanupTids ta (List.range maxNumTid) tbls

def setNoDropFlag (tbls : List (RxReorderTbl β)) (flag : Bool) : List (RxReorderTbl β) :=
  tbls.map fun t => { t with forceNoDrop := flag }

def flushData (tbls : List (RxReorderTbl β)) (tid : Nat) (ta : Vector UInt8 6) :
    List (RxReorderTbl β) :=
  match getRxreorderTbl tbls tid ta with
  | none => tbls
  | some t =>
    if t.timerIsSet then setEntry tbls tid ta { t with flushData := true, timerIsSet := false }
    else tbls

def flushPrivRxreorderTbl (tbls : List (RxReorderTbl β)) : List (RxReorderTbl β) × List β :=
  (tbls.map fun t => (flushPending t).1, tbls.flatMap fun t => (flushPending t).2)

-- i of the source's loop is a byte, so that a longer bitmap would never end it
structure RxBaSync where
  tlvType : Nat
  mac : Vector UInt8 6
  tid : Nat
  seqNum : Nat
  bitmap : List UInt8
  short : bitmap.length < 256
deriving DecidableEq

def droppedInByte (base : Nat) (byte : UInt8) : List Nat :=
  ((List.range 8).filter byte.toNat.testBit).map fun j => (base + j) % maxTidValue

def droppedSeqs (base : Nat) : List UInt8 → List Nat
  | [] => []
  | b :: bs => droppedInByte base b ++ droppedSeqs (base + 8) bs

structure Priv (β : Type*) where
  tbls : List (RxReorderTbl β)
  delivered : List β
  released : List β
deriving DecidableEq, Repr

def Priv.settle (p : Priv β) (r : List (RxReorderTbl β) × List β) : Priv β :=
  { p with tbls := r.1, delivered := p.delivered ++ r.2 }

inductive Event (β : Type*) where
  | packet (portOpen : Bool) (seqNum tid : Nat) (ta : Vector UInt8 6) (pktType : PktType)
      (pmbuf : β)
  | rxbaSync (tlvs : List RxBaSync)
  | addbaRspgen (param : AddBaParam) (declined : Bool) (alloc : Alloc) (lastSeq : Nat)
      (req : AddBaReq)
  | retAddbaResp (param : AddBaParam) (accepted : Bool) (ta : Vector UInt8 6)
      (paramSet : BitVec 16)
  | delba (tid : Nat) (ta : Vector UInt8 6) (type : DelbaType) (initiator : Bool)
  | timer (tid : Nat) (ta : Vector UInt8 6)
  | flushWork
  | noDropFlag (flag : Bool)
  | cleanup
  | cleanupStation (ta : Vector UInt8 6)

def started : Priv β := ⟨[], [], []⟩

variable [ULong]

def rxreorderPkt (tbls : List (RxReorderTbl β)) (seqNum tid : Nat) (ta : Vector UInt8 6)
    (pktType : PktType) (payload : Payload β) :
    Option (List (RxReorderTbl β) × List β × MlanStatus) :=
  match getRxreorderTbl tbls tid ta with
  | none => some (tbls, if pktType ≠ .bar then dispatchPkt payload else [], .success)
  | some t =>
    if t.winSize ≤ 1 then
      some (tbls, if pktType ≠ .bar then dispatchPkt payload else [], .success)
    else
      (rxreorderTblPkt t seqNum pktType payload).map fun r =>
        (setEntry tbls tid ta r.tbl, r.sent, r.ret)

def reportDropped (tid : Nat) (ta : Vector UInt8 6) : List Nat → List (RxReorderTbl β) →
    Option (List (RxReorderTbl β) × List β)
  | [], tbls => some (tbls, [])
  | s :: ss, tbls =>
    (rxreorderPkt tbls s tid ta .other .droppedInFw).bind fun r =>
      (reportDropped tid ta ss r.1).map fun q => (q.1, r.2.1 ++ q.2)

def rxbaSyncEvent : List RxBaSync → List (RxReorderTbl β) →
    Option (List (RxReorderTbl β) × List β)
  | [], tbls => some (tbls, [])
  | v :: vs, tbls =>
    if v.tlvType ≠ tlvTypeRxbaSync then some (tbls, [])
    else
      match getRxreorderTbl tbls v.tid v.mac with
      | none => some (tbls, [])
      | some t =>
        if t.forceNoDrop then some (tbls, [])
        else
          (reportDropped v.tid v.mac (droppedSeqs v.seqNum v.bitmap) tbls).bind fun r =>
            (rxbaSyncEvent vs r.1).map fun q => (q.1, r.2 ++ q.2)

-- the caller gives a buffer back when it was refused, and always for a BAR
def processRxPacket (p : Priv β) (portOpen : Bool) (seqNum tid : Nat) (ta : Vector UInt8 6)
    (pktType : PktType) (pmbuf : β) : Option (Priv β) :=
  if !portOpen && pktType ≠ .bar then
    (rxreorderPkt p.tbls seqNum tid ta pktType .droppedInFw).map fun r =>
      { p with tbls := r.1, delivered := p.delivered ++ r.2.1 ++ [pmbuf] }
  else
    (rxreorderPkt p.tbls seqNum tid ta pktType (.buffer pmbuf)).map fun r =>
      { tbls := r.1
        delivered := p.delivered ++ r.2.1
        released := p.released ++
          if r.2.2 = .failure ∨ pktType = .bar then [pmbuf] else [] }

def step (p : Priv β) : Event β → Option (Priv β)
  | .packet portOpen seqNum tid ta pktType pmbuf =>
    processRxPacket p portOpen seqNum tid ta pktType pmbuf
  | .rxbaSync tlvs => (rxbaSyncEvent tlvs p.tbls).map p.settle
  | .addbaRspgen param declined alloc lastSeq req =>
    some (p.settle (addbaRspgen p.tbls param declined alloc lastSeq req))
  | .retAddbaResp param accepted ta paramSet =>
    some (p.settle (retAddbaResp p.tbls param accepted ta paramSet))
  | .delba tid ta type initiator =>
    some (p.settle (deleteBastreamTbl p.tbls tid ta type initiator))
  | .timer tid ta => some (p.settle (flushData p.tbls tid ta, []))
  | .flushWork => some (p.settle (flushPrivRxreorderTbl p.tbls))
  | .noDropFlag flag => some (p.settle (setNoDropFlag p.tbls flag, []))
  | .cleanup => some (p.settle (cleanupReorderTbl p.tbls))
  | .cleanupStation ta => some (p.settle (cleanupStation p.tbls ta))

def run (p : Priv β) : List (Event β) → Option (Priv β)
  | [] => some p
  | e :: es => (step p e).bind fun q => run q es

end RxReorder
