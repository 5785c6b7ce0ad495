import IrisFirmware.Nfc.IsoDep.Block

namespace Rfal

inductive RxError where
  | timeout | crc | par | framing | incompleteByte | linkLoss | other
deriving DecidableEq, Repr

inductive ReturnCode where
  | none | busy | again | rx (e : RxError) | timeout | proto | param | nomem | notsupp
  | wrongState | sleepReq | internal
deriving DecidableEq, Repr

inductive State where
  | idle | pcdTx | pcdRx | pcdWaitDsl | piccRx | piccSwtx | piccSdsl | piccTx
deriving DecidableEq, Repr

inductive Role where
  | pcd | picc
deriving DecidableEq, Repr

inductive ComplianceMode where
  | nfc | emv | iso
deriving DecidableEq, Repr

inductive ControlMsg where
  | rAck | rNak | sWtx | sDsl
deriving DecidableEq, Repr

structure Block where
  inf : List UInt8
  chaining : Bool
deriving DecidableEq, Repr

structure IsoDep where
  state : State
  role : Role
  blockNumber : UInt8
  did : UInt8
  nad : UInt8
  cntIRetrys : UInt8
  cntRRetrys : UInt8
  cntSDslRetrys : UInt8
  cntSWtxRetrys : UInt8
  cntSWtxNack : UInt8
  fwt : Nat
  fsx : Nat
  ourFsx : Nat
  isTxChaining : Bool
  isRxChaining : Bool
  txInf : List UInt8
  lastPcb : UInt8
  lastWtxm : UInt8
  hdrLen : Nat
  lastDid00 : Bool
  isTxPending : Bool
  isWait4Wtx : Bool
  maxRetriesI : UInt8
  maxRetriesR : UInt8
  maxRetriesSDsl : UInt8
  maxRetriesSWtx : UInt8
  maxRetriesSnWtx : UInt8
  compMode : ComplianceMode
deriving DecidableEq, Repr

-- a frame that was received lies in the buffer in front of a byte of what was there before
inductive Status where
  | busy
  | failed (e : RxError)
  | done (frame : Frame) (behind : UInt8)
deriving DecidableEq, Repr

structure Sent where
  dep : IsoDep
  ret : ReturnCode
  frame : Option Frame

structure Outcome where
  dep : IsoDep
  ret : ReturnCode
  frames : List Frame
  got : Option Block

def clearCounters (g : IsoDep) : IsoDep :=
  { g with cntIRetrys := 0, cntRRetrys := 0, cntSDslRetrys := 0, cntSWtxRetrys := 0,
           cntSWtxNack := 0 }

def sendsDid (g : IsoDep) : Bool := g.did ≠ noDid || (g.did = noDid && g.lastDid00)

def computedPcb (g : IsoDep) (pcb : UInt8) : UInt8 :=
  let pcb := if sendsDid g then pcb ||| didBit else pcb
  let pcb := if g.nad ≠ noNad then pcb ||| nadBit else pcb
  if g.isTxChaining && pcbIsIBlock pcb then pcb ||| chainingBit else pcb

def txBlock (g : IsoDep) (pcb : UInt8) (inf : List UInt8) : Frame :=
  computedPcb g pcb :: ((if sendsDid g then [g.did] else []) ++
    (if g.nad ≠ noNad then [g.nad] else []) ++ inf)

def tx (g : IsoDep) (pcb : UInt8) (room : Nat) (inf : List UInt8) : Sent :=
  let g := { g with lastPcb := pcb }
  if inf ≠ [] ∧ room < g.hdrLen then ⟨g, .nomem, none⟩
  else if g.fsx - crcLen < (txBlock g pcb inf).length then ⟨g, .notsupp, none⟩
  else ⟨g, .none, some (txBlock g pcb inf)⟩

def handleControlMsg (g : IsoDep) (msg : ControlMsg) (param : UInt8) : Sent :=
  match msg with
  | .rAck =>
    let g' := { g with cntRRetrys := g.cntRRetrys + 1 }
    if g.cntRRetrys > g.maxRetriesR then ⟨g', .timeout, none⟩
    else tx g' (pcbRAck g.blockNumber) controlRoom []
  | .rNak =>
    let g' := { g with cntRRetrys := g.cntRRetrys + 1 }
    if g.cntRRetrys > g.maxRetriesR ∨ g.cntSWtxNack ≥ g.maxRetriesSnWtx then ⟨g', .timeout, none⟩
    else tx g' (pcbRNak g.blockNumber) controlRoom []
  | .sWtx =>
    let g' := { g with cntSWtxRetrys := g.cntSWtxRetrys + 1 }
    if g.cntSWtxRetrys > g.maxRetriesSWtx ∧ g.maxRetriesSWtx ≠ 255 then ⟨g', .proto, none⟩
    else if !isWtxmValid param then ⟨g', .proto, none⟩
    else tx g' pcbSWtx controlRoom [param]
  | .sDsl =>
    let g' := { g with cntSDslRetrys := g.cntSDslRetrys + 1 }
    if g.cntSDslRetrys > g.maxRetriesSDsl then ⟨g', .timeout, none⟩
    else
      tx (if g.role = .pcd then { g' with state := .pcdWaitDsl } else g') pcbSDsl controlRoom []

def reSendControlMsg (g : IsoDep) : Sent :=
  if pcbIsRAck g.lastPcb then handleControlMsg g .rAck 0
  else if pcbIsRNak g.lastPcb then handleControlMsg g .rNak 0
  else if pcbIsSDeselect g.lastPcb then handleControlMsg g .sDsl 0
  else if pcbIsSWtx g.lastPcb then handleControlMsg g .sWtx g.lastWtxm
  else ⟨g, .wrongState, none⟩

def isoDepInitialize (g : IsoDep) : IsoDep :=
  { clearCounters g with
    state := .idle, role := .pcd, did := noDid, nad := noNad, blockNumber := 0,
    isTxChaining := false, isRxChaining := false, lastDid00 := false, lastPcb := pcbInvalid,
    fsx := 16, ourFsx := 16, hdrLen := 1, isTxPending := false, isWait4Wtx := false,
    compMode := .nfc, maxRetriesR := 3, maxRetriesI := 2, maxRetriesSDsl := 0,
    maxRetriesSWtx := 20, maxRetriesSnWtx := 3 }

def Sent.outcome (s : Sent) : Outcome :=
  if s.ret = .none then ⟨s.dep, .busy, s.frame.toList, none⟩ else ⟨s.dep, s.ret, [], none⟩

def waits (g : IsoDep) : Outcome := ⟨g, .busy, [], none⟩
def fails (g : IsoDep) (e : ReturnCode) : Outcome := ⟨g, e, [], none⟩

def retried : RxError → Bool
  | .timeout | .crc | .par | .framing | .incompleteByte => true
  | _ => false

def pcdError (g : IsoDep) (e : RxError) : Outcome :=
  if retried e then
    if g.isRxChaining then (handleControlMsg g .rAck 0).outcome
    else if g.state = .pcdWaitDsl then (handleControlMsg g .sDsl 0).outcome
    else (handleControlMsg g .rNak 0).outcome
  else fails g (.rx e)

def pcdSBlockIn (g : IsoDep) (pcb : UInt8) (frame : Frame) (behind : UInt8) : Outcome :=
  if pcbIsSWtx pcb then
    let g := if pcbIsRNak g.lastPcb then
        { g with cntSWtxNack := g.cntSWtxNack + 1, cntRRetrys := 0 }
      else { g with cntSWtxNack := 0 }
    (handleControlMsg g .sWtx (getWtxm (frame.getD g.hdrLen behind))).outcome
  else if pcbIsSDeselect pcb ∧ g.state = .pcdWaitDsl then ⟨isoDepInitialize g, .none, [], none⟩
  else fails g .proto

def pcdRBlockIn (g : IsoDep) (pcb : UInt8) : Outcome :=
  if pcbIsRAck pcb then
    if getBn pcb = g.blockNumber then
      let g := { g with blockNumber := nextBn g.blockNumber }
      if !g.isTxChaining then fails g .proto
      else ⟨clearCounters g, .none, [], none⟩
    else
      let g' := { g with cntIRetrys := g.cntIRetrys + 1 }
      if g.cntIRetrys < g.maxRetriesI then waits { g' with cntRRetrys := 0, state := .pcdTx }
      else fails g' .timeout
  else fails g .proto

def pcdIBlockIn (g : IsoDep) (pcb : UInt8) (inf : List UInt8) : Outcome :=
  if pcbIsChaining pcb then
    let g := { g with isRxChaining := true }
    if getBn pcb = g.blockNumber then
      let s := handleControlMsg (clearCounters { g with blockNumber := toggleBn g.blockNumber })
        .rAck 0
      if s.ret = .none then ⟨clearCounters s.dep, .again, s.frame.toList, some ⟨inf, true⟩⟩
      else fails s.dep s.ret
    else (handleControlMsg g .rAck 0).outcome
  else
    let g := { g with isRxChaining := false }
    if getBn pcb = g.blockNumber then
      ⟨clearCounters { g with blockNumber := toggleBn g.blockNumber, state := .idle }, .none, [],
        some ⟨inf, false⟩⟩
    else if g.compMode ≠ .iso then fails g .proto
    else (handleControlMsg g .rNak 0).outcome

def pcdProcess (g : IsoDep) (frame : Frame) (behind : UInt8) : Outcome :=
  let pcb := frame.headD behind
  if frame.length < g.hdrLen ∨ frame.length ≥ g.ourFsx then fails g .proto
  else if g.compMode = .emv ∧ (pcbHasDid pcb || pcbHasNad pcb) then fails g .proto
  else if g.did ≠ noDid ∧ (!pcbHasDid pcb || g.did ≠ frame.getD 1 0) then fails g .proto
  else if pcbIsSBlock pcb then pcdSBlockIn g pcb frame behind
  else if pcbIsRBlock pcb then pcdRBlockIn g pcb
  else if pcbIsIBlock pcb then pcdIBlockIn g pcb (frame.drop g.hdrLen)
  else fails g .proto

def pcdReceive (g : IsoDep) : Status → Outcome
  | .busy => waits g
  | .failed e => pcdError g e
  | .done frame behind => pcdProcess g frame behind

def pcdHdrLen (g : IsoDep) : Nat :=
  1 + (if g.did ≠ noDid then 1 else 0) + (if g.nad ≠ noNad then 1 else 0)

def dataExchangePcd (g : IsoDep) (status : Status) : Outcome :=
  let g := { g with hdrLen := pcdHdrLen g }
  match g.state with
  | .idle => ⟨g, .none, [], none⟩
  | .pcdTx =>
    let s := tx g (pcbIBlock g.blockNumber) prologueSize g.txInf
    if s.ret = .none then
      let o := pcdReceive { s.dep with state := .pcdRx } status
      { o with frames := s.frame.toList ++ o.frames }
    else fails s.dep s.ret
  | .pcdRx | .pcdWaitDsl => pcdReceive g status
  | _ => fails g .internal

theorem dataExchangePcd_rx {g : IsoDep} (hst : g.state = .pcdRx) (status : Status) :
    dataExchangePcd g status = pcdReceive { g with hdrLen := pcdHdrLen g } status := by
  rw [dataExchangePcd]
  simp only [hst]

theorem dataExchangePcd_waitDsl {g : IsoDep} (hst : g.state = .pcdWaitDsl) (status : Status) :
    dataExchangePcd g status = pcdReceive { g with hdrLen := pcdHdrLen g } status := by
  rw [dataExchangePcd]
  simp only [hst]

theorem dataExchangePcd_busy {g : IsoDep} {status : Status}
    (h : (dataExchangePcd g status).ret = .busy) :
    g.state = .pcdTx ∨ g.state = .pcdRx ∨ g.state = .pcdWaitDsl := by
  rw [dataExchangePcd] at h
  cases hst : g.state <;> simp only [hst] at h
  · cases h
  · exact .inl rfl
  · exact .inr (.inl rfl)
  · exact .inr (.inr rfl)
  · cases h
  · cases h
  · cases h
  · cases h

def fwi2Fwt (fwi : Nat) : Nat := min (1 <<< 26) (1 <<< ((if fwi > 14 then 4 else fwi) + 12))

def fwtLisMax (g : IsoDep) : Nat := fwi2Fwt (if g.compMode = .emv then 7 else 8)

def wtxmListenerMax (g : IsoDep) : UInt8 := min (fwtLisMax g / g.fwt).toUInt8 59

def piccHdrLen (pcb : UInt8) : Nat :=
  1 + (if pcbHasDid pcb then 1 else 0) + (if pcbHasNad pcb then 1 else 0)

def piccSBlockIn (g : IsoDep) (pcb : UInt8) (frame : Frame) : Outcome :=
  if pcbIsSWtx pcb ∧ pcbIsWtx g.lastPcb ∧ frame.drop g.hdrLen = [g.lastWtxm] then
    let g := { g with isWait4Wtx := false }
    if g.isTxPending then waits { g with state := .piccTx } else waits { g with state := .piccSwtx }
  else if pcbIsSDeselect pcb ∧ frame.length = g.hdrLen then
    let s := handleControlMsg g .sDsl 0
    if s.ret = .none then ⟨{ s.dep with state := .piccSdsl }, .busy, s.frame.toList, none⟩
    else fails s.dep s.ret
  else waits g

def piccRepeat (g : IsoDep) : Outcome :=
  if !pcbIsIBlock g.lastPcb then
    let s := reSendControlMsg g
    ⟨s.dep, .busy, s.frame.toList, none⟩
  else waits { g with state := .piccTx }

def piccRBlockIn (g : IsoDep) (pcb : UInt8) : Outcome :=
  if pcbIsRAck pcb then
    if getBn pcb = g.blockNumber then piccRepeat g
    else if !g.isTxChaining then waits g
    else ⟨{ g with blockNumber := toggleBn g.blockNumber, state := .piccSwtx }, .none, [], none⟩
  else if pcbIsRNak pcb then
    if getBn pcb = g.blockNumber then piccRepeat g
    else (handleControlMsg g .rAck 0).outcome
  else waits g

def piccIBlockIn (g : IsoDep) (pcb : UInt8) (inf : List UInt8) : Outcome :=
  if getBn pcb ≠ toggleBn g.blockNumber ∨ g.isTxChaining then
    waits { g with blockNumber := toggleBn (toggleBn g.blockNumber) }
  else
    let g := { g with blockNumber := toggleBn g.blockNumber }
    if pcbIsChaining pcb then
      let s := handleControlMsg { g with isRxChaining := true } .rAck 0
      if s.ret = .none then ⟨s.dep, .again, s.frame.toList, some ⟨inf, true⟩⟩
      else fails s.dep s.ret
    else ⟨{ g with isRxChaining := false, state := .piccSwtx }, .none, [], some ⟨inf, false⟩⟩

def piccOpen (g : IsoDep) (pcb : UInt8) : IsoDep :=
  { clearCounters g with
    hdrLen := piccHdrLen pcb,
    lastDid00 := if g.did = noDid then pcbHasDid pcb else g.lastDid00 }

def piccDispatch (g : IsoDep) (pcb : UInt8) (frame : Frame) : Outcome :=
  if frame.length < g.hdrLen ∨ frame.length > g.ourFsx - crcLen then waits g
  else if (g.did ≠ noDid ∧ (!pcbHasDid pcb || g.did ≠ frame.getD 1 0)) ∨
      (g.did = noDid ∧ pcbHasDid pcb ∧ noDid ≠ frame.getD 1 0) then waits g
  else if g.nad = noNad ∧ pcbHasNad pcb then waits g
  else if pcbIsSBlock pcb then piccSBlockIn g pcb frame
  else if pcbIsRBlock pcb ∧ frame.length = g.hdrLen then piccRBlockIn g pcb
  else if pcbIsIBlock pcb then piccIBlockIn g pcb (frame.drop g.hdrLen)
  else waits g

def piccProcess (g : IsoDep) (frame : Frame) (behind : UInt8) : Outcome :=
  piccDispatch (piccOpen g (frame.headD behind)) (frame.headD behind) frame

def piccStatus (g : IsoDep) : Status → Outcome
  | .busy => waits g
  | .failed .timeout | .failed .crc | .failed .par | .failed .framing => waits g
  | .failed e => fails g (.rx e)
  | .done frame behind => piccProcess g frame behind

def dataExchangePicc (g : IsoDep) (status : Status) (timerExpired inTx : Bool) : Outcome :=
  match g.state with
  | .idle => ⟨g, .none, [], none⟩
  | .piccTx =>
    let s := tx g (pcbIBlock g.blockNumber) prologueSize g.txInf
    let g := { s.dep with isTxPending := false }
    if s.ret = .none then ⟨{ g with state := .piccRx }, .busy, s.frame.toList, none⟩
    else fails g s.ret
  | .piccRx => piccStatus g status
  | .piccSwtx =>
    if !timerExpired then waits g
    else
      let g := { g with isWait4Wtx := true, lastWtxm := wtxmListenerMax g }
      let s := handleControlMsg g .sWtx g.lastWtxm
      if s.ret = .none then ⟨{ s.dep with state := .piccRx }, .busy, s.frame.toList, none⟩
      else fails s.dep s.ret
  | .piccSdsl => if !inTx then fails (isoDepInitialize g) .sleepReq else waits g
  | _ => fails g .internal

structure TxRxParam where
  block : Block
  fwt : Nat
  ourFsx : Option Nat
  fsx : Nat
  did : UInt8

def session (g : IsoDep) (b : Block) : TxRxParam := ⟨b, g.fwt, none, g.fsx, g.did⟩

def startTransceive (g : IsoDep) (p : TxRxParam) : IsoDep :=
  let g := clearCounters
    { g with txInf := p.block.inf, isTxChaining := p.block.chaining, fwt := p.fwt, fsx := p.fsx,
             did := p.did, ourFsx := p.ourFsx.getD g.ourFsx, isRxChaining := false }
  match g.role with
  | .picc =>
    if g.txInf ≠ [] then
      if !g.isWait4Wtx then { g with state := .piccTx }
      else { g with isTxPending := true, state := .piccRx }
    else { g with state := .piccRx }
  | .pcd => { g with state := .pcdTx }

end Rfal
