import IrisFirmware.Nfc.IsoDep.Messages

namespace Rfal

theorem pcdHdrLen_plain {g : IsoDep} (h : Plain g) : pcdHdrLen g = hdrLenOf g.did := by
  rw [pcdHdrLen, hdrLenOf, h.nad]
  rcases eq_or_ne g.did noDid with hd | hd <;> simp [hd]

def pcdMsgIn (g : IsoDep) (m : Msg) (behind : UInt8) : Outcome :=
  match m with
  | .i _ _ inf => pcdIBlockIn g (m.head g.did) inf
  | .ack _ | .nak _ => pcdRBlockIn g (m.head g.did)
  | .wtx _ | .dsl => pcdSBlockIn g (m.head g.did) (m.bytes g.did) behind

theorem pcdProcess_msg {g : IsoDep} (hl : g.hdrLen = hdrLenOf g.did) {m : Msg}
    (hm : m.Numbered) (behind : UInt8) :
    pcdProcess g (m.bytes g.did) behind = fails g .proto ∨
      pcdProcess g (m.bytes g.did) behind = pcdMsgIn g m behind := by
  have hr := Msg.head_reads hm g.did
  rw [pcdProcess, Msg.bytes_head]
  simp only [hl, Msg.bytes_drop]
  split_ifs with _ _ _ hs hrb hi
  · exact .inl rfl
  · exact .inl rfl
  · exact .inl rfl
  · refine .inr ?_
    rcases hr.isS.mp hs with ⟨w, rfl⟩ | rfl <;> rfl
  · refine .inr ?_
    rcases hr.isR.mp hrb with ⟨bn, rfl⟩ | ⟨bn, rfl⟩ <;> rfl
  · refine .inr ?_
    obtain ⟨bn, c, inf, rfl⟩ := hr.isI.mp hi
    rfl
  · exact .inl rfl

theorem pcd_ack_other {g : IsoDep} {bn behind : UInt8} (hbn : Bit bn)
    (hne : bn ≠ g.blockNumber) :
    (pcdMsgIn g (.ack bn) behind).ret.stops = true ∨
      Yields (pcdMsgIn g (.ack bn) behind) { g with state := .pcdTx } .busy [] none := by
  have hr := Msg.head_reads (m := .ack bn) hbn g.did
  have hack : pcbIsRAck ((Msg.ack bn).head g.did) = true := hr.isAck.mpr ⟨bn, rfl⟩
  rw [pcdMsgIn, pcdRBlockIn, if_pos hack, hr.bn.2.1 bn rfl, if_neg hne]
  dsimp only
  split
  · exact .inr ⟨rfl, rfl, rfl, by constructor <;> rfl⟩
  · exact .inl rfl

section received

variable {g : IsoDep} (h : Plain g)
include h

theorem pcd_ack_own (behind : UInt8) :
    (pcdMsgIn g (.ack g.blockNumber) behind).ret.stops = true ∨
      Yields (pcdMsgIn g (.ack g.blockNumber) behind) { g with blockNumber := toggleBn g.blockNumber }
        .none [] none := by
  have hr := Msg.head_reads (m := .ack g.blockNumber) h.bit g.did
  have hack : pcbIsRAck ((Msg.ack g.blockNumber).head g.did) = true := hr.isAck.mpr ⟨_, rfl⟩
  rw [pcdMsgIn, pcdRBlockIn, if_pos hack, hr.bn.2.1 _ rfl, if_pos rfl]
  dsimp only
  split
  · exact .inl rfl
  · exact .inr ⟨rfl, rfl, rfl, by constructor <;> rfl⟩

theorem pcd_wtx (w behind : UInt8) :
    (pcdMsgIn g (.wtx w) behind).ret.stops = true ∨
      ∃ w', Yields (pcdMsgIn g (.wtx w) behind) g .busy [(Msg.wtx w').bytes g.did] none := by
  have hr := Msg.head_reads (m := .wtx w) trivial g.did
  have hwtx : pcbIsSWtx ((Msg.wtx w).head g.did) = true := hr.isWtx.mpr ⟨w, rfl⟩
  rw [pcdMsgIn, pcdSBlockIn, if_pos hwtx]
  dsimp only
  generalize getWtxm (((Msg.wtx w).bytes g.did).getD _ behind) = w'
  have hs : Same g (if pcbIsRNak g.lastPcb then
      { g with cntSWtxNack := g.cntSWtxNack + 1, cntRRetrys := 0 }
      else { g with cntSWtxNack := 0 }) := by
    split <;> constructor <;> rfl
  generalize (if pcbIsRNak g.lastPcb then
      { g with cntSWtxNack := g.cntSWtxNack + 1, cntRRetrys := 0 }
      else { g with cntSWtxNack := 0 }) = g' at hs ⊢
  rcases (handleControlMsg_controlled (h.of_same hs) (by decide : ControlMsg.sWtx ≠ .sDsl) w').outcome
    with hstop | ⟨hy, _⟩
  · exact .inl hstop
  · refine .inr ⟨w', hy.ret, ?_, hy.got, hs.trans hy.same⟩
    rw [hy.frames, hs.did]
    rfl

theorem pcd_i_last (inf : List UInt8) (behind : UInt8) :
    Yields (pcdMsgIn g (.i g.blockNumber false inf) behind)
      { g with blockNumber := toggleBn g.blockNumber, state := .idle, isRxChaining := false }
      .none [] (some ⟨inf, false⟩) := by
  have hr := Msg.head_reads (m := .i g.blockNumber false inf) h.bit g.did
  obtain ⟨hbn, hc⟩ := hr.bn.1 _ _ _ rfl
  rw [pcdMsgIn, pcdIBlockIn, hbn, hc, if_neg (by decide)]
  simp only [if_true]
  exact ⟨rfl, rfl, rfl, by constructor <;> rfl⟩

theorem pcd_i_more (inf : List UInt8) (behind : UInt8) :
    (pcdMsgIn g (.i g.blockNumber true inf) behind).ret.stops = true ∨
      Yields (pcdMsgIn g (.i g.blockNumber true inf) behind)
        { g with blockNumber := toggleBn g.blockNumber, isRxChaining := true }
        .again [(Msg.ack (toggleBn g.blockNumber)).bytes g.did] (some ⟨inf, true⟩) := by
  have hr := Msg.head_reads (m := .i g.blockNumber true inf) h.bit g.did
  obtain ⟨hbn, hc⟩ := hr.bn.1 _ _ _ rfl
  rw [pcdMsgIn, pcdIBlockIn, hbn, hc, if_pos rfl]
  simp only [if_true]
  have hp : Plain (clearCounters
      { g with isRxChaining := true, blockNumber := toggleBn g.blockNumber }) :=
    ⟨h.nad, h.lastDid00, h.bit.toggle⟩
  have hctl := handleControlMsg_controlled hp (by decide : ControlMsg.rAck ≠ .sDsl) 0
  generalize handleControlMsg _ .rAck 0 = s at hctl ⊢
  rcases hctl.out with ⟨hr, hf, _⟩ | ⟨hr, _⟩
  · rw [if_pos hr, hf]
    refine .inr ⟨rfl, rfl, rfl, ?_⟩
    have hs := hctl.same
    exact ⟨hs.state, hs.role, hs.blockNumber, hs.did, hs.nad, hs.lastDid00, hs.isTxChaining,
      hs.isRxChaining, hs.txInf, hs.isTxPending, hs.isWait4Wtx⟩
  · rw [if_neg (stops_ne_none hr)]
    exact .inl hr

def complaint (g : IsoDep) : Msg :=
  if g.isRxChaining then .ack g.blockNumber else .nak g.blockNumber

theorem pcdError_yields (hst : g.state = .pcdRx) (e : RxError) :
    (pcdError g e).ret.stops = true ∨
      Yields (pcdError g e) g .busy [(complaint g).bytes g.did] none := by
  rw [pcdError, complaint]
  have hdsl : ¬ g.state = .pcdWaitDsl := by
    rw [hst]
    decide
  cases hre : retried e with
  | false => exact .inl rfl
  | true =>
    rw [if_pos rfl, if_neg hdsl]
    cases hch : g.isRxChaining with
    | true =>
      rcases (handleControlMsg_controlled h (by decide : ControlMsg.rAck ≠ .sDsl) 0).outcome
        with hstop | ⟨hy, _⟩
      · exact .inl hstop
      · exact .inr hy
    | false =>
      rcases (handleControlMsg_controlled h (by decide : ControlMsg.rNak ≠ .sDsl) 0).outcome
        with hstop | ⟨hy, _⟩
      · exact .inl hstop
      · exact .inr hy

end received

theorem Plain.withHdrLen {g : IsoDep} (h : Plain g) (n : Nat) : Plain { g with hdrLen := n } :=
  ⟨h.nad, h.lastDid00, h.bit⟩

theorem Yields.withHdrLen {o : Outcome} {g : IsoDep} {n : Nat} {ret : ReturnCode}
    {frames : List Frame} {got : Option Block} (h : Yields o { g with hdrLen := n } ret frames got) :
    Yields o g ret frames got :=
  ⟨h.ret, h.frames, h.got, .trans (by constructor <;> rfl) h.same⟩

theorem pcd_receives {g : IsoDep} (h : Plain g) (hst : g.state = .pcdRx) {m : Msg}
    (hm : m.Numbered) (behind : UInt8) :
    (dataExchangePcd g (.done (m.bytes g.did) behind)).ret.stops = true ∨
      dataExchangePcd g (.done (m.bytes g.did) behind) =
        pcdMsgIn { g with hdrLen := hdrLenOf g.did } m behind := by
  rw [dataExchangePcd_rx hst, pcdHdrLen_plain h, pcdReceive]
  rcases pcdProcess_msg (g := { g with hdrLen := hdrLenOf g.did }) rfl hm behind with hf | hf
  · refine .inl ?_
    rw [hf]
    rfl
  · exact .inr hf

theorem pcd_polls {g : IsoDep} (h : Plain g) (hst : g.state = .pcdRx) (e : RxError) :
    (dataExchangePcd g (.failed e)).ret.stops = true ∨
      Yields (dataExchangePcd g (.failed e)) g .busy [(complaint g).bytes g.did] none := by
  rw [dataExchangePcd_rx hst, pcdReceive]
  rcases pcdError_yields (h.withHdrLen (pcdHdrLen g)) hst e with hs | hy
  · exact .inl hs
  · exact .inr hy.withHdrLen

theorem pcd_busy {g : IsoDep} (hst : g.state = .pcdRx) :
    Yields (dataExchangePcd g .busy) g .busy [] none := by
  rw [dataExchangePcd_rx hst, pcdReceive]
  exact (waits_yields _).withHdrLen

-- the poll that sends a block looks at the transceiver too
theorem pcd_sends {g : IsoDep} (h : Plain g) (hst : g.state = .pcdTx) (status : Status)
    (hstatus : ∀ f b, status ≠ .done f b) :
    (dataExchangePcd g status).ret.stops = true ∨
      ∃ frames, (frames = [] ∨ frames = [(complaint g).bytes g.did]) ∧
        Yields (dataExchangePcd g status) { g with state := .pcdRx } .busy
          ((blockOf g).bytes g.did :: frames) none := by
  have hsent := tx_block (h.withHdrLen (pcdHdrLen g)) prologueSize
  rw [dataExchangePcd]
  simp only [hst] at hsent ⊢
  generalize tx _ (pcbIBlock g.blockNumber) prologueSize g.txInf = s at hsent ⊢
  rcases hsent.out with ⟨hr, hf⟩ | hr
  · have hs := hsent.same
    have hsame : Same { g with state := .pcdRx } { s.dep with state := .pcdRx } :=
      ⟨rfl, hs.role, hs.blockNumber, hs.did, hs.nad, hs.lastDid00, hs.isTxChaining,
        hs.isRxChaining, hs.txInf, hs.isTxPending, hs.isWait4Wtx⟩
    have hp : Plain { s.dep with state := .pcdRx } :=
      Plain.of_same (g := { g with state := .pcdRx }) ⟨h.nad, h.lastDid00, h.bit⟩ hsame
    rw [if_pos hr, hf]
    cases status with
    | busy => exact .inr ⟨[], .inl rfl, ⟨rfl, rfl, rfl, hsame⟩⟩
    | failed e =>
      rcases pcdError_yields hp rfl e with hstop | hy
      · exact .inl hstop
      · refine .inr ⟨_, .inr rfl, ⟨hy.ret, ?_, hy.got, hsame.trans hy.same⟩⟩
        have hc : complaint { s.dep with state := .pcdRx } = complaint g := by
          rw [complaint, complaint, hsame.isRxChaining, hsame.blockNumber]
        rw [pcdReceive, hy.frames, hc, hsame.did]
        rfl
    | done f b => exact absurd rfl (hstatus f b)
  · rw [if_neg (stops_ne_none hr)]
    exact .inl hr

end Rfal
