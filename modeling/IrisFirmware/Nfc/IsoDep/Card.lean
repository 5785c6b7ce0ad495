import IrisFirmware.Nfc.IsoDep.Messages

namespace Rfal

def piccMsgIn (g : IsoDep) (m : Msg) : Outcome :=
  match m with
  | .i _ _ inf => piccIBlockIn g (m.head g.did) inf
  | .ack _ | .nak _ => piccRBlockIn g (m.head g.did)
  | .wtx _ | .dsl => piccSBlockIn g (m.head g.did) (m.bytes g.did)

theorem piccHdrLen_head {m : Msg} (hm : m.Numbered) (did : UInt8) :
    piccHdrLen (m.head did) = hdrLenOf did := by
  have hr := Msg.head_reads hm did
  rw [piccHdrLen, hdrLenOf, hr.did, hr.nad]
  rcases eq_or_ne did noDid with hd | hd <;> simp [hd]

structure Opened (g g' : IsoDep) : Prop where
  same : Same g g'
  last : g'.lastPcb = g.lastPcb
  wtxm : g'.lastWtxm = g.lastWtxm
  hdrLen : g'.hdrLen = hdrLenOf g'.did

theorem piccOpen_opened {g : IsoDep} (h : Plain g) {m : Msg} (hm : m.Numbered) :
    Opened g (piccOpen g (m.head g.did)) := by
  have hlast : (if g.did = noDid then pcbHasDid (m.head g.did) else g.lastDid00) =
      g.lastDid00 := by
    rw [(Msg.head_reads hm g.did).did, h.lastDid00]
    rcases eq_or_ne g.did noDid with hd | hd <;> simp [hd]
  exact ⟨⟨rfl, rfl, rfl, rfl, rfl, hlast, rfl, rfl, rfl, rfl, rfl⟩, rfl, rfl, piccHdrLen_head hm _⟩

theorem piccDispatch_msg {g : IsoDep} (hl : g.hdrLen = hdrLenOf g.did) {m : Msg}
    (hm : m.Numbered) :
    piccDispatch g (m.head g.did) (m.bytes g.did) = waits g ∨
      piccDispatch g (m.head g.did) (m.bytes g.did) = piccMsgIn g m := by
  have hr := Msg.head_reads hm g.did
  rw [piccDispatch]
  simp only [hl, Msg.bytes_drop]
  split_ifs with h1 h2 h3 hs hrb hi
  · exact .inl rfl
  · exact .inl rfl
  · exact .inl rfl
  · refine .inr ?_
    rcases hr.isS.mp hs with ⟨w, rfl⟩ | rfl <;> rfl
  · refine .inr ?_
    rcases hr.isR.mp hrb.1 with ⟨bn, rfl⟩ | ⟨bn, rfl⟩ <;> rfl
  · refine .inr ?_
    obtain ⟨bn, c, inf, rfl⟩ := hr.isI.mp hi
    rfl
  · exact .inl rfl

theorem piccProcess_msg {g : IsoDep} (h : Plain g) {m : Msg} (hm : m.Numbered)
    (behind : UInt8) :
    ∃ g', Opened g g' ∧ (piccProcess g (m.bytes g.did) behind = waits g' ∨
      piccProcess g (m.bytes g.did) behind = piccMsgIn g' m) := by
  have ho := piccOpen_opened h hm
  refine ⟨_, ho, ?_⟩
  rw [piccProcess, Msg.bytes_head]
  have hd := piccDispatch_msg ho.hdrLen hm
  rwa [ho.same.did] at hd

theorem picc_i_more {g : IsoDep} (h : Plain g) {bn : UInt8} (hbn : Bit bn)
    (hne : bn ≠ g.blockNumber) (hch : g.isTxChaining = false) (inf : List UInt8) :
    (piccMsgIn g (.i bn true inf)).ret.stops = true ∨
      (Yields (piccMsgIn g (.i bn true inf))
          { g with blockNumber := bn, isRxChaining := true, lastPcb := pcbRAck bn }
          .again [(Msg.ack bn).bytes g.did] (some ⟨inf, true⟩) ∧
        (piccMsgIn g (.i bn true inf)).dep.lastPcb = pcbRAck bn) := by
  obtain ⟨hgb, hc⟩ := (Msg.head_reads (m := .i bn true inf) hbn g.did).bn.1 _ _ _ rfl
  have htog : toggleBn g.blockNumber = bn := h.bit.eq_toggle hbn hne.symm
  rw [piccMsgIn, piccIBlockIn, hgb, hc, if_neg (by simp [htog, hch])]
  dsimp only
  rw [if_pos rfl, htog]
  have hp : Plain { g with blockNumber := bn, isRxChaining := true } := ⟨h.nad, h.lastDid00, hbn⟩
  have hctl := handleControlMsg_controlled hp (by decide : ControlMsg.rAck ≠ .sDsl) 0
  generalize handleControlMsg _ .rAck 0 = s at hctl ⊢
  rcases hctl.out with ⟨hr, hf, hl⟩ | ⟨hr, _⟩
  · rw [if_pos hr, hf]
    exact .inr ⟨⟨rfl, rfl, rfl, .trans (by constructor <;> rfl) hctl.same⟩, hl⟩
  · rw [if_neg (stops_ne_none hr)]
    exact .inl hr

theorem picc_i_last {g : IsoDep} (h : Plain g) {bn : UInt8} (hbn : Bit bn)
    (hne : bn ≠ g.blockNumber) (hch : g.isTxChaining = false) (inf : List UInt8) :
    Yields (piccMsgIn g (.i bn false inf))
        { g with blockNumber := bn, isRxChaining := false, state := .piccSwtx }
        .none [] (some ⟨inf, false⟩) ∧
      (piccMsgIn g (.i bn false inf)).dep.lastPcb = g.lastPcb := by
  obtain ⟨hgb, hc⟩ := (Msg.head_reads (m := .i bn false inf) hbn g.did).bn.1 _ _ _ rfl
  have htog : toggleBn g.blockNumber = bn := h.bit.eq_toggle hbn hne.symm
  rw [piccMsgIn, piccIBlockIn, hgb, hc, if_neg (by simp [htog, hch])]
  dsimp only
  rw [if_neg (by decide), htog]
  exact ⟨⟨rfl, rfl, rfl, by constructor <;> rfl⟩, rfl⟩

theorem picc_nak_other {g : IsoDep} (h : Plain g) {bn : UInt8} (hbn : Bit bn)
    (hne : bn ≠ g.blockNumber) :
    (piccMsgIn g (.nak bn)).ret.stops = true ∨
      (Yields (piccMsgIn g (.nak bn)) { g with lastPcb := pcbRAck g.blockNumber } .busy
          [(Msg.ack g.blockNumber).bytes g.did] none ∧
        (piccMsgIn g (.nak bn)).dep.lastPcb = pcbRAck g.blockNumber) := by
  have hr := Msg.head_reads (m := .nak bn) hbn g.did
  have hack : ¬ pcbIsRAck ((Msg.nak bn).head g.did) = true := by
    rw [hr.isAck]
    simp
  have hnak : pcbIsRNak ((Msg.nak bn).head g.did) = true := hr.isNak.mpr ⟨bn, rfl⟩
  rw [piccMsgIn, piccRBlockIn, if_neg hack, if_pos hnak, hr.bn.2.2 bn rfl, if_neg hne]
  rcases (handleControlMsg_controlled h (by decide : ControlMsg.rAck ≠ .sDsl) 0).outcome
    with hstop | ⟨hy, hl⟩
  · exact .inl hstop
  · exact .inr ⟨hy.withLast _, hl⟩

theorem picc_ack_other {g : IsoDep} {bn : UInt8} (hbn : Bit bn)
    (hne : bn ≠ g.blockNumber) (hch : g.isTxChaining = true) :
    Yields (piccMsgIn g (.ack bn))
        { g with blockNumber := toggleBn g.blockNumber, state := .piccSwtx } .none [] none ∧
      (piccMsgIn g (.ack bn)).dep.lastPcb = g.lastPcb := by
  have hr := Msg.head_reads (m := .ack bn) hbn g.did
  have hack : pcbIsRAck ((Msg.ack bn).head g.did) = true := hr.isAck.mpr ⟨bn, rfl⟩
  rw [piccMsgIn, piccRBlockIn, if_pos hack, hr.bn.2.1 bn rfl, if_neg hne,
    if_neg (by simp [hch])]
  exact ⟨⟨rfl, rfl, rfl, by constructor <;> rfl⟩, rfl⟩

def Asks (g : IsoDep) (m : Msg) : Prop := m = .ack g.blockNumber ∨ m = .nak g.blockNumber

theorem picc_asked {g : IsoDep} (h : Plain g) {m : Msg} (hm : Asks g m) :
    piccMsgIn g m = piccRepeat g := by
  rcases hm with rfl | rfl
  · have hr := Msg.head_reads (m := .ack g.blockNumber) h.bit g.did
    have hack : pcbIsRAck ((Msg.ack g.blockNumber).head g.did) = true := hr.isAck.mpr ⟨_, rfl⟩
    rw [piccMsgIn, piccRBlockIn, if_pos hack, hr.bn.2.1 _ rfl, if_pos rfl]
  · have hr := Msg.head_reads (m := .nak g.blockNumber) h.bit g.did
    have hack : ¬ pcbIsRAck ((Msg.nak g.blockNumber).head g.did) = true := by
      rw [hr.isAck]
      simp
    have hnak : pcbIsRNak ((Msg.nak g.blockNumber).head g.did) = true := hr.isNak.mpr ⟨_, rfl⟩
    rw [piccMsgIn, piccRBlockIn, if_neg hack, if_pos hnak, hr.bn.2.2 _ rfl, if_pos rfl]

theorem pcbIsIBlock_pcbIBlock {bn : UInt8} (h : Bit bn) : pcbIsIBlock (pcbIBlock bn) = true := by
  rcases h with rfl | rfl <;> rfl

theorem repeat_block {g : IsoDep} (h : Plain g) (hl : g.lastPcb = pcbIBlock g.blockNumber) :
    Yields (piccRepeat g) { g with state := .piccTx } .busy [] none ∧
      (piccRepeat g).dep.lastPcb = g.lastPcb := by
  have hi : pcbIsIBlock g.lastPcb = true := by
    rw [hl]
    exact pcbIsIBlock_pcbIBlock h.bit
  rw [piccRepeat, hi, if_neg (by decide)]
  exact ⟨waits_yields _, rfl⟩

structure Resent (g : IsoDep) (m : Msg) (o : Outcome) : Prop where
  ret : o.ret = .busy
  got : o.got = none
  same : Same g o.dep
  last : o.dep.lastPcb = g.lastPcb
  frames : o.frames = [] ∨ o.frames = [m.bytes g.did]

theorem Controlled.resent {g : IsoDep} {m : Msg} {s : Sent} (h : Controlled g m s)
    (hl : g.lastPcb = m.pcb) : Resent g m ⟨s.dep, .busy, s.frame.toList, none⟩ where
  ret := rfl
  got := rfl
  same := h.same
  last := by
    rcases h.last with h' | h'
    · exact h'.trans hl.symm
    · exact h'
  frames := by
    rcases h.out with ⟨_, hf, _⟩ | ⟨_, hf⟩
    · simp only [hf]
      exact .inr rfl
    · simp only [hf]
      exact .inl rfl

theorem repeat_ack {g : IsoDep} (h : Plain g) (hl : g.lastPcb = pcbRAck g.blockNumber) :
    Resent g (.ack g.blockNumber) (piccRepeat g) := by
  have hnot : pcbIsIBlock g.lastPcb = false ∧ pcbIsRAck g.lastPcb = true := by
    rw [hl]
    rcases h.bit with hb | hb <;> rw [hb] <;> decide
  rw [piccRepeat, hnot.1, if_pos (by decide), reSendControlMsg, if_pos hnot.2]
  exact (handleControlMsg_controlled h (by decide : ControlMsg.rAck ≠ .sDsl) 0).resent hl

theorem repeat_wtx {g : IsoDep} (h : Plain g) (hl : g.lastPcb = pcbSWtx) :
    Resent g (.wtx g.lastWtxm) (piccRepeat g) := by
  have hnot : pcbIsIBlock pcbSWtx = false ∧ pcbIsRAck pcbSWtx = false ∧
      pcbIsRNak pcbSWtx = false ∧ pcbIsSDeselect pcbSWtx = false ∧ pcbIsSWtx pcbSWtx = true := by
    decide
  obtain ⟨hi, ha, hn, hd, hw⟩ := hnot
  rw [piccRepeat, hl, hi, if_pos (by decide), reSendControlMsg, hl, ha, hn, hd, hw]
  exact (handleControlMsg_controlled h (by decide : ControlMsg.sWtx ≠ .sDsl) g.lastWtxm).resent hl

theorem picc_wtx (g : IsoDep) (w : UInt8) :
    piccMsgIn g (.wtx w) = waits g ∨ (pcbIsWtx g.lastPcb = true ∧
      piccMsgIn g (.wtx w) = waits { g with
        isWait4Wtx := false, state := if g.isTxPending then .piccTx else .piccSwtx }) := by
  have hr := Msg.head_reads (m := .wtx w) trivial g.did
  have hdsl : ¬ pcbIsSDeselect ((Msg.wtx w).head g.did) = true := by
    rw [hr.isDsl]
    simp
  rw [piccMsgIn, piccSBlockIn]
  split
  · rename_i hw
    refine .inr ⟨hw.2.1, ?_⟩
    cases hp : g.isTxPending <;> simp
  · rw [if_neg (fun hd => hdsl hd.1)]
    exact .inl rfl

theorem picc_receives {g : IsoDep} (hst : g.state = .piccRx) (frame : Frame) (behind : UInt8)
    (expired inTx : Bool) :
    dataExchangePicc g (.done frame behind) expired inTx = piccProcess g frame behind := by
  rw [dataExchangePicc, hst]
  rfl

theorem picc_listens {g : IsoDep} (hst : g.state = .piccRx) {status : Status}
    (hs : ∀ f b, status ≠ .done f b) (expired inTx : Bool) :
    (dataExchangePicc g status expired inTx).ret.stops = true ∨
      dataExchangePicc g status expired inTx = waits g := by
  rw [dataExchangePicc, hst]
  cases status with
  | busy => exact .inr rfl
  | failed e => cases e <;> simp [piccStatus, fails, ReturnCode.stops]
  | done f b => exact absurd rfl (hs f b)

theorem picc_sends {g : IsoDep} (h : Plain g) (hst : g.state = .piccTx) (status : Status)
    (expired inTx : Bool) :
    (dataExchangePicc g status expired inTx).ret.stops = true ∨
      (Yields (dataExchangePicc g status expired inTx)
          { g with isTxPending := false, state := .piccRx, lastPcb := pcbIBlock g.blockNumber }
          .busy [(blockOf g).bytes g.did] none ∧
        (dataExchangePicc g status expired inTx).dep.lastPcb = pcbIBlock g.blockNumber) := by
  have hsent := tx_block h prologueSize
  rw [dataExchangePicc, hst]
  simp only
  generalize tx g (pcbIBlock g.blockNumber) prologueSize g.txInf = s at hsent ⊢
  have hs := hsent.same
  rcases hsent.out with ⟨hr, hf⟩ | hr
  · rw [if_pos hr, hf]
    exact .inr ⟨⟨rfl, rfl, rfl, rfl, hs.role, hs.blockNumber, hs.did, hs.nad, hs.lastDid00,
      hs.isTxChaining, hs.isRxChaining, hs.txInf, rfl, hs.isWait4Wtx⟩, hsent.last⟩
  · rw [if_neg (stops_ne_none hr)]
    exact .inl hr

theorem picc_extends {g : IsoDep} (h : Plain g) (hst : g.state = .piccSwtx) (status : Status)
    (expired inTx : Bool) :
    (dataExchangePicc g status expired inTx).ret.stops = true ∨
      dataExchangePicc g status expired inTx = waits g ∨
      ∃ w, Yields (dataExchangePicc g status expired inTx)
          { g with isWait4Wtx := true, state := .piccRx, lastPcb := pcbSWtx } .busy
          [(Msg.wtx w).bytes g.did] none ∧
        (dataExchangePicc g status expired inTx).dep.lastPcb = pcbSWtx := by
  rw [dataExchangePicc, hst]
  simp only
  cases expired with
  | false => exact .inr (.inl rfl)
  | true =>
    rw [if_neg (by decide)]
    have hctl := handleControlMsg_controlled
      (g := { g with isWait4Wtx := true, lastWtxm := wtxmListenerMax g })
      ⟨h.nad, h.lastDid00, h.bit⟩ (by decide : ControlMsg.sWtx ≠ .sDsl) (wtxmListenerMax g)
    simp only [hst] at hctl ⊢
    generalize handleControlMsg _ .sWtx _ = s at hctl ⊢
    have hs := hctl.same
    rcases hctl.out with ⟨hr, hf, hl⟩ | ⟨hr, _⟩
    · rw [if_pos hr, hf]
      exact .inr (.inr ⟨_, ⟨rfl, rfl, rfl, rfl, hs.role, hs.blockNumber, hs.did, hs.nad,
        hs.lastDid00, hs.isTxChaining, hs.isRxChaining, hs.txInf, hs.isTxPending,
        hs.isWait4Wtx⟩, hl⟩)
    · rw [if_neg (stops_ne_none hr)]
      exact .inl hr

end Rfal
