import IrisFirmware.Nfc.IsoDep.Exchange

namespace Rfal

structure Kept (g g' : IsoDep) : Prop where
  fwt : g'.fwt = g.fwt
  fsx : g'.fsx = g.fsx
  did : g'.did = g.did
  txInf : g'.txInf = g.txInf
  isTxChaining : g'.isTxChaining = g.isTxChaining

theorem Kept.refl (g : IsoDep) : Kept g g := ⟨rfl, rfl, rfl, rfl, rfl⟩

theorem Kept.trans {a b c : IsoDep} (h : Kept a b) (h' : Kept b c) : Kept a c :=
  ⟨h'.fwt.trans h.fwt, h'.fsx.trans h.fsx, h'.did.trans h.did, h'.txInf.trans h.txInf,
    h'.isTxChaining.trans h.isTxChaining⟩

theorem tx_kept (g : IsoDep) (pcb : UInt8) (room : Nat) (inf : List UInt8) :
    Kept g (tx g pcb room inf).dep := by
  rw [tx]
  dsimp only
  split_ifs <;> exact ⟨rfl, rfl, rfl, rfl, rfl⟩

theorem handleControlMsg_kept (g : IsoDep) (msg : ControlMsg) (w : UInt8) :
    Kept g (handleControlMsg g msg w).dep := by
  have htx : ∀ (g' : IsoDep) (pcb : UInt8) (room : Nat) (inf : List UInt8), Kept g g' →
      Kept g (tx g' pcb room inf).dep := fun g' pcb room inf h => h.trans (tx_kept _ _ _ _)
  cases msg <;> rw [handleControlMsg] <;> split_ifs <;>
    first | exact ⟨rfl, rfl, rfl, rfl, rfl⟩ | exact htx _ _ _ _ ⟨rfl, rfl, rfl, rfl, rfl⟩

structure Gives (g : IsoDep) (o : Outcome) : Prop where
  kept : Kept g o.dep
  busy : o.ret = .busy → o.got = none
  again : o.ret = .again → ∃ inf, o.got = some ⟨inf, true⟩
  done : o.ret = .none → (g.isTxChaining = true ∧ o.got = none) ∨ ∃ inf, o.got = some ⟨inf, false⟩

theorem Gives.of_kept {g g' : IsoDep} {o : Outcome} (h : Gives g' o) (hk : Kept g g') :
    Gives g o where
  kept := hk.trans h.kept
  busy := h.busy
  again := h.again
  done := by
    rw [← hk.isTxChaining]
    exact h.done

theorem gives_nothing {g : IsoDep} {o : Outcome} (hk : Kept g o.dep) (hgot : o.got = none)
    (hret : o.ret ≠ .again ∧ o.ret ≠ .none) : Gives g o :=
  ⟨hk, fun _ => hgot, fun h => absurd h hret.1, fun h => absurd h hret.2⟩

theorem waits_gives {g g' : IsoDep} (hk : Kept g g') : Gives g (waits g') :=
  gives_nothing hk rfl ⟨by simp [waits], by simp [waits]⟩

theorem handleControlMsg_ret (g : IsoDep) (msg : ControlMsg) (w : UInt8) :
    (handleControlMsg g msg w).ret ≠ .busy ∧ (handleControlMsg g msg w).ret ≠ .again := by
  have htx : ∀ (g : IsoDep) (pcb : UInt8) (room : Nat) (inf : List UInt8),
      (tx g pcb room inf).ret ≠ .busy ∧ (tx g pcb room inf).ret ≠ .again := by
    intro g pcb room inf
    rw [tx]
    dsimp only
    split_ifs <;> simp
  cases msg <;> rw [handleControlMsg] <;> split_ifs <;> simp [htx]

theorem control_gives {g g' : IsoDep} (hk : Kept g g') (msg : ControlMsg) (w : UInt8) :
    Gives g (handleControlMsg g' msg w).outcome := by
  have hkept := hk.trans (handleControlMsg_kept g' msg w)
  have hret := handleControlMsg_ret g' msg w
  rw [Sent.outcome]
  split_ifs with h
  · exact gives_nothing hkept rfl ⟨by simp, by simp⟩
  · exact gives_nothing hkept rfl ⟨hret.2, h⟩

theorem fails_gives {g g' : IsoDep} (hk : Kept g g') {e : ReturnCode}
    (he : e ≠ .again ∧ e ≠ .none) : Gives g (fails g' e) :=
  gives_nothing hk rfl he

section reader

variable {g : IsoDep} (hst : g.state ≠ .pcdWaitDsl)
include hst

theorem pcdError_gives (e : RxError) : Gives g (pcdError g e) := by
  rw [pcdError]
  split_ifs
  · exact control_gives (.refl g) _ _
  · exact control_gives (.refl g) _ _
  · exact fails_gives (.refl g) ⟨by simp, by simp⟩

theorem pcdSBlockIn_gives (pcb : UInt8) (frame : Frame) (behind : UInt8) :
    Gives g (pcdSBlockIn g pcb frame behind) := by
  rw [pcdSBlockIn]
  dsimp only
  split_ifs with _ _ hdsl
  · exact control_gives (by constructor <;> rfl) _ _
  · exact control_gives (by constructor <;> rfl) _ _
  · exact absurd hdsl.2 hst
  · exact fails_gives (.refl g) ⟨by simp, by simp⟩

omit hst in
theorem pcdRBlockIn_gives (pcb : UInt8) : Gives g (pcdRBlockIn g pcb) := by
  rw [pcdRBlockIn]
  dsimp only
  split_ifs with _ _ hch
  · exact fails_gives (by constructor <;> rfl) ⟨by simp, by simp⟩
  · exact ⟨⟨rfl, rfl, rfl, rfl, rfl⟩, by simp, by simp, fun _ => .inl ⟨by simpa using hch, rfl⟩⟩
  · exact waits_gives (by constructor <;> rfl)
  · exact fails_gives (by constructor <;> rfl) ⟨by simp, by simp⟩
  · exact fails_gives (.refl g) ⟨by simp, by simp⟩

omit hst in
theorem pcdIBlockIn_gives (pcb : UInt8) (inf : List UInt8) : Gives g (pcdIBlockIn g pcb inf) := by
  rw [pcdIBlockIn]
  dsimp only
  split_ifs with _ _ hret
  · have hkept := handleControlMsg_kept (clearCounters
      { g with isRxChaining := true, blockNumber := toggleBn g.blockNumber }) .rAck 0
    exact ⟨⟨hkept.fwt, hkept.fsx, hkept.did, hkept.txInf, hkept.isTxChaining⟩, by simp,
      fun _ => ⟨inf, rfl⟩, by simp⟩
  · have hkept := handleControlMsg_kept (clearCounters
      { g with isRxChaining := true, blockNumber := toggleBn g.blockNumber }) .rAck 0
    exact fails_gives (g := g) ⟨hkept.fwt, hkept.fsx, hkept.did, hkept.txInf, hkept.isTxChaining⟩
      ⟨(handleControlMsg_ret _ _ _).2, hret⟩
  · exact control_gives (by constructor <;> rfl) _ _
  · exact ⟨⟨rfl, rfl, rfl, rfl, rfl⟩, by simp, by simp, fun _ => .inr ⟨inf, rfl⟩⟩
  · exact fails_gives (by constructor <;> rfl) ⟨by simp, by simp⟩
  · exact control_gives (by constructor <;> rfl) _ _

theorem pcdReceive_gives (status : Status) : Gives g (pcdReceive g status) := by
  cases status with
  | busy => exact waits_gives (.refl g)
  | failed e => exact pcdError_gives hst e
  | done frame behind =>
    rw [pcdReceive, pcdProcess]
    split_ifs
    · exact fails_gives (.refl g) ⟨by simp, by simp⟩
    · exact fails_gives (.refl g) ⟨by simp, by simp⟩
    · exact fails_gives (.refl g) ⟨by simp, by simp⟩
    · exact pcdSBlockIn_gives hst _ _ _
    · exact pcdRBlockIn_gives _
    · exact pcdIBlockIn_gives _ _
    · exact fails_gives (.refl g) ⟨by simp, by simp⟩

end reader

theorem dataExchangePcd_gives {g : IsoDep} (hst : g.state = .pcdTx ∨ g.state = .pcdRx)
    (status : Status) : Gives g (dataExchangePcd g status) := by
  have hhdr : Kept g { g with hdrLen := pcdHdrLen g } := ⟨rfl, rfl, rfl, rfl, rfl⟩
  rcases hst with hst | hst
  · have hkept := hhdr.trans (tx_kept { g with hdrLen := pcdHdrLen g } (pcbIBlock g.blockNumber)
      prologueSize g.txInf)
    rw [dataExchangePcd]
    simp only [hst] at hkept ⊢
    generalize hs : tx _ (pcbIBlock g.blockNumber) prologueSize g.txInf = s at hkept
    have hret : s.ret ≠ .again := by
      rw [← hs, tx]
      dsimp only
      split_ifs <;> simp
    split_ifs with hnone
    · have hgives := (pcdReceive_gives (g := { s.dep with state := .pcdRx }) (by simp) status).of_kept
        (hkept.trans ⟨rfl, rfl, rfl, rfl, rfl⟩)
      exact ⟨hgives.kept, hgives.busy, hgives.again, hgives.done⟩
    · exact fails_gives hkept ⟨hret, hnone⟩
  · rw [dataExchangePcd_rx hst]
    exact (pcdReceive_gives (by simp [hst]) status).of_kept hhdr

section card

variable {g : IsoDep}

structure Takes (g : IsoDep) (o : Outcome) : Prop extends Gives g o where
  mute : g.isTxChaining = true → o.got = none

theorem Gives.takes {o : Outcome} (h : Gives g o) (hgot : o.got = none) : Takes g o :=
  ⟨h, fun _ => hgot⟩

theorem Sent.outcome_got (s : Sent) : s.outcome.got = none := by
  rw [Sent.outcome]
  split_ifs <;> rfl

theorem piccSBlockIn_takes (pcb : UInt8) (frame : Frame) : Takes g (piccSBlockIn g pcb frame) := by
  rw [piccSBlockIn]
  dsimp only
  split_ifs with _ _ _ hret
  · exact (waits_gives (by constructor <;> rfl)).takes rfl
  · exact (waits_gives (by constructor <;> rfl)).takes rfl
  · have hkept := handleControlMsg_kept g .sDsl 0
    exact (gives_nothing (o := ⟨{ (handleControlMsg g .sDsl 0).dep with state := .piccSdsl },
      .busy, _, none⟩) ⟨hkept.fwt, hkept.fsx, hkept.did, hkept.txInf, hkept.isTxChaining⟩ rfl
      ⟨by simp, by simp⟩).takes rfl
  · exact (fails_gives (handleControlMsg_kept _ _ _) ⟨(handleControlMsg_ret _ _ _).2, hret⟩).takes
      rfl
  · exact (waits_gives (.refl g)).takes rfl

theorem reSendControlMsg_kept (g : IsoDep) : Kept g (reSendControlMsg g).dep := by
  rw [reSendControlMsg]
  split_ifs
  · exact handleControlMsg_kept _ _ _
  · exact handleControlMsg_kept _ _ _
  · exact handleControlMsg_kept _ _ _
  · exact handleControlMsg_kept _ _ _
  · exact .refl g

theorem piccRepeat_takes : Takes g (piccRepeat g) := by
  rw [piccRepeat]
  split_ifs
  · exact (gives_nothing (reSendControlMsg_kept g) rfl ⟨by simp, by simp⟩).takes rfl
  · exact (waits_gives (by constructor <;> rfl)).takes rfl

theorem piccRBlockIn_takes (pcb : UInt8) : Takes g (piccRBlockIn g pcb) := by
  rw [piccRBlockIn]
  split_ifs with _ _ hch
  · exact piccRepeat_takes
  · exact (waits_gives (.refl g)).takes rfl
  · exact ⟨⟨⟨rfl, rfl, rfl, rfl, rfl⟩, by simp, by simp, fun _ => .inl ⟨by simpa using hch, rfl⟩⟩,
      fun _ => rfl⟩
  · exact piccRepeat_takes
  · exact (control_gives (.refl g) _ _).takes (Sent.outcome_got _)
  · exact (waits_gives (.refl g)).takes rfl

theorem piccIBlockIn_takes (pcb : UInt8) (inf : List UInt8) : Takes g (piccIBlockIn g pcb inf) := by
  rw [piccIBlockIn]
  dsimp only
  split_ifs with hdrop _ hret
  · exact (waits_gives (by constructor <;> rfl)).takes rfl
  · have hkept := handleControlMsg_kept
      { g with blockNumber := toggleBn g.blockNumber, isRxChaining := true } .rAck 0
    refine ⟨⟨⟨hkept.fwt, hkept.fsx, hkept.did, hkept.txInf, hkept.isTxChaining⟩, by simp,
      fun _ => ⟨inf, rfl⟩, by simp⟩, fun hch => absurd (.inr hch) hdrop⟩
  · have hkept := handleControlMsg_kept
      { g with blockNumber := toggleBn g.blockNumber, isRxChaining := true } .rAck 0
    exact (fails_gives (g := g) ⟨hkept.fwt, hkept.fsx, hkept.did, hkept.txInf, hkept.isTxChaining⟩
      ⟨(handleControlMsg_ret _ _ _).2, hret⟩).takes rfl
  · exact ⟨⟨⟨rfl, rfl, rfl, rfl, rfl⟩, by simp, by simp, fun _ => .inr ⟨inf, rfl⟩⟩,
      fun hch => absurd (.inr hch) hdrop⟩

theorem piccProcess_takes (frame : Frame) (behind : UInt8) :
    Takes g (piccProcess g frame behind) := by
  have hopen : Kept g (piccOpen g (frame.headD behind)) := ⟨rfl, rfl, rfl, rfl, rfl⟩
  have hof : ∀ o, Takes (piccOpen g (frame.headD behind)) o → Takes g o :=
    fun o h => ⟨h.toGives.of_kept hopen, h.mute⟩
  rw [piccProcess, piccDispatch]
  split_ifs
  · exact hof _ ((waits_gives (.refl _)).takes rfl)
  · exact hof _ ((waits_gives (.refl _)).takes rfl)
  · exact hof _ ((waits_gives (.refl _)).takes rfl)
  · exact hof _ (piccSBlockIn_takes _ _)
  · exact hof _ (piccRBlockIn_takes _)
  · exact hof _ (piccIBlockIn_takes _ _)
  · exact hof _ ((waits_gives (.refl _)).takes rfl)

theorem piccStatus_takes (status : Status) : Takes g (piccStatus g status) := by
  cases status with
  | busy => exact (waits_gives (.refl g)).takes rfl
  | failed e =>
    cases e <;> rw [piccStatus] <;>
      first
      | exact (waits_gives (.refl g)).takes rfl
      | exact (fails_gives (.refl g) ⟨by simp, by simp⟩).takes rfl
      | simp
  | done frame behind => exact piccProcess_takes frame behind

theorem dataExchangePicc_takes
    (hst : g.state = .piccTx ∨ g.state = .piccRx ∨ g.state = .piccSwtx) (status : Status)
    (expired inTx : Bool) : Takes g (dataExchangePicc g status expired inTx) := by
  rw [dataExchangePicc]
  rcases hst with hst | hst | hst
  · have hkept := tx_kept g (pcbIBlock g.blockNumber) prologueSize g.txInf
    simp only [hst] at hkept ⊢
    generalize hs : tx _ (pcbIBlock g.blockNumber) prologueSize g.txInf = s at hkept
    have hret : s.ret ≠ .again := by
      rw [← hs, tx]
      dsimp only
      split_ifs <;> simp
    have hkept' : Kept g { s.dep with isTxPending := false } := hkept.trans (by constructor <;> rfl)
    split_ifs with hnone
    · exact (gives_nothing (hkept'.trans (by constructor <;> rfl)) rfl ⟨by simp, by simp⟩).takes rfl
    · exact (fails_gives hkept' ⟨hret, hnone⟩).takes rfl
  · rw [hst]
    exact piccStatus_takes status
  · simp only [hst]
    have hkept := handleControlMsg_kept
      { g with isWait4Wtx := true, lastWtxm := wtxmListenerMax g } .sWtx (wtxmListenerMax g)
    have hret := (handleControlMsg_ret
      { g with isWait4Wtx := true, lastWtxm := wtxmListenerMax g } .sWtx (wtxmListenerMax g)).2
    simp only [hst] at hkept hret
    generalize handleControlMsg _ .sWtx (wtxmListenerMax g) = s at hkept hret ⊢
    have hkept' : Kept g s.dep := ⟨hkept.fwt, hkept.fsx, hkept.did, hkept.txInf, hkept.isTxChaining⟩
    split_ifs with _ hnone
    · exact (waits_gives (.refl g)).takes rfl
    · exact (gives_nothing (hkept'.trans (by constructor <;> rfl)) rfl ⟨by simp, by simp⟩).takes rfl
    · exact (fails_gives hkept' ⟨hret, hnone⟩).takes rfl

end card

end Rfal
