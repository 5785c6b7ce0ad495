import IrisFirmware.Nfc.IsoDep.Link

namespace Rfal

open Dialogue (Turn)

def Follows (l' : Link) (d : Dialogue.State Block) : Prop :=
  ∃ ops d', Attempt.run (Dialogue.step Block.chaining) d ops = some d' ∧ Shows l' d'

theorem Shows.stutters {l : Link} {d : Dialogue.State Block} (h : Shows l d) : Follows l d :=
  ⟨[], d, rfl, h⟩

theorem Shows.follows {l : Link} {d : Dialogue.State Block} (op : Dialogue.Op Block)
    (d' : Dialogue.State Block) (h : Shows l d')
    (hop : Dialogue.step Block.chaining d op = some d') : Follows l d :=
  ⟨[op], d', Attempt.run_one hop, h⟩

theorem pcd_follows {l l' : Link} {d : Dialogue.State Block} {o : Outcome} {g : IsoDep}
    {ret : ReturnCode} {frames : List Frame} {got : Option Block}
    (ho : o.ret.stops = true ∨ Yields o g ret frames got) (hstep : l.pcdAfter o = some l')
    (hf : Follows (l.pcdMoved g ret frames got) d) : Follows l' d := by
  rcases ho with hs | hy
  · exact absurd hstep (pcdAfter_stops hs)
  · obtain ⟨ops, d', hrun, hshow⟩ := hf
    rw [pcdAfter_yields hy hstep]
    exact ⟨ops, d', hrun, hshow.pcd_same hy.same⟩

theorem picc_follows {l l' : Link} {d : Dialogue.State Block} {o : Outcome} {g : IsoDep}
    {ret : ReturnCode} {frames : List Frame} {got : Option Block}
    (ho : o.ret.stops = true ∨ (Yields o g ret frames got ∧ o.dep.lastPcb = g.lastPcb))
    (hstep : l.piccAfter o = some l') (hf : Follows (l.piccMoved g ret frames got) d) :
    Follows l' d := by
  rcases ho with hs | ⟨hy, hl⟩
  · exact absurd hstep (piccAfter_stops hs)
  · obtain ⟨ops, d', hrun, hshow⟩ := hf
    rw [piccAfter_yields hy hstep]
    exact ⟨ops, d', hrun, hshow.picc_same hy.same hl⟩

theorem pcdStart_follows {l l' : Link} {d : Dialogue.State Block} (h : Shows l d) {b : Block}
    (hstep : step l (.pcdStart b) = some l') : Follows l' d := by
  rw [step] at hstep
  split at hstep
  · rename_i hready
    rw [← Option.some.inj hstep]
    obtain ⟨turn, gd, td, gu, tu⟩ := d
    have hst := h.stage
    have hgd := h.gaveDown
    simp only at hst hgd
    cases hst with
    | ready _ hair hapart hch =>
      refine Shows.follows (.ask b) ⟨.asked b, gd ++ [b], td, gu, tu⟩ ?_ rfl
      have hstart : startTransceive l.pcd (session l.pcd b) =
          { clearCounters l.pcd with
            txInf := b.inf, isTxChaining := b.chaining, isRxChaining := false,
            state := .pcdTx } := by
        rw [startTransceive]
        simp only [clearCounters, h.pcdRole, session, Option.getD_none]
      rw [hstart]
      refine { h with pcd := ⟨h.pcd.nad, h.pcd.lastDid00, h.pcd.bit⟩, gaveDown := ?_, stage := ?_ }
      · rw [hgd]
      · exact .asked rfl (.inl ⟨rfl, hair⟩) rfl ⟨hapart.1, hapart.2, hapart.3⟩ hch
    | acking hwait => exact absurd hready (by rw [hwait.ready]; decide)
    | asked hr => exact absurd hready (by rw [hr]; decide)
    | answering hwait => exact absurd hready (by rw [hwait.ready]; decide)
    | answered hwait => exact absurd hready (by rw [hwait.ready]; decide)
    | taken hr => exact absurd hready (by rw [hr]; decide)
  · cases hstep

theorem piccStart_follows {l l' : Link} {d : Dialogue.State Block} (h : Shows l d) {b : Block}
    (hstep : step l (.piccStart b) = some l') : Follows l' d := by
  rw [step] at hstep
  split at hstep
  · rename_i howed
    obtain ⟨howed, hinf⟩ := howed
    rw [← Option.some.inj hstep]
    obtain ⟨turn, gd, td, gu, tu⟩ := d
    have hst := h.stage
    have hgu := h.gaveUp
    simp only at hst hgu
    cases hst with
    | answering hwait hair _ hpend hcard hdone =>
      refine Shows.follows (.answer b) ⟨.answered b, gd, td, gu ++ [b], tu⟩ ?_ rfl
      have hstart : startTransceive l.picc (session l.picc b) =
          { clearCounters l.picc with
            txInf := b.inf, isTxChaining := b.chaining, isRxChaining := false,
            isTxPending := l.picc.isWait4Wtx,
            state := if l.picc.isWait4Wtx then .piccRx else .piccTx } := by
        rw [startTransceive]
        simp only [clearCounters, h.piccRole, session, Option.getD_none]
        rw [if_pos hinf]
        cases hw : l.picc.isWait4Wtx
        · simp [hpend]
        · simp
      rw [hstart]
      refine { h with
        picc := ⟨h.picc.nad, h.picc.lastDid00, h.picc.bit⟩, gaveUp := ?_, stage := ?_ }
      · rw [hgu]
      · refine .answered ⟨hwait.1, hwait.2, hwait.3⟩ rfl (.inl (hair.carry rfl rfl)) ?_ hdone
        rcases hcard with ⟨_, hw⟩ | hext
        · exact .inl ⟨by simp [hw], hw⟩
        · exact .inr (.inr ⟨⟨by simp [hext.wait], hext.wait, hext.last⟩, hext.wait⟩)
    | ready _ _ hapart => exact absurd howed (by rw [hapart.owes]; decide)
    | asked _ _ _ hapart => exact absurd howed (by rw [hapart.owes]; decide)
    | acking _ _ _ _ ho => exact absurd howed (by rw [ho]; decide)
    | answered _ ho => exact absurd howed (by rw [ho]; decide)
    | taken _ _ _ _ hapart => exact absurd howed (by rw [hapart.owes]; decide)
  · cases hstep

theorem statusOf_ne_done (e : Option RxError) (f : Frame) (b : UInt8) :
    statusOf e ≠ .done f b := by
  cases e <;> simp [statusOf]

theorem Shows.sent {l : Link} {d : Dialogue.State Block} (h : Shows l d) (hready : l.ready = false)
    (htx : l.pcd.state = .pcdTx) : Shows l.sent d :=
  { h with
    pcd := ⟨h.pcd.nad, h.pcd.lastDid00, h.pcd.bit⟩
    stage := h.stage.sent hready htx }

theorem Shows.complains {l : Link} {d : Dialogue.State Block} (h : Shows l d)
    (hready : l.ready = false) (hst : l.pcd.state = .pcdRx) :
    Shows { l with air := .toPicc ((complaint l.pcd).bytes l.pcd.did) } d :=
  { h with stage := h.stage.complains hready hst }

theorem Stage.asking {l : Link} {turn : Turn Block} (h : Stage l turn) (hready : l.ready = false) :
    l.pcd.state = .pcdTx ∨ l.pcd.state = .pcdRx := by
  cases h with
  | ready hr => exact absurd (hr.symm.trans hready) (by decide)
  | asked _ hair => exact hair.imp And.left And.left
  | acking hwait => exact .inr hwait.state
  | answering hwait => exact .inr hwait.state
  | answered hwait => exact .inr hwait.state
  | taken _ hstate => exact .inr hstate

theorem pcdPoll_follows {l l' : Link} {d : Dialogue.State Block} (h : Shows l d)
    {e : Option RxError} (hstep : step l (.pcdPoll e) = some l') : Follows l' d := by
  rw [step] at hstep
  split at hstep
  · cases hstep
  · rename_i hnot
    have hready : l.ready = false := by simpa using hnot
    rcases h.stage.asking hready with htx | hrx
    · rcases pcd_sends h.pcd htx (statusOf e) (statusOf_ne_done e) with hs | ⟨frames, hf, hy⟩
      · exact absurd hstep (pcdAfter_stops hs)
      · refine pcd_follows (.inr hy) hstep ?_
        have hsent := h.sent hready htx
        rw [pcdMoved_silent]
        rcases hf with rfl | rfl
        · exact hsent.stutters
        · exact (hsent.complains hready rfl).stutters
    · cases e with
      | none =>
        refine pcd_follows (.inr (pcd_busy hrx)) hstep ?_
        rw [pcdMoved_silent]
        exact h.stutters
      | some e =>
        refine pcd_follows (pcd_polls h.pcd hrx e) hstep ?_
        rw [pcdMoved_silent]
        exact (h.complains hready hrx).stutters

theorem lose_follows {l l' : Link} {d : Dialogue.State Block} (h : Shows l d)
    (hstep : step l .lose = some l') : Follows l' d := by
  rw [← Option.some.inj hstep]
  exact h.silenced.stutters

theorem pcd_hears {l l' : Link} {d : Dialogue.State Block} (h : Shows l d)
    (hst : l.pcd.state = .pcdRx) {m : Msg} (hm : m.Numbered) {g : IsoDep} {ret : ReturnCode}
    {frames : List Frame} {got : Option Block} {behind : UInt8}
    (hstep : { l with air := .silent }.pcdAfter
      (dataExchangePcd l.pcd (.done (m.bytes l.pcd.did) behind)) = some l')
    (hmsg : (pcdMsgIn { l.pcd with hdrLen := hdrLenOf l.pcd.did } m behind).ret.stops = true ∨
      Yields (pcdMsgIn { l.pcd with hdrLen := hdrLenOf l.pcd.did } m behind) g ret frames got)
    (hf : Follows ({ l with air := .silent }.pcdMoved g ret frames got) d) : Follows l' d := by
  rcases pcd_receives h.pcd hst hm behind with hs | heq
  · exact absurd hstep (pcdAfter_stops hs)
  · rw [heq] at hstep
    exact pcd_follows hmsg hstep hf

theorem pcd_extends {l : Link} {d : Dialogue.State Block} (h : Shows l d)
    (w behind : UInt8) : ∃ w',
      (pcdMsgIn { l.pcd with hdrLen := hdrLenOf l.pcd.did } (.wtx w) behind).ret.stops = true ∨
        Yields (pcdMsgIn { l.pcd with hdrLen := hdrLenOf l.pcd.did } (.wtx w) behind) l.pcd .busy
          [(Msg.wtx w').bytes l.pcd.did] none := by
  rcases pcd_wtx (h.pcd.withHdrLen (hdrLenOf l.pcd.did)) w behind with hs | ⟨w', hy⟩
  · exact ⟨0, .inl hs⟩
  · exact ⟨w', .inr hy.withHdrLen⟩

theorem pcdReceive_follows {l l' : Link} {d : Dialogue.State Block} (h : Shows l d)
    {behind : UInt8} (hstep : step l (.pcdReceive behind) = some l') : Follows l' d := by
  rw [step] at hstep
  split at hstep
  · rename_i f hair
    split at hstep
    · cases hstep
    · rename_i hnot
      have hready : l.ready = false := by simpa using hnot
      have hp : Plain { l.pcd with hdrLen := hdrLenOf l.pcd.did } := h.pcd.withHdrLen _
      obtain ⟨turn, gd, td, gu, tu⟩ := d
      have hst := h.stage
      have hgu := h.gotUp
      simp only at hst hgu
      cases hst with
      | ready hr => exact absurd (hr.symm.trans hready) (by decide)
      | asked _ hpos hrx hapart hch =>
        rcases hpos with ⟨_, ha⟩ | ⟨hstate, ha⟩
        · rw [ha] at hair
          cases hair
        · rw [hair] at ha
          cases ha with
          | ack =>
            refine pcd_hears h hstate (m := .ack l.picc.blockNumber) h.picc.bit hstep
              (pcd_ack_other h.picc.bit hapart.numbers.symm) ?_
            rw [pcdMoved_silent]
            refine Shows.stutters { h with
              pcd := ⟨h.pcd.nad, h.pcd.lastDid00, h.pcd.bit⟩, stage := ?_ }
            exact .asked hready (.inl ⟨rfl, rfl⟩) hrx ⟨hapart.1, hapart.2, hapart.3⟩ hch
      | acking hwait ha hrx hcard howes hch hlast =>
        rw [hair] at ha
        cases ha with
        | ack =>
          refine pcd_hears h hwait.state (m := .ack l.pcd.blockNumber) h.pcd.bit hstep
            (pcd_ack_own hp behind) ?_
          refine Shows.stutters { h with
            pcd := ⟨h.pcd.nad, h.pcd.lastDid00, h.pcd.bit.toggle⟩, gotUp := ?_, stage := ?_ }
          · rw [hgu]
            exact (List.append_nil _).symm
          · exact .ready rfl rfl
              ⟨fun he => h.pcd.bit.toggle_ne (he.trans hwait.numbers.symm), hcard, howes⟩ hch
      | answering hwait ha howes hpend hcard hdone =>
        rw [hair] at ha
        cases ha with
        | up w =>
          obtain ⟨w', hmsg⟩ := pcd_extends h w behind
          refine pcd_hears h hwait.state (m := .wtx w) trivial hstep hmsg ?_
          rw [pcdMoved_silent]
          refine Shows.stutters { h with stage := ?_ }
          exact .answering (hwait.aired _) (.down w') howes hpend hcard hdone
      | answered hwait howes ha hcard hdone =>
        rcases ha with ha | ⟨ha, hlisten⟩
        · rw [hair] at ha
          cases ha with
          | up w =>
            obtain ⟨w', hmsg⟩ := pcd_extends h w behind
            refine pcd_hears h hwait.state (m := .wtx w) trivial hstep hmsg ?_
            rw [pcdMoved_silent]
            refine Shows.stutters { h with stage := ?_ }
            exact .answered (hwait.aired _) howes (.inl (.down w')) hcard hdone
        · rw [ha] at hair
          obtain rfl := Air.toPcd.inj hair
          rw [blockOf, ← hwait.numbers] at hstep
          rcases Bool.eq_false_or_eq_true l.picc.isTxChaining with hc | hc
          · rw [hc] at hstep
            refine pcd_hears h hwait.state (m := .i _ true _) h.pcd.bit hstep
              (pcd_i_more hp l.picc.txInf behind) ?_
            refine Shows.follows .take
              ⟨.answerer, gd, td, gu, tu ++ [⟨l.picc.txInf, l.picc.isTxChaining⟩]⟩
              { h with
                pcd := ⟨h.pcd.nad, h.pcd.lastDid00, h.pcd.bit.toggle⟩, gotUp := ?_,
                stage := ?_ } ?_
            · rw [hgu, hc]
              rfl
            · exact .taken hready hwait.state rfl .ack
                ⟨fun he => h.pcd.bit.toggle_ne (he.trans hwait.numbers.symm), hlisten, howes⟩ hc
                hdone
            · simp [Dialogue.step, hc]
          · rw [hc] at hstep
            refine pcd_hears h hwait.state (m := .i _ false _) h.pcd.bit hstep
              (.inr (pcd_i_last hp l.picc.txInf behind)) ?_
            refine Shows.follows .take
              ⟨.asker, gd, td, gu, tu ++ [⟨l.picc.txInf, l.picc.isTxChaining⟩]⟩
              { h with
                pcd := ⟨h.pcd.nad, h.pcd.lastDid00, h.pcd.bit.toggle⟩, gotUp := ?_,
                stage := ?_ } ?_
            · rw [hgu, hc]
              rfl
            · exact .ready rfl rfl
                ⟨fun he => h.pcd.bit.toggle_ne (he.trans hwait.numbers.symm), hlisten, howes⟩ hc
            · simp [Dialogue.step, hc]
      | taken hr hstate hrx ha hapart hch =>
        rw [hair] at ha
        cases ha
  · cases hstep

theorem waits_both {l l' : Link} {d : Dialogue.State Block} (h : Shows l d) {g : IsoDep}
    (hs : Same l.picc g) (hl : g.lastPcb = l.picc.lastPcb)
    (hstep : l.piccAfter (waits g) = some l') : Follows l' d := by
  refine picc_follows (g := g) (.inr ⟨waits_yields g, rfl⟩) hstep ?_
  rw [piccMoved_silent]
  exact (h.picc_same hs hl).stutters

theorem listens_follows {l l' : Link} {d : Dialogue.State Block} (h : Shows l d)
    (hst : l.picc.state = .piccRx) {e : Option RxError} {expired : Bool}
    (hstep : l.piccAfter (dataExchangePicc l.picc (statusOf e) expired true) = some l') :
    Follows l' d := by
  rcases picc_listens hst (statusOf_ne_done e) expired true with hs | heq
  · exact absurd hstep (piccAfter_stops hs)
  · rw [heq] at hstep
    exact waits_both h (.refl _) rfl hstep

theorem piccPoll_follows {l l' : Link} {d : Dialogue.State Block} (h : Shows l d)
    {e : Option RxError} {expired : Bool} (hstep : step l (.piccPoll e expired) = some l') :
    Follows l' d := by
  rw [step] at hstep
  obtain ⟨turn, gd, td, gu, tu⟩ := d
  have hst := h.stage
  simp only at hst
  cases hst with
  | ready _ _ hapart => exact listens_follows h hapart.card.state hstep
  | asked _ _ _ hapart => exact listens_follows h hapart.card.state hstep
  | acking _ _ _ hcard => exact listens_follows h hcard.state hstep
  | taken _ _ _ _ hapart => exact listens_follows h hapart.card.state hstep
  | answering hwait hair howes hpend hcard hdone =>
    rcases hcard with ⟨hsw, hw⟩ | hext
    · rcases picc_extends h.picc hsw (statusOf e) expired true with hs | heq | ⟨w, hy, hl⟩
      · exact absurd hstep (piccAfter_stops hs)
      · rw [heq] at hstep
        exact waits_both h (.refl _) rfl hstep
      · refine picc_follows (.inr ⟨hy, hl⟩) hstep ?_
        rw [piccMoved_silent]
        refine Shows.stutters { h with
          picc := ⟨h.picc.nad, h.picc.lastDid00, h.picc.bit⟩, stage := ?_ }
        refine .answering ⟨hwait.1, hwait.2, hwait.3⟩ ?_ howes hpend (.inr ⟨rfl, rfl, rfl⟩) hdone
        rw [h.did]
        exact .up w
    · exact listens_follows h hext.state hstep
  | answered hwait howes hair hcard hdone =>
    rcases hcard with ⟨htx, hw⟩ | ⟨hc, _⟩ | ⟨hext, _⟩
    · refine picc_follows (picc_sends h.picc htx (statusOf e) expired true) hstep ?_
      rw [piccMoved_silent]
      refine Shows.stutters { h with
        picc := ⟨h.picc.nad, h.picc.lastDid00, h.picc.bit⟩, stage := ?_ }
      refine .answered ⟨hwait.1, hwait.2, hwait.3⟩ howes (.inr ⟨?_, rfl, hw, rfl⟩)
        (.inr (.inl ⟨⟨rfl, hw, rfl⟩, rfl⟩)) hdone
      rw [h.did]
      rfl
    · exact listens_follows h hc.state hstep
    · exact listens_follows h hext.state hstep

def Link.opened (l : Link) (g : IsoDep) : Link := { l with picc := g, air := .silent }

theorem picc_hears {l l' : Link} {d : Dialogue.State Block} (h : Shows l d)
    (hst : l.picc.state = .piccRx) {m : Msg} (hm : m.Numbered) {behind : UInt8}
    (hstep : { l with air := .silent }.piccAfter
      (dataExchangePicc l.picc (.done (m.bytes l.pcd.did) behind) false true) = some l')
    (hf : ∀ g, Opened l.picc g → Shows (l.opened g) d →
      (l.opened g).piccAfter (piccMsgIn g m) = some l' → Follows l' d) : Follows l' d := by
  rw [picc_receives hst, ← h.did] at hstep
  obtain ⟨g, ho, heq | heq⟩ := piccProcess_msg h.picc hm behind
  · rw [heq] at hstep
    exact waits_both h.silenced ho.same ho.last hstep
  · rw [heq] at hstep
    exact hf g ho (h.silenced.picc_same ho.same ho.last) hstep

theorem block_heard {l l' : Link} {b : Block} {gd td gu tu : List Block}
    (h : Shows l ⟨.asked b, gd, td, gu, tu⟩) (hair : l.air = .silent)
    (hstate : l.pcd.state = .pcdRx)
    (hstep : l.piccAfter (piccMsgIn l.picc (blockOf l.pcd)) = some l') :
    Follows l' ⟨.asked b, gd, td, gu, tu⟩ := by
  have hst := h.stage
  have htd := h.gotDown
  simp only at hst htd
  cases hst with
  | asked hready hpos hnorx hapart hch =>
    rw [blockOf] at hstep
    rcases Bool.eq_false_or_eq_true l.pcd.isTxChaining with hc | hc
    · rw [hc] at hstep
      refine picc_follows
        (picc_i_more h.picc h.pcd.bit hapart.numbers hch l.pcd.txInf) hstep ?_
      refine Shows.follows .hear
        ⟨.asker, gd, td ++ [⟨l.pcd.txInf, l.pcd.isTxChaining⟩], gu, tu⟩
        { h with picc := ⟨h.picc.nad, h.picc.lastDid00, h.pcd.bit⟩, gotDown := ?_, stage := ?_ }
        ?_
      · rw [htd, hc]
        rfl
      · refine .acking ⟨hready, hstate, rfl⟩ ?_ hnorx
          ⟨hapart.card.state, hapart.card.wait, hapart.card.pending⟩ hapart.owes hch rfl
        rw [h.did]
        exact .ack
      · simp [Dialogue.step, hc]
    · rw [hc] at hstep
      refine picc_follows
        (.inr (picc_i_last h.picc h.pcd.bit hapart.numbers hch l.pcd.txInf)) hstep ?_
      refine Shows.follows .hear
        ⟨.answerer, gd, td ++ [⟨l.pcd.txInf, l.pcd.isTxChaining⟩], gu, tu⟩
        { h with picc := ⟨h.picc.nad, h.picc.lastDid00, h.pcd.bit⟩, gotDown := ?_, stage := ?_ }
        ?_
      · rw [htd, hc]
        rfl
      · refine .answering ⟨hready, hstate, rfl⟩ ?_ rfl hapart.card.pending
          (.inl ⟨rfl, hapart.card.wait⟩) hc
        rw [Link.piccMoved, hair]
        exact .silent
      · simp [Dialogue.step, hc]

theorem nak_heard {l l' : Link} {b : Block} {gd td gu tu : List Block}
    (h : Shows l ⟨.asked b, gd, td, gu, tu⟩) (hstate : l.pcd.state = .pcdRx)
    (hstep : l.piccAfter (piccMsgIn l.picc (.nak l.pcd.blockNumber)) = some l') :
    Follows l' ⟨.asked b, gd, td, gu, tu⟩ := by
  have hst := h.stage
  simp only at hst
  cases hst with
  | asked hready hpos hnorx hapart hch =>
    refine picc_follows (picc_nak_other h.picc h.pcd.bit hapart.numbers) hstep ?_
    rw [piccMoved_silent]
    refine Shows.stutters { h with
      picc := ⟨h.picc.nad, h.picc.lastDid00, h.picc.bit⟩, stage := ?_ }
    refine .asked hready (.inr ⟨hstate, ?_⟩) hnorx
      ⟨hapart.numbers, ⟨hapart.card.state, hapart.card.wait, hapart.card.pending⟩, hapart.owes⟩
      hch
    rw [h.did]
    exact .ack

theorem resent_heard {l l' : Link} {d : Dialogue.State Block} (h : Shows l d) {m : Msg}
    {o : Outcome} (hr : Resent l.picc m o) (hstep : l.piccAfter o = some l')
    (hst : Stage { l with air := .toPcd (m.bytes l.pcd.did) } d.turn) : Follows l' d := by
  rcases hr.frames with hf | hf
  · refine picc_follows (g := l.picc) (.inr ⟨⟨hr.ret, hf, hr.got, hr.same⟩, hr.last⟩) hstep ?_
    rw [piccMoved_silent]
    exact h.stutters
  · refine picc_follows (g := l.picc) (.inr ⟨⟨hr.ret, hf, hr.got, hr.same⟩, hr.last⟩) hstep ?_
    rw [piccMoved_silent, h.did]
    exact Shows.stutters { h with stage := hst }

theorem ack_heard_again {l l' : Link} {gd td gu tu : List Block}
    (h : Shows l ⟨.asker, gd, td, gu, tu⟩) (hready : l.ready = false)
    (hstep : l.piccAfter (piccMsgIn l.picc (.nak l.pcd.blockNumber)) = some l') :
    Follows l' ⟨.asker, gd, td, gu, tu⟩ := by
  have hst := h.stage
  simp only at hst
  cases hst with
  | ready hr => exact absurd (hr.symm.trans hready) (by decide)
  | acking hwait hair hnorx hcard howes hch hlast =>
    rw [picc_asked h.picc (.inr (by rw [hwait.numbers]))] at hstep
    refine resent_heard h (repeat_ack h.picc hlast) hstep ?_
    refine .acking (hwait.aired _) ?_ hnorx hcard howes hch hlast
    rw [← hwait.numbers]
    exact .ack

theorem asks_heard {l l' : Link} {d : Dialogue.State Block} (h : Shows l d)
    (hair : l.air = .silent) (hrx : l.picc.state = .piccRx) (hwait : Waiting l) {m : Msg}
    (hm : Asks l.picc m) (hnot : d.turn ≠ .asker) (hstep : l.piccAfter (piccMsgIn l.picc m) = some l') :
    Follows l' d := by
  rw [picc_asked h.picc hm] at hstep
  obtain ⟨turn, gd, td, gu, tu⟩ := d
  have hstage := h.stage
  simp only at hnot hstage
  cases hstage with
  | ready => exact absurd rfl hnot
  | acking => exact absurd rfl hnot
  | asked _ _ _ hapart => exact absurd hwait.numbers hapart.numbers
  | taken _ _ _ _ hapart => exact absurd hwait.numbers hapart.numbers
  | answering _ _ howes hpend hcard hdone =>
    rcases hcard with ⟨hsw, _⟩ | hext
    · exact absurd (hsw.symm.trans hrx) (by decide)
    · refine resent_heard h (repeat_wtx h.picc hext.last) hstep ?_
      exact .answering (hwait.aired _) (.up _) howes hpend (.inr hext) hdone
  | answered _ howes _ hcard hdone =>
    rcases hcard with ⟨htx, _⟩ | ⟨hc, hl⟩ | ⟨hext, hp⟩
    · exact absurd (htx.symm.trans hrx) (by decide)
    · refine picc_follows (.inr (repeat_block h.picc hl)) hstep ?_
      rw [piccMoved_silent]
      refine Shows.stutters { h with
        picc := ⟨h.picc.nad, h.picc.lastDid00, h.picc.bit⟩, stage := ?_ }
      refine .answered ⟨hwait.1, hwait.2, hwait.3⟩ howes ?_ (.inl ⟨rfl, hc.wait⟩) hdone
      rw [hair]
      exact .inl .silent
    · refine resent_heard h (repeat_wtx h.picc hext.last) hstep ?_
      exact .answered (hwait.aired _) howes (.inl (.up _)) (.inr (.inr ⟨hext, hp⟩)) hdone

theorem wtx_heard {l l' : Link} {d : Dialogue.State Block} (h : Shows l d)
    (hair : l.air = .silent) (hrx : l.picc.state = .piccRx) (hwait : Waiting l) {w : UInt8}
    (hnot : d.turn ≠ .asker) (hstep : l.piccAfter (piccMsgIn l.picc (.wtx w)) = some l') :
    Follows l' d := by
  rcases picc_wtx l.picc w with heq | ⟨hl, heq⟩
  · rw [heq] at hstep
    exact waits_both h (.refl _) rfl hstep
  · rw [heq] at hstep
    refine picc_follows (.inr ⟨waits_yields _, rfl⟩) hstep ?_
    rw [piccMoved_silent, hair]
    obtain ⟨turn, gd, td, gu, tu⟩ := d
    have hstage := h.stage
    simp only at hnot hstage
    refine Shows.stutters { h with
      picc := ⟨h.picc.nad, h.picc.lastDid00, h.picc.bit⟩, stage := ?_ }
    cases hstage with
    | ready => exact absurd rfl hnot
    | acking => exact absurd rfl hnot
    | asked _ _ _ hapart => exact absurd hwait.numbers hapart.numbers
    | taken _ _ _ _ hapart => exact absurd hwait.numbers hapart.numbers
    | answering _ _ howes hpend _ hdone =>
      refine .answering ⟨hwait.1, hwait.2, hwait.3⟩ .silent howes hpend (.inl ⟨?_, rfl⟩) hdone
      simp [hpend]
    | answered _ howes _ hcard hdone =>
      refine .answered ⟨hwait.1, hwait.2, hwait.3⟩ howes (.inl .silent) (.inl ⟨?_, rfl⟩) hdone
      rcases hcard with ⟨htx, _⟩ | ⟨_, hl'⟩ | ⟨_, hp⟩
      · exact absurd (htx.symm.trans hrx) (by decide)
      · rw [hl'] at hl
        rcases h.picc.bit with hb | hb <;> rw [hb] at hl <;> exact absurd hl (by decide)
      · simp [hp]

theorem taken_heard {l l' : Link} {d : Dialogue.State Block} (h : Shows l d)
    (hair : l.air = .silent) (hapart : Apart l) (hready : l.ready = false)
    (hch : l.picc.isTxChaining = true)
    (hstep : l.piccAfter (piccMsgIn l.picc (.ack l.pcd.blockNumber)) = some l') :
    Follows l' d := by
  refine picc_follows (.inr (picc_ack_other h.pcd.bit hapart.numbers hch)) hstep ?_
  obtain ⟨turn, gd, td, gu, tu⟩ := d
  have hstage := h.stage
  have htd := h.gotDown
  simp only at hstage htd
  cases hstage with
  | ready hr => exact absurd (hr.symm.trans hready) (by decide)
  | acking hwait => exact absurd hwait.numbers hapart.numbers
  | asked _ _ _ _ hch' => exact absurd (hch.symm.trans hch') (by decide)
  | answering hwait => exact absurd hwait.numbers hapart.numbers
  | answered hwait => exact absurd hwait.numbers hapart.numbers
  | taken _ hstate hrx _ _ _ hdone =>
    refine Shows.stutters { h with
      picc := ⟨h.picc.nad, h.picc.lastDid00, h.picc.bit.toggle⟩, gotDown := ?_, stage := ?_ }
    · rw [htd]
      exact (List.append_nil _).symm
    · refine .answering ⟨hready, hstate, ?_⟩ ?_ rfl hapart.card.pending
        (.inl ⟨rfl, hapart.card.wait⟩) hdone
      · exact (h.picc.bit.eq_toggle h.pcd.bit hapart.numbers.symm).symm
      · rw [Link.piccMoved, hair]
        exact .silent

theorem Apart.opened {l : Link} (h : Apart l) {g : IsoDep} (ho : Opened l.picc g) :
    Apart (l.opened g) where
  numbers := fun he => h.numbers (he.trans ho.same.blockNumber)
  card := ⟨ho.same.state.trans h.card.state, ho.same.isWait4Wtx.trans h.card.wait,
    ho.same.isTxPending.trans h.card.pending⟩
  owes := h.owes

theorem Waiting.opened {l : Link} (h : Waiting l) {g : IsoDep} (ho : Opened l.picc g) :
    Waiting (l.opened g) :=
  ⟨h.ready, h.state, h.numbers.trans ho.same.blockNumber.symm⟩

theorem Asks.opened {g g' : IsoDep} {m : Msg} (h : Asks g m) (ho : Opened g g') : Asks g' m := by
  rw [Asks, ho.same.blockNumber]
  exact h

theorem Asks.numbered {g : IsoDep} {m : Msg} (h : Asks g m) (hp : Plain g) : m.Numbered := by
  rcases h with rfl | rfl
  · exact hp.bit
  · exact hp.bit

theorem piccReceive_follows {l l' : Link} {d : Dialogue.State Block} (h : Shows l d)
    {behind : UInt8} (hstep : step l (.piccReceive behind) = some l') : Follows l' d := by
  rw [step] at hstep
  split at hstep
  · rename_i f hair
    split at hstep
    · rename_i hrx
      obtain ⟨turn, gd, td, gu, tu⟩ := d
      have hst := h.stage
      simp only at hst
      cases hst with
      | ready _ ha =>
        rw [hair] at ha
        cases ha
      | asked hready hpos hnorx hapart hch =>
        rcases hpos with ⟨_, ha⟩ | ⟨hstate, ha⟩
        · rw [hair] at ha
          cases ha
        · rw [hair] at ha
          cases ha with
          | block =>
            refine picc_hears h hrx (m := blockOf l.pcd) h.pcd.bit hstep fun g ho hshow hmsg => ?_
            exact block_heard hshow rfl hstate hmsg
          | nak =>
            refine picc_hears h hrx (m := .nak l.pcd.blockNumber) h.pcd.bit hstep
              fun g ho hshow hmsg => ?_
            exact nak_heard hshow hstate hmsg
      | acking hwait ha hnorx hcard howes hch hlast =>
        rw [hair] at ha
        cases ha with
        | nak =>
          refine picc_hears h hrx (m := .nak l.pcd.blockNumber) h.pcd.bit hstep
            fun g ho hshow hmsg => ?_
          exact ack_heard_again hshow hwait.ready hmsg
      | answering hwait ha howes hpend hcard =>
        rw [hair] at ha
        cases ha with
        | asks m hm =>
          refine picc_hears h hrx (hm.numbered h.picc) hstep fun g ho hshow hmsg => ?_
          exact asks_heard hshow rfl (ho.same.state.trans hrx) (hwait.opened ho) (hm.opened ho)
            (by simp) hmsg
        | down w =>
          refine picc_hears h hrx (m := .wtx w) trivial hstep fun g ho hshow hmsg => ?_
          exact wtx_heard hshow rfl (ho.same.state.trans hrx) (hwait.opened ho) (by simp) hmsg
      | answered hwait howes ha hcard =>
        rcases ha with ha | ⟨ha, _⟩
        · rw [hair] at ha
          cases ha with
          | asks m hm =>
            refine picc_hears h hrx (hm.numbered h.picc) hstep fun g ho hshow hmsg => ?_
            exact asks_heard hshow rfl (ho.same.state.trans hrx) (hwait.opened ho) (hm.opened ho)
              (by simp) hmsg
          | down w =>
            refine picc_hears h hrx (m := .wtx w) trivial hstep fun g ho hshow hmsg => ?_
            exact wtx_heard hshow rfl (ho.same.state.trans hrx) (hwait.opened ho) (by simp) hmsg
        · rw [hair] at ha
          cases ha
      | taken hready hstate hrxc ha hapart hch =>
        rw [hair] at ha
        cases ha with
        | ack =>
          refine picc_hears h hrx (m := .ack l.pcd.blockNumber) h.pcd.bit hstep
            fun g ho hshow hmsg => ?_
          exact taken_heard hshow rfl (hapart.opened ho) hready
            (ho.same.isTxChaining.trans hch) hmsg
    · rw [← Option.some.inj hstep]
      exact h.silenced.stutters
  · cases hstep

theorem step_follows {l l' : Link} {d : Dialogue.State Block} (h : Shows l d) {e : Event}
    (hstep : step l e = some l') : Follows l' d := by
  cases e with
  | pcdStart b => exact pcdStart_follows h hstep
  | piccStart b => exact piccStart_follows h hstep
  | pcdPoll e => exact pcdPoll_follows h hstep
  | piccPoll e expired => exact piccPoll_follows h hstep
  | pcdReceive behind => exact pcdReceive_follows h hstep
  | piccReceive behind => exact piccReceive_follows h hstep
  | lose => exact lose_follows h hstep

structure Activated (l : Link) : Prop where
  pcdRole : l.pcd.role = .pcd
  piccRole : l.picc.role = .picc
  did : l.picc.did = l.pcd.did
  pcdNumber : l.pcd.blockNumber = 0
  piccNumber : l.picc.blockNumber = 1
  nad : l.pcd.nad = noNad ∧ l.picc.nad = noNad
  lastDid00 : l.pcd.lastDid00 = false ∧ l.picc.lastDid00 = false
  listening : Listening l.picc
  unchained : l.picc.isTxChaining = false
  sizes : l.pcd.fsx ≤ l.picc.ourFsx ∧ l.picc.fsx ≤ l.pcd.ourFsx
  air : l.air = .silent
  ready : l.ready = true
  owes : l.owes = false
  nothing : l.pcdGave = [] ∧ l.piccGot = [] ∧ l.piccGave = [] ∧ l.pcdGot = []

theorem Activated.shows {l : Link} (h : Activated l) : Shows l Dialogue.started where
  pcd := ⟨h.nad.1, h.lastDid00.1, .inl h.pcdNumber⟩
  picc := ⟨h.nad.2, h.lastDid00.2, .inr h.piccNumber⟩
  did := h.did
  pcdRole := h.pcdRole
  piccRole := h.piccRole
  gaveDown := h.nothing.1.symm
  gotDown := h.nothing.2.1.symm
  gaveUp := h.nothing.2.2.1.symm
  gotUp := h.nothing.2.2.2.symm
  stage := .ready h.ready h.air
    ⟨by rw [h.pcdNumber, h.piccNumber]; decide, h.listening, h.owes⟩ h.unchained

theorem run_follows {l l' : Link} (h : Activated l) {es : List Event} (hrun : run l es = some l') :
    ∃ d, Dialogue.Synced Block.chaining d ∧ Shows l' d := by
  obtain ⟨ops, d, hd, hs⟩ := Attempt.run_simulates
    (fun _ _ _ _ hs hstep => step_follows hs hstep) h.shows hrun
  exact ⟨d, Dialogue.run_synced Dialogue.started_synced hd, hs⟩

theorem Stage.at_ready {l : Link} {turn : Turn Block} (h : Stage l turn) (hready : l.ready = true) :
    turn = .asker ∧ l.picc.isTxChaining = false := by
  cases h with
  | ready _ _ _ hch => exact ⟨rfl, hch⟩
  | acking hwait _ _ _ _ hch => exact ⟨rfl, hch⟩
  | asked hr => exact absurd (hr.symm.trans hready) (by decide)
  | answering hwait => exact absurd (hwait.ready.symm.trans hready) (by decide)
  | answered hwait => exact absurd (hwait.ready.symm.trans hready) (by decide)
  | taken hr => exact absurd (hr.symm.trans hready) (by decide)

def whole (bs : List Block) : Nat := Dialogue.whole Block.chaining bs

theorem blocks_arrive_once {l l' : Link} (h : Activated l) (es : List Event)
    (hrun : run l es = some l') :
    (∃ rest, l'.pcdGave = l'.piccGot ++ rest ∧ rest.length ≤ 1) ∧
      (∃ rest, l'.piccGave = l'.pcdGot ++ rest ∧ rest.length ≤ 1) ∧
      whole l'.pcdGot ≤ whole l'.piccGot ∧ whole l'.piccGot ≤ whole l'.pcdGot + 1 ∧
      (l'.ready = true → l'.piccGot = l'.pcdGave ∧ l'.pcdGot = l'.piccGave ∧
        whole l'.piccGot = whole l'.pcdGot) := by
  obtain ⟨d, hsync, hs⟩ := run_follows h hrun
  have hdown := hsync.down
  have hup := hsync.up
  have hturns := hsync.turns
  rw [hs.gaveDown, hs.gotDown] at hdown
  rw [hs.gaveUp, hs.gotUp] at hup
  rw [hs.gotDown, hs.gotUp] at hturns
  have hle := d.turn.isAnswerers_le
  refine ⟨⟨_, hdown, d.turn.down_short⟩, ⟨_, hup, d.turn.up_short⟩, ?_, ?_, ?_⟩
  · rw [whole, whole]
    omega
  · rw [whole, whole]
    omega
  · intro hready
    have hturn := (hs.stage.at_ready hready).1
    rw [hturn] at hdown hup hturns
    simp only [Turn.down, Turn.up, Turn.isAnswerers, List.append_nil, Nat.add_zero]
      at hdown hup hturns
    exact ⟨hdown.symm, hup.symm, hturns⟩

def lossyPcd : IsoDep :=
  { isoDepInitialize
      ⟨.idle, .pcd, 0, 0, noNad, 0, 0, 0, 0, 0, 65536, 16, 64, false, false, [], 0, 0, 1, false,
        false, false, 2, 3, 0, 20, 3, .nfc⟩ with ourFsx := 64 }

def lossyPicc : IsoDep :=
  { lossyPcd with
    role := .picc, state := .piccRx, blockNumber := 1, fsx := 64, ourFsx := 16, hdrLen := 2 }

def lossyLink : Link := ⟨lossyPcd, lossyPicc, .silent, true, false, [], [], [], []⟩

def lossyEvents : List Event :=
  [.pcdStart ⟨[1, 2], true⟩, .pcdPoll none, .lose, .pcdPoll (some .timeout), .piccReceive 0,
    .pcdReceive 0, .pcdPoll none, .piccReceive 0, .lose, .pcdPoll (some .crc), .piccReceive 0,
    .pcdReceive 0, .pcdStart ⟨[3], false⟩, .pcdPoll none, .piccReceive 0, .piccPoll none true,
    .lose, .pcdPoll (some .timeout), .piccReceive 0, .pcdReceive 0, .piccReceive 0,
    .piccStart ⟨[9], false⟩, .piccPoll none false, .lose, .pcdPoll (some .timeout),
    .piccReceive 0, .piccPoll none false, .pcdReceive 0]

def lossyAfter : Link := (run lossyLink lossyEvents).get (by decide)

theorem lossyLink_arrives :
    run lossyLink lossyEvents = some lossyAfter ∧ lossyAfter.ready = true ∧
      lossyAfter.pcdGave = [⟨[1, 2], true⟩, ⟨[3], false⟩] ∧
      lossyAfter.piccGot = lossyAfter.pcdGave ∧ lossyAfter.piccGave = [⟨[9], false⟩] ∧
      lossyAfter.pcdGot = lossyAfter.piccGave := by
  have hrun : run lossyLink lossyEvents = some lossyAfter := (Option.some_get _).symm
  have hready : lossyAfter.ready = true := by decide
  have hagree := (blocks_arrive_once
    ⟨rfl, rfl, rfl, rfl, rfl, ⟨rfl, rfl⟩, ⟨rfl, rfl⟩, ⟨rfl, rfl, rfl⟩, rfl, ⟨by decide, by decide⟩,
      rfl, rfl, rfl, ⟨rfl, rfl, rfl, rfl⟩⟩ lossyEvents hrun).2.2.2.2 hready
  exact ⟨hrun, hready, by decide, hagree.1, by decide, hagree.2.1⟩

end Rfal
