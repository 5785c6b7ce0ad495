import IrisFirmware.Nfc.IsoDep.Apdu
import IrisFirmware.Nfc.IsoDep.Delivery

namespace Rfal

open Dialogue (Turn)

structure ApduLink where
  link : Link
  pcd : Apdu
  picc : Apdu
  commands : List (List UInt8)
  heard : List (List UInt8)
  responses : List (List UInt8)
  answers : List (List UInt8)
deriving DecidableEq, Repr

inductive ApduEvent where
  | command (apdu : List UInt8)
  | response (apdu : List UInt8)
  | pcdPoll (e : Option RxError)
  | piccPoll (e : Option RxError) (timerExpired : Bool)
  | pcdReceive (behind : UInt8)
  | piccReceive (behind : UInt8)
  | lose
deriving DecidableEq, Repr

def Link.pcdStarted (l : Link) (g : IsoDep) : Link :=
  { l with pcd := g, ready := false, pcdGave := l.pcdGave ++ [blockIn g] }

def Link.piccStarted (l : Link) (g : IsoDep) : Link :=
  { l with picc := g, owes := false, piccGave := l.piccGave ++ [blockIn g] }

def ApduLink.pcdAfter (l : ApduLink) (o : Outcome) (link : Link) : Option ApduLink :=
  let s := getApduTransceiveStatus l.pcd o
  match s.ret with
  | .busy =>
    some { l with pcd := s.apdu, link := if o.ret = .none then link.pcdStarted s.dep else link }
  | .none => some { l with pcd := s.apdu, link := link, answers := l.answers ++ [s.apdu.rxBuf] }
  | _ => none

def ApduLink.piccAfter (l : ApduLink) (o : Outcome) (link : Link) : Option ApduLink :=
  let s := getApduTransceiveStatus l.picc o
  match s.ret with
  | .busy =>
    some { l with picc := s.apdu, link := if o.ret = .none then link.piccStarted s.dep else link }
  | .none => some { l with picc := s.apdu, link := link, heard := l.heard ++ [s.apdu.rxBuf] }
  | _ => none

def apduStep (l : ApduLink) : ApduEvent → Option ApduLink
  | .command apdu =>
    if l.link.ready then
      let s := startApduTransceive l.link.pcd (apduSession l.link.pcd apdu)
      some { l with pcd := s.2, link := l.link.pcdStarted s.1, commands := l.commands ++ [apdu] }
    else none
  | .response apdu =>
    if l.link.owes ∧ apdu ≠ [] then
      let s := startApduTransceive l.link.picc (apduSession l.link.picc apdu)
      some { l with
        picc := s.2, link := l.link.piccStarted s.1, responses := l.responses ++ [apdu] }
    else none
  | .pcdPoll e =>
    (step l.link (.pcdPoll e)).bind (l.pcdAfter (dataExchangePcd l.link.pcd (statusOf e)))
  | .piccPoll e timerExpired =>
    (step l.link (.piccPoll e timerExpired)).bind
      (l.piccAfter (dataExchangePicc l.link.picc (statusOf e) timerExpired true))
  | .pcdReceive behind =>
    match l.link.air with
    | .toPcd f =>
      (step l.link (.pcdReceive behind)).bind
        (l.pcdAfter (dataExchangePcd l.link.pcd (.done f behind)))
    | _ => none
  | .piccReceive behind =>
    match l.link.air with
    | .toPicc f =>
      if l.link.picc.state = .piccRx then
        (step l.link (.piccReceive behind)).bind
          (l.piccAfter (dataExchangePicc l.link.picc (.done f behind) false true))
      else some { l with link := { l.link with air := .silent } }
    | _ => none
  | .lose => some { l with link := { l.link with air := .silent } }

def apduRun : ApduLink → List ApduEvent → Option ApduLink := Attempt.run apduStep

def Based (l : Link) : Prop := ∃ d, Dialogue.Synced Block.chaining d ∧ Shows l d

theorem Based.step {l l' : Link} (h : Based l) {e : Event} (hstep : step l e = some l') :
    Based l' := by
  obtain ⟨d, hd, hs⟩ := h
  obtain ⟨ops, d', hrun, hs'⟩ := step_follows hs hstep
  exact ⟨d', Dialogue.run_synced hd hrun, hs'⟩

structure Carried (l : ApduLink) : Prop where
  based : Based l.link
  pcd : Carries 0 l.pcd l.link.pcd l.link.ready l.link.pcdGave l.link.pcdGot l.commands l.answers
  picc : Carries 1 l.picc l.link.picc l.link.owes l.link.piccGave l.link.piccGot l.responses l.heard

theorem pcdStarted_step {l : Link} {g : IsoDep} (hready : l.ready = true)
    (hg : g = startTransceive l.pcd (session l.pcd (blockIn g))) :
    step l (.pcdStart (blockIn g)) = some (l.pcdStarted g) := by
  rw [step, if_pos hready, ← hg]
  rfl

theorem piccStarted_step {l : Link} {g : IsoDep} (howes : l.owes = true)
    (hinf : (blockIn g).inf ≠ [])
    (hg : g = startTransceive l.picc (session l.picc (blockIn g))) :
    step l (.piccStart (blockIn g)) = some (l.piccStarted g) := by
  rw [step, if_pos ⟨howes, hinf⟩, ← hg]
  rfl

theorem command_carried {l l' : ApduLink} (h : Carried l) {apdu : List UInt8}
    (hstep : apduStep l (.command apdu) = some l') : Carried l' := by
  rw [apduStep] at hstep
  split at hstep
  · rename_i hready
    rw [← Option.some.inj hstep]
    have hpcd := h.pcd
    rw [hready] at hpcd
    have hs := hpcd.start apdu
    exact ⟨h.based.step (pcdStarted_step hready hs.dep), hs.carries, h.picc⟩
  · cases hstep

theorem response_carried {l l' : ApduLink} (h : Carried l) {apdu : List UInt8}
    (hstep : apduStep l (.response apdu) = some l') : Carried l' := by
  rw [apduStep] at hstep
  split at hstep
  · rename_i hcan
    rw [← Option.some.inj hstep]
    have hpicc := h.picc
    rw [hcan.1] at hpicc
    have hs := hpicc.start apdu
    exact ⟨h.based.step (piccStarted_step hcan.1 (hs.inf hcan.2) hs.dep), h.pcd, hs.carries⟩
  · cases hstep

theorem pcdAfter_moved {l l' : Link} {o : Outcome} (h : l.pcdAfter o = some l') :
    l' = l.pcdMoved o.dep o.ret o.frames o.got := by
  rw [Link.pcdAfter] at h
  rw [Link.pcdMoved]
  cases hr : o.ret <;> rw [hr] at h <;> first | exact (Option.some.inj h).symm | cases h

theorem piccAfter_moved {l l' : Link} {o : Outcome} (h : l.piccAfter o = some l') :
    l' = l.piccMoved o.dep o.ret o.frames o.got := by
  rw [Link.piccAfter] at h
  rw [Link.piccMoved]
  cases hr : o.ret <;> rw [hr] at h <;> first | exact (Option.some.inj h).symm | cases h

theorem pcdAfter_carried {l l' : ApduLink} (h : Carried l) {a : Air} {o : Outcome} {link : Link}
    (hready : l.link.ready = false) (hg : Gives l.link.pcd o)
    (hmute : l.link.pcd.isTxChaining = true → o.got = none)
    (hlink : { l.link with air := a }.pcdAfter o = some link) (hbased : Based link)
    (hstep : l.pcdAfter o link = some l') : Carried l' := by
  have hpcd := h.pcd
  rw [hready] at hpcd
  have hcase := status_case hpcd hg hmute
  obtain rfl := pcdAfter_moved hlink
  rw [ApduLink.pcdAfter] at hstep
  generalize getApduTransceiveStatus l.pcd o = s at hcase hstep
  dsimp only at hstep
  cases hcase with
  | next hret hbusy hne hstarts =>
    rw [hbusy] at hstep
    simp only [if_pos hret] at hstep
    rw [← Option.some.inj hstep]
    exact ⟨hbased.step (pcdStarted_step (if_pos hret) hstarts.dep), hstarts.carries, h.picc⟩
  | waits hret hbusy hdep hcarries =>
    rw [hbusy] at hstep
    simp only [if_neg hret] at hstep
    rw [← Option.some.inj hstep]
    refine ⟨hbased, ?_, h.picc⟩
    simp only [Link.pcdMoved, if_neg hret, hready]
    exact hcarries
  | ends hret hnone hdep hcarries =>
    rw [hnone] at hstep
    rw [← Option.some.inj hstep]
    refine ⟨hbased, ?_, h.picc⟩
    simp only [Link.pcdMoved, if_pos hret]
    exact hcarries
  | stops hbusy hnone =>
    cases hr : s.ret <;> rw [hr] at hstep <;>
      first | exact absurd hr hbusy | exact absurd hr hnone | cases hstep

theorem piccAfter_carried {l l' : ApduLink} (h : Carried l) {a : Air} {o : Outcome} {link : Link}
    (ht : Takes l.link.picc o)
    (howing : l.link.owes = true → o.ret.stops = true ∨ (o.ret = .busy ∧ o.got = none))
    (hlink : { l.link with air := a }.piccAfter o = some link) (hbased : Based link)
    (hstep : l.piccAfter o link = some l') : Carried l' := by
  have hpicc := h.picc
  cases howes : l.link.owes with
  | true =>
    rcases howing howes with hs | ⟨hbusy, hgot⟩
    · exact absurd hlink (piccAfter_stops hs)
    · obtain rfl := piccAfter_moved hlink
      have hne : o.ret ≠ .none := by simp [hbusy]
      have hstatus : getApduTransceiveStatus l.picc o = ⟨o.dep, l.picc, .busy⟩ := by
        rw [getApduTransceiveStatus, hbusy]
      rw [ApduLink.piccAfter, hstatus] at hstep
      simp only [if_neg hne] at hstep
      rw [← Option.some.inj hstep]
      refine ⟨hbased, h.pcd, ?_⟩
      have hk := ht.kept
      simp only [Link.piccMoved, if_neg hne, hgot, Option.toList_none, List.append_nil]
      exact ⟨hpicc.sends.kept hk, hpicc.takes, fun hi => hk.isTxChaining.trans (hpicc.ends hi),
        hpicc.early, hpicc.short, hpicc.fits⟩
  | false =>
    rw [howes] at hpicc
    have hcase := status_case hpicc ht.toGives ht.mute
    obtain rfl := piccAfter_moved hlink
    rw [ApduLink.piccAfter] at hstep
    generalize getApduTransceiveStatus l.picc o = s at hcase hstep
    dsimp only at hstep
    cases hcase with
    | next hret hbusy hne hstarts =>
      rw [hbusy] at hstep
      simp only [if_pos hret] at hstep
      rw [← Option.some.inj hstep]
      exact ⟨hbased.step (piccStarted_step (if_pos hret) hne hstarts.dep), h.pcd, hstarts.carries⟩
    | waits hret hbusy hdep hcarries =>
      rw [hbusy] at hstep
      simp only [if_neg hret] at hstep
      rw [← Option.some.inj hstep]
      refine ⟨hbased, h.pcd, ?_⟩
      simp only [Link.piccMoved, if_neg hret, howes]
      exact hcarries
    | ends hret hnone hdep hcarries =>
      rw [hnone] at hstep
      rw [← Option.some.inj hstep]
      refine ⟨hbased, h.pcd, ?_⟩
      simp only [Link.piccMoved, if_pos hret]
      exact hcarries
    | stops hbusy hnone =>
      cases hr : s.ret <;> rw [hr] at hstep <;>
        first | exact absurd hr hbusy | exact absurd hr hnone | cases hstep

theorem pcdReceive_quiet {g : IsoDep} {status : Status} (hs : ∀ f b, status ≠ .done f b) :
    (pcdReceive g status).got = none := by
  cases status with
  | busy => rfl
  | failed e =>
    rw [pcdReceive, pcdError]
    split_ifs <;> first | exact Sent.outcome_got _ | rfl
  | done f b => exact absurd rfl (hs f b)

theorem dataExchangePcd_quiet {g : IsoDep} {status : Status} (hs : ∀ f b, status ≠ .done f b) :
    (dataExchangePcd g status).got = none := by
  rw [dataExchangePcd]
  dsimp only
  split
  · rfl
  · split_ifs
    · exact pcdReceive_quiet hs
    · rfl
  · exact pcdReceive_quiet hs
  · exact pcdReceive_quiet hs
  · rfl

theorem received_mute {l : Link} {d : Dialogue.State Block} (h : Shows l d) {f : Frame}
    (hair : l.air = .toPcd f) (hready : l.ready = false) (hch : l.pcd.isTxChaining = true)
    (behind : UInt8) :
    (dataExchangePcd l.pcd (.done f behind)).ret.stops = true ∨
      (dataExchangePcd l.pcd (.done f behind)).got = none := by
  have hp : Plain { l.pcd with hdrLen := hdrLenOf l.pcd.did } := h.pcd.withHdrLen _
  have hst := h.stage
  generalize d.turn = turn at hst
  cases hst with
  | ready hr => exact absurd (hr.symm.trans hready) (by decide)
  | asked _ hpos _ hapart _ =>
    rcases hpos with ⟨_, ha⟩ | ⟨hstate, ha⟩
    · rw [ha] at hair
      cases hair
    · rw [hair] at ha
      cases ha with
      | ack =>
        rcases pcd_receives h.pcd hstate (m := .ack l.picc.blockNumber) h.picc.bit behind
          with hs | heq
        · exact .inl hs
        · rw [heq]
          exact (pcd_ack_other (g := { l.pcd with hdrLen := hdrLenOf l.pcd.did }) h.picc.bit
            hapart.numbers.symm).imp id Yields.got
  | acking hwait ha =>
    rw [hair] at ha
    cases ha with
    | ack =>
      rcases pcd_receives h.pcd hwait.state (m := .ack l.pcd.blockNumber) h.pcd.bit behind
        with hs | heq
      · exact .inl hs
      · rw [heq]
        exact (pcd_ack_own hp behind).imp id Yields.got
  | answering _ _ _ _ _ hdone => exact absurd (hch.symm.trans hdone) (by decide)
  | answered _ _ _ _ hdone => exact absurd (hch.symm.trans hdone) (by decide)
  | taken _ _ _ _ _ _ hdone => exact absurd (hch.symm.trans hdone) (by decide)

theorem pcdPoll_carried {l l' : ApduLink} (h : Carried l) {e : Option RxError}
    (hstep : apduStep l (.pcdPoll e) = some l') : Carried l' := by
  rw [apduStep] at hstep
  obtain ⟨link, hlink, hstep⟩ := Option.bind_eq_some_iff.mp hstep
  have hbased := h.based.step hlink
  obtain ⟨d, -, hs⟩ := h.based
  rw [step] at hlink
  split at hlink
  · cases hlink
  · rename_i hnot
    have hready : l.link.ready = false := by simpa using hnot
    exact pcdAfter_carried h (a := l.link.air) hready
      (dataExchangePcd_gives (hs.stage.asking hready) _)
      (fun _ => dataExchangePcd_quiet (statusOf_ne_done e)) hlink hbased hstep

theorem pcdReceive_carried {l l' : ApduLink} (h : Carried l) {behind : UInt8}
    (hstep : apduStep l (.pcdReceive behind) = some l') : Carried l' := by
  rw [apduStep] at hstep
  split at hstep
  · rename_i f hair
    obtain ⟨link, hlink, hstep⟩ := Option.bind_eq_some_iff.mp hstep
    have hbased := h.based.step hlink
    obtain ⟨d, -, hs⟩ := h.based
    rw [step, hair] at hlink
    dsimp only at hlink
    split at hlink
    · cases hlink
    · rename_i hnot
      have hready : l.link.ready = false := by simpa using hnot
      refine pcdAfter_carried h hready (dataExchangePcd_gives (hs.stage.asking hready) _) ?_ hlink
        hbased hstep
      intro hch
      exact (received_mute hs hair hready hch behind).resolve_left fun hstop =>
        pcdAfter_stops hstop hlink
  · cases hstep

theorem Stage.card_state {l : Link} {turn : Turn Block} (h : Stage l turn) :
    l.picc.state = .piccTx ∨ l.picc.state = .piccRx ∨ l.picc.state = .piccSwtx := by
  cases h with
  | ready _ _ hapart => exact .inr (.inl hapart.card.state)
  | asked _ _ _ hapart => exact .inr (.inl hapart.card.state)
  | acking _ _ _ hcard => exact .inr (.inl hcard.state)
  | answering _ _ _ _ hcard =>
    rcases hcard with ⟨hsw, _⟩ | hext
    · exact .inr (.inr hsw)
    · exact .inr (.inl hext.state)
  | answered _ _ _ hcard =>
    rcases hcard with ⟨htx, _⟩ | ⟨hc, _⟩ | ⟨hext, _⟩
    · exact .inl htx
    · exact .inr (.inl hc.state)
    · exact .inr (.inl hext.state)
  | taken _ _ _ _ hapart => exact .inr (.inl hapart.card.state)

theorem Stage.owing {l : Link} {turn : Turn Block} (h : Stage l turn) (howes : l.owes = true) :
    Extending l l.air ∧ (l.picc.state = .piccSwtx ∨ Extended l.picc) := by
  cases h with
  | ready _ _ hapart => exact absurd (howes.symm.trans hapart.owes) (by decide)
  | asked _ _ _ hapart => exact absurd (howes.symm.trans hapart.owes) (by decide)
  | acking _ _ _ _ ho => exact absurd (howes.symm.trans ho) (by decide)
  | answering _ hair _ _ hcard => exact ⟨hair, hcard.imp And.left id⟩
  | answered _ ho => exact absurd (howes.symm.trans ho) (by decide)
  | taken _ _ _ _ hapart => exact absurd (howes.symm.trans hapart.owes) (by decide)

theorem owing_polls {l : Link} {d : Dialogue.State Block} (h : Shows l d)
    (howes : l.owes = true) {status : Status} (hs : ∀ f b, status ≠ .done f b) (expired inTx : Bool) :
    (dataExchangePicc l.picc status expired inTx).ret.stops = true ∨
      ((dataExchangePicc l.picc status expired inTx).ret = .busy ∧
        (dataExchangePicc l.picc status expired inTx).got = none) := by
  rcases (h.stage.owing howes).2 with hsw | hext
  · rcases picc_extends h.picc hsw status expired inTx with hstop | heq | ⟨w, hy, -⟩
    · exact .inl hstop
    · rw [heq]
      exact .inr ⟨rfl, rfl⟩
    · exact .inr ⟨hy.ret, hy.got⟩
  · rcases picc_listens hext.state hs expired inTx with hstop | heq
    · exact .inl hstop
    · rw [heq]
      exact .inr ⟨rfl, rfl⟩

theorem owing_msg {g : IsoDep} (hp : Plain g) (hext : Extended g) {m : Msg}
    (hm : Asks g m ∨ ∃ w, m = .wtx w) :
    (piccMsgIn g m).ret = .busy ∧ (piccMsgIn g m).got = none := by
  rcases hm with hm | ⟨w, rfl⟩
  · rw [picc_asked hp hm]
    have hr := repeat_wtx hp hext.last
    exact ⟨hr.ret, hr.got⟩
  · rcases picc_wtx g w with heq | ⟨-, heq⟩ <;> rw [heq] <;> exact ⟨rfl, rfl⟩

theorem owing_process {g : IsoDep} (hp : Plain g) (hext : Extended g) {m : Msg}
    (hm : Asks g m ∨ ∃ w, m = .wtx w) (behind : UInt8) :
    (piccProcess g (m.bytes g.did) behind).ret = .busy ∧
      (piccProcess g (m.bytes g.did) behind).got = none := by
  have hnum : m.Numbered := by
    rcases hm with hm | ⟨w, rfl⟩
    · exact hm.numbered hp
    · trivial
  obtain ⟨g', ho, heq | heq⟩ := piccProcess_msg hp hnum behind
  · rw [heq]
    exact ⟨rfl, rfl⟩
  · rw [heq]
    exact owing_msg (hp.of_same ho.same)
      ⟨ho.same.state.trans hext.state, ho.same.isWait4Wtx.trans hext.wait, ho.last.trans hext.last⟩
      (hm.imp (fun h => h.opened ho) id)

theorem owing_receives {l : Link} {d : Dialogue.State Block} (h : Shows l d)
    (howes : l.owes = true) (hst : l.picc.state = .piccRx) {f : Frame} (hair : l.air = .toPicc f)
    (behind : UInt8) :
    (dataExchangePicc l.picc (.done f behind) false true).ret = .busy ∧
      (dataExchangePicc l.picc (.done f behind) false true).got = none := by
  rw [picc_receives hst]
  obtain ⟨ha, hcard⟩ := h.stage.owing howes
  have hext : Extended l.picc := by
    rcases hcard with hsw | hext
    · exact absurd (hst.symm.trans hsw) (by decide)
    · exact hext
  rw [hair] at ha
  cases ha with
  | asks m hm =>
    rw [← h.did]
    exact owing_process h.picc hext (.inl hm) behind
  | down w =>
    rw [← h.did]
    exact owing_process h.picc hext (.inr ⟨w, rfl⟩) behind

theorem piccPoll_carried {l l' : ApduLink} (h : Carried l) {e : Option RxError} {expired : Bool}
    (hstep : apduStep l (.piccPoll e expired) = some l') : Carried l' := by
  rw [apduStep] at hstep
  obtain ⟨link, hlink, hstep⟩ := Option.bind_eq_some_iff.mp hstep
  have hbased := h.based.step hlink
  obtain ⟨d, -, hs⟩ := h.based
  exact piccAfter_carried h (a := l.link.air) (dataExchangePicc_takes hs.stage.card_state _ _ _)
    (fun howes => owing_polls hs howes (statusOf_ne_done e) _ _) hlink hbased hstep

theorem silenced_carried {l : ApduLink} (h : Carried l) :
    Carried { l with link := { l.link with air := .silent } } :=
  ⟨h.based.step (e := .lose) rfl, h.pcd, h.picc⟩

theorem piccReceive_carried {l l' : ApduLink} (h : Carried l) {behind : UInt8}
    (hstep : apduStep l (.piccReceive behind) = some l') : Carried l' := by
  rw [apduStep] at hstep
  split at hstep
  · rename_i f hair
    split at hstep
    · rename_i hrx
      obtain ⟨link, hlink, hstep⟩ := Option.bind_eq_some_iff.mp hstep
      have hbased := h.based.step hlink
      obtain ⟨d, -, hs⟩ := h.based
      rw [step, hair] at hlink
      simp only [if_pos hrx] at hlink
      exact piccAfter_carried h (dataExchangePicc_takes hs.stage.card_state _ _ _)
        (fun howes => .inr (owing_receives hs howes hrx hair behind)) hlink hbased hstep
    · rw [← Option.some.inj hstep]
      exact silenced_carried h
  · cases hstep

theorem apduStep_carried {l l' : ApduLink} (h : Carried l) {e : ApduEvent}
    (hstep : apduStep l e = some l') : Carried l' := by
  cases e with
  | command apdu => exact command_carried h hstep
  | response apdu => exact response_carried h hstep
  | pcdPoll e => exact pcdPoll_carried h hstep
  | piccPoll e expired => exact piccPoll_carried h hstep
  | pcdReceive behind => exact pcdReceive_carried h hstep
  | piccReceive behind => exact piccReceive_carried h hstep
  | lose =>
    rw [← Option.some.inj hstep]
    exact silenced_carried h

theorem apduRun_carried {l l' : ApduLink} (h : Carried l) {es : List ApduEvent}
    (hrun : apduRun l es = some l') : Carried l' :=
  Attempt.run_invariant (fun _ _ _ hI hstep => apduStep_carried hI hstep) h hrun

structure ApduActivated (l : ApduLink) : Prop where
  link : Activated l.link
  unchained : l.link.pcd.isTxChaining = false
  nothing : l.commands = [] ∧ l.heard = [] ∧ l.responses = [] ∧ l.answers = []
  cleared : l.pcd.rxBuf = [] ∧ l.picc.rxBuf = []
  unstarted : l.pcd.started = false ∧ l.picc.started = false

theorem ApduActivated.carried {l : ApduLink} (h : ApduActivated l) : Carried l := by
  obtain ⟨hpg, hcg, hcv, hpv⟩ := h.link.nothing
  obtain ⟨hc, hh, hr, ha⟩ := h.nothing
  refine ⟨⟨Dialogue.started, Dialogue.started_synced, h.link.shows⟩, ?_, ?_⟩
  · rw [h.link.ready, hpg, hpv, hc, ha]
    exact ⟨.inl ⟨h.unchained, rfl⟩, rfl, fun _ => h.unchained, by simp, by simp, by simp⟩
  · rw [h.link.owes, hcv, hcg, hr, hh]
    exact ⟨.inl ⟨h.link.unchained, rfl⟩, by rw [h.cleared.2]; rfl, by simp,
      fun _ _ => ⟨Nat.one_pos, h.cleared.2⟩, by simp, by simp [h.cleared.2]⟩

theorem Carries.arrives {n n' : Nat} {a a' : Apdu} {g g' : IsoDep} {idle idle' : Bool}
    {gave got rest got' gave' : List Block} {sent took sent' took' : List (List UInt8)}
    (h : Carries n a g idle gave got' sent took')
    (h' : Carries n' a' g' idle' gave' got sent' took)
    (hgave : gave = got ++ rest) (hrest : rest.length ≤ 1) :
    sent = took ∨ ∃ apdu, sent = took ++ [apdu] := by
  have htook : (gatherBlocks got).whole = took := by rw [h'.takes]
  rcases h.sends with ⟨-, hsent⟩ | hmid
  · have hwhole : (gatherBlocks gave).whole = sent := by rw [hsent]
    rw [← hwhole, ← htook]
    exact Pieces.gather_behind hgave hrest
  · obtain ⟨init, hlast⟩ := hmid.block
    obtain ⟨before, hsent, hbefore⟩ := hmid.gathered
    have hsame : (gatherBlocks got).whole = (gatherBlocks gave).whole :=
      Pieces.gather_behind_more hgave hrest hlast rfl
    have hwhole : (gatherBlocks gave).whole = before := by rw [hbefore]
    refine .inr ⟨a.param.txBuf, ?_⟩
    rw [hsent, ← hwhole, ← htook]
    exact congrArg (· ++ [a.param.txBuf]) hsame.symm

theorem Carries.arrived {n n' : Nat} {a a' : Apdu} {g g' : IsoDep} {idle idle' : Bool}
    {gave got got' gave' : List Block} {sent took sent' took' : List (List UInt8)}
    (h : Carries n a g idle gave got' sent took')
    (h' : Carries n' a' g' idle' gave' got sent' took)
    (hch : g.isTxChaining = false) (hgave : gave = got) : sent = took := by
  have htook : (gatherBlocks got).whole = took := by rw [h'.takes]
  rcases h.sends with ⟨-, hsent⟩ | hmid
  · have hwhole : (gatherBlocks gave).whole = sent := by rw [hsent]
    rw [← hwhole, ← htook, hgave]
  · exact absurd (hmid.chaining.symm.trans hch) (by decide)

theorem apdus_arrive_whole {l l' : ApduLink} (h : ApduActivated l) (es : List ApduEvent)
    (hrun : apduRun l es = some l') :
    (l'.commands = l'.heard ∨ ∃ apdu, l'.commands = l'.heard ++ [apdu]) ∧
      (l'.responses = l'.answers ∨ ∃ apdu, l'.responses = l'.answers ++ [apdu]) ∧
      l'.answers.length ≤ l'.heard.length ∧ l'.heard.length ≤ l'.answers.length + 1 ∧
      (∀ apdu ∈ l'.heard.tail ++ l'.answers, apdu.length ≤ apduMaxLen) ∧
      (l'.link.ready = true → l'.commands = l'.heard ∧ l'.responses = l'.answers) := by
  have hc := apduRun_carried h.carried hrun
  obtain ⟨d, hsync, hs⟩ := hc.based
  have hdown := hsync.down
  have hup := hsync.up
  have hturns := hsync.turns
  rw [hs.gaveDown, hs.gotDown] at hdown
  rw [hs.gaveUp, hs.gotUp] at hup
  rw [hs.gotDown, hs.gotUp] at hturns
  have hheard : l'.heard.length = whole l'.link.piccGot := by
    rw [whole, Dialogue.whole, ← gatherBlocks_length, hc.picc.takes]
  have hanswers : l'.answers.length = whole l'.link.pcdGot := by
    rw [whole, Dialogue.whole, ← gatherBlocks_length, hc.pcd.takes]
  have hle := d.turn.isAnswerers_le
  refine ⟨hc.pcd.arrives hc.picc hdown d.turn.down_short,
    hc.picc.arrives hc.pcd hup d.turn.up_short, ?_, ?_, ?_, ?_⟩
  · rw [hheard, hanswers, whole, whole]
    omega
  · rw [hheard, hanswers, whole, whole]
    omega
  · intro apdu hmem
    rcases List.mem_append.mp hmem with hm | hm
    · exact hc.picc.short apdu (List.drop_one ▸ hm)
    · exact hc.pcd.short apdu hm
  · intro hready
    obtain ⟨hturn, hch⟩ := hs.stage.at_ready hready
    rw [hturn] at hdown hup
    simp only [Turn.down, Turn.up, List.append_nil] at hdown hup
    exact ⟨hc.pcd.arrived hc.picc (hc.pcd.ends hready) hdown, hc.picc.arrived hc.pcd hch hup⟩

def freshApdu : Apdu := ⟨⟨[], 0, none, 0, 0⟩, false, [], 0, []⟩

def lossyApduLink : ApduLink :=
  ⟨{ lossyLink with picc := { lossyPicc with fsx := 16 } }, freshApdu, freshApdu, [], [], [], []⟩

def longCommand : List UInt8 := (List.range 20).map Nat.toUInt8

def longResponse : List UInt8 := List.replicate 15 9

def lossyApduEvents : List ApduEvent :=
  [.command [1, 2], .pcdPoll none, .piccReceive 0, .response [5], .piccPoll none false,
    .pcdReceive 0, .command longCommand, .pcdPoll none, .lose, .pcdPoll (some .timeout),
    .piccReceive 0, .pcdReceive 0, .pcdPoll none, .piccReceive 0, .pcdReceive 0, .pcdPoll none,
    .piccReceive 0, .response longResponse, .piccPoll none false, .lose, .pcdPoll (some .crc),
    .piccReceive 0, .piccPoll none false, .pcdReceive 0, .piccReceive 0, .piccPoll none false,
    .pcdReceive 0]

def lossyApduAfter : ApduLink := (apduRun lossyApduLink lossyApduEvents).get (by decide)

theorem lossyApdus_arrive :
    apduRun lossyApduLink lossyApduEvents = some lossyApduAfter ∧
      lossyApduAfter.commands = [[1, 2], longCommand] ∧
      lossyApduAfter.heard = [[1, 2], longCommand] ∧
      lossyApduAfter.responses = [[5], longResponse] ∧
      lossyApduAfter.answers = [[5], longResponse] := by
  have hrun : apduRun lossyApduLink lossyApduEvents = some lossyApduAfter :=
    (Option.some_get _).symm
  have hready : lossyApduAfter.link.ready = true := by decide
  have hagree := (apdus_arrive_whole
    ⟨⟨rfl, rfl, rfl, rfl, rfl, ⟨rfl, rfl⟩, ⟨rfl, rfl⟩, ⟨rfl, rfl, rfl⟩, rfl,
      ⟨by decide, by decide⟩, rfl, rfl, rfl, ⟨rfl, rfl, rfl, rfl⟩⟩, rfl, ⟨rfl, rfl, rfl, rfl⟩,
      ⟨rfl, rfl⟩, ⟨rfl, rfl⟩⟩
    lossyApduEvents hrun).2.2.2.2.2 hready
  have hcommands : lossyApduAfter.commands = [[1, 2], longCommand] := by decide
  have hresponses : lossyApduAfter.responses = [[5], longResponse] := by decide
  exact ⟨hrun, hcommands, hagree.1 ▸ hcommands, hresponses, hagree.2 ▸ hresponses⟩

theorem startApdu_pcd {g : IsoDep} (hrole : g.role = .pcd) (apdu : List UInt8) :
    (startApduTransceive g (apduSession g apdu)).1 =
      { clearCounters g with
        txInf := apdu.take (iBlockLen g ⟨apduSession g apdu, true, apdu, 0, []⟩),
        isTxChaining := apdu.length > getMaxInfLen g, isRxChaining := false, state := .pcdTx } := by
  rw [startApduTransceive, startTransceive]
  simp only [clearCounters, hrole]
  rfl

theorem tx_i_ret {g : IsoDep} (hp : Plain g) (room : Nat) :
    (tx g (pcbIBlock g.blockNumber) room g.txInf).ret =
      if g.txInf ≠ [] ∧ room < g.hdrLen then .nomem
      else if g.fsx - crcLen < hdrLenOf g.did + g.txInf.length then .notsupp else .none := by
  have hlen : (txBlock g (pcbIBlock g.blockNumber) g.txInf).length =
      hdrLenOf g.did + g.txInf.length := by
    rw [txBlock_i hp, Msg.bytes_length]
    rfl
  rw [← hlen, tx]
  dsimp only
  split_ifs <;> first | rfl | contradiction

theorem hdrLenOf_room (did : UInt8) : hdrLenOf did ≤ prologueSize := by
  rw [hdrLenOf]
  split_ifs <;> decide

theorem send_ret {g : IsoDep} (hp : Plain g) (hst : g.state = .pcdTx) :
    (dataExchangePcd g .busy).ret =
      if g.fsx - crcLen < hdrLenOf g.did + g.txInf.length then .notsupp else .busy := by
  have hret := tx_i_ret (hp.withHdrLen (pcdHdrLen g)) prologueSize
  have hroom : ¬ (g.txInf ≠ [] ∧ prologueSize < pcdHdrLen g) := by
    rw [pcdHdrLen_plain hp]
    exact fun hlt => absurd hlt.2 (Nat.not_lt.mpr (hdrLenOf_room _))
  rw [if_neg hroom] at hret
  rw [dataExchangePcd]
  simp only [hst] at hret ⊢
  generalize tx _ (pcbIBlock g.blockNumber) prologueSize g.txInf = s at hret ⊢
  by_cases hlong : g.fsx - crcLen < hdrLenOf g.did + g.txInf.length
  · rw [if_pos hlong] at hret ⊢
    rw [if_neg (by simp [hret])]
    exact hret
  · rw [if_neg hlong] at hret ⊢
    rw [if_pos hret]
    rfl

-- the header counted is the one of the exchange before
theorem long_apdu_refused_iff {g : IsoDep} (hp : Plain g) (hrole : g.role = .pcd)
    (hfsx : 16 ≤ g.fsx ∧ g.fsx ≤ 4096) (hhdr : g.hdrLen ≤ 3) (apdu : List UInt8) :
    (dataExchangePcd (startApduTransceive g (apduSession g apdu)).1 .busy).ret = .notsupp ↔
      g.hdrLen < hdrLenOf g.did ∧ g.fsx < hdrLenOf g.did + apdu.length + crcLen := by
  have hmax : getMaxInfLen g = g.fsx - g.hdrLen - crcLen := by
    rw [getMaxInfLen, if_neg (by omega)]
  have hlen : (apdu.take (iBlockLen g ⟨apduSession g apdu, true, apdu, 0, []⟩)).length =
      min apdu.length (g.fsx - g.hdrLen - crcLen) := by
    have hleft : (⟨apduSession g apdu, true, apdu, 0, []⟩ : Apdu).left = apdu.length := rfl
    rw [List.length_take, iBlockLen, hleft, hmax]
    split_ifs <;> omega
  have hroom := hdrLenOf_room g.did
  rw [startApdu_pcd hrole]
  generalize apdu.take _ = inf at hlen ⊢
  have hret := send_ret (g := { clearCounters g with
    txInf := inf, isTxChaining := apdu.length > getMaxInfLen g, isRxChaining := false,
    state := .pcdTx }) ⟨hp.nad, hp.lastDid00, hp.bit⟩ rfl
  rw [hret]
  simp only [clearCounters, hlen, crcLen, prologueSize] at hroom ⊢
  split_ifs with hlong
  · refine ⟨fun _ => ?_, fun _ => rfl⟩
    omega
  · refine ⟨fun hf => ?_, fun hf => ?_⟩
    · cases hf
    · omega

def didPcd : IsoDep := { lossyPcd with did := 3, blockNumber := 1 }

theorem didPcd_refused :
    (dataExchangePcd (startApduTransceive didPcd (apduSession didPcd longCommand)).1 .busy).ret =
      .notsupp :=
  (long_apdu_refused_iff (g := didPcd) ⟨rfl, rfl, .inr rfl⟩ rfl ⟨by decide, by decide⟩ (by decide)
    longCommand).mpr ⟨by decide, by decide⟩

end Rfal
