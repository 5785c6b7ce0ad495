import IrisFirmware.Library.Dialogue
import IrisFirmware.Nfc.IsoDep.Reader
import IrisFirmware.Nfc.IsoDep.Card

namespace Rfal

open Dialogue (Turn)

-- one frame at most is in the air, and a new one drowns the one before
inductive Air where
  | silent
  | toPicc (frame : Frame)
  | toPcd (frame : Frame)
deriving DecidableEq, Repr

structure Link where
  pcd : IsoDep
  picc : IsoDep
  air : Air
  ready : Bool
  owes : Bool
  pcdGave : List Block
  piccGot : List Block
  piccGave : List Block
  pcdGot : List Block
deriving DecidableEq, Repr

inductive Event where
  | pcdStart (b : Block)
  | piccStart (b : Block)
  | pcdPoll (e : Option RxError)
  | piccPoll (e : Option RxError) (timerExpired : Bool)
  | pcdReceive (behind : UInt8)
  | piccReceive (behind : UInt8)
  | lose
deriving DecidableEq, Repr

def aired (way : Frame → Air) (air : Air) (frames : List Frame) : Air :=
  match frames.getLast? with
  | some f => way f
  | none => air

def Link.pcdAfter (l : Link) (o : Outcome) : Option Link :=
  let l := { l with
    pcd := o.dep, air := aired .toPicc l.air o.frames, pcdGot := l.pcdGot ++ o.got.toList }
  match o.ret with
  | .busy | .again => some l
  | .none => some { l with ready := true }
  | _ => none

def Link.piccAfter (l : Link) (o : Outcome) : Option Link :=
  let l := { l with
    picc := o.dep, air := aired .toPcd l.air o.frames, piccGot := l.piccGot ++ o.got.toList }
  match o.ret with
  | .busy | .again => some l
  | .none => some { l with owes := true }
  | _ => none

def statusOf : Option RxError → Status
  | none => .busy
  | some e => .failed e

def step (l : Link) : Event → Option Link
  | .pcdStart b =>
    if l.ready then
      some { l with pcd := startTransceive l.pcd (session l.pcd b), ready := false,
                    pcdGave := l.pcdGave ++ [b] }
    else none
  | .piccStart b =>
    if l.owes ∧ b.inf ≠ [] then
      some { l with picc := startTransceive l.picc (session l.picc b), owes := false,
                    piccGave := l.piccGave ++ [b] }
    else none
  | .pcdPoll e => if l.ready then none else l.pcdAfter (dataExchangePcd l.pcd (statusOf e))
  | .piccPoll e timerExpired =>
    l.piccAfter (dataExchangePicc l.picc (statusOf e) timerExpired true)
  | .pcdReceive behind =>
    match l.air with
    | .toPcd f =>
      if l.ready then none
      else { l with air := .silent }.pcdAfter (dataExchangePcd l.pcd (.done f behind))
    | _ => none
  | .piccReceive behind =>
    match l.air with
    | .toPicc f =>
      if l.picc.state = .piccRx then
        { l with air := .silent }.piccAfter
          (dataExchangePicc l.picc (.done f behind) false true)
      else some { l with air := .silent }
    | _ => none
  | .lose => some { l with air := .silent }

def run : Link → List Event → Option Link := Attempt.run step

structure Listening (g : IsoDep) : Prop where
  state : g.state = .piccRx
  wait : g.isWait4Wtx = false
  pending : g.isTxPending = false

structure Extended (g : IsoDep) : Prop where
  state : g.state = .piccRx
  wait : g.isWait4Wtx = true
  last : g.lastPcb = pcbSWtx

inductive Asking (l : Link) : Air → Prop
  | silent : Asking l .silent
  | block : Asking l (.toPicc ((blockOf l.pcd).bytes l.pcd.did))
  | nak : Asking l (.toPicc ((Msg.nak l.pcd.blockNumber).bytes l.pcd.did))
  | ack : Asking l (.toPcd ((Msg.ack l.picc.blockNumber).bytes l.pcd.did))

theorem blockOf_same {g g' : IsoDep} (h : Same g g') : blockOf g' = blockOf g := by
  rw [blockOf, blockOf, h.blockNumber, h.isTxChaining, h.txInf]

theorem Asking.carry {l l' : Link} {a : Air} (h : Asking l a) (hs : Same l.pcd l'.pcd)
    (hbn : l'.picc.blockNumber = l.picc.blockNumber) : Asking l' a := by
  cases h with
  | silent => exact .silent
  | block =>
    rw [← hs.did, ← blockOf_same hs]
    exact .block
  | nak =>
    rw [← hs.did, ← hs.blockNumber]
    exact .nak
  | ack =>
    rw [← hs.did, ← hbn]
    exact .ack

inductive Acking (l : Link) : Air → Prop
  | silent : Acking l .silent
  | nak : Acking l (.toPicc ((Msg.nak l.pcd.blockNumber).bytes l.pcd.did))
  | ack : Acking l (.toPcd ((Msg.ack l.pcd.blockNumber).bytes l.pcd.did))

theorem Acking.carry {l l' : Link} {a : Air} (h : Acking l a) (hs : Same l.pcd l'.pcd) :
    Acking l' a := by
  cases h with
  | silent => exact .silent
  | nak =>
    rw [← hs.did, ← hs.blockNumber]
    exact .nak
  | ack =>
    rw [← hs.did, ← hs.blockNumber]
    exact .ack

inductive Extending (l : Link) : Air → Prop
  | silent : Extending l .silent
  | asks (m : Msg) (hm : Asks l.picc m) : Extending l (.toPicc (m.bytes l.pcd.did))
  | down (w : UInt8) : Extending l (.toPicc ((Msg.wtx w).bytes l.pcd.did))
  | up (w : UInt8) : Extending l (.toPcd ((Msg.wtx w).bytes l.pcd.did))

theorem Extending.carry {l l' : Link} {a : Air} (h : Extending l a)
    (hbn : l'.picc.blockNumber = l.picc.blockNumber) (hdid : l'.pcd.did = l.pcd.did) :
    Extending l' a := by
  cases h with
  | silent => exact .silent
  | asks m hm =>
    rw [← hdid]
    refine .asks m ?_
    rwa [Asks, hbn]
  | down w =>
    rw [← hdid]
    exact .down w
  | up w =>
    rw [← hdid]
    exact .up w

inductive Taking (l : Link) : Air → Prop
  | silent : Taking l .silent
  | ack : Taking l (.toPicc ((Msg.ack l.pcd.blockNumber).bytes l.pcd.did))

theorem Taking.carry {l l' : Link} {a : Air} (h : Taking l a) (hs : Same l.pcd l'.pcd) :
    Taking l' a := by
  cases h with
  | silent => exact .silent
  | ack =>
    rw [← hs.did, ← hs.blockNumber]
    exact .ack

structure Apart (l : Link) : Prop where
  numbers : l.pcd.blockNumber ≠ l.picc.blockNumber
  card : Listening l.picc
  owes : l.owes = false

structure Waiting (l : Link) : Prop where
  ready : l.ready = false
  state : l.pcd.state = .pcdRx
  numbers : l.pcd.blockNumber = l.picc.blockNumber

inductive Stage (l : Link) : Turn Block → Prop
  | ready (hready : l.ready = true) (hair : l.air = .silent) (hapart : Apart l)
      (hch : l.picc.isTxChaining = false) : Stage l .asker
  | asked (hready : l.ready = false)
      (hair : (l.pcd.state = .pcdTx ∧ l.air = .silent) ∨ (l.pcd.state = .pcdRx ∧ Asking l l.air))
      (hrx : l.pcd.isRxChaining = false) (hapart : Apart l) (hch : l.picc.isTxChaining = false) :
      Stage l (.asked ⟨l.pcd.txInf, l.pcd.isTxChaining⟩)
  | acking (hwait : Waiting l) (hair : Acking l l.air) (hrx : l.pcd.isRxChaining = false)
      (hcard : Listening l.picc) (howes : l.owes = false) (hch : l.picc.isTxChaining = false)
      (hlast : l.picc.lastPcb = pcbRAck l.picc.blockNumber) : Stage l .asker
  | answering (hwait : Waiting l) (hair : Extending l l.air) (howes : l.owes = true)
      (hpend : l.picc.isTxPending = false)
      (hcard : (l.picc.state = .piccSwtx ∧ l.picc.isWait4Wtx = false) ∨ Extended l.picc)
      (hdone : l.pcd.isTxChaining = false) : Stage l .answerer
  | answered (hwait : Waiting l) (howes : l.owes = false)
      (hair : Extending l l.air ∨
        (l.air = .toPcd ((blockOf l.picc).bytes l.pcd.did) ∧ Listening l.picc))
      (hcard : (l.picc.state = .piccTx ∧ l.picc.isWait4Wtx = false) ∨
        (Listening l.picc ∧ l.picc.lastPcb = pcbIBlock l.picc.blockNumber) ∨
        (Extended l.picc ∧ l.picc.isTxPending = true))
      (hdone : l.pcd.isTxChaining = false) :
      Stage l (.answered ⟨l.picc.txInf, l.picc.isTxChaining⟩)
  | taken (hready : l.ready = false) (hstate : l.pcd.state = .pcdRx)
      (hrx : l.pcd.isRxChaining = true) (hair : Taking l l.air) (hapart : Apart l)
      (hch : l.picc.isTxChaining = true) (hdone : l.pcd.isTxChaining = false) :
      Stage l .answerer

structure Shows (l : Link) (d : Dialogue.State Block) : Prop where
  pcd : Plain l.pcd
  picc : Plain l.picc
  did : l.picc.did = l.pcd.did
  pcdRole : l.pcd.role = .pcd
  piccRole : l.picc.role = .picc
  gaveDown : d.gaveDown = l.pcdGave
  gotDown : d.gotDown = l.piccGot
  gaveUp : d.gaveUp = l.piccGave
  gotUp : d.gotUp = l.pcdGot
  stage : Stage l d.turn

def Link.pcdMoved (l : Link) (g : IsoDep) (ret : ReturnCode) (frames : List Frame)
    (got : Option Block) : Link :=
  { l with
    pcd := g, air := aired .toPicc l.air frames, pcdGot := l.pcdGot ++ got.toList,
    ready := if ret = .none then true else l.ready }

def Link.piccMoved (l : Link) (g : IsoDep) (ret : ReturnCode) (frames : List Frame)
    (got : Option Block) : Link :=
  { l with
    picc := g, air := aired .toPcd l.air frames, piccGot := l.piccGot ++ got.toList,
    owes := if ret = .none then true else l.owes }

theorem pcdMoved_silent (l : Link) (g : IsoDep) (frames : List Frame) :
    l.pcdMoved g .busy frames none = { l with pcd := g, air := aired .toPicc l.air frames } := by
  simp [Link.pcdMoved]

theorem piccMoved_silent (l : Link) (g : IsoDep) (frames : List Frame) :
    l.piccMoved g .busy frames none = { l with picc := g, air := aired .toPcd l.air frames } := by
  simp [Link.piccMoved]

theorem pcdAfter_stops {l l' : Link} {o : Outcome} (hs : o.ret.stops = true) :
    l.pcdAfter o ≠ some l' := by
  rw [Link.pcdAfter]
  cases hr : o.ret <;> simp_all [ReturnCode.stops]

theorem piccAfter_stops {l l' : Link} {o : Outcome} (hs : o.ret.stops = true) :
    l.piccAfter o ≠ some l' := by
  rw [Link.piccAfter]
  cases hr : o.ret <;> simp_all [ReturnCode.stops]

theorem pcdAfter_yields {l l' : Link} {o : Outcome} {g : IsoDep} {ret : ReturnCode}
    {frames : List Frame} {got : Option Block} (hy : Yields o g ret frames got)
    (h : l.pcdAfter o = some l') : l' = l.pcdMoved o.dep ret frames got := by
  rw [Link.pcdAfter, hy.ret, hy.frames, hy.got] at h
  cases ret <;> first | exact (Option.some.inj h).symm | cases h

theorem piccAfter_yields {l l' : Link} {o : Outcome} {g : IsoDep} {ret : ReturnCode}
    {frames : List Frame} {got : Option Block} (hy : Yields o g ret frames got)
    (h : l.piccAfter o = some l') : l' = l.piccMoved o.dep ret frames got := by
  rw [Link.piccAfter, hy.ret, hy.frames, hy.got] at h
  cases ret <;> first | exact (Option.some.inj h).symm | cases h

theorem Apart.pcd_same {l : Link} (h : Apart l) {g : IsoDep} (hs : Same l.pcd g) :
    Apart { l with pcd := g } :=
  ⟨fun he => h.numbers (hs.blockNumber.symm.trans he), h.card, h.owes⟩

theorem Waiting.pcd_same {l : Link} (h : Waiting l) {g : IsoDep} (hs : Same l.pcd g) :
    Waiting { l with pcd := g } :=
  ⟨h.ready, hs.state.trans h.state, hs.blockNumber.trans h.numbers⟩

theorem Stage.pcd_same {l : Link} {turn : Turn Block} (h : Stage l turn) {g : IsoDep}
    (hs : Same l.pcd g) : Stage { l with pcd := g } turn := by
  cases h with
  | ready hready hair hapart hch => exact .ready hready hair (hapart.pcd_same hs) hch
  | asked hready hair hrx hapart hch =>
    rw [← hs.txInf, ← hs.isTxChaining]
    refine .asked hready ?_ (hs.isRxChaining.trans hrx) (hapart.pcd_same hs) hch
    rcases hair with ⟨hst, ha⟩ | ⟨hst, ha⟩
    · exact .inl ⟨hs.state.trans hst, ha⟩
    · exact .inr ⟨hs.state.trans hst, ha.carry hs rfl⟩
  | acking hwait hair hrx hcard howes hch hlast =>
    exact .acking (hwait.pcd_same hs) (hair.carry hs) (hs.isRxChaining.trans hrx) hcard howes hch
      hlast
  | answering hwait hair howes hpend hcard hdone =>
    exact .answering (hwait.pcd_same hs) (hair.carry rfl hs.did) howes hpend hcard
      (hs.isTxChaining.trans hdone)
  | answered hwait howes hair hcard hdone =>
    refine .answered (hwait.pcd_same hs) howes ?_ hcard (hs.isTxChaining.trans hdone)
    rcases hair with hair | ⟨hair, hl⟩
    · exact .inl (hair.carry rfl hs.did)
    · refine .inr ⟨?_, hl⟩
      simp only [hs.did]
      exact hair
  | taken hready hstate hrx hair hapart hch hdone =>
    exact .taken hready (hs.state.trans hstate) (hs.isRxChaining.trans hrx) (hair.carry hs)
      (hapart.pcd_same hs) hch (hs.isTxChaining.trans hdone)

theorem Stage.picc_same {l : Link} {turn : Turn Block} (h : Stage l turn) {g : IsoDep}
    (hs : Same l.picc g) (hl : g.lastPcb = l.picc.lastPcb) : Stage { l with picc := g } turn := by
  have hlisten : Listening l.picc → Listening g := fun hc =>
    ⟨hs.state.trans hc.state, hs.isWait4Wtx.trans hc.wait, hs.isTxPending.trans hc.pending⟩
  have hextend : Extended l.picc → Extended g := fun hc =>
    ⟨hs.state.trans hc.state, hs.isWait4Wtx.trans hc.wait, hl.trans hc.last⟩
  have hapart' : Apart l → Apart { l with picc := g } := fun ha =>
    ⟨fun he => ha.numbers (he.trans hs.blockNumber), hlisten ha.card, ha.owes⟩
  have hwait' : Waiting l → Waiting { l with picc := g } := fun hw =>
    ⟨hw.ready, hw.state, hw.numbers.trans hs.blockNumber.symm⟩
  cases h with
  | ready hready hair hapart hch =>
    exact .ready hready hair (hapart' hapart) (hs.isTxChaining.trans hch)
  | asked hready hair hrx hapart hch =>
    refine .asked hready ?_ hrx (hapart' hapart) (hs.isTxChaining.trans hch)
    rcases hair with ⟨hst, ha⟩ | ⟨hst, ha⟩
    · exact .inl ⟨hst, ha⟩
    · exact .inr ⟨hst, ha.carry (.refl _) hs.blockNumber⟩
  | acking hwait hair hrx hcard howes hch hlast =>
    refine .acking (hwait' hwait) (hair.carry (.refl _)) hrx (hlisten hcard) howes
      (hs.isTxChaining.trans hch) ?_
    exact hl.trans (hlast.trans (by rw [hs.blockNumber]))
  | answering hwait hair howes hpend hcard hdone =>
    refine .answering (hwait' hwait) (hair.carry hs.blockNumber rfl) howes
      (hs.isTxPending.trans hpend) ?_ hdone
    rcases hcard with ⟨hst, hw⟩ | he
    · exact .inl ⟨hs.state.trans hst, hs.isWait4Wtx.trans hw⟩
    · exact .inr (hextend he)
  | answered hwait howes hair hcard hdone =>
    rw [← hs.txInf, ← hs.isTxChaining]
    refine .answered (hwait' hwait) howes ?_ ?_ hdone
    · rcases hair with hair | ⟨hair, hc⟩
      · exact .inl (hair.carry hs.blockNumber rfl)
      · refine .inr ⟨?_, hlisten hc⟩
        simp only [blockOf_same hs]
        exact hair
    · rcases hcard with ⟨hst, hw⟩ | ⟨hc, hp⟩ | ⟨he, hp⟩
      · exact .inl ⟨hs.state.trans hst, hs.isWait4Wtx.trans hw⟩
      · exact .inr (.inl ⟨hlisten hc, hl.trans (hp.trans (by rw [hs.blockNumber]))⟩)
      · exact .inr (.inr ⟨hextend he, hs.isTxPending.trans hp⟩)
  | taken hready hstate hrx hair hapart hch hdone =>
    exact .taken hready hstate hrx (hair.carry (.refl _)) (hapart' hapart)
      (hs.isTxChaining.trans hch) hdone

theorem Waiting.aired {l : Link} (h : Waiting l) (a : Air) : Waiting { l with air := a } :=
  ⟨h.ready, h.state, h.numbers⟩

theorem Apart.aired {l : Link} (h : Apart l) (a : Air) : Apart { l with air := a } :=
  ⟨h.numbers, h.card, h.owes⟩

theorem Stage.silenced {l : Link} {turn : Turn Block} (h : Stage l turn) :
    Stage { l with air := .silent } turn := by
  cases h with
  | ready hready _ hapart hch => exact .ready hready rfl (hapart.aired _) hch
  | asked hready hair hrx hapart hch =>
    refine .asked hready ?_ hrx (hapart.aired _) hch
    rcases hair with ⟨hst, _⟩ | ⟨hst, _⟩
    · exact .inl ⟨hst, rfl⟩
    · exact .inr ⟨hst, .silent⟩
  | acking hwait _ hrx hcard howes hch hlast =>
    exact .acking (hwait.aired _) .silent hrx hcard howes hch hlast
  | answering hwait _ howes hpend hcard hdone =>
    exact .answering (hwait.aired _) .silent howes hpend hcard hdone
  | answered hwait howes _ hcard hdone =>
    exact .answered (hwait.aired _) howes (.inl .silent) hcard hdone
  | taken hready hstate hrx _ hapart hch hdone =>
    exact .taken hready hstate hrx .silent (hapart.aired _) hch hdone

theorem complaint_asks {l : Link} (h : Waiting l) : Asks l.picc (complaint l.pcd) := by
  rw [complaint, h.numbers]
  split
  · exact .inl rfl
  · exact .inr rfl

theorem Stage.complains {l : Link} {turn : Turn Block} (h : Stage l turn)
    (hready : l.ready = false) (hst : l.pcd.state = .pcdRx) :
    Stage { l with air := .toPicc ((complaint l.pcd).bytes l.pcd.did) } turn := by
  cases h with
  | ready hr => exact absurd (hr.symm.trans hready) (by decide)
  | asked hr hair hrx hapart hch =>
    refine .asked hr (.inr ⟨hst, ?_⟩) hrx (hapart.aired _) hch
    rw [complaint, hrx]
    exact .nak
  | acking hwait hair hrx hcard howes hch hlast =>
    refine .acking (hwait.aired _) ?_ hrx hcard howes hch hlast
    rw [complaint, hrx]
    exact .nak
  | answering hwait hair howes hpend hcard hdone =>
    exact .answering (hwait.aired _) (.asks _ (complaint_asks (hwait.aired _))) howes hpend hcard
      hdone
  | answered hwait howes hair hcard hdone =>
    exact .answered (hwait.aired _) howes (.inl (.asks _ (complaint_asks (hwait.aired _)))) hcard
      hdone
  | taken hr hstate hrx hair hapart hch hdone =>
    refine .taken hr hstate hrx ?_ (hapart.aired _) hch hdone
    rw [complaint, hrx]
    exact .ack

def Link.sent (l : Link) : Link :=
  { l with
    pcd := { l.pcd with state := .pcdRx }
    air := .toPicc ((blockOf l.pcd).bytes l.pcd.did) }

theorem Stage.sent {l : Link} {turn : Turn Block} (h : Stage l turn) (hready : l.ready = false)
    (htx : l.pcd.state = .pcdTx) :
    Stage l.sent turn := by
  have hne : l.pcd.state ≠ .pcdRx := by
    rw [htx]
    decide
  cases h with
  | ready hr => exact absurd (hr.symm.trans hready) (by decide)
  | asked hr hair hrx hapart hch =>
    exact .asked hr (.inr ⟨rfl, .block⟩) hrx ⟨hapart.1, hapart.2, hapart.3⟩ hch
  | acking hwait => exact absurd hwait.state hne
  | answering hwait => exact absurd hwait.state hne
  | answered hwait => exact absurd hwait.state hne
  | taken _ hstate => exact absurd hstate hne

theorem Shows.pcd_same {l : Link} {d : Dialogue.State Block} (h : Shows l d) {g : IsoDep}
    (hs : Same l.pcd g) : Shows { l with pcd := g } d :=
  { h with
    pcd := h.pcd.of_same hs
    did := h.did.trans hs.did.symm
    pcdRole := hs.role.trans h.pcdRole
    stage := h.stage.pcd_same hs }

theorem Shows.picc_same {l : Link} {d : Dialogue.State Block} (h : Shows l d) {g : IsoDep}
    (hs : Same l.picc g) (hl : g.lastPcb = l.picc.lastPcb) : Shows { l with picc := g } d :=
  { h with
    picc := h.picc.of_same hs
    did := hs.did.trans h.did
    piccRole := hs.role.trans h.piccRole
    stage := h.stage.picc_same hs hl }

theorem Shows.silenced {l : Link} {d : Dialogue.State Block} (h : Shows l d) :
    Shows { l with air := .silent } d :=
  { h with stage := h.stage.silenced }

end Rfal
