import IrisFirmware.Nfc.IsoDep.Exchange

namespace Rfal

def Msg.head (did : UInt8) (m : Msg) : UInt8 := if did = noDid then m.pcb else m.pcb ||| didBit

theorem Msg.bytes_head (did : UInt8) (m : Msg) (behind : UInt8) :
    (m.bytes did).headD behind = m.head did := by
  rw [Msg.bytes, Msg.head]
  split <;> rfl

theorem Msg.bytes_drop (did : UInt8) (m : Msg) : (m.bytes did).drop (hdrLenOf did) = m.inf := by
  rw [Msg.bytes, hdrLenOf]
  split <;> rfl

theorem Msg.bytes_length (did : UInt8) (m : Msg) :
    (m.bytes did).length = hdrLenOf did + m.inf.length := by
  rw [Msg.bytes, hdrLenOf]
  split
  · rw [List.length_cons, Nat.add_comm]
  · rw [List.length_cons, List.length_cons]
    omega

structure Reads (m : Msg) (pcb : UInt8) (did : Bool) : Prop where
  did : pcbHasDid pcb = did
  nad : pcbHasNad pcb = false
  isI : pcbIsIBlock pcb = true ↔ ∃ bn c inf, m = .i bn c inf
  isAck : pcbIsRAck pcb = true ↔ ∃ bn, m = .ack bn
  isNak : pcbIsRNak pcb = true ↔ ∃ bn, m = .nak bn
  isR : pcbIsRBlock pcb = true ↔ (∃ bn, m = .ack bn) ∨ ∃ bn, m = .nak bn
  isWtx : pcbIsSWtx pcb = true ↔ ∃ w, m = .wtx w
  isDsl : pcbIsSDeselect pcb = true ↔ m = .dsl
  isS : pcbIsSBlock pcb = true ↔ (∃ w, m = .wtx w) ∨ m = .dsl
  bn : (∀ bn c inf, m = .i bn c inf → getBn pcb = bn ∧ pcbIsChaining pcb = c) ∧
    (∀ bn, m = .ack bn → getBn pcb = bn) ∧ ∀ bn, m = .nak bn → getBn pcb = bn

theorem Msg.head_reads {m : Msg} (h : m.Numbered) (did : UInt8) :
    Reads m (m.head did) (did ≠ noDid) := by
  rw [Msg.head]
  cases m with
  | i bn c inf =>
    rcases h with rfl | rfl <;> cases c <;> split <;> constructor <;> simp_all [Msg.pcb] <;> decide
  | ack bn =>
    rcases h with rfl | rfl <;> split <;> constructor <;> simp_all [Msg.pcb] <;> decide
  | nak bn =>
    rcases h with rfl | rfl <;> split <;> constructor <;> simp_all [Msg.pcb] <;> decide
  | wtx w => split <;> constructor <;> simp_all [Msg.pcb] <;> decide
  | dsl => split <;> constructor <;> simp_all [Msg.pcb] <;> decide

structure Same (g g' : IsoDep) : Prop where
  state : g'.state = g.state
  role : g'.role = g.role
  blockNumber : g'.blockNumber = g.blockNumber
  did : g'.did = g.did
  nad : g'.nad = g.nad
  lastDid00 : g'.lastDid00 = g.lastDid00
  isTxChaining : g'.isTxChaining = g.isTxChaining
  isRxChaining : g'.isRxChaining = g.isRxChaining
  txInf : g'.txInf = g.txInf
  isTxPending : g'.isTxPending = g.isTxPending
  isWait4Wtx : g'.isWait4Wtx = g.isWait4Wtx

structure Plain (g : IsoDep) : Prop where
  nad : g.nad = noNad
  lastDid00 : g.lastDid00 = false
  bit : Bit g.blockNumber

theorem Same.refl (g : IsoDep) : Same g g := by
  constructor <;> rfl

theorem Same.trans {a b c : IsoDep} (h : Same a b) (h' : Same b c) : Same a c where
  state := h'.state.trans h.state
  role := h'.role.trans h.role
  blockNumber := h'.blockNumber.trans h.blockNumber
  did := h'.did.trans h.did
  nad := h'.nad.trans h.nad
  lastDid00 := h'.lastDid00.trans h.lastDid00
  isTxChaining := h'.isTxChaining.trans h.isTxChaining
  isRxChaining := h'.isRxChaining.trans h.isRxChaining
  txInf := h'.txInf.trans h.txInf
  isTxPending := h'.isTxPending.trans h.isTxPending
  isWait4Wtx := h'.isWait4Wtx.trans h.isWait4Wtx

theorem Plain.of_same {g g' : IsoDep} (h : Plain g) (hs : Same g g') : Plain g' where
  nad := hs.nad.trans h.nad
  lastDid00 := hs.lastDid00.trans h.lastDid00
  bit := by
    rw [hs.blockNumber]
    exact h.bit

def ReturnCode.stops : ReturnCode → Bool
  | .none | .busy | .again => false
  | _ => true

theorem Plain.sendsDid {g : IsoDep} (h : Plain g) : sendsDid g = decide (g.did ≠ noDid) := by
  rw [Rfal.sendsDid, h.lastDid00]
  simp

theorem txBlock_control {g : IsoDep} (h : Plain g) {m : Msg} (hm : m.Numbered)
    (hni : ∀ bn c inf, m ≠ .i bn c inf) : txBlock g m.pcb m.inf = m.bytes g.did := by
  have hfalse : pcbIsIBlock (m.head g.did) = false := by
    rw [Bool.eq_false_iff]
    intro hi
    obtain ⟨bn, c, inf, he⟩ := (Msg.head_reads hm g.did).isI.mp hi
    exact hni bn c inf he
  rw [Msg.head] at hfalse
  rw [txBlock, computedPcb, h.sendsDid, h.nad, Msg.bytes]
  rcases eq_or_ne g.did noDid with hd | hd
  · rw [if_pos hd] at hfalse
    simp [hd, hfalse]
  · rw [if_neg hd] at hfalse
    simp [hd, hfalse]

theorem txBlock_i {g : IsoDep} (h : Plain g) :
    txBlock g (pcbIBlock g.blockNumber) g.txInf =
      (Msg.i g.blockNumber g.isTxChaining g.txInf).bytes g.did := by
  rw [txBlock, computedPcb, h.sendsDid, h.nad, Msg.bytes]
  have hpcb : pcbIsIBlock (pcbIBlock g.blockNumber) = true ∧
      pcbIsIBlock (pcbIBlock g.blockNumber ||| didBit) = true ∧
      pcbIBlock g.blockNumber ||| didBit ||| chainingBit =
        pcbIBlock g.blockNumber ||| chainingBit ||| didBit := by
    rcases h.bit with hb | hb <;> rw [hb] <;> decide
  rcases eq_or_ne g.did noDid with hd | hd
  · cases hc : g.isTxChaining <;> simp [hd, hpcb.1, Msg.pcb, Msg.inf]
  · cases hc : g.isTxChaining <;> simp [hd, hpcb.2.1, hpcb.2.2, Msg.pcb, Msg.inf]

structure Controlled (g : IsoDep) (m : Msg) (s : Sent) : Prop where
  same : Same g s.dep
  last : s.dep.lastPcb = m.pcb ∨ s.dep.lastPcb = g.lastPcb
  out : (s.ret = .none ∧ s.frame = some (m.bytes g.did) ∧ s.dep.lastPcb = m.pcb) ∨
    (s.ret.stops = true ∧ s.frame = none)

theorem tx_controlled {g g' : IsoDep} (hs : Same g g') {m : Msg} {room : Nat}
    (hb : txBlock { g' with lastPcb := m.pcb } m.pcb m.inf = m.bytes g.did) :
    Controlled g m (tx g' m.pcb room m.inf) := by
  rw [tx]
  simp only [hb]
  have hsame : Same g { g' with lastPcb := m.pcb } :=
    hs.trans (by constructor <;> rfl)
  split_ifs
  · exact ⟨hsame, .inl rfl, .inr ⟨rfl, rfl⟩⟩
  · exact ⟨hsame, .inl rfl, .inr ⟨rfl, rfl⟩⟩
  · exact ⟨hsame, .inl rfl, .inl ⟨rfl, rfl, rfl⟩⟩

theorem control_tx {g g' : IsoDep} (h : Plain g) (hs : Same g g') {m : Msg} (hm : m.Numbered)
    (hni : ∀ bn c inf, m ≠ .i bn c inf) (room : Nat) :
    Controlled g m (tx g' m.pcb room m.inf) := by
  refine tx_controlled hs ?_
  have hs' : Same g { g' with lastPcb := m.pcb } := hs.trans (by constructor <;> rfl)
  rw [txBlock_control (h.of_same hs') hm hni, hs'.did]

def controlOf (g : IsoDep) : ControlMsg → UInt8 → Msg
  | .rAck, _ => .ack g.blockNumber
  | .rNak, _ => .nak g.blockNumber
  | .sWtx, w => .wtx w
  | .sDsl, _ => .dsl

theorem handleControlMsg_controlled {g : IsoDep} (h : Plain g) {msg : ControlMsg}
    (hmsg : msg ≠ .sDsl) (param : UInt8) :
    Controlled g (controlOf g msg param) (handleControlMsg g msg param) := by
  have hstop : ∀ (g' : IsoDep) (e : ReturnCode) (m : Msg), Same g g' → g'.lastPcb = g.lastPcb →
      e.stops = true → Controlled g m ⟨g', e, none⟩ :=
    fun g' e m hs hl he => ⟨hs, .inr hl, .inr ⟨he, rfl⟩⟩
  have hbumpR : Same g { g with cntRRetrys := g.cntRRetrys + 1 } := by constructor <;> rfl
  have hbumpW : Same g { g with cntSWtxRetrys := g.cntSWtxRetrys + 1 } := by constructor <;> rfl
  cases msg with
  | rAck =>
    rw [handleControlMsg]
    split
    · exact hstop _ _ _ hbumpR rfl rfl
    · exact control_tx h hbumpR (m := .ack g.blockNumber) h.bit (by simp) controlRoom
  | rNak =>
    rw [handleControlMsg]
    split
    · exact hstop _ _ _ hbumpR rfl rfl
    · exact control_tx h hbumpR (m := .nak g.blockNumber) h.bit (by simp) controlRoom
  | sWtx =>
    rw [handleControlMsg]
    split
    · exact hstop _ _ _ hbumpW rfl rfl
    · split
      · exact hstop _ _ _ hbumpW rfl rfl
      · exact control_tx h hbumpW (m := .wtx param) trivial (by simp) controlRoom
  | sDsl => exact absurd rfl hmsg

def blockOf (g : IsoDep) : Msg := .i g.blockNumber g.isTxChaining g.txInf

structure BlockSent (g : IsoDep) (s : Sent) : Prop where
  same : Same g s.dep
  last : s.dep.lastPcb = pcbIBlock g.blockNumber
  out : (s.ret = .none ∧ s.frame = some ((blockOf g).bytes g.did)) ∨ s.ret.stops = true

theorem tx_block {g : IsoDep} (h : Plain g) (room : Nat) :
    BlockSent g (tx g (pcbIBlock g.blockNumber) room g.txInf) := by
  have hb := txBlock_i (g := { g with lastPcb := pcbIBlock g.blockNumber })
    ⟨h.nad, h.lastDid00, h.bit⟩
  simp only at hb
  rw [tx]
  simp only [hb]
  split_ifs
  · exact ⟨by constructor <;> rfl, rfl, .inr rfl⟩
  · exact ⟨by constructor <;> rfl, rfl, .inr rfl⟩
  · exact ⟨by constructor <;> rfl, rfl, .inl ⟨rfl, rfl⟩⟩

theorem stops_ne_none {e : ReturnCode} (h : e.stops = true) : e ≠ .none := by
  rintro rfl
  cases h

structure Yields (o : Outcome) (g : IsoDep) (ret : ReturnCode) (frames : List Frame)
    (got : Option Block) : Prop where
  ret : o.ret = ret
  frames : o.frames = frames
  got : o.got = got
  same : Same g o.dep

theorem Yields.withLast {o : Outcome} {g : IsoDep} {ret : ReturnCode} {frames : List Frame}
    {got : Option Block} (h : Yields o g ret frames got) (pcb : UInt8) :
    Yields o { g with lastPcb := pcb } ret frames got :=
  ⟨h.ret, h.frames, h.got, .trans (by constructor <;> rfl) h.same⟩

theorem Controlled.outcome {g : IsoDep} {m : Msg} {s : Sent} (h : Controlled g m s) :
    s.outcome.ret.stops = true ∨
      (Yields s.outcome g .busy [m.bytes g.did] none ∧ s.outcome.dep.lastPcb = m.pcb) := by
  rw [Sent.outcome]
  rcases h.out with ⟨hr, hf, hl⟩ | ⟨hr, hf⟩
  · rw [if_pos hr, hf]
    exact .inr ⟨⟨rfl, rfl, rfl, h.same⟩, hl⟩
  · rw [if_neg (stops_ne_none hr)]
    exact .inl hr

theorem waits_yields (g : IsoDep) : Yields (waits g) g .busy [] none :=
  ⟨rfl, rfl, rfl, .refl g⟩

end Rfal
