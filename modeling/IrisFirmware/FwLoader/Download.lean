import IrisFirmware.FwLoader.Frames

namespace FwLoader

def maxLength : Nat := 0xffff
def noOffset : BitVec 32 := 0xffff#32

def btMicFailBit : BitVec 16 := 0x0080#16
def timeoutRecAckBit : BitVec 16 := 0x0004#16

inductive Status where
  | running
  | finished
  | exited
  | timedOut
deriving DecidableEq, Repr

-- `blocks` is the file's part of what went over the line: where each block was asked, and its bytes
structure Loader where
  link : Link
  byteBuffer : List Byte
  currFileSize : BitVec 32
  lastOffsetToSend : BitVec 32
  changeBaudrateBufferLen : Nat
  cmd7ChangeTimeoutLen : Nat
  status : Status
  blocks : List (Nat × List Byte)
deriving DecidableEq, Repr

def Loader.base (s : Loader) : Nat := s.changeBaudrateBufferLen + s.cmd7ChangeTimeoutLen

-- what a copy from the file's buffer reads: past its end, what lies in memory there
def copied (file behind : List Byte) (start len : Nat) : List Byte :=
  (file.drop start ++ behind ++ List.replicate len 0#8).take len

def bufferRead (buffer : List Byte) (len : Nat) : List Byte :=
  (buffer ++ List.replicate (maxLength - buffer.length) 0#8).take len

def sendBlock (offset : BitVec 32) (block : List Byte) (s : Loader) : Loader :=
  { s with
    link := s.link.write block
    blocks := s.blocks ++ [(offset.toNat - s.base, block)] }

def v3SendLenBytes (file behind : List Byte) (len : BitVec 16) (offset : BitVec 32) (s : Loader) :
    Loader :=
  if offset = s.lastOffsetToSend then sendBlock offset (bufferRead s.byteBuffer len.toNat) s
  else if offset.toNat < s.base then { s with status := .exited }
  else
    let block := copied file behind (offset.toNat - s.base) len.toNat
    sendBlock offset block
      { s with
        byteBuffer := block
        currFileSize := BitVec.ofNat 32 (offset.toNat - s.base + len.toNat)
        lastOffsetToSend := offset }

def acked (ack : Byte) (now : BitVec 64) (s : Loader) : Loader :=
  let link := sendAck ack now s.link
  { s with link := link, status := if link.exited then .exited else s.status }

def micReset (s : Loader) : Loader :=
  if s.status = .running then
    { s with changeBaudrateBufferLen := 0, currFileSize := 0#32, lastOffsetToSend := noOffset }
  else s

def answer (file behind : List Byte) (now : BitVec 64) (s : Loader) : Loader :=
  if s.link.newLen ≠ 0#16 then
    if s.link.newError = 0#16 then
      v3SendLenBytes file behind s.link.newLen s.link.newOffset (acked v3RequestAck now s)
    else if s.link.newError &&& btMicFailBit ≠ 0#16 then micReset (acked v3TimeoutAck now s)
    else acked v3TimeoutAck now s
  else if s.link.newError = 0#16 then { acked v3RequestAck now s with status := .finished }
  else if s.link.newError &&& btMicFailBit ≠ 0#16 then micReset (acked v3RequestAck now s)
  else if s.link.newError &&& timeoutRecAckBit ≠ 0#16 then acked v3TimeoutAck now s
  else s

inductive Event where
  | frame (header : Byte) (payload : List Byte) (now : BitVec 64) (behind : List Byte)
  | silence
deriving DecidableEq, Repr

def isDataReq (header : Byte) : Bool := header == v1HeaderDataReq || header == v3HeaderDataReq

def heard (header : Byte) (payload : List Byte) (now : BitVec 64) (s : Loader) : Loader :=
  let link := (readHeaderPayload header payload now s.link).2
  { s with link := link, status := if link.exited then .exited else s.status }

def acts (header : Byte) (payload : List Byte) (now : BitVec 64) (s : Loader) : Bool :=
  (readHeaderPayload header payload now s.link).1 && isDataReq header &&
    (heard header payload now s).status == .running

def step (file : List Byte) (s : Loader) (e : Event) : Loader :=
  if s.status ≠ .running then s
  else
    match e with
    | .silence => { s with status := .timedOut }
    | .frame header payload now behind =>
      if acts header payload now s then answer file behind now (heard header payload now s)
      else heard header payload now s

def run (file : List Byte) (s : Loader) (es : List Event) : Loader := es.foldl (step file) s

def wants (s : Loader) : Event → Option Loader
  | .silence => none
  | .frame header payload now _ =>
    let heard := heard header payload now s
    if s.status = .running ∧ acts header payload now s = true ∧ heard.link.newLen ≠ 0#16 ∧
        heard.link.newError = 0#16 then some heard else none

def Throughout (P : Loader → Prop) (file : List Byte) : Loader → List Event → Prop
  | _, [] => True
  | s, e :: es => (∀ s', wants s e = some s' → P s') ∧ Throughout P file (step file s e) es

def decideWants {P : Loader → Prop} [DecidablePred P] (s : Loader) (e : Event) :
    Decidable (∀ s', wants s e = some s' → P s') :=
  inferInstanceAs (Decidable (∀ s' ∈ wants s e, P s'))

instance decidableThroughout {P : Loader → Prop} [DecidablePred P] {file : List Byte} :
    ∀ (s : Loader) (es : List Event), Decidable (Throughout P file s es)
  | _, [] => .isTrue trivial
  | s, e :: es =>
    @instDecidableAnd _ _ (decideWants s e) (decidableThroughout (step file s e) es)

structure Same (s s' : Loader) : Prop where
  buffer : s'.byteBuffer = s.byteBuffer
  last : s'.lastOffsetToSend = s.lastOffsetToSend
  baudrate : s'.changeBaudrateBufferLen = s.changeBaudrateBufferLen
  timeout : s'.cmd7ChangeTimeoutLen = s.cmd7ChangeTimeoutLen
  blocks : s'.blocks = s.blocks

structure Kept (s s' : Loader) : Prop where
  buffer : s'.byteBuffer = s.byteBuffer
  blocks : s'.blocks = s.blocks
  timeout : s'.cmd7ChangeTimeoutLen = s.cmd7ChangeTimeoutLen
  last : s'.lastOffsetToSend = noOffset ∧ s'.changeBaudrateBufferLen = 0 ∨
    s'.lastOffsetToSend = s.lastOffsetToSend ∧
      s'.changeBaudrateBufferLen = s.changeBaudrateBufferLen

theorem Kept.refl (s : Loader) : Kept s s := ⟨rfl, rfl, rfl, .inr ⟨rfl, rfl⟩⟩

theorem Same.trans {s t u : Loader} (h : Same s t) (h' : Same t u) : Same s u :=
  ⟨h'.buffer.trans h.buffer, h'.last.trans h.last, h'.baudrate.trans h.baudrate,
    h'.timeout.trans h.timeout, h'.blocks.trans h.blocks⟩

theorem Same.kept {s t : Loader} (h : Same s t) : Kept s t :=
  ⟨h.buffer, h.blocks, h.timeout, .inr ⟨h.last, h.baudrate⟩⟩

theorem heard_same (header : Byte) (payload : List Byte) (now : BitVec 64) (s : Loader) :
    Same s (heard header payload now s) := ⟨rfl, rfl, rfl, rfl, rfl⟩

theorem acked_same (ack : Byte) (now : BitVec 64) (s : Loader) : Same s (acked ack now s) :=
  ⟨rfl, rfl, rfl, rfl, rfl⟩

theorem micReset_kept {s t : Loader} (h : Same s t) : Kept s (micReset t) := by
  rw [micReset]
  split
  · exact ⟨h.buffer, h.blocks, h.timeout, .inl ⟨rfl, rfl⟩⟩
  · exact h.kept

theorem answer_kept {file behind : List Byte} {now : BitVec 64} {s : Loader}
    (h : ¬ (s.link.newLen ≠ 0#16 ∧ s.link.newError = 0#16)) :
    Kept s (answer file behind now s) := by
  rw [answer]
  split
  next hlen =>
    split
    next herr => exact absurd ⟨hlen, herr⟩ h
    next =>
      split
      · exact micReset_kept (acked_same _ _ _)
      · exact (acked_same _ _ _).kept
  next =>
    split
    · exact ⟨rfl, rfl, rfl, .inr ⟨rfl, rfl⟩⟩
    · split
      · exact micReset_kept (acked_same _ _ _)
      · split
        · exact (acked_same _ _ _).kept
        · exact ⟨rfl, rfl, rfl, .inr ⟨rfl, rfl⟩⟩

theorem Kept.after {s t u : Loader} (h : Same s t) (h' : Kept t u) : Kept s u := by
  refine ⟨h'.buffer.trans h.buffer, h'.blocks.trans h.blocks, h'.timeout.trans h.timeout, ?_⟩
  rcases h'.last with hnone | ⟨hlast, hbaudrate⟩
  · exact .inl hnone
  · exact .inr ⟨hlast.trans h.last, hbaudrate.trans h.baudrate⟩

theorem Kept.base {s t : Loader} (h : Kept s t) (hlast : t.lastOffsetToSend ≠ noOffset) :
    t.lastOffsetToSend = s.lastOffsetToSend ∧ t.base = s.base := by
  rcases h.last with ⟨hnone, -⟩ | ⟨heq, hbaudrate⟩
  · exact absurd hnone hlast
  · exact ⟨heq, by rw [Loader.base, Loader.base, hbaudrate, h.timeout]⟩

theorem step_cases (file : List Byte) (s : Loader) (e : Event) :
    (∃ now behind s', wants s e = some s' ∧ Same s s' ∧ s'.link.newLen ≠ 0#16 ∧
      step file s e =
        v3SendLenBytes file behind s'.link.newLen s'.link.newOffset (acked v3RequestAck now s')) ∨
    (wants s e = none ∧ Kept s (step file s e)) := by
  cases e with
  | silence =>
    right
    refine ⟨rfl, ?_⟩
    rw [step]
    split <;> exact ⟨rfl, rfl, rfl, .inr ⟨rfl, rfl⟩⟩
  | frame header payload now behind =>
    have hsame := heard_same header payload now s
    by_cases hrun : s.status = .running
    · by_cases hacts : acts header payload now s = true
      · by_cases hreq : (heard header payload now s).link.newLen ≠ 0#16 ∧
            (heard header payload now s).link.newError = 0#16
        · left
          refine ⟨now, behind, heard header payload now s, ?_, hsame, hreq.1, ?_⟩
          · simp only [wants, hrun, hacts, hreq.1, hreq.2, true_and, if_true, ne_eq,
              not_false_eq_true]
          · simp only [step, hrun, hacts, ne_eq, not_true_eq_false, if_false, if_true, answer,
              hreq.1, hreq.2, not_false_eq_true]
        · right
          refine ⟨if_neg (fun h => hreq ⟨h.2.2.1, h.2.2.2⟩), ?_⟩
          simp only [step, hrun, hacts, ne_eq, not_true_eq_false, if_false, if_true]
          exact Kept.after hsame (answer_kept hreq)
      · right
        refine ⟨if_neg (fun h => hacts h.2.1), ?_⟩
        simp only [step, hrun, hacts, ne_eq, not_true_eq_false, if_false]
        exact hsame.kept
    · right
      refine ⟨if_neg (fun h => hrun h.1), ?_⟩
      simp only [step, hrun, ne_eq, not_false_eq_true, if_true]
      exact Kept.refl s

theorem run_throughout {file : List Byte} {P I : Loader → Prop}
    (hstep : ∀ s e, I s → (∀ s', wants s e = some s' → P s') → I (step file s e)) {s : Loader}
    (es : List Event) (hs : I s) (h : Throughout P file s es) : I (run file s es) := by
  induction es generalizing s with
  | nil => exact hs
  | cons e es ih => exact ih (hstep s e hs h.1) h.2

def reportsMicFail (s : Loader) : Event → Prop
  | .silence => False
  | .frame header payload now _ => acts header payload now s = true ∧
      (heard header payload now s).link.newError &&& btMicFailBit ≠ 0#16

theorem acts_running {header : Byte} {payload : List Byte} {now : BitVec 64} {s : Loader}
    (h : acts header payload now s = true) : (heard header payload now s).status = .running ∧
      (heard header payload now s).link.exited = false := by
  have hstatus : (heard header payload now s).status = .running := by
    simp only [acts, Bool.and_eq_true, beq_iff_eq] at h
    exact h.2
  refine ⟨hstatus, ?_⟩
  cases hexit : (heard header payload now s).link.exited
  · rfl
  · simp only [heard] at hexit hstatus
    simp [hexit] at hstatus

theorem wants_running {s s' : Loader} {e : Event} (h : wants s e = some s') :
    s'.status = .running ∧ s'.link.exited = false := by
  cases e with
  | silence => cases h
  | frame header payload now behind =>
    simp only [wants, Option.ite_none_right_eq_some, Option.some.injEq] at h
    obtain ⟨⟨-, hacts, -, -⟩, rfl⟩ := h
    exact acts_running hacts

theorem acked_running {s : Loader} {now : BitVec 64}
    (h : s.status = .running ∧ s.link.exited = false) :
    (acked v3RequestAck now s).status = .running := by
  have hexit : (sendAck v3RequestAck now s.link).exited = false := h.2
  simp only [acked, hexit, Bool.false_eq_true, if_false, h.1]

structure Restarted (s t : Loader) : Prop where
  last : t.lastOffsetToSend = noOffset
  baudrate : t.changeBaudrateBufferLen = 0
  timeout : t.cmd7ChangeTimeoutLen = s.cmd7ChangeTimeoutLen

theorem micReset_restarted {s t : Loader} (h : Same s t) (hrun : (micReset t).status = .running) :
    Restarted s (micReset t) := by
  cases hstatus : t.status with
  | running =>
    rw [micReset, if_pos hstatus]
    exact ⟨rfl, rfl, h.timeout⟩
  | _ =>
    rw [micReset, if_neg (by simp [hstatus]), hstatus] at hrun
    cases hrun

theorem step_restarted {file : List Byte} {s : Loader} {e : Event} (h : reportsMicFail s e)
    (hrun : s.status = .running) (hafter : (step file s e).status = .running) :
    Restarted s (step file s e) := by
  cases e with
  | silence => exact h.elim
  | frame header payload now behind =>
    obtain ⟨hacts, hbit⟩ := h
    have hsame := heard_same header payload now s
    have herr : (heard header payload now s).link.newError ≠ 0#16 := by
      intro hzero
      simp [hzero] at hbit
    simp only [step, hrun, hacts, ne_eq, not_true_eq_false, if_false, if_true, answer, herr, hbit,
      not_false_eq_true] at hafter ⊢
    split at hafter
    next hlen =>
      rw [if_pos hlen]
      exact micReset_restarted (hsame.trans (acked_same _ _ _)) hafter
    next hlen =>
      rw [if_neg hlen]
      exact micReset_restarted (hsame.trans (acked_same _ _ _)) hafter

theorem Restarted.kept {s t u : Loader} (h : Restarted s t) (hk : Kept t u) : Restarted s u := by
  rcases hk.last with ⟨hlast, hbaudrate⟩ | ⟨hlast, hbaudrate⟩
  · exact ⟨hlast, hbaudrate, hk.timeout.trans h.timeout⟩
  · exact ⟨hlast.trans h.last, hbaudrate.trans h.baudrate, hk.timeout.trans h.timeout⟩

end FwLoader
