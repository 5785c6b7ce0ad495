import IrisFirmware.Nfc.IsoDep.Exchange
import Mathlib.Tactic.Ring

namespace Rfal

def pollPcd (g : IsoDep) : List Status → IsoDep × List Frame × Option ReturnCode
  | [] => (g, [], none)
  | s :: ss =>
    let o := dataExchangePcd g s
    if o.ret = .busy then
      let r := pollPcd o.dep ss
      (r.1, o.frames ++ r.2.1, r.2.2)
    else (o.dep, o.frames, some o.ret)

def left (max cnt : UInt8) : Nat := max.toNat + 1 - cnt.toNat

def triesLeft (g : IsoDep) : Nat :=
  (g.maxRetriesI.toNat - g.cntIRetrys.toNat + left g.maxRetriesSWtx g.cntSWtxRetrys) *
      (g.maxRetriesR.toNat + 3) +
    left g.maxRetriesR g.cntRRetrys + left g.maxRetriesSDsl g.cntSDslRetrys +
    if g.state = .pcdTx then 1 else 0

structure Limited (g : IsoDep) : Prop where
  r : g.maxRetriesR ≠ 255
  sWtx : g.maxRetriesSWtx ≠ 255
  sDsl : g.maxRetriesSDsl ≠ 255

theorem left_succ {max cnt : UInt8} (hmax : max ≠ 255) (h : ¬ cnt > max) :
    left max (cnt + 1) + 1 = left max cnt := by
  have hle : cnt.toNat ≤ max.toNat := UInt8.le_iff_toNat_le.mp (UInt8.not_lt.mp h)
  have hlt : max.toNat < 255 := by
    have h255 := max.toNat_lt
    have hne : max.toNat ≠ 255 := fun he => hmax (UInt8.toNat_inj.mp he)
    omega
  have hsum : (cnt + 1).toNat = cnt.toNat + 1 := by
    rw [UInt8.toNat_add]
    exact Nat.mod_eq_of_lt (by simp; omega)
  rw [left, left, hsum]
  omega

structure SameLimits (g g' : IsoDep) : Prop where
  i : g'.maxRetriesI = g.maxRetriesI
  r : g'.maxRetriesR = g.maxRetriesR
  sWtx : g'.maxRetriesSWtx = g.maxRetriesSWtx
  sDsl : g'.maxRetriesSDsl = g.maxRetriesSDsl

theorem Limited.of_same {g g' : IsoDep} (h : Limited g) (hs : SameLimits g g') : Limited g' where
  r := by
    rw [hs.r]
    exact h.r
  sWtx := by
    rw [hs.sWtx]
    exact h.sWtx
  sDsl := by
    rw [hs.sDsl]
    exact h.sDsl

theorem SameLimits.trans {a b c : IsoDep} (h : SameLimits a b) (h' : SameLimits b c) :
    SameLimits a c :=
  ⟨h'.i.trans h.i, h'.r.trans h.r, h'.sWtx.trans h.sWtx, h'.sDsl.trans h.sDsl⟩

structure Costs (g : IsoDep) (n : Nat) (s : Sent) : Prop where
  tries : triesLeft s.dep + n ≤ triesLeft g
  frame : s.frame.toList.length = 1
  limits : SameLimits g s.dep
  waits : s.dep.state ≠ .pcdTx

theorem tx_ok {g : IsoDep} {pcb : UInt8} {room : Nat} {inf : List UInt8}
    (h : (tx g pcb room inf).ret = .none) :
    (tx g pcb room inf).dep = { g with lastPcb := pcb } ∧
      (tx g pcb room inf).frame.toList.length = 1 := by
  rw [tx] at h ⊢
  dsimp only at h ⊢
  split_ifs at h ⊢
  · exact ⟨rfl, rfl⟩

theorem tx_costs {g g' : IsoDep} {n : Nat} {pcb : UInt8} {room : Nat} {inf : List UInt8}
    (h : (tx g' pcb room inf).ret = .none) (htries : triesLeft g' + n ≤ triesLeft g)
    (hlimits : SameLimits g g') (hst : g'.state ≠ .pcdTx) : Costs g n (tx g' pcb room inf) := by
  obtain ⟨hdep, hframe⟩ := tx_ok h
  refine ⟨?_, hframe, ?_, ?_⟩
  · rw [hdep]
    exact htries
  · rw [hdep]
    exact ⟨hlimits.i, hlimits.r, hlimits.sWtx, hlimits.sDsl⟩
  · rw [hdep]
    exact hst

section counted

variable {g : IsoDep} (hl : Limited g) (hst : g.state ≠ .pcdTx)
include hl

theorem bump_r (hr : ¬ g.cntRRetrys > g.maxRetriesR) :
    triesLeft { g with cntRRetrys := g.cntRRetrys + 1 } + 1 = triesLeft g := by
  have h := left_succ hl.r hr
  simp only [triesLeft]
  omega

theorem bump_dsl (hr : ¬ g.cntSDslRetrys > g.maxRetriesSDsl) :
    triesLeft { g with cntSDslRetrys := g.cntSDslRetrys + 1 } + 1 = triesLeft g := by
  have h := left_succ hl.sDsl hr
  simp only [triesLeft]
  omega

theorem bump_wtx (hr : ¬ g.cntSWtxRetrys > g.maxRetriesSWtx) :
    triesLeft { g with cntSWtxRetrys := g.cntSWtxRetrys + 1 } + (g.maxRetriesR.toNat + 3) =
      triesLeft g := by
  have h := left_succ hl.sWtx hr
  simp only [triesLeft, ← h]
  ring

include hst

theorem rAck_costs (h : (handleControlMsg g .rAck 0).ret = .none) :
    Costs g 1 (handleControlMsg g .rAck 0) := by
  rw [handleControlMsg] at h ⊢
  split_ifs at h ⊢ with hr
  · exact tx_costs h (bump_r hl hr).le ⟨rfl, rfl, rfl, rfl⟩ hst

theorem rNak_costs (h : (handleControlMsg g .rNak 0).ret = .none) :
    Costs g 1 (handleControlMsg g .rNak 0) := by
  rw [handleControlMsg] at h ⊢
  split_ifs at h ⊢ with hr
  · exact tx_costs h (bump_r hl (fun hc => hr (.inl hc))).le ⟨rfl, rfl, rfl, rfl⟩ hst

theorem sWtx_costs {w : UInt8} (h : (handleControlMsg g .sWtx w).ret = .none) :
    Costs g (g.maxRetriesR.toNat + 3) (handleControlMsg g .sWtx w) := by
  rw [handleControlMsg] at h ⊢
  split_ifs at h ⊢ with hr hw
  · exact tx_costs h (bump_wtx hl (fun hc => hr ⟨hc, hl.sWtx⟩)).le ⟨rfl, rfl, rfl, rfl⟩ hst

theorem sDsl_costs (h : (handleControlMsg g .sDsl 0).ret = .none) :
    Costs g 1 (handleControlMsg g .sDsl 0) := by
  rw [handleControlMsg] at h ⊢
  split_ifs at h ⊢ with hr hrole
  · refine tx_costs h ?_ ⟨rfl, rfl, rfl, rfl⟩ (by simp)
    have hb := bump_dsl hl hr
    simp only [triesLeft, hst, if_false] at hb ⊢
    simp only [reduceCtorEq, if_false]
    omega
  · exact tx_costs h (bump_dsl hl hr).le ⟨rfl, rfl, rfl, rfl⟩ hst

end counted

structure Spends (g : IsoDep) (o : Outcome) : Prop where
  tries : triesLeft o.dep + o.frames.length ≤ triesLeft g
  less : triesLeft o.dep < triesLeft g
  limits : SameLimits g o.dep

theorem Costs.spends {g g' : IsoDep} {n : Nat} {s : Sent} (h : s.ret = .none → Costs g' n s)
    (hn : triesLeft g' + 1 ≤ triesLeft g + n) (hlimits : SameLimits g g')
    (hbusy : s.outcome.ret = .busy) (hnot : s.ret ≠ .busy) : Spends g s.outcome := by
  rw [Sent.outcome] at hbusy ⊢
  split_ifs at hbusy ⊢ with hret
  · have hc := h hret
    have ht := hc.tries
    refine ⟨?_, ?_, hlimits.trans hc.limits⟩
    · simp only [hc.frame]
      omega
    · simp only
      omega
  · exact absurd hbusy hnot

theorem handleControlMsg_ne_busy (g : IsoDep) (msg : ControlMsg) (w : UInt8) :
    (handleControlMsg g msg w).ret ≠ .busy := by
  have htx : ∀ (g : IsoDep) (pcb : UInt8) (room : Nat) (inf : List UInt8),
      (tx g pcb room inf).ret ≠ .busy := by
    intro g pcb room inf
    rw [tx]
    dsimp only
    split_ifs <;> simp
  cases msg <;> rw [handleControlMsg] <;> split_ifs <;> simp [htx]

theorem reset_r (g : IsoDep) :
    triesLeft { g with cntRRetrys := 0 } ≤ triesLeft g + (g.maxRetriesR.toNat + 1) := by
  simp only [triesLeft, left]
  simp
  omega

theorem reset_i {g : IsoDep} (hst : g.state ≠ .pcdTx) (h : g.cntIRetrys < g.maxRetriesI) :
    triesLeft { g with cntIRetrys := g.cntIRetrys + 1, cntRRetrys := 0, state := .pcdTx } <
      triesLeft g := by
  have hlt : g.cntIRetrys.toNat < g.maxRetriesI.toNat := UInt8.lt_iff_toNat_lt.mp h
  have hsum : (g.cntIRetrys + 1).toNat = g.cntIRetrys.toNat + 1 := by
    have h256 := g.maxRetriesI.toNat_lt
    rw [UInt8.toNat_add]
    exact Nat.mod_eq_of_lt (by simp; omega)
  obtain ⟨k, hk⟩ : ∃ k, g.maxRetriesI.toNat - g.cntIRetrys.toNat = k + 1 :=
    ⟨g.maxRetriesI.toNat - g.cntIRetrys.toNat - 1, by omega⟩
  have hk' : g.maxRetriesI.toNat - (g.cntIRetrys.toNat + 1) = k := by omega
  simp only [triesLeft, hsum, hk, hk', if_neg hst, if_true]
  have hr : left g.maxRetriesR 0 = g.maxRetriesR.toNat + 1 := rfl
  rw [hr, Nat.add_mul, Nat.add_mul, Nat.add_mul]
  omega

section waiting

variable {g : IsoDep} (hl : Limited g)
include hl

theorem rAck_spends {g' : IsoDep} (ht : triesLeft g' ≤ triesLeft g) (hs : SameLimits g g')
    (hst' : g'.state ≠ .pcdTx) (hb : (handleControlMsg g' .rAck 0).outcome.ret = .busy) :
    Spends g (handleControlMsg g' .rAck 0).outcome :=
  Costs.spends (rAck_costs (hl.of_same hs) hst') (by omega) hs hb (handleControlMsg_ne_busy _ _ _)

theorem rNak_spends {g' : IsoDep} (ht : triesLeft g' ≤ triesLeft g) (hs : SameLimits g g')
    (hst' : g'.state ≠ .pcdTx) (hb : (handleControlMsg g' .rNak 0).outcome.ret = .busy) :
    Spends g (handleControlMsg g' .rNak 0).outcome :=
  Costs.spends (rNak_costs (hl.of_same hs) hst') (by omega) hs hb (handleControlMsg_ne_busy _ _ _)

variable (hst : g.state ≠ .pcdTx)
include hst

theorem pcdError_spends {e : RxError} (hb : (pcdError g e).ret = .busy) :
    Spends g (pcdError g e) := by
  rw [pcdError] at hb ⊢
  split_ifs at hb ⊢
  · exact rAck_spends hl le_rfl ⟨rfl, rfl, rfl, rfl⟩ hst hb
  · exact Costs.spends (sDsl_costs hl hst) (by omega) ⟨rfl, rfl, rfl, rfl⟩ hb
      (handleControlMsg_ne_busy _ _ _)
  · exact rNak_spends hl le_rfl ⟨rfl, rfl, rfl, rfl⟩ hst hb
  · cases hb

theorem pcdSBlockIn_spends {pcb behind : UInt8} {frame : Frame}
    (hb : (pcdSBlockIn g pcb frame behind).ret = .busy) :
    Spends g (pcdSBlockIn g pcb frame behind) := by
  rw [pcdSBlockIn] at hb ⊢
  split_ifs at hb ⊢
  · have hr := reset_r g
    have hs : SameLimits g { g with cntSWtxNack := g.cntSWtxNack + 1, cntRRetrys := 0 } :=
      ⟨rfl, rfl, rfl, rfl⟩
    refine Costs.spends (sWtx_costs (hl.of_same hs) hst) ?_ hs hb (handleControlMsg_ne_busy _ _ _)
    have heq : triesLeft { g with cntSWtxNack := g.cntSWtxNack + 1, cntRRetrys := 0 } =
        triesLeft { g with cntRRetrys := 0 } := rfl
    rw [heq]
    dsimp only
    omega
  · have hs : SameLimits g { g with cntSWtxNack := 0 } := ⟨rfl, rfl, rfl, rfl⟩
    refine Costs.spends (sWtx_costs (hl.of_same hs) hst) ?_ hs hb (handleControlMsg_ne_busy _ _ _)
    have heq : triesLeft { g with cntSWtxNack := 0 } = triesLeft g := rfl
    rw [heq]
    omega
  · cases hb

omit hl in
theorem pcdRBlockIn_spends {pcb : UInt8} (hb : (pcdRBlockIn g pcb).ret = .busy) :
    Spends g (pcdRBlockIn g pcb) := by
  rw [pcdRBlockIn] at hb ⊢
  dsimp only at hb ⊢
  split_ifs at hb ⊢ with _ _ _ hi
  · cases hb
  · exact ⟨(reset_i hst hi).le, reset_i hst hi, ⟨rfl, rfl, rfl, rfl⟩⟩
  · cases hb
  · cases hb

theorem pcdIBlockIn_spends {pcb : UInt8} {inf : List UInt8}
    (hb : (pcdIBlockIn g pcb inf).ret = .busy) : Spends g (pcdIBlockIn g pcb inf) := by
  rw [pcdIBlockIn] at hb ⊢
  dsimp only at hb ⊢
  split_ifs at hb ⊢
  · exact absurd hb (handleControlMsg_ne_busy _ _ _)
  · refine rAck_spends hl ?_ ⟨rfl, rfl, rfl, rfl⟩ hst hb
    exact le_rfl
  · cases hb
  · refine rNak_spends hl ?_ ⟨rfl, rfl, rfl, rfl⟩ hst hb
    exact le_rfl

theorem pcdReceive_spends {status : Status} (hs : status ≠ .busy)
    (hb : (pcdReceive g status).ret = .busy) : Spends g (pcdReceive g status) := by
  cases status with
  | busy => exact absurd rfl hs
  | failed e => exact pcdError_spends hl hst hb
  | done frame behind =>
    rw [pcdReceive, pcdProcess] at hb ⊢
    split_ifs at hb ⊢
    · cases hb
    · cases hb
    · cases hb
    · exact pcdSBlockIn_spends hl hst hb
    · exact pcdRBlockIn_spends hst hb
    · exact pcdIBlockIn_spends hl hst hb
    · cases hb

end waiting

theorem send_spends {g : IsoDep} (hl : Limited g) (hst : g.state = .pcdTx) {status : Status}
    (hb : (dataExchangePcd g status).ret = .busy) : Spends g (dataExchangePcd g status) := by
  have htx : ∀ (g : IsoDep) (pcb : UInt8) (room : Nat) (inf : List UInt8),
      (tx g pcb room inf).ret ≠ .busy := by
    intro g pcb room inf
    rw [tx]
    dsimp only
    split_ifs <;> simp
  have hone : triesLeft { g with
      hdrLen := pcdHdrLen g, lastPcb := pcbIBlock g.blockNumber, state := .pcdRx } + 1 =
      triesLeft g := by
    simp only [triesLeft, hst, if_true, reduceCtorEq, if_false]
  rw [dataExchangePcd] at hb ⊢
  simp only [hst] at hb ⊢
  split_ifs at hb ⊢ with hret
  · obtain ⟨hdep, hframe⟩ := tx_ok hret
    simp only [hdep] at hb ⊢
    rcases eq_or_ne status .busy with rfl | hbusy
    · refine ⟨?_, ?_, ⟨rfl, rfl, rfl, rfl⟩⟩
      · simp only [pcdReceive, waits, List.length_append, hframe, List.length_nil]
        omega
      · simp only [pcdReceive, waits]
        omega
    · have hs := pcdReceive_spends (g := { g with
        hdrLen := pcdHdrLen g, lastPcb := pcbIBlock g.blockNumber, state := .pcdRx })
        ⟨hl.r, hl.sWtx, hl.sDsl⟩ (by simp) hbusy hb
      have htries := hs.tries
      have hlimits := hs.limits
      refine ⟨?_, ?_, ⟨hlimits.i, hlimits.r, hlimits.sWtx, hlimits.sDsl⟩⟩
      · simp only [List.length_append, hframe]
        omega
      · simp only
        omega
  · exact absurd hb (htx _ _ _ _)

theorem dataExchangePcd_spends {g : IsoDep} (hl : Limited g) {status : Status}
    (hb : (dataExchangePcd g status).ret = .busy) :
    Spends g (dataExchangePcd g status) ∨
      (status = .busy ∧ dataExchangePcd g status = waits { g with hdrLen := pcdHdrLen g }) := by
  have hl' : Limited { g with hdrLen := pcdHdrLen g } := ⟨hl.r, hl.sWtx, hl.sDsl⟩
  have hheaded : ∀ o : Outcome, Spends { g with hdrLen := pcdHdrLen g } o → Spends g o :=
    fun o ho =>
      ⟨ho.tries, ho.less, ⟨ho.limits.i, ho.limits.r, ho.limits.sWtx, ho.limits.sDsl⟩⟩
  rcases dataExchangePcd_busy hb with hst | hst
  · exact .inl (send_spends hl hst hb)
  · have heq : dataExchangePcd g status = pcdReceive { g with hdrLen := pcdHdrLen g } status := by
      rcases hst with hst | hst
      · exact dataExchangePcd_rx hst status
      · exact dataExchangePcd_waitDsl hst status
    rw [heq] at hb ⊢
    rcases eq_or_ne status .busy with rfl | hbusy
    · exact .inr ⟨rfl, rfl⟩
    · refine .inl (hheaded _ (pcdReceive_spends hl' ?_ hbusy hb))
      rcases hst with hst | hst <;> simp [hst]

theorem toList_short {α : Type} {o : Option α} : o.toList.length ≤ 1 := by
  cases o <;> simp

theorem Sent.outcome_short {s : Sent} : s.outcome.frames.length ≤ 1 := by
  rw [Sent.outcome]
  split_ifs
  · cases s.frame <;> simp
  · simp

theorem pcdReceive_short (g : IsoDep) (status : Status) :
    (pcdReceive g status).frames.length ≤ 1 := by
  cases status with
  | busy => exact Nat.zero_le _
  | failed e =>
    rw [pcdReceive, pcdError]
    split_ifs <;> first | exact Sent.outcome_short | exact Nat.zero_le _
  | done frame behind =>
    rw [pcdReceive, pcdProcess]
    split_ifs
    · exact Nat.zero_le _
    · exact Nat.zero_le _
    · exact Nat.zero_le _
    · rw [pcdSBlockIn]
      split_ifs <;> first | exact Sent.outcome_short | exact Nat.zero_le _
    · rw [pcdRBlockIn]
      dsimp only
      split_ifs <;> exact Nat.zero_le _
    · rw [pcdIBlockIn]
      dsimp only
      split_ifs
      · exact toList_short
      · exact Nat.zero_le _
      · exact Sent.outcome_short
      · exact Nat.zero_le _
      · exact Nat.zero_le _
      · exact Sent.outcome_short
    · exact Nat.zero_le _

theorem dataExchangePcd_short (g : IsoDep) (status : Status) :
    (dataExchangePcd g status).frames.length ≤ 2 := by
  have hin := pcdReceive_short { g with hdrLen := pcdHdrLen g } status
  rw [dataExchangePcd]
  dsimp only
  split
  · exact Nat.zero_le _
  · split_ifs
    · rw [List.length_append]
      exact Nat.add_le_add toList_short (pcdReceive_short _ _)
    · exact Nat.zero_le _
  · omega
  · omega
  · exact Nat.zero_le _

def found (ss : List Status) : Nat := ss.countP (fun s => s ≠ .busy)

theorem reader_gives_up {g : IsoDep} (hl : Limited g) (ss : List Status) :
    (pollPcd g ss).2.1.length ≤ triesLeft g + 2 ∧
      ((pollPcd g ss).2.2 = none → found ss ≤ triesLeft g) := by
  induction ss generalizing g with
  | nil => exact ⟨Nat.zero_le _, fun _ => Nat.zero_le _⟩
  | cons s ss ih =>
    rw [pollPcd]
    dsimp only
    split_ifs with hb
    · rcases dataExchangePcd_spends hl hb with hs | ⟨rfl, heq⟩
      · obtain ⟨hlen, hcount⟩ := ih (hl.of_same hs.limits)
        have htries := hs.tries
        have hless := hs.less
        refine ⟨?_, fun hnone => ?_⟩
        · rw [List.length_append]
          omega
        · have hrest := hcount hnone
          have hcons : found (s :: ss) ≤ found ss + 1 := by
            rw [found, List.countP_cons]
            split_ifs
            · exact le_rfl
            · exact Nat.le_succ _
          omega
      · rw [heq]
        obtain ⟨hlen, hcount⟩ := ih (g := { g with hdrLen := pcdHdrLen g })
          ⟨hl.r, hl.sWtx, hl.sDsl⟩
        refine ⟨hlen, fun hnone => ?_⟩
        have hsame : found (.busy :: ss) = found ss := by simp [found]
        rw [hsame]
        exact hcount hnone
    · refine ⟨?_, fun hnone => by cases hnone⟩
      have hshort := dataExchangePcd_short g s
      exact hshort.trans (Nat.le_add_left _ _)

def freshPcd : IsoDep :=
  startTransceive
    (isoDepInitialize
      ⟨.idle, .pcd, 0, 0, noNad, 0, 0, 0, 0, 0, 65536, 16, 64, false, false, [], 0, 0, 1, false,
        false, false, 2, 3, 0, 20, 3, .nfc⟩)
    ⟨⟨[1, 2], false⟩, 65536, some 64, 16, noDid⟩

theorem freshPcd_gives_up :
    triesLeft freshPcd = 144 ∧
      ((pollPcd freshPcd [.done [0xf2, 0x01] 0, .done [0xf2] 1, .failed .crc]).2.1.length ≤ triesLeft freshPcd + 2 ∧
        ((pollPcd freshPcd [.done [0xf2, 0x01] 0, .done [0xf2] 1, .failed .crc]).2.2 = none →
          found [.done [0xf2, 0x01] 0, .done [0xf2] 1, .failed .crc] ≤ triesLeft freshPcd)) :=
  ⟨by decide, reader_gives_up ⟨by decide, by decide, by decide⟩ _⟩

def Silent (s : Status) : Prop := s = .busy ∨ ∃ e, s = .failed e ∧ retried e = true

def asking (g : IsoDep) : Frame :=
  txBlock g (if g.isRxChaining then pcbRAck g.blockNumber else pcbRNak g.blockNumber) []

def timesAsked (g : IsoDep) (n : Nat) : Nat :=
  if g.maxRetriesR = 255 then n else min n (left g.maxRetriesR g.cntRRetrys)

structure Awaits (g : IsoDep) : Prop where
  state : g.state = .pcdRx
  hdrLen : g.hdrLen = pcdHdrLen g
  extended : g.isRxChaining = true ∨ g.cntSWtxNack < g.maxRetriesSnWtx
  fits : (asking g).length ≤ g.fsx - crcLen

def askedOnce (g : IsoDep) : IsoDep :=
  { g with
    cntRRetrys := g.cntRRetrys + 1,
    lastPcb := if g.isRxChaining then pcbRAck g.blockNumber else pcbRNak g.blockNumber }

theorem Awaits.askedOnce {g : IsoDep} (h : Awaits g) : Awaits (askedOnce g) :=
  ⟨h.state, h.hdrLen, h.extended, h.fits⟩

theorem tx_empty {g : IsoDep} {pcb : UInt8} {room : Nat}
    (h : (txBlock g pcb []).length ≤ g.fsx - crcLen) :
    tx g pcb room [] = ⟨{ g with lastPcb := pcb }, .none, some (txBlock g pcb [])⟩ := by
  have hfits : ¬ g.fsx - crcLen < (txBlock { g with lastPcb := pcb } pcb []).length :=
    Nat.not_lt.mpr h
  rw [tx, if_neg (by simp), if_neg hfits]
  rfl

theorem asks_silence {g : IsoDep} (h : Awaits g) {e : RxError} (he : retried e = true) :
    dataExchangePcd g (.failed e) =
      if g.cntRRetrys > g.maxRetriesR then
        fails { g with cntRRetrys := g.cntRRetrys + 1 } .timeout
      else ⟨askedOnce g, .busy, [asking g], none⟩ := by
  have hsame : { g with hdrLen := pcdHdrLen g } = g := by rw [← h.hdrLen]
  have hfits := h.fits
  rw [dataExchangePcd_rx h.state, hsame, pcdReceive, pcdError, if_pos he]
  by_cases hc : g.isRxChaining = true
  · rw [asking, if_pos hc] at hfits
    rw [if_pos hc, handleControlMsg, asking, askedOnce, if_pos hc]
    by_cases hr : g.cntRRetrys > g.maxRetriesR
    · rw [if_pos hr, if_pos hr]
      rfl
    · rw [if_neg hr, if_neg hr, tx_empty (g := { g with cntRRetrys := g.cntRRetrys + 1 }) hfits]
      rfl
  · have hext : ¬ g.cntSWtxNack ≥ g.maxRetriesSnWtx :=
      UInt8.not_le.mpr (h.extended.resolve_left hc)
    have hwait : ¬ g.state = .pcdWaitDsl := by simp [h.state]
    rw [asking, if_neg hc] at hfits
    rw [if_neg hc, if_neg hwait, handleControlMsg, asking, askedOnce, if_neg hc]
    by_cases hr : g.cntRRetrys > g.maxRetriesR
    · rw [if_pos hr, if_pos (.inl hr)]
      rfl
    · rw [if_neg hr, if_neg (fun ho => ho.elim hr hext),
        tx_empty (g := { g with cntRRetrys := g.cntRRetrys + 1 }) hfits]
      rfl

theorem timesAsked_spent {g : IsoDep} (h : g.cntRRetrys > g.maxRetriesR) (n : Nat) :
    timesAsked g n = 0 := by
  have hlt : g.maxRetriesR.toNat < g.cntRRetrys.toNat := UInt8.lt_iff_toNat_lt.mp h
  have h256 := g.cntRRetrys.toNat_lt
  have hne : g.maxRetriesR ≠ 255 := by
    intro he
    rw [he] at hlt
    simp at hlt
    omega
  rw [timesAsked, if_neg hne, left]
  omega

theorem timesAsked_more {g : IsoDep} (h : ¬ g.cntRRetrys > g.maxRetriesR) (n : Nat) :
    timesAsked g (n + 1) = timesAsked (askedOnce g) n + 1 := by
  rw [timesAsked, timesAsked]
  have hsame : (askedOnce g).maxRetriesR = g.maxRetriesR := rfl
  rw [hsame]
  split_ifs with hne
  · rfl
  · have hleft := left_succ hne h
    have hcnt : (askedOnce g).cntRRetrys = g.cntRRetrys + 1 := rfl
    rw [hcnt]
    omega

theorem timesAsked_le (g : IsoDep) (n : Nat) : timesAsked g n ≤ n := by
  rw [timesAsked]
  split_ifs
  · exact le_rfl
  · exact Nat.min_le_left _ _

theorem silence_ends {g : IsoDep} (h : Awaits g) {ss : List Status} (hss : ∀ s ∈ ss, Silent s) :
    (pollPcd g ss).2 = (List.replicate (timesAsked g (found ss)) (asking g),
      if timesAsked g (found ss) < found ss then some .timeout else none) := by
  induction ss generalizing g with
  | nil =>
    have hzero : timesAsked g (found []) = 0 := Nat.le_zero.mp (timesAsked_le g 0)
    rw [hzero]
    rfl
  | cons s ss ih =>
    have hrest : ∀ s ∈ ss, Silent s := fun s hs => hss s (List.mem_cons_of_mem _ hs)
    rw [pollPcd]
    rcases hss s List.mem_cons_self with rfl | ⟨e, rfl, he⟩
    · have hsame : { g with hdrLen := pcdHdrLen g } = g := by rw [← h.hdrLen]
      have hwait : dataExchangePcd g .busy = waits g := by
        rw [dataExchangePcd_rx h.state, hsame, pcdReceive]
      have hfound : found (.busy :: ss) = found ss := by simp [found]
      rw [hwait, hfound, ← ih h hrest]
      rfl
    · have hfound : found (.failed e :: ss) = found ss + 1 := by simp [found]
      rw [hfound, asks_silence h he]
      by_cases hspent : g.cntRRetrys > g.maxRetriesR
      · rw [if_pos hspent, timesAsked_spent hspent]
        rfl
      · have hnext := ih h.askedOnce hrest
        have hframe : asking (askedOnce g) = asking g := rfl
        rw [hframe] at hnext
        simp only [if_neg hspent, if_true, hnext, timesAsked_more hspent, List.replicate_succ,
          Nat.add_lt_add_iff_right, List.singleton_append]

def sentPcd : IsoDep := (dataExchangePcd freshPcd .busy).dep

theorem sentPcd_silence_ends :
    (pollPcd sentPcd (List.replicate 6 (.failed .timeout))).2 =
      (List.replicate 4 [0xb2], some .timeout) :=
  silence_ends (g := sentPcd)
    ⟨by decide, by decide, .inr (by decide), by decide⟩
    (fun _ hs => .inr ⟨.timeout, List.eq_of_mem_replicate hs, rfl⟩)

end Rfal
