import IrisFirmware.Library.Pieces
import IrisFirmware.Nfc.IsoDep.Kept
import Mathlib.Tactic.SplitIfs

namespace Rfal

open Pieces (gather)

def apduMaxLen : Nat := 512

structure ApduParam where
  txBuf : List UInt8
  fwt : Nat
  ourFsx : Option Nat
  fsx : Nat
  did : UInt8
deriving DecidableEq, Repr

-- the buffer is the caller's, and each block is moved to its front before it is sent;
-- before the first call there is none, and what arrives stays in the buffer of the activation
structure Apdu where
  param : ApduParam
  started : Bool
  txBuf : List UInt8
  txPos : Nat
  rxBuf : List UInt8
deriving DecidableEq, Repr

def getMaxInfLen (g : IsoDep) : Nat :=
  if g.fsx < 16 ∨ g.fsx > 4096 ∨ g.hdrLen > 3 then 16 - 1 - crcLen else g.fsx - g.hdrLen - crcLen

def Apdu.left (a : Apdu) : Nat := a.param.txBuf.length - a.txPos

def iBlockLen (g : IsoDep) (a : Apdu) : Nat :=
  if a.left > getMaxInfLen g then getMaxInfLen g else a.left

def apdu2IBlockParam (g : IsoDep) (a : Apdu) : TxRxParam :=
  ⟨⟨a.txBuf.take (iBlockLen g a), a.left > getMaxInfLen g⟩, a.param.fwt, a.param.ourFsx,
    a.param.fsx, a.param.did⟩

def startApduTransceive (g : IsoDep) (p : ApduParam) : IsoDep × Apdu :=
  let a : Apdu := ⟨p, true, p.txBuf, 0, []⟩
  let g := { g with ourFsx := p.ourFsx.getD g.ourFsx, fsx := p.fsx }
  (startTransceive g (apdu2IBlockParam g a), a)

structure ApduStatus where
  dep : IsoDep
  apdu : Apdu
  ret : ReturnCode

def Apdu.advance (a : Apdu) (g : IsoDep) : Apdu :=
  let a := { a with txPos := a.txPos + g.txInf.length }
  if iBlockLen g a > 0 then
    { a with
      txBuf := (a.txBuf.drop a.txPos).take (iBlockLen g a) ++ a.txBuf.drop (iBlockLen g a) }
  else a

def Apdu.receive (a : Apdu) (o : Outcome) : ApduStatus :=
  let inf := (o.got.map Block.inf).getD []
  if !a.started then
    if o.ret = .again then ⟨o.dep, a, .notsupp⟩ else ⟨o.dep, { a with rxBuf := inf }, .none⟩
  else if inf ≠ [] ∧ a.rxBuf.length + inf.length > apduMaxLen then ⟨o.dep, a, .nomem⟩
  else ⟨o.dep, { a with rxBuf := a.rxBuf ++ inf }, if o.ret = .again then .busy else .none⟩

def getApduTransceiveStatus (a : Apdu) (o : Outcome) : ApduStatus :=
  match o.ret with
  | .none =>
    if o.dep.isTxChaining then
      let a := a.advance o.dep
      ⟨startTransceive o.dep (apdu2IBlockParam o.dep a), a, .busy⟩
    else a.receive o
  | .again => a.receive o
  | e => ⟨o.dep, a, e⟩

theorem getMaxInfLen_pos (g : IsoDep) : 0 < getMaxInfLen g := by
  rw [getMaxInfLen]
  split_ifs with h
  · decide
  · rw [not_or, not_or] at h
    simp only [crcLen]
    omega

theorem iBlockLen_le (g : IsoDep) (a : Apdu) : iBlockLen g a ≤ a.left := by
  rw [iBlockLen]
  split_ifs with h
  · exact Nat.le_of_lt h
  · exact le_rfl

theorem iBlockLen_pos {g : IsoDep} {a : Apdu} (h : 0 < a.left) : 0 < iBlockLen g a := by
  rw [iBlockLen]
  split_ifs
  · exact getMaxInfLen_pos g
  · exact h

def blockIn (g : IsoDep) : Block := ⟨g.txInf, g.isTxChaining⟩

theorem startTransceive_block (g : IsoDep) (p : TxRxParam) :
    blockIn (startTransceive g p) = p.block := by
  rw [startTransceive]
  split
  · split_ifs <;> rfl
  · rfl

theorem startTransceive_params (g : IsoDep) (p : TxRxParam) :
    (startTransceive g p).fwt = p.fwt ∧ (startTransceive g p).fsx = p.fsx ∧
      (startTransceive g p).did = p.did := by
  rw [startTransceive]
  split
  · split_ifs <;> exact ⟨rfl, rfl, rfl⟩
  · exact ⟨rfl, rfl, rfl⟩

def gatherBlocks (bs : List Block) : Pieces.Gathered UInt8 := gather Block.chaining Block.inf bs

theorem gatherBlocks_more {bs : List Block} {b : Block} (h : b.chaining = true) :
    gatherBlocks (bs ++ [b]) = ⟨(gatherBlocks bs).whole, (gatherBlocks bs).rest ++ b.inf⟩ :=
  Pieces.gather_snoc_more h

theorem gatherBlocks_last {bs : List Block} {b : Block} (h : b.chaining = false) :
    gatherBlocks (bs ++ [b]) = ⟨(gatherBlocks bs).whole ++ [(gatherBlocks bs).rest ++ b.inf], []⟩ :=
  Pieces.gather_snoc_last h

theorem gatherBlocks_length (bs : List Block) :
    (gatherBlocks bs).whole.length = bs.countP (fun b => !b.chaining) :=
  Pieces.gather_length bs

structure InSession (p : ApduParam) (g : IsoDep) : Prop where
  fwt : p.fwt = g.fwt
  ourFsx : p.ourFsx = none
  fsx : p.fsx = g.fsx
  did : p.did = g.did

def sentUpTo (a : Apdu) (g : IsoDep) : Nat := a.txPos + g.txInf.length

structure Midway (a : Apdu) (g : IsoDep) (gave : List Block) (sent : List (List UInt8)) : Prop where
  started : a.started = true
  chaining : g.isTxChaining = true
  block : ∃ before, gave = before ++ [⟨g.txInf, true⟩]
  gathered : ∃ before, sent = before ++ [a.param.txBuf] ∧
    gatherBlocks gave = ⟨before, a.param.txBuf.take (sentUpTo a g)⟩
  more : sentUpTo a g < a.param.txBuf.length
  buffer : a.txBuf.drop (sentUpTo a g) = a.param.txBuf.drop (sentUpTo a g)
  session : InSession a.param g

def Sending (a : Apdu) (g : IsoDep) (gave : List Block) (sent : List (List UInt8)) : Prop :=
  (g.isTxChaining = false ∧ gatherBlocks gave = ⟨sent, []⟩) ∨ Midway a g gave sent

structure Cut (a : Apdu) (g : IsoDep) (b : Block) : Prop where
  started : a.started = true
  inf : b.inf = (a.param.txBuf.drop a.txPos).take (iBlockLen g a)
  chaining : b.chaining = decide (a.left > getMaxInfLen g)
  buffer : a.txBuf.drop (a.txPos + iBlockLen g a) = a.param.txBuf.drop (a.txPos + iBlockLen g a)

theorem Cut.length {a : Apdu} {g : IsoDep} {b : Block} (h : Cut a g b) :
    b.inf.length = iBlockLen g a := by
  have hle := iBlockLen_le g a
  rw [Apdu.left] at hle
  rw [h.inf, List.length_take, List.length_drop]
  omega

theorem Cut.sending {a : Apdu} {g g' : IsoDep} {b : Block} {gave : List Block}
    {before : List (List UInt8)} (h : Cut a g b) (hb : blockIn g' = b)
    (hs : InSession a.param g')
    (hgave : gatherBlocks gave = ⟨before, a.param.txBuf.take a.txPos⟩)
    (hpos : a.txPos ≤ a.param.txBuf.length) :
    Sending a g' (gave ++ [b]) (before ++ [a.param.txBuf]) := by
  have hinf : g'.txInf = b.inf := congrArg Block.inf hb
  have hch : g'.isTxChaining = b.chaining := congrArg Block.chaining hb
  have hsent : sentUpTo a g' = a.txPos + iBlockLen g a := by rw [sentUpTo, hinf, h.length]
  have hpre : a.param.txBuf.take a.txPos ++ b.inf =
      a.param.txBuf.take (a.txPos + iBlockLen g a) := by
    rw [h.inf, List.take_add]
  by_cases hmore : a.left > getMaxInfLen g
  · have hbch : b.chaining = true := by rw [h.chaining, decide_eq_true hmore]
    have hlen : iBlockLen g a = getMaxInfLen g := if_pos hmore
    refine .inr ⟨h.started, hch.trans hbch, ⟨gave, by rw [hinf, ← hbch]⟩, ⟨before, rfl, ?_⟩, ?_, ?_, hs⟩
    · rw [gatherBlocks_more hbch, hgave, hsent, ← hpre]
    · rw [hsent, hlen]
      rw [Apdu.left] at hmore
      omega
    · rw [hsent]
      exact h.buffer
  · have hbch : b.chaining = false := by rw [h.chaining, decide_eq_false hmore]
    have hlen : iBlockLen g a = a.left := if_neg hmore
    have hall : a.txPos + iBlockLen g a = a.param.txBuf.length := by
      rw [hlen, Apdu.left]
      omega
    refine .inl ⟨hch.trans hbch, ?_⟩
    rw [gatherBlocks_last hbch, hgave]
    simp only [hpre, hall, List.take_length]

theorem start_cut (g : IsoDep) (p : ApduParam) :
    Cut ⟨p, true, p.txBuf, 0, []⟩ g (apdu2IBlockParam g ⟨p, true, p.txBuf, 0, []⟩).block :=
  ⟨rfl, rfl, rfl, rfl⟩

theorem Midway.left_pos {a : Apdu} {g : IsoDep} {gave : List Block} {sent : List (List UInt8)}
    (h : Midway a g gave sent) :
    0 < ({ a with txPos := sentUpTo a g } : Apdu).left := by
  have hmore := h.more
  rw [Apdu.left]
  dsimp only
  omega

theorem Midway.cut {a : Apdu} {g : IsoDep} {gave : List Block} {sent : List (List UInt8)}
    (h : Midway a g gave sent) :
    Cut (a.advance g) g (apdu2IBlockParam g (a.advance g)).block ∧
      (a.advance g).param = a.param ∧ (a.advance g).txPos = sentUpTo a g ∧
      (a.advance g).rxBuf = a.rxBuf := by
  have hpos : 0 < iBlockLen g { a with txPos := sentUpTo a g } := iBlockLen_pos h.left_pos
  have hle := iBlockLen_le g { a with txPos := sentUpTo a g }
  have hadv : a.advance g = { a with
      txPos := sentUpTo a g
      txBuf := (a.txBuf.drop (sentUpTo a g)).take (iBlockLen g { a with txPos := sentUpTo a g }) ++
        a.txBuf.drop (iBlockLen g { a with txPos := sentUpTo a g }) } := by
    rw [Apdu.advance]
    exact if_pos hpos
  have hsame : iBlockLen g (a.advance g) = iBlockLen g { a with txPos := sentUpTo a g } := by
    rw [hadv]
    rfl
  generalize hn : iBlockLen g { a with txPos := sentUpTo a g } = n at hpos hle hadv hsame
  have hfront : ((a.txBuf.drop (sentUpTo a g)).take n).length = n := by
    rw [h.buffer, List.length_take, List.length_drop]
    rw [Apdu.left] at hle
    exact min_eq_left hle
  refine ⟨⟨?_, ?_, rfl, ?_⟩, ?_, ?_, ?_⟩
  · rw [hadv]
    exact h.started
  · rw [apdu2IBlockParam, hsame, hadv]
    dsimp only
    rw [List.take_left' hfront, h.buffer]
  · rw [hsame, hadv]
    dsimp only
    have hdrop : ∀ bs : List UInt8, bs.drop (sentUpTo a g + n) = (bs.drop (sentUpTo a g)).drop n :=
      fun bs => by rw [List.drop_drop]
    rw [Nat.add_comm, ← List.drop_drop, List.drop_left' hfront, List.drop_drop,
      Nat.add_comm n, hdrop, hdrop, h.buffer]
  · rw [hadv]
  · rw [hadv]
  · rw [hadv]

structure Carries (first : Nat) (a : Apdu) (g : IsoDep) (idle : Bool) (gave got : List Block)
    (sent took : List (List UInt8)) : Prop where
  sends : Sending a g gave sent
  takes : gatherBlocks got = ⟨took, if idle then [] else a.rxBuf⟩
  ends : idle = true → g.isTxChaining = false
  early : idle = false → a.started = false → took.length < first ∧ a.rxBuf = []
  short : ∀ apdu ∈ took.drop first, apdu.length ≤ apduMaxLen
  fits : idle = false → a.rxBuf.length ≤ apduMaxLen

theorem InSession.kept {p : ApduParam} {g g' : IsoDep} (h : InSession p g) (hk : Kept g g') :
    InSession p g' :=
  ⟨h.fwt.trans hk.fwt.symm, h.ourFsx, h.fsx.trans hk.fsx.symm, h.did.trans hk.did.symm⟩

theorem Sending.kept {a : Apdu} {g g' : IsoDep} {gave : List Block} {sent : List (List UInt8)}
    (h : Sending a g gave sent) (hk : Kept g g') : Sending a g' gave sent := by
  rcases h with ⟨hch, hgave⟩ | h
  · exact .inl ⟨hk.isTxChaining.trans hch, hgave⟩
  · have hup : sentUpTo a g' = sentUpTo a g := by rw [sentUpTo, sentUpTo, hk.txInf]
    refine .inr ⟨h.started, hk.isTxChaining.trans h.chaining, ?_, ?_, ?_, ?_, h.session.kept hk⟩
    · rw [hk.txInf]
      exact h.block
    · rw [hup]
      exact h.gathered
    · rw [hup]
      exact h.more
    · rw [hup]
      exact h.buffer

theorem Sending.received {a a' : Apdu} {g : IsoDep} {gave : List Block} {sent : List (List UInt8)}
    (h : Sending a g gave sent) (hp : a'.param = a.param) (hs : a'.started = a.started)
    (ht : a'.txBuf = a.txBuf) (hx : a'.txPos = a.txPos) : Sending a' g gave sent := by
  rcases h with h | h
  · exact .inl h
  · have hup : sentUpTo a' g = sentUpTo a g := by rw [sentUpTo, sentUpTo, hx]
    refine .inr ⟨hs.trans h.started, h.chaining, h.block, ?_, ?_, ?_, ?_⟩
    · rw [hp, hup]
      exact h.gathered
    · rw [hp, hup]
      exact h.more
    · rw [hp, hup, ht]
      exact h.buffer
    · rw [hp]
      exact h.session

def apduSession (g : IsoDep) (apdu : List UInt8) : ApduParam := ⟨apdu, g.fwt, none, g.fsx, g.did⟩

theorem InSession.param {g : IsoDep} {a : Apdu} (h : InSession a.param g) :
    apdu2IBlockParam g a = session g (apdu2IBlockParam g a).block := by
  rw [apdu2IBlockParam, session, h.fwt, h.ourFsx, h.fsx, h.did]

theorem started_session {g : IsoDep} {p : ApduParam} {b : Block} (h : InSession p g) :
    InSession p (startTransceive g (session g b)) := by
  obtain ⟨hfwt, hfsx, hdid⟩ := startTransceive_params g (session g b)
  exact ⟨h.fwt.trans hfwt.symm, h.ourFsx, h.fsx.trans hfsx.symm, h.did.trans hdid.symm⟩

structure Starts (first : Nat) (a : Apdu) (g g' : IsoDep) (gave got : List Block)
    (sent took : List (List UInt8)) : Prop where
  dep : g' = startTransceive g (session g (blockIn g'))
  inf : a.param.txBuf ≠ [] → (blockIn g').inf ≠ []
  carries : Carries first a g' false (gave ++ [blockIn g']) got sent took

theorem Cut.starts {first : Nat} {a : Apdu} {g : IsoDep} {gave got : List Block}
    {before took : List (List UInt8)} (h : Cut a g (apdu2IBlockParam g a).block)
    (hs : InSession a.param g) (hgave : gatherBlocks gave = ⟨before, a.param.txBuf.take a.txPos⟩)
    (hpos : a.param.txBuf ≠ [] → a.txPos < a.param.txBuf.length)
    (hle : a.txPos ≤ a.param.txBuf.length)
    (hgot : gatherBlocks got = ⟨took, a.rxBuf⟩)
    (hshort : ∀ apdu ∈ took.drop first, apdu.length ≤ apduMaxLen)
    (hfits : a.rxBuf.length ≤ apduMaxLen) :
    Starts first a g (startTransceive g (apdu2IBlockParam g a)) gave got
      (before ++ [a.param.txBuf]) took := by
  have hb := startTransceive_block g (apdu2IBlockParam g a)
  refine ⟨?_, ?_, ?_⟩
  · rw [hb, ← hs.param]
  · intro hne hnil
    have hlen := h.length
    rw [hb] at hnil
    rw [hnil, List.length_nil] at hlen
    have hleft : 0 < a.left := Nat.sub_pos_of_lt (hpos hne)
    exact absurd hlen.symm (iBlockLen_pos hleft).ne'
  · rw [hb]
    have hearly : a.started = false → took.length < first ∧ a.rxBuf = [] := by simp [h.started]
    refine ⟨?_, hgot, by simp, fun _ => hearly, hshort, fun _ => hfits⟩
    refine h.sending hb ?_ hgave hle
    rw [hs.param]
    exact started_session hs

theorem Carries.start {first : Nat} {a : Apdu} {g : IsoDep} {gave got : List Block}
    {sent took : List (List UInt8)} (h : Carries first a g true gave got sent took)
    (apdu : List UInt8) :
    Starts first (startApduTransceive g (apduSession g apdu)).2 g
      (startApduTransceive g (apduSession g apdu)).1 gave got (sent ++ [apdu]) took := by
  have hgave : gatherBlocks gave = ⟨sent, []⟩ := by
    rcases h.sends with ⟨-, hgave⟩ | hmid
    · exact hgave
    · exact absurd (hmid.chaining.symm.trans (h.ends rfl)) (by decide)
  refine (start_cut g (apduSession g apdu)).starts ⟨rfl, rfl, rfl, rfl⟩ ?_ ?_ (Nat.zero_le _)
    h.takes h.short (Nat.zero_le _)
  · rw [hgave, List.take_zero]
  · intro hne
    exact List.length_pos_iff.mpr hne

theorem Midway.starts {first : Nat} {a : Apdu} {g : IsoDep} {gave got : List Block}
    {sent took : List (List UInt8)} (h : Midway a g gave sent)
    (hgot : gatherBlocks got = ⟨took, a.rxBuf⟩)
    (hshort : ∀ apdu ∈ took.drop first, apdu.length ≤ apduMaxLen)
    (hfits : a.rxBuf.length ≤ apduMaxLen) :
    Starts first (a.advance g) g (startTransceive g (apdu2IBlockParam g (a.advance g))) gave got
      sent took ∧ (a.advance g).param.txBuf ≠ [] := by
  obtain ⟨hcut, hparam, hpos, hrx⟩ := h.cut
  obtain ⟨before, rfl, hgave⟩ := h.gathered
  have hmore := h.more
  refine ⟨?_, ?_⟩
  · rw [← hparam]
    refine hcut.starts (by rw [hparam]; exact h.session) ?_ ?_ ?_ (by rw [hrx]; exact hgot) hshort
      (by rw [hrx]; exact hfits)
    · rw [hparam, hpos]
      exact hgave
    · rw [hparam, hpos]
      exact fun _ => hmore
    · rw [hparam, hpos]
      exact hmore.le
  · rw [hparam]
    intro hnil
    rw [hnil, List.length_nil] at hmore
    omega

inductive StatusCase (first : Nat) (a : Apdu) (g : IsoDep) (o : Outcome) (gave got : List Block)
    (sent took : List (List UInt8)) (s : ApduStatus) : Prop
  | next (hret : o.ret = .none) (hbusy : s.ret = .busy)
      (hne : (blockIn s.dep).inf ≠ [])
      (hstarts : Starts first s.apdu o.dep s.dep gave (got ++ o.got.toList) sent took)
  | waits (hret : o.ret ≠ .none) (hbusy : s.ret = .busy) (hdep : s.dep = o.dep)
      (hcarries : Carries first s.apdu o.dep false gave (got ++ o.got.toList) sent took)
  | ends (hret : o.ret = .none) (hnone : s.ret = .none) (hdep : s.dep = o.dep)
      (hcarries : Carries first s.apdu o.dep true gave (got ++ o.got.toList) sent
        (took ++ [s.apdu.rxBuf]))
  | stops (hbusy : s.ret ≠ .busy) (hnone : s.ret ≠ .none)

theorem receive_early {first : Nat} {a : Apdu} {g : IsoDep} {o : Outcome}
    {gave got : List Block} {sent took : List (List UInt8)} {b : Block}
    (h : Carries first a g false gave got sent took) (hk : Kept g o.dep) (hgot : o.got = some b)
    (hret : o.ret = .again ∨ (o.ret = .none ∧ b.chaining = false ∧ g.isTxChaining = false))
    (hstart : a.started = false) : StatusCase first a g o gave got sent took (a.receive o) := by
  obtain ⟨hfirst, hnil⟩ := h.early rfl hstart
  have htakes : gatherBlocks got = ⟨took, a.rxBuf⟩ := h.takes
  rw [Apdu.receive, hgot]
  simp only [Option.map_some, Option.getD_some]
  rw [if_pos (by simp [hstart])]
  rcases hret with hr | ⟨hr, hch, htx⟩
  · rw [if_pos hr]
    exact .stops (by simp) (by simp)
  · rw [if_neg (by simp [hr])]
    have hsends : Sending { a with rxBuf := b.inf } o.dep gave sent :=
      (h.sends.kept hk).received rfl rfl rfl rfl
    refine .ends hr rfl rfl ⟨hsends, ?_, fun _ => hk.isTxChaining.trans htx, by simp, ?_, by simp⟩
    · rw [hgot, Option.toList_some, gatherBlocks_last hch, htakes, hnil]
      rfl
    · have hall : (took ++ [b.inf]).length ≤ first := by
        rw [List.length_append, List.length_singleton]
        exact hfirst
      rw [List.drop_eq_nil_of_le hall]
      simp

theorem receive_case {first : Nat} {a : Apdu} {g : IsoDep} {o : Outcome}
    {gave got : List Block} {sent took : List (List UInt8)} {b : Block}
    (h : Carries first a g false gave got sent took) (hk : Kept g o.dep) (hgot : o.got = some b)
    (hret : (o.ret = .again ∧ b.chaining = true) ∨
      (o.ret = .none ∧ b.chaining = false ∧ g.isTxChaining = false)) :
    StatusCase first a g o gave got sent took (a.receive o) := by
  rcases Bool.eq_false_or_eq_true a.started with hstart | hstart
  swap
  · exact receive_early h hk hgot (hret.imp And.left id) hstart
  have htakes : gatherBlocks got = ⟨took, a.rxBuf⟩ := h.takes
  rw [Apdu.receive, hgot]
  simp only [Option.map_some, Option.getD_some]
  rw [if_neg (by simp [hstart])]
  by_cases hlong : b.inf ≠ [] ∧ a.rxBuf.length + b.inf.length > apduMaxLen
  · rw [if_pos hlong]
    exact .stops (by simp) (by simp)
  · rw [if_neg hlong]
    have hfits : (a.rxBuf ++ b.inf).length ≤ apduMaxLen := by
      rw [List.length_append]
      by_cases hnil : b.inf = []
      · rw [hnil, List.length_nil]
        exact h.fits rfl
      · exact Nat.le_of_not_lt (fun hlt => hlong ⟨hnil, hlt⟩)
    have hsends : Sending { a with rxBuf := a.rxBuf ++ b.inf } o.dep gave sent :=
      (h.sends.kept hk).received rfl rfl rfl rfl
    rcases hret with ⟨hr, hch⟩ | ⟨hr, hch, htx⟩
    · refine .waits (by simp [hr]) (if_pos hr) rfl
        ⟨hsends, ?_, by simp, by simp [hstart], h.short, fun _ => hfits⟩
      rw [hgot, Option.toList_some, gatherBlocks_more hch, htakes]
      rfl
    · refine .ends hr (if_neg (by simp [hr])) rfl
        ⟨hsends, ?_, fun _ => hk.isTxChaining.trans htx, by simp, ?_, by simp⟩
      · rw [hgot, Option.toList_some, gatherBlocks_last hch, htakes]
        rfl
      · intro apdu hmem
        rw [List.drop_append] at hmem
        rcases List.mem_append.mp hmem with hold | hnew
        · exact h.short apdu hold
        · rw [List.mem_singleton.mp (List.mem_of_mem_drop hnew)]
          exact hfits

theorem status_case {first : Nat} {a : Apdu} {g : IsoDep} {o : Outcome} {gave got : List Block}
    {sent took : List (List UInt8)} (h : Carries first a g false gave got sent took)
    (hg : Gives g o) (hmute : g.isTxChaining = true → o.got = none) :
    StatusCase first a g o gave got sent took (getApduTransceiveStatus a o) := by
  have hk := hg.kept
  have htakes : gatherBlocks got = ⟨took, a.rxBuf⟩ := h.takes
  rw [getApduTransceiveStatus]
  cases hr : o.ret with
  | none =>
    simp only
    split_ifs with hch
    · have hold : g.isTxChaining = true := hk.isTxChaining.symm.trans hch
      have hsame : got ++ o.got.toList = got := by rw [hmute hold, Option.toList_none, List.append_nil]
      rcases h.sends.kept hk with ⟨hnot, -⟩ | hmid
      · exact absurd (hch.symm.trans hnot) (by decide)
      · obtain ⟨hstarts, hne⟩ := hmid.starts htakes h.short (h.fits rfl)
        refine .next hr rfl (hstarts.inf hne) ?_
        rw [hsame]
        exact hstarts
    · have hold : g.isTxChaining = false := by
        rw [← hk.isTxChaining]
        simpa using hch
      rcases hg.done hr with ⟨htrue, -⟩ | ⟨inf, hgot⟩
      · exact absurd (htrue.symm.trans hold) (by decide)
      · exact receive_case h hk hgot (.inr ⟨hr, rfl, hold⟩)
  | again =>
    obtain ⟨inf, hgot⟩ := hg.again hr
    exact receive_case h hk hgot (.inl ⟨hr, rfl⟩)
  | busy =>
    refine .waits (by simp [hr]) rfl rfl ?_
    rw [hg.busy hr, Option.toList_none, List.append_nil]
    exact ⟨h.sends.kept hk, h.takes, by simp, h.early, h.short, h.fits⟩
  | rx e => exact .stops (by simp) (by simp)
  | timeout => exact .stops (by simp) (by simp)
  | proto => exact .stops (by simp) (by simp)
  | param => exact .stops (by simp) (by simp)
  | nomem => exact .stops (by simp) (by simp)
  | notsupp => exact .stops (by simp) (by simp)
  | wrongState => exact .stops (by simp) (by simp)
  | sleepReq => exact .stops (by simp) (by simp)
  | internal => exact .stops (by simp) (by simp)

end Rfal
