import IrisFirmware.Library.Run
import IrisFirmware.Wifi.Reorder.Order

namespace RxReorder

open SeqWindow

variable {β : Type*}

structure Quiet (t : RxReorderTbl β) : Prop where
  checked : t.checkStartWin = false
  kept : t.forceNoDrop = false
  settled : t.flushData = false

inductive Arrival (β : Type*) where
  | packet (s : Nat) (pktType : PktType) (payload : Payload β)
  | flush
deriving DecidableEq, Repr

def Arrival.op : Arrival β → Op (Payload β)
  | .packet s pktType payload => opOf s pktType payload
  | .flush => .flush

def Timely (amsdu : Bool) (w : Window (Payload β)) : Arrival β → Prop
  | .packet s pktType _ =>
    Near w s ∧ Tame w (jumpOf w s pktType) ∧ (pktType = .amsdu → amsdu = true)
  | .flush => True

instance timely_decidable (amsdu : Bool) (w : Window (Payload β)) :
    ∀ a : Arrival β, Decidable (Timely amsdu w a)
  | .packet _ _ _ => inferInstanceAs (Decidable (_ ∧ _ ∧ (_ → _)))
  | .flush => inferInstanceAs (Decidable True)

structure SameFlags (t u : RxReorderTbl β) : Prop where
  check : u.checkStartWin = t.checkStartWin
  flush : u.flushData = t.flushData
  amsdu : u.amsdu = t.amsdu
  drop : t.forceNoDrop = false → u.forceNoDrop = false

theorem SameFlags.refl (t : RxReorderTbl β) : SameFlags t t := ⟨rfl, rfl, rfl, id⟩

theorem SameFlags.trans {t u v : RxReorderTbl β} (h : SameFlags t u) (h' : SameFlags u v) :
    SameFlags t v :=
  ⟨h'.check.trans h.check, h'.flush.trans h.flush, h'.amsdu.trans h.amsdu,
    fun hd => h'.drop (h.drop hd)⟩

theorem Quiet.of_same {t u : RxReorderTbl β} (h : Quiet t) (hs : SameFlags t u) : Quiet u :=
  ⟨hs.check.trans h.checked, hs.drop h.kept, hs.flush.trans h.settled⟩

theorem shiftWindow_flags (t : RxReorderTbl β) (endWin seqNum : Nat) :
    SameFlags t (shiftWindow t endWin seqNum).1 := by
  rw [shiftWindow]
  split
  · exact ⟨rfl, rfl, rfl, id⟩
  · exact .refl t

theorem settleTimer_flags (prev : Nat) (t : RxReorderTbl β) :
    SameFlags t (settleTimer prev t) := by
  rw [settleTimer]
  split
  · exact ⟨rfl, rfl, rfl, id⟩
  · split
    · exact ⟨rfl, rfl, rfl, id⟩
    · exact .refl t

theorem startFlushData_flags (t : RxReorderTbl β) : SameFlags t (startFlushData t).1 := by
  rw [startFlushData]
  split
  · exact .refl t
  · exact ⟨rfl, rfl, rfl, id⟩

theorem flush_follows {t : RxReorderTbl β} {w : Window (Payload β)} (hs : Shows t w)
    (hpos : 0 < t.winSize) (hfits : t.winSize ≤ 1023) :
    Shows (startFlushData t).1 w.flush.1 ∧ (startFlushData t).2 = sentOf w.flush.2 := by
  have hle : span w.cells ≤ 1023 := le_trans (span_le w.cells) (by
    rw [← hs.cells]
    exact hfits)
  rcases Nat.eq_zero_or_pos (span w.cells) with h0 | hspan
  · rw [startFlushData, findLastSeqnum_eq, hs.cells, if_pos h0, Window.flush, h0,
      Window.advance_zero]
    exact ⟨hs, rfl⟩
  · have hne : span t.slots ≠ 0 := by
      rw [hs.cells]
      exact Nat.pos_iff_ne_zero.mp hspan
    have hstart : (t.startWin + span t.slots) % maxTidValue =
        (w.base + span w.cells) % maxTidValue := by
      rw [hs.base, hs.cells, Nat.mod_add_mod]
    rw [flush_eq hne, hstart]
    refine dispatch_advance hs hpos hspan ?_ (.inr le_rfl)
    simp only [maxTidValue]
    omega

structure Ready (amsdu : Bool) (t : RxReorderTbl β) (w : Window (Payload β)) : Prop where
  shown : Shows t w
  quiet : Quiet t
  wide : 1 < w.cells.length
  fits : w.cells.length ≤ 1023
  amsdu_eq : t.amsdu = amsdu

theorem Follows.after {r : Reply β} {w : Window (Payload β)} {o : Op (Payload β)}
    (h : Follows r w (w.step o)) : Shows r.tbl (w.after o).1 ∧ r.sent = sentOf (w.after o).2 := by
  rw [Window.after]
  cases ho : w.step o with
  | none =>
    rw [ho] at h
    exact ⟨h.2.1, h.2.2⟩
  | some v =>
    rw [ho] at h
    exact ⟨h.2.1, h.2.2⟩

structure Pkt (β : Type*) where
  seqNum : Nat
  pktType : PktType
  payload : Payload β
deriving DecidableEq, Repr

def Pkt.arrival (p : Pkt β) : Arrival β := .packet p.seqNum p.pktType p.payload

def passed : Nat → List (Pkt β) → List β
  | _, [] => []
  | last, p :: ps =>
    if last = p.seqNum % maxTidValue then passed last ps
    else (if p.pktType ≠ .bar then dispatchPkt p.payload else []) ++
      passed (p.seqNum % maxTidValue) ps

def Strays (t : RxReorderTbl β) (p : Pkt β) : Prop :=
  p.seqNum % maxTidValue ≠ t.startWin ∧ (p.pktType = .amsdu → t.amsdu = true)

theorem updateStartWin_check (t : RxReorderTbl β) (seqNum : Nat) :
    (updateStartWin t seqNum).checkStartWin = t.checkStartWin ∧
      (updateStartWin t seqNum).flushData = t.flushData := by
  rw [updateStartWin]
  split_ifs <;> exact ⟨rfl, rfl⟩

theorem noDropResync_check (t : RxReorderTbl β) (seqNum : Nat) (pktType : PktType) :
    (noDropResync t seqNum pktType).1.checkStartWin = t.checkStartWin := by
  rw [noDropResync]
  split
  · simp only
    split <;> rfl
  · rfl

theorem flushPending_check (t : RxReorderTbl β) :
    (flushPending t).1.checkStartWin = t.checkStartWin := by
  rw [flushPending]
  split
  · exact (startFlushData_flags _).check
  · rfl

theorem checkStart_over {t u : RxReorderTbl β} {seqNum : Nat} {pktType : PktType}
    {payload : Payload β} (h : checkStart t seqNum pktType payload = .inr u) :
    u.checkStartWin = false := by
  rw [checkStart] at h
  split at h
  · split at h
    · rw [← Sum.inr.inj h]
    · simp only at h
      split at h
      · split at h
        · cases h
        · cases h
      · rw [← Sum.inr.inj h]
        exact (updateStartWin_check _ _).1
  · rename_i hc
    rw [← Sum.inr.inj h]
    simpa using hc

theorem passed_cons (last : Nat) (p : Pkt β) (ps : List (Pkt β)) :
    passed last (p :: ps) = passed last [p] ++ passed (p.seqNum % maxTidValue) ps := by
  rw [passed, passed]
  split
  · rename_i h
    rw [h]
    rfl
  · rw [passed, List.append_nil]

variable [ULong]

def arrive (t : RxReorderTbl β) : Arrival β → Option (RxReorderTbl β × List β)
  | .packet s pktType payload =>
    (rxreorderTblPkt t (s % maxTidValue) pktType payload).map fun r => (r.tbl, r.sent)
  | .flush => some (flushPending { t with flushData := true, timerIsSet := false })

def arriveAll (t : RxReorderTbl β) : List (Arrival β) → Option (RxReorderTbl β × List β)
  | [] => some (t, [])
  | a :: as => (arrive t a).bind fun r =>
      (arriveAll r.1 as).map fun q => (q.1, r.2 ++ q.2)

theorem storePkt_flags {t u : RxReorderTbl β} {seqNum : Nat} {payload : Payload β}
    {ret : MlanStatus} (h : storePkt t seqNum payload = some (u, ret)) : SameFlags t u := by
  rw [storePkt] at h
  obtain ⟨i, _, hs⟩ := Option.bind_eq_some_iff.mp h
  split at hs
  · cases hs
  · rw [← (Prod.mk.inj (Option.some.inj hs)).1]
    exact .refl t
  · rw [← (Prod.mk.inj (Option.some.inj hs)).1]
    exact ⟨rfl, rfl, rfl, id⟩

theorem placePkt_flags {t : RxReorderTbl β} {seqNum : Nat} {pktType : PktType}
    {payload : Payload β} {r : Reply β} (hr : placePkt t seqNum pktType payload = some r) :
    SameFlags t r.tbl := by
  have hstore : ∀ u ret, (if pktType ≠ .bar then storePkt t seqNum payload
      else some (t, .success)) = some (u, ret) → SameFlags t u := by
    intro u ret hu
    split at hu
    · exact storePkt_flags hu
    · rw [← (Prod.mk.inj (Option.some.inj hu)).1]
      exact .refl t
  rw [placePkt] at hr
  split at hr
  · cases hr
  · rename_i u hu
    rw [← Option.some.inj hr]
    exact hstore u _ hu
  · rename_i u hu
    rw [← Option.some.inj hr]
    exact (hstore u _ hu).trans ⟨rfl, rfl, rfl, id⟩

theorem orderPkt_flags {t : RxReorderTbl β} {seqNum : Nat} {pktType : PktType}
    {payload : Payload β} {r : Reply β} (hr : orderPkt t seqNum pktType payload = some r) :
    SameFlags t r.tbl := by
  obtain ⟨a, ha, hra⟩ := Option.map_eq_some_iff.mp hr
  have hadmit : SameFlags t a.tbl := by
    rw [admitPkt] at ha
    split at ha
    · rw [← Option.some.inj ha]
      exact .refl t
    · obtain ⟨b, hb, hab⟩ := Option.map_eq_some_iff.mp ha
      have hflag : SameFlags t { t with forceNoDrop := false } := ⟨rfl, rfl, rfl, fun _ => rfl⟩
      have hplace : SameFlags t b.tbl :=
        (hflag.trans (shiftWindow_flags _ _ _)).trans (placePkt_flags hb)
      rw [← hab]
      exact hplace
  rw [← hra]
  exact hadmit.trans (settleTimer_flags t.startWin a.tbl)

theorem rxreorderTblPkt_quiet {t : RxReorderTbl β} (h : Quiet t) {seqNum : Nat}
    {pktType : PktType} (ham : pktType = .amsdu → t.amsdu = true) (payload : Payload β) :
    rxreorderTblPkt t seqNum pktType payload = orderPkt t seqNum pktType payload := by
  have hf : flushPending t = (t, []) := by
    rw [flushPending, h.settled]
    rfl
  have hpass : ¬ (pktType = .amsdu ∧ t.amsdu = false) := by
    rintro ⟨hty, hfalse⟩
    rw [ham hty] at hfalse
    cases hfalse
  have hc : checkStart t seqNum pktType payload = .inr t := by
    rw [checkStart, h.checked]
    rfl
  have hn : noDropResync t seqNum pktType = (t, []) := by
    rw [noDropResync, h.kept]
    rfl
  rw [rxreorderTblPkt, hf]
  simp only [hpass, if_false, hc, hn]
  cases orderPkt t seqNum pktType payload <;> rfl

theorem arrive_follows {amsdu : Bool} {t : RxReorderTbl β} {w : Window (Payload β)}
    (h : Ready amsdu t w) {a : Arrival β} (ha : Timely amsdu w a) :
    ∃ u, arrive t a = some (u, sentOf (w.after a.op).2) ∧ Ready amsdu u (w.after a.op).1 := by
  have hlen : t.winSize = w.cells.length := congrArg List.length h.shown.cells
  have hready {u : RxReorderTbl β} (hs : Shows u (w.after a.op).1) (hf : SameFlags t u) :
      Ready amsdu u (w.after a.op).1 :=
    ⟨hs, h.quiet.of_same hf, by rw [Window.after_length]; exact h.wide,
      by rw [Window.after_length]; exact h.fits, hf.amsdu.trans h.amsdu_eq⟩
  cases a with
  | packet s pktType payload =>
    obtain ⟨hnear, htame, hty⟩ := ha
    obtain ⟨r, hr, hf⟩ := orderPkt_follows h.shown (by rw [hlen]; exact h.wide)
      (by rw [hlen]; exact h.fits) h.quiet.kept hnear htame payload
    obtain ⟨hshow, hsent⟩ := hf.after
    refine ⟨r.tbl, ?_, hready hshow (orderPkt_flags hr)⟩
    rw [arrive, rxreorderTblPkt_quiet h.quiet (fun ht => h.amsdu_eq.trans (hty ht)) payload, hr,
      Option.map_some, hsent]
    rfl
  | flush =>
    have hs : Shows { t with flushData := false, timerIsSet := false } w :=
      h.shown.congr rfl rfl
    have hpos : 0 < t.winSize := by
      rw [hlen]
      exact Nat.zero_lt_of_lt h.wide
    have hfits : t.winSize ≤ 1023 := by
      rw [hlen]
      exact h.fits
    obtain ⟨hshow, hsent⟩ := flush_follows hs hpos hfits
    have hflag : SameFlags t { t with flushData := false, timerIsSet := false } :=
      ⟨rfl, h.quiet.settled.symm, rfl, id⟩
    exact ⟨_, congrArg some (Prod.ext rfl hsent),
      hready hshow (hflag.trans (startFlushData_flags _))⟩

theorem arriveAll_follows {amsdu : Bool} {t : RxReorderTbl β} {w : Window (Payload β)}
    (h : Ready amsdu t w) {as : List (Arrival β)}
    (has : Run.Along (fun v a => (v.after a.op).1) (Timely amsdu) w as) :
    ∃ u, arriveAll t as = some (u, sentOf (w.runAll (as.map Arrival.op)).2) ∧
      Ready amsdu u (w.runAll (as.map Arrival.op)).1 := by
  induction as generalizing t w with
  | nil => exact ⟨t, rfl, h⟩
  | cons a as ih =>
    obtain ⟨u, hu, hready⟩ := arrive_follows h has.1
    obtain ⟨v, hv, hend⟩ := ih hready has.2
    refine ⟨v, ?_, hend⟩
    rw [arriveAll, hu, Option.bind_some, hv, Option.map_some, List.map_cons, Window.runAll,
      sentOf_append]

theorem delivered_in_order {amsdu : Bool} {t : RxReorderTbl β} {w : Window (Payload β)}
    (h : Ready amsdu t w) {as : List (Arrival β)}
    (has : Run.Along (fun v a => (v.after a.op).1) (Timely amsdu) w as) :
    ∃ u out, arriveAll t as = some (u, sentOf out) ∧
      out.Pairwise (fun x y => x.1 < y.1) ∧
      ∀ x ∈ out, w.base ≤ x.1 ∧ (x ∈ w.held ∨ ∃ a ∈ as, x ∈ a.op.carries) := by
  obtain ⟨u, hu, _⟩ := arriveAll_follows h has
  have hord := Window.runAll_inOrder w (as.map Arrival.op)
  refine ⟨u, _, hu, hord.sorted, fun x hx => ⟨hord.above x hx, ?_⟩⟩
  rcases Window.runAll_mem (.inl hx) with hm | ⟨e, he, hm⟩
  · exact .inl hm
  · obtain ⟨a, ha, rfl⟩ := List.mem_map.mp he
    exact .inr ⟨a, ha, hm⟩

def fresh : RxReorderTbl Nat :=
  { (newNode 0 peer 4 4094 4093 : RxReorderTbl Nat) with checkStartWin := false }

def crossing : List (Arrival Nat) :=
  [.packet 4096 .other (.buffer 3), .packet 4094 .other (.buffer 1),
    .packet 4094 .other (.buffer 8), .packet 4095 .other (.buffer 2),
    .packet 4099 .other (.buffer 4), .packet 4098 .bar .droppedInFw, .flush,
    .packet 4098 .other (.buffer 9)]

omit [ULong] in
theorem crossing_in_order :
    letI := arm32
    ∃ u out, arriveAll fresh crossing = some (u, sentOf out) ∧
      out.Pairwise (fun x y => x.1 < y.1) ∧
      ∀ x ∈ out, 4094 ≤ x.1 ∧
        (x ∈ Window.held ⟨4094, fresh.slots⟩ ∨ ∃ a ∈ crossing, x ∈ a.op.carries) := by
  have hready : Ready false fresh ⟨4094, fresh.slots⟩ :=
    ⟨⟨rfl, rfl⟩, ⟨rfl, rfl, rfl⟩, by decide, by decide, rfl⟩
  exact @delivered_in_order _ arm32 _ _ _ hready _ (by decide)

omit [ULong] in
example : (@arriveAll _ arm32 fresh crossing).map Prod.snd = some [1, 2, 3, 4] := by decide

theorem rxreorderTblPkt_checked {t : RxReorderTbl β} (h : t.checkStartWin = false)
    {seqNum : Nat} {pktType : PktType} {payload : Payload β} {r : Reply β}
    (hr : rxreorderTblPkt t seqNum pktType payload = some r) : r.tbl.checkStartWin = false := by
  have hf : (flushPending t).1.checkStartWin = false := (flushPending_check t).trans h
  rw [rxreorderTblPkt] at hr
  split at hr
  · rw [← Option.some.inj hr]
    exact hf
  · cases hc : checkStart (flushPending t).1 seqNum pktType payload with
    | inl a =>
      rw [checkStart, hf] at hc
      cases hc
    | inr u =>
      rw [hc] at hr
      obtain ⟨a, ha, hra⟩ := Option.map_eq_some_iff.mp hr
      rw [← hra]
      exact (orderPkt_flags ha).check.trans
        ((noDropResync_check u seqNum pktType).trans (checkStart_over hc))

theorem arriveAll_checked {t : RxReorderTbl β} (hs : Sound t) (hw : 1 < t.winSize)
    (h : t.checkStartWin = false) (ps : List (Pkt β)) :
    ∃ u sent, arriveAll t (ps.map Pkt.arrival) = some (u, sent) ∧ u.checkStartWin = false := by
  induction ps generalizing t with
  | nil => exact ⟨t, [], rfl, h⟩
  | cons p ps ih =>
    obtain ⟨r, hr, he⟩ := rxreorderTblPkt_effect hs hw
      (Nat.mod_lt p.seqNum (by decide : 0 < maxTidValue)) p.pktType p.payload
    obtain ⟨u, sent, hu, hc⟩ := ih he.sound (by rw [he.winSize]; exact hw)
      (rxreorderTblPkt_checked h hr)
    refine ⟨u, r.sent ++ sent, ?_, hc⟩
    rw [List.map_cons, arriveAll, Pkt.arrival, arrive, hr, Option.map_some, Option.bind_some, hu]
    rfl

theorem firstPhase_step {t : RxReorderTbl β} (hc : t.checkStartWin = true)
    (hf : t.flushData = false) {p : Pkt β} (hp : Strays t p) :
    ((t.pktCount + 1).toNat < t.winSize / 2 ∧
      ∃ u, arrive t p.arrival = some (u, passed t.lastSeq [p]) ∧ u.checkStartWin = true ∧
        u.flushData = false ∧ u.pktCount = t.pktCount + 1 ∧ u.slots = t.slots ∧
        u.startWin = t.startWin ∧ u.amsdu = t.amsdu ∧ u.lastSeq = p.seqNum % maxTidValue) ∨
    (t.winSize / 2 ≤ (t.pktCount + 1).toNat ∧
      ∀ u sent, arrive t p.arrival = some (u, sent) → u.checkStartWin = false) := by
  obtain ⟨hne, ham⟩ := hp
  have hflush : flushPending t = (t, []) := by
    rw [flushPending, hf]
    rfl
  have hpass : ¬ (p.pktType = .amsdu ∧ t.amsdu = false) := by
    rintro ⟨hty, hfalse⟩
    rw [ham hty] at hfalse
    cases hfalse
  have hcheck : checkStart t (p.seqNum % maxTidValue) p.pktType p.payload =
      if (t.pktCount + 1).toNat < t.winSize / 2 then
        if t.lastSeq = p.seqNum % maxTidValue then
          .inl ⟨{ t with pktCount := t.pktCount + 1 }, [], .failure⟩
        else
          .inl ⟨{ t with pktCount := t.pktCount + 1, lastSeq := p.seqNum % maxTidValue },
            if p.pktType ≠ .bar then dispatchPkt p.payload else [], .success⟩
      else .inr (updateStartWin { t with pktCount := t.pktCount + 1, checkStartWin := false }
        (p.seqNum % maxTidValue)) := by
    rw [checkStart, if_pos hc, if_neg hne]
    rfl
  rcases Nat.lt_or_ge (t.pktCount + 1).toNat (t.winSize / 2) with hlt | hge
  · refine .inl ⟨hlt, ?_⟩
    rw [Pkt.arrival, arrive, rxreorderTblPkt, hflush]
    simp only [hpass, if_false]
    rw [if_pos hlt] at hcheck
    rcases eq_or_ne t.lastSeq (p.seqNum % maxTidValue) with hlast | hlast
    · rw [if_pos hlast] at hcheck
      rw [hcheck]
      refine ⟨{ t with pktCount := t.pktCount + 1 }, ?_, hc, hf, rfl, rfl, rfl, rfl, hlast⟩
      rw [passed, if_pos hlast]
      rfl
    · rw [if_neg hlast] at hcheck
      rw [hcheck]
      refine ⟨{ t with pktCount := t.pktCount + 1, lastSeq := p.seqNum % maxTidValue }, ?_,
        hc, hf, rfl, rfl, rfl, rfl, rfl⟩
      rw [passed, if_neg hlast, passed, List.append_nil]
      rfl
  · refine .inr ⟨hge, fun u sent hu => ?_⟩
    rw [if_neg (Nat.not_lt.mpr hge)] at hcheck
    obtain ⟨r, hr, hru⟩ := Option.map_eq_some_iff.mp hu
    rw [rxreorderTblPkt, hflush] at hr
    simp only [hpass, if_false, hcheck] at hr
    obtain ⟨a, ha, hra⟩ := Option.map_eq_some_iff.mp hr
    rw [← (Prod.mk.inj hru).1, ← hra]
    exact (orderPkt_flags ha).check.trans
      ((noDropResync_check _ _ _).trans (updateStartWin_check _ _).1)

theorem firstPhase_run {t : RxReorderTbl β} (hs : Sound t) (hw : 1 < t.winSize)
    (hc : t.checkStartWin = true) (hf : t.flushData = false)
    (hn : t.pktCount.toNat < t.winSize / 2) {ps : List (Pkt β)} (hps : ∀ p ∈ ps, Strays t p) :
    ∃ u sent, arriveAll t (ps.map Pkt.arrival) = some (u, sent) ∧
      (u.checkStartWin = true ↔
        t.pktCount.toNat + ps.length < t.winSize / 2 ∨ 255 < t.winSize / 2) ∧
      (u.checkStartWin = true → sent = passed t.lastSeq ps ∧ u.slots = t.slots) := by
  induction ps generalizing t with
  | nil => exact ⟨t, [], rfl, by simp [hc, hn], fun _ => ⟨rfl, rfl⟩⟩
  | cons p ps ih =>
    obtain ⟨r, hr, he⟩ := rxreorderTblPkt_effect hs hw
      (Nat.mod_lt p.seqNum (by decide : 0 < maxTidValue)) p.pktType p.payload
    have harrive : arrive t p.arrival = some (r.tbl, r.sent) := by
      rw [Pkt.arrival, arrive, hr, Option.map_some]
    have hrw : 1 < r.tbl.winSize := by
      rw [he.winSize]
      exact hw
    have hcount : (t.pktCount + 1).toNat = (t.pktCount.toNat + 1) % 256 := by
      rw [UInt8.toNat_add]
      rfl
    have hbyte : t.pktCount.toNat < 256 := t.pktCount.toNat_lt
    rcases firstPhase_step hc hf (hps p (by simp)) with ⟨hlt, u, hu, huc, huf, hun, hus, hub, hua,
      hul⟩ | ⟨hge, hover⟩
    · rw [harrive] at hu
      obtain ⟨hru, hrs⟩ := Prod.mk.inj (Option.some.inj hu)
      rw [← hru] at huc huf hun hus hub hua hul
      have hstray : ∀ x ∈ ps, Strays r.tbl x := fun x hx => by
        obtain ⟨h1, h2⟩ := hps x (List.mem_cons_of_mem _ hx)
        exact ⟨by rw [hub]; exact h1, by rw [hua]; exact h2⟩
      obtain ⟨v, sent, hv, hiff, hsame⟩ := ih he.sound hrw huc huf
        (by rw [hun, he.winSize]; exact hlt) hstray
      refine ⟨v, r.sent ++ sent, ?_, ?_, fun hvc => ?_⟩
      · rw [List.map_cons, arriveAll, harrive, Option.bind_some, hv]
        rfl
      · rw [hiff, hun, he.winSize, List.length_cons]
        omega
      · obtain ⟨h1, h2⟩ := hsame hvc
        rw [passed_cons, ← hrs, h1, hul]
        exact ⟨rfl, h2.trans hus⟩
    · obtain ⟨v, sent, hv, hvc⟩ := arriveAll_checked he.sound hrw (hover _ _ harrive) ps
      refine ⟨v, r.sent ++ sent, ?_, ?_, fun h => ?_⟩
      · rw [List.map_cons, arriveAll, harrive, Option.bind_some, hv]
        rfl
      · rw [hvc, List.length_cons]
        constructor
        · intro h
          cases h
        · intro h
          omega
      · rw [hvc] at h
        cases h

-- the byte that counts the packets of the first phase never reaches half of a window above 511
theorem firstPhase_ends {t : RxReorderTbl β} (hs : Sound t) (hw : 1 < t.winSize)
    (hc : t.checkStartWin = true) (hf : t.flushData = false) (hn : t.pktCount = 0)
    (ps : List (Pkt β)) (hps : ∀ p ∈ ps, Strays t p) :
    ∃ u sent, arriveAll t (ps.map Pkt.arrival) = some (u, sent) ∧
      (u.checkStartWin = true ↔ ps.length < t.winSize / 2 ∨ 255 < t.winSize / 2) ∧
      (u.checkStartWin = true → sent = passed t.lastSeq ps ∧ u.slots = t.slots) := by
  have hzero : t.pktCount.toNat = 0 := by
    rw [hn]
    rfl
  have hrun := firstPhase_run hs hw hc hf (by omega) hps
  rwa [hzero, Nat.zero_add] at hrun

def straying : List (Pkt Nat) :=
  (List.range 600).map fun i => ⟨i + 1, .other, .buffer i⟩

omit [ULong] in
theorem firstPhase_endless :
    letI := arm32
    ∃ u sent, arriveAll (newNode 0 peer 512 0 4095) (straying.map Pkt.arrival) = some (u, sent) ∧
      u.checkStartWin = true := by
  have hkept : @Kept _ arm32 (newNode 0 peer 512 0 4095 : RxReorderTbl Nat) :=
    @newNode_kept _ arm32 _ _ _ _ _ (by decide) (by decide) (by decide) (by decide)
  have hwin : (newNode 0 peer 512 0 4095 : RxReorderTbl Nat).winSize = 512 :=
    List.length_replicate
  have hstray : ∀ p ∈ straying, Strays (newNode 0 peer 512 0 4095 : RxReorderTbl Nat) p := by
    intro p hp
    obtain ⟨i, hi, rfl⟩ := List.mem_map.mp hp
    have hlt := List.mem_range.mp hi
    refine ⟨?_, fun h => by cases h⟩
    simp only [maxTidValue, newNode]
    omega
  obtain ⟨u, sent, hu, hiff, _⟩ :=
    @firstPhase_ends _ arm32 _ (@Kept.sound _ arm32 _ hkept) (by rw [hwin]; decide) rfl rfl rfl straying hstray
  exact ⟨u, sent, hu, hiff.mpr (.inr (by rw [hwin]; decide))⟩

end RxReorder
