import IrisFirmware.Wifi.Reorder.Packet

namespace RxReorder

open SeqWindow

variable {β : Type*}

def Marked (t : RxReorderTbl β) : Prop :=
  ∀ i, t.bitmap.getLsbD i = (t.slots[i]?.join).isSome

theorem getLsbD_clearBits (b : BitVec 64) (n i : Nat) :
    (clearBits b n).getLsbD i = b.getLsbD (n + i) := by
  rw [clearBits]
  split
  · exact BitVec.getLsbD_ushiftRight b n i
  · rw [BitVec.getLsbD_of_ge b (n + i) (by omega)]
    exact BitVec.getLsbD_zero

theorem Marked.shift {t t' : RxReorderTbl β} {n : Nat} (h : Marked t)
    (hs : t'.slots = shifted n t.slots) (hb : t'.bitmap = clearBits t.bitmap n) : Marked t' := by
  intro i
  rw [hs, hb, getLsbD_clearBits, shifted_join]
  exact h (n + i)

theorem Marked.bitmap_eq_zero_iff {t : RxReorderTbl β} (h : Marked t) :
    t.bitmap = 0 ↔ t.slots.reduceOption = [] := by
  constructor
  · intro h0
    rw [List.reduceOption, List.filterMap_eq_nil_iff]
    intro c hc
    obtain ⟨i, hi⟩ := List.mem_iff_getElem?.mp hc
    have hbit := h i
    rw [h0, hi] at hbit
    cases c with
    | none => rfl
    | some p => simp at hbit
  · intro h0
    rw [List.reduceOption, List.filterMap_eq_nil_iff] at h0
    refine BitVec.eq_of_getLsbD_eq fun i _ => ?_
    rw [h i]
    cases hi : t.slots[i]? with
    | none => simp
    | some c =>
      have hc := h0 c (List.mem_of_getElem? hi)
      simp only [id] at hc
      simp [hc]

theorem numbered_set_perm {p : Payload β} (b : Nat) {slots : List (Option (Payload β))} {i : Nat}
    (h : slots[i]? = some none) :
    (sentOf (numbered b (slots.set i (some p)))).Perm
      (sentOf (numbered b slots) ++ dispatchPkt p) := by
  induction slots generalizing b i with
  | nil => cases h
  | cons c cs ih =>
    cases i with
    | zero =>
      obtain rfl : c = none := Option.some.inj h
      rw [List.set_cons_zero, numbered, numbered, sentOf, List.flatMap_cons, ← sentOf]
      exact List.perm_append_comm
    | succ i =>
      rw [List.set_cons_succ]
      cases c with
      | none => exact ih (b + 1) h
      | some d =>
        have hrest := (ih (b + 1) h).append_left (dispatchPkt d)
        rwa [← List.append_assoc] at hrest

def taken (pktType : PktType) (payload : Payload β) : MlanStatus → List β
  | .success => if pktType ≠ .bar then dispatchPkt payload else []
  | .failure => []

def Within (t : RxReorderTbl β) (seqNum : Nat) : Prop :=
  ∃ i, slotIndex t.startWin seqNum = some i ∧ i < t.winSize

theorem slotIndex_of_le {startWin seqNum : Nat} (h : startWin ≤ seqNum) :
    slotIndex startWin seqNum = some (seqNum - startWin) := by
  rw [slotIndex, if_pos h]

theorem slotIndex_of_lt {startWin seqNum : Nat} (h : seqNum < startWin)
    (hs : startWin ≤ maxTidValue) :
    slotIndex startWin seqNum = some (seqNum + maxTidValue - startWin) := by
  rw [slotIndex, if_neg (Nat.not_le.mpr h), if_pos (le_trans hs (Nat.le_add_left _ _))]

theorem within_of_inside {t : RxReorderTbl β} (h : Placed t) (hw : 1 < t.winSize)
    {seqNum : Nat} (hseq : seqNum < maxTidValue)
    (hin : isOutside t.startWin ((t.startWin + t.winSize - 1) % maxTidValue) seqNum = false) :
    Within t seqNum := by
  obtain ⟨hstart, _, hfits⟩ := h
  simp only [isOutside, Bool.or_eq_false_iff, Bool.and_eq_false_iff,
    decide_eq_false_iff_not] at hin
  rcases Nat.lt_or_ge seqNum t.startWin with hlt | hge
  · refine ⟨_, slotIndex_of_lt hlt hstart, ?_⟩
    simp only [maxTidValue] at *
    omega
  · refine ⟨_, slotIndex_of_le hge, ?_⟩
    simp only [maxTidValue] at *
    omega

theorem movedStartWin_eq {w seqNum : Nat} (hw : 0 < w) (hfits : w ≤ 1023)
    (hseq : seqNum < maxTidValue) :
    movedStartWin w seqNum = (seqNum + 1 + maxTidValue - w) % maxTidValue := by
  rw [movedStartWin]
  rcases Nat.lt_or_ge (seqNum + 1) w with hlt | hge
  · rw [if_neg (Nat.not_le.mpr hlt)]
    simp only [maxTidValue] at *
    omega
  · rw [if_pos hge]
    simp only [maxTidValue] at *
    omega

theorem slotIndex_moved {w seqNum : Nat} (hw : 0 < w) (hfits : w ≤ 1023)
    (hseq : seqNum < maxTidValue) : slotIndex (movedStartWin w seqNum) seqNum = some (w - 1) := by
  have hmoved := movedStartWin_eq hw hfits hseq
  have hle : movedStartWin w seqNum ≤ maxTidValue := by
    rw [hmoved]
    exact Nat.le_of_lt (Nat.mod_lt _ (by decide))
  generalize movedStartWin w seqNum = start at hmoved hle
  rcases Nat.lt_or_ge seqNum start with hlt | hge
  · rw [slotIndex_of_lt hlt hle]
    simp only [maxTidValue] at *
    exact congrArg some (by omega)
  · rw [slotIndex_of_le hge]
    simp only [maxTidValue] at *
    exact congrArg some (by omega)

variable [ULong]

theorem marked_set {t : RxReorderTbl β} {i : Nat} {p : Payload β} (h : Marked t)
    (hi : i < t.slots.length) (hw : i < ULong.width) :
    Marked { t with slots := t.slots.set i (some p), bitmap := t.bitmap ||| ULong.bit i } := by
  have hfits : i < 64 := Nat.lt_of_lt_of_le hw ULong.fits
  intro j
  rw [ULong.bit_eq i hw, BitVec.getLsbD_or, h j, BitVec.getLsbD_shiftLeft, List.getElem?_set]
  rcases eq_or_ne i j with rfl | hne
  · simp [hi, hfits]
  · rw [if_neg hne]
    have hbit : (1#64).getLsbD (j - i) = (decide (j - i = 0)) := by
      rw [BitVec.getLsbD_one]
      simp
    rcases Nat.lt_or_ge j i with hlt | hge
    · simp [hlt]
    · have hsub : j - i ≠ 0 := by omega
      simp [hbit, hsub]

structure Sound (t : RxReorderTbl β) : Prop where
  placed : Placed t
  seq : t.lastSeq < maxTidValue ∨ t.lastSeq = defaultSeqNum
  marked : t.winSize ≤ ULong.width → Marked t

structure Effect (t t' : RxReorderTbl β) (sent taken : List β) : Prop where
  sound : Sound t'
  tid : t'.tid = t.tid
  ta : t'.ta = t.ta
  winSize : t'.winSize = t.winSize
  balance : (sent ++ held t').Perm (held t ++ taken)

theorem Effect.refl {t : RxReorderTbl β} (h : Sound t) : Effect t t [] [] :=
  ⟨h, rfl, rfl, rfl, by simp⟩

theorem Effect.trans {t u v : RxReorderTbl β} {s s' k k' : List β} (h : Effect t u s k)
    (h' : Effect u v s' k') : Effect t v (s ++ s') (k ++ k') where
  sound := h'.sound
  tid := h'.tid.trans h.tid
  ta := h'.ta.trans h.ta
  winSize := h'.winSize.trans h.winSize
  balance := by
    have hmid : (s ++ (held u ++ k')).Perm ((held t ++ k) ++ k') := by
      rw [← List.append_assoc]
      exact h.balance.append_right k'
    rw [List.append_assoc, ← List.append_assoc (held t)]
    exact (h'.balance.append_left s).trans hmid

theorem dispatch_effect {t : RxReorderTbl β} {s : Nat} (h : Sound t) (hs : s ≤ maxTidValue) :
    Effect t (dispatchPktUntilStartWin t s).1 (dispatchPktUntilStartWin t s).2 [] := by
  have hpos : 0 < t.winSize := h.placed.pos
  have hbal := dispatch_held hpos s
  rw [dispatch_eq hpos] at hbal ⊢
  have hlen : (shifted (noPktToSend t s) t.slots).length = t.slots.length := shifted_length _ _
  exact {
    sound := {
      placed := ⟨hs, by rw [RxReorderTbl.winSize, hlen]; exact h.placed.pos,
        by rw [RxReorderTbl.winSize, hlen]; exact h.placed.fits⟩
      seq := h.seq
      marked := fun hw => (h.marked (by rwa [RxReorderTbl.winSize, hlen] at hw)).shift rfl rfl }
    tid := rfl
    ta := rfl
    winSize := hlen
    balance := by rw [hbal, List.append_nil] }

theorem scan_effect {t : RxReorderTbl β} (h : Sound t) :
    Effect t (scanAndDispatch t).1 (scanAndDispatch t).2 [] := by
  have hbal := scan_held t
  rw [scanAndDispatch_eq] at hbal ⊢
  have hlen : (shifted (lead t.slots) t.slots).length = t.slots.length := shifted_length _ _
  exact {
    sound := {
      placed := ⟨Nat.le_of_lt (Nat.mod_lt _ (by decide)),
        by rw [RxReorderTbl.winSize, hlen]; exact h.placed.pos,
        by rw [RxReorderTbl.winSize, hlen]; exact h.placed.fits⟩
      seq := h.seq
      marked := fun hw => (h.marked (by rwa [RxReorderTbl.winSize, hlen] at hw)).shift rfl rfl }
    tid := rfl
    ta := rfl
    winSize := hlen
    balance := by rw [hbal, List.append_nil] }

theorem Effect.of_flags {t u v : RxReorderTbl β} {s k : List β} (h : Effect t u s k)
    (hs : v.slots = u.slots) (hb : v.bitmap = u.bitmap) (hw : v.startWin ≤ maxTidValue)
    (hq : v.lastSeq < maxTidValue ∨ v.lastSeq = defaultSeqNum) (htid : v.tid = u.tid)
    (hta : v.ta = u.ta) : Effect t v s k := by
  have hwin : v.winSize = u.winSize := congrArg List.length hs
  have hp := h.sound.placed
  exact {
    sound := {
      placed := ⟨hw, by rw [hwin]; exact hp.pos, by rw [hwin]; exact hp.fits⟩
      seq := hq
      marked := fun hlong i => by
        rw [hs, hb]
        exact h.sound.marked (by rwa [← hwin]) i }
    tid := htid.trans h.tid
    ta := hta.trans h.ta
    winSize := hwin.trans h.winSize
    balance := by
      rw [held, hs]
      exact h.balance }

theorem flush_effect {t : RxReorderTbl β} (h : Sound t) :
    Effect t (startFlushData t).1 (startFlushData t).2 [] := by
  rcases eq_or_ne (span t.slots) 0 with h0 | hpos
  · rw [startFlushData, findLastSeqnum_eq, if_pos h0]
    exact .refl h
  · rw [flush_eq hpos]
    exact dispatch_effect h (Nat.le_of_lt (Nat.mod_lt _ (by decide)))

theorem flushPending_effect {t : RxReorderTbl β} (h : Sound t) :
    Effect t (flushPending t).1 (flushPending t).2 [] := by
  rw [flushPending]
  split
  · have hflag : Effect t { t with flushData := false } [] [] :=
      (Effect.refl h).of_flags rfl rfl h.placed.start h.seq rfl rfl
    exact hflag.trans (flush_effect hflag.sound)
  · exact .refl h

theorem updateStartWin_effect {t : RxReorderTbl β} (h : Sound t) (seqNum : Nat) :
    Effect t (updateStartWin t seqNum) [] [] := by
  have hmove (hq : t.lastSeq ≠ defaultSeqNum) :
      Effect t { t with startWin := t.lastSeq + 1 } [] [] :=
    (Effect.refl h).of_flags rfl rfl (h.seq.resolve_right hq) h.seq rfl rfl
  rw [updateStartWin]
  split
  · rename_i hc
    split
    · exact hmove hc.2
    · split
      · exact hmove hc.2
      · exact .refl h
  · exact .refl h

theorem checkStart_effect {t : RxReorderTbl β} (h : Sound t) {seqNum : Nat}
    (hseq : seqNum < maxTidValue) (pktType : PktType) (payload : Payload β) :
    (∀ r, checkStart t seqNum pktType payload = .inl r →
      Effect t r.tbl r.sent (taken pktType payload r.ret)) ∧
    (∀ u, checkStart t seqNum pktType payload = .inr u → Effect t u [] []) := by
  have hflags {u : RxReorderTbl β} (hs : u.slots = t.slots) (hb : u.bitmap = t.bitmap)
      (hw : u.startWin = t.startWin) (hq : u.lastSeq < maxTidValue ∨ u.lastSeq = defaultSeqNum)
      (htid : u.tid = t.tid) (hta : u.ta = t.ta) : Effect t u [] [] :=
    (Effect.refl h).of_flags hs hb (hw ▸ h.placed.start) hq htid hta
  rw [checkStart]
  split
  · split
    · refine ⟨fun r hr => (by cases hr), fun u hu => ?_⟩
      rw [← Sum.inr.inj hu]
      exact hflags rfl rfl rfl h.seq rfl rfl
    · simp only
      split
      · split
        · refine ⟨fun r hr => ?_, fun u hu => (by cases hu)⟩
          rw [← Sum.inl.inj hr]
          exact hflags rfl rfl rfl h.seq rfl rfl
        · refine ⟨fun r hr => ?_, fun u hu => (by cases hu)⟩
          rw [← Sum.inl.inj hr]
          have hk := hflags (u := { t with pktCount := t.pktCount + 1, lastSeq := seqNum })
            rfl rfl rfl (.inl hseq) rfl rfl
          exact {
            sound := hk.sound
            tid := rfl
            ta := rfl
            winSize := rfl
            balance := List.perm_append_comm }
      · refine ⟨fun r hr => (by cases hr), fun u hu => ?_⟩
        rw [← Sum.inr.inj hu]
        have hk := hflags (u := { t with pktCount := t.pktCount + 1, checkStartWin := false })
          rfl rfl rfl h.seq rfl rfl
        exact hk.trans (updateStartWin_effect hk.sound seqNum)
  · refine ⟨fun r hr => (by cases hr), fun u hu => ?_⟩
    rw [← Sum.inr.inj hu]
    exact .refl h

theorem noDropResync_effect {t : RxReorderTbl β} (h : Sound t) {seqNum : Nat}
    (hseq : seqNum < maxTidValue) (pktType : PktType) :
    Effect t (noDropResync t seqNum pktType).1 (noDropResync t seqNum pktType).2 [] := by
  rw [noDropResync]
  split
  · have hd := dispatch_effect h (s := (t.startWin + t.winSize) % maxTidValue)
      (Nat.le_of_lt (Nat.mod_lt _ (by decide)))
    simp only
    split
    · exact hd.of_flags rfl rfl (Nat.le_of_lt hseq) hd.sound.seq rfl rfl
    · exact hd.of_flags rfl rfl hd.sound.placed.start hd.sound.seq rfl rfl
  · exact .refl h

theorem settleTimer_effect {t u : RxReorderTbl β} {s k : List β} (h : Effect t u s k)
    (prev : Nat) : Effect t (settleTimer prev u) s k := by
  have hflag (b : Bool) : Effect t { u with timerIsSet := b } s k :=
    h.of_flags rfl rfl h.sound.placed.start h.sound.seq rfl rfl
  rw [settleTimer]
  split
  · exact hflag false
  · split
    · exact hflag true
    · exact h

theorem storePkt_effect {t : RxReorderTbl β} (h : Sound t) {seqNum i : Nat}
    (hi : slotIndex t.startWin seqNum = some i) (hin : i < t.winSize) (payload : Payload β) :
    ∃ u ret, storePkt t seqNum payload = some (u, ret) ∧
      Effect t u [] (taken .other payload ret) := by
  have hget : t.slots[i]? = some t.slots[i] := List.getElem?_eq_getElem hin
  rw [storePkt, hi, Option.bind_some, hget]
  cases hs : t.slots[i] with
  | some q => exact ⟨t, .failure, rfl, .refl h⟩
  | none =>
    have hempty : t.slots[i]? = some none := hget.trans (congrArg some hs)
    have hlen : (t.slots.set i (some payload)).length = t.slots.length := List.length_set
    refine ⟨_, .success, rfl, ?_⟩
    exact {
      sound := {
        placed := ⟨h.placed.start, by rw [RxReorderTbl.winSize, hlen]; exact h.placed.pos,
          by rw [RxReorderTbl.winSize, hlen]; exact h.placed.fits⟩
        seq := h.seq
        marked := fun hw => by
          rw [RxReorderTbl.winSize, hlen] at hw
          exact marked_set (h.marked hw) hin (Nat.lt_of_lt_of_le hin hw) }
      tid := rfl
      ta := rfl
      winSize := hlen
      balance := numbered_set_perm 0 hempty }

theorem shiftWindow_effect {t : RxReorderTbl β} (h : Sound t) (hw : 1 < t.winSize)
    {seqNum : Nat} (hseq : seqNum < maxTidValue) :
    Effect t (shiftWindow t ((t.startWin + t.winSize - 1) % maxTidValue) seqNum).1
        (shiftWindow t ((t.startWin + t.winSize - 1) % maxTidValue) seqNum).2 [] ∧
      Within (shiftWindow t ((t.startWin + t.winSize - 1) % maxTidValue) seqNum).1 seqNum := by
  rw [shiftWindow]
  cases ho : isOutside t.startWin ((t.startWin + t.winSize - 1) % maxTidValue) seqNum with
  | false => exact ⟨.refl h, within_of_inside h.placed hw hseq ho⟩
  | true =>
    have hmoved := movedStartWin_eq h.placed.pos h.placed.fits hseq
    have hle : movedStartWin t.winSize seqNum ≤ maxTidValue := by
      rw [hmoved]
      exact Nat.le_of_lt (Nat.mod_lt _ (by decide))
    have hd := dispatch_effect h hle
    refine ⟨hd, _, slotIndex_moved h.placed.pos h.placed.fits hseq, ?_⟩
    simp only [if_true, hd.winSize]
    exact Nat.sub_lt (h.placed.pos) Nat.one_pos

theorem placePkt_bar (t : RxReorderTbl β) (seqNum : Nat) (payload : Payload β) :
    placePkt t seqNum .bar payload =
      some ⟨(scanAndDispatch t).1, (scanAndDispatch t).2, .success⟩ := rfl

theorem placePkt_failure {t u : RxReorderTbl β} {seqNum : Nat} {pktType : PktType}
    {payload : Payload β} (hne : pktType ≠ .bar)
    (h : storePkt t seqNum payload = some (u, .failure)) :
    placePkt t seqNum pktType payload = some ⟨u, [], .failure⟩ := by
  rw [placePkt, if_pos hne, h]

theorem placePkt_success {t u : RxReorderTbl β} {seqNum : Nat} {pktType : PktType}
    {payload : Payload β} (hne : pktType ≠ .bar)
    (h : storePkt t seqNum payload = some (u, .success)) :
    placePkt t seqNum pktType payload =
      some ⟨(scanAndDispatch u).1, (scanAndDispatch u).2, .success⟩ := by
  rw [placePkt, if_pos hne, h]

theorem placePkt_effect {t : RxReorderTbl β} (pktType : PktType) (h : Sound t) {seqNum : Nat}
    (hin : pktType ≠ .bar → Within t seqNum) (payload : Payload β) :
    ∃ r, placePkt t seqNum pktType payload = some r ∧
      Effect t r.tbl r.sent (taken pktType payload r.ret) := by
  rcases eq_or_ne pktType .bar with rfl | hne
  · exact ⟨_, placePkt_bar t seqNum payload, scan_effect h⟩
  · obtain ⟨i, hi, hlt⟩ := hin hne
    obtain ⟨u, ret, hstore, he⟩ := storePkt_effect h hi hlt payload
    cases ret with
    | failure => exact ⟨_, placePkt_failure hne hstore, he⟩
    | success =>
      refine ⟨_, placePkt_success hne hstore, ?_⟩
      have hs := he.trans (scan_effect he.sound)
      simpa [taken, hne] using hs

theorem admitPkt_effect {t : RxReorderTbl β} (h : Sound t) (hw : 1 < t.winSize)
    {seqNum : Nat} (hseq : seqNum < maxTidValue) (pktType : PktType) (payload : Payload β) :
    ∃ r, admitPkt t seqNum pktType payload = some r ∧
      Effect t r.tbl r.sent (taken pktType payload r.ret) := by
  rw [admitPkt]
  split
  · exact ⟨_, rfl, .refl h⟩
  · have hflag : Effect t { t with forceNoDrop := false } [] [] :=
      (Effect.refl h).of_flags rfl rfl h.placed.start h.seq rfl rfl
    have hbar : (if pktType = .bar then (seqNum + t.winSize - 1) % maxTidValue else seqNum) <
        maxTidValue := by
      split
      · exact Nat.mod_lt _ (by decide)
      · exact hseq
    obtain ⟨hshift, hin⟩ := shiftWindow_effect hflag.sound hw hbar
    obtain ⟨r, hr, he⟩ := placePkt_effect pktType hshift.sound (fun _ => hin) payload
    refine ⟨r.after _, congrArg (Option.map _) hr, ?_⟩
    exact (hflag.trans hshift).trans he

theorem orderPkt_effect {t : RxReorderTbl β} (h : Sound t) (hw : 1 < t.winSize)
    {seqNum : Nat} (hseq : seqNum < maxTidValue) (pktType : PktType) (payload : Payload β) :
    ∃ r, orderPkt t seqNum pktType payload = some r ∧
      Effect t r.tbl r.sent (taken pktType payload r.ret) := by
  obtain ⟨r, hr, he⟩ := admitPkt_effect h hw hseq pktType payload
  exact ⟨_, congrArg (Option.map _) hr, settleTimer_effect he _⟩

theorem rxreorderTblPkt_effect {t : RxReorderTbl β} (h : Sound t) (hw : 1 < t.winSize)
    {seqNum : Nat} (hseq : seqNum < maxTidValue) (pktType : PktType) (payload : Payload β) :
    ∃ r, rxreorderTblPkt t seqNum pktType payload = some r ∧
      Effect t r.tbl r.sent (taken pktType payload r.ret) := by
  have hf := flushPending_effect h
  rw [rxreorderTblPkt]
  split
  · rename_i hc
    refine ⟨_, rfl, ?_⟩
    have hk : taken pktType payload .success = dispatchPkt payload := by
      rw [taken, hc.1]
      rfl
    rw [hk]
    exact hf.trans ⟨hf.sound, rfl, rfl, rfl, List.perm_append_comm⟩
  · obtain ⟨hdone, hgo⟩ := checkStart_effect hf.sound hseq pktType payload
    cases hc : checkStart (flushPending t).1 seqNum pktType payload with
    | inl r => exact ⟨_, rfl, hf.trans (hdone r hc)⟩
    | inr u =>
      have hu := hf.trans (hgo u hc)
      have hn := hu.trans (noDropResync_effect hu.sound hseq pktType)
      obtain ⟨r, hr, he⟩ := orderPkt_effect hn.sound (hn.winSize ▸ hw) hseq pktType payload
      refine ⟨_, congrArg (Option.map _) hr, ?_⟩
      have hall := hn.trans he
      simpa [Reply.after] using hall

end RxReorder
