import IrisFirmware.Wifi.Reorder.Effects
import IrisFirmware.Wifi.Reorder.Private

namespace RxReorder

open SeqWindow

variable {β : Type*}

def Awake (t : RxReorderTbl β) : Prop :=
  held t = [] ∨ t.timerIsSet = true ∨ t.flushData = true

def HeadFree (slots : List (Option (Payload β))) : Prop := slots[0]?.join = none

theorem held_eq_nil {t : RxReorderTbl β} (h : t.slots.reduceOption = []) : held t = [] := by
  rw [held, sentOf, List.flatMap_eq_nil_iff]
  intro x hx
  have hmem : x.2 ∈ (numbered 0 t.slots).map Prod.snd := List.mem_map_of_mem hx
  rw [numbered_snd, h] at hmem
  cases hmem

theorem held_replicate {t : RxReorderTbl β} {n : Nat} (h : t.slots = List.replicate n none) :
    held t = [] := by
  rw [held, h, numbered_replicate]
  rfl

theorem settleTimer_awake {u : RxReorderTbl β} (h : Marked u) (prev : Nat) :
    Awake (settleTimer prev u) := by
  rw [settleTimer]
  split
  · rename_i h0
    exact .inl (held_eq_nil (h.bitmap_eq_zero_iff.mp h0))
  · split
    · exact .inr (.inl rfl)
    · rename_i hset
      refine .inr (.inl ?_)
      simp only [Bool.or_eq_true, not_or] at hset
      simpa using hset.1

theorem flushPending_awake {t : RxReorderTbl β} (h : Placed t) (ha : Awake t) :
    Awake (flushPending t).1 := by
  rw [flushPending]
  split
  · have hp : Placed { t with flushData := false } := ⟨h.start, h.pos, h.fits⟩
    exact .inl (held_replicate (flush_all hp).2)
  · exact ha

theorem Awake.congr {t u : RxReorderTbl β} (ha : Awake t) (hs : u.slots = t.slots)
    (ht : u.timerIsSet = t.timerIsSet) (hf : u.flushData = t.flushData) : Awake u := by
  rw [Awake, held, hs, ht, hf]
  exact ha

theorem checkStart_awake {t : RxReorderTbl β} {seqNum : Nat} {pktType : PktType}
    {payload : Payload β} {r : Reply β} (ha : Awake t)
    (h : checkStart t seqNum pktType payload = .inl r) : Awake r.tbl := by
  rw [checkStart] at h
  split at h
  · split at h
    · cases h
    · simp only at h
      split at h
      · split at h
        · rw [← Sum.inl.inj h]
          exact ha.congr rfl rfl rfl
        · rw [← Sum.inl.inj h]
          exact ha.congr rfl rfl rfl
      · cases h
  · cases h

theorem headFree_replicate (n : Nat) :
    HeadFree (List.replicate n (none : Option (Payload β))) := by
  rw [HeadFree, List.getElem?_replicate]
  split <;> rfl

theorem scan_headFree (t : RxReorderTbl β) : HeadFree (scanAndDispatch t).1.slots := by
  rw [scanAndDispatch_eq, HeadFree, shifted_join, Nat.add_zero]
  exact lead_getElem? t.slots

theorem flushPending_headFree {t : RxReorderTbl β} (h : Placed t) (hh : HeadFree t.slots) :
    HeadFree (flushPending t).1.slots := by
  rw [flushPending]
  split
  · have hp : Placed { t with flushData := false } := ⟨h.start, h.pos, h.fits⟩
    rw [(flush_all hp).2]
    exact headFree_replicate _
  · exact hh

theorem checkStart_slots {t : RxReorderTbl β} {seqNum : Nat} {pktType : PktType}
    {payload : Payload β} :
    (∀ r, checkStart t seqNum pktType payload = .inl r → r.tbl.slots = t.slots) ∧
      ∀ u, checkStart t seqNum pktType payload = .inr u → u.slots = t.slots := by
  have hupdate (v : RxReorderTbl β) : (updateStartWin v seqNum).slots = v.slots := by
    rw [updateStartWin]
    split_ifs <;> rfl
  rw [checkStart]
  split
  · split
    · exact ⟨fun r hr => (by cases hr), fun u hu => by rw [← Sum.inr.inj hu]⟩
    · simp only
      split
      · split
        · exact ⟨fun r hr => by rw [← Sum.inl.inj hr], fun u hu => (by cases hu)⟩
        · exact ⟨fun r hr => by rw [← Sum.inl.inj hr], fun u hu => (by cases hu)⟩
      · exact ⟨fun r hr => (by cases hr), fun u hu => by rw [← Sum.inr.inj hu, hupdate]⟩
  · exact ⟨fun r hr => (by cases hr), fun u hu => by rw [← Sum.inr.inj hu]⟩

theorem noPktToSend_past {t : RxReorderTbl β} (h : Placed t) :
    noPktToSend t ((t.startWin + t.winSize) % maxTidValue) = t.slots.length := by
  have hstart := h.start
  have hfits := h.fits
  have hlen : t.winSize = t.slots.length := rfl
  rw [noPktToSend]
  rcases Nat.lt_or_ge t.startWin ((t.startWin + t.winSize) % maxTidValue) with hw | hw
  · rw [if_pos hw]
    simp only [maxTidValue] at hstart hw ⊢
    omega
  · rw [if_neg (Nat.not_lt.mpr hw)]
    rfl

theorem noDropResync_headFree {t : RxReorderTbl β} (h : Placed t) (hh : HeadFree t.slots)
    (seqNum : Nat) (pktType : PktType) : HeadFree (noDropResync t seqNum pktType).1.slots := by
  have hempty : HeadFree
      (dispatchPktUntilStartWin t ((t.startWin + t.winSize) % maxTidValue)).1.slots := by
    rw [dispatch_eq h.pos]
    simp only [noPktToSend_past h, shifted_of_length_le le_rfl]
    exact headFree_replicate _
  rw [noDropResync]
  split
  · simp only
    split
    · exact hempty
    · exact hempty
  · exact hh

theorem shiftWindow_headFree {t : RxReorderTbl β} (h : Placed t) (hh : HeadFree t.slots)
    {seqNum : Nat} (hseq : seqNum < maxTidValue) (endWin : Nat) :
    HeadFree (shiftWindow t endWin seqNum).1.slots ∨
      ∃ i, slotIndex (shiftWindow t endWin seqNum).1.startWin seqNum = some i ∧
        (shiftWindow t endWin seqNum).1.slots[i]? = some none := by
  rw [shiftWindow]
  split_ifs
  · refine .inr ⟨t.winSize - 1, slotIndex_moved h.pos h.fits hseq, ?_⟩
    have hn := noPktToSend_pos h.pos (movedStartWin t.winSize seqNum)
    have hlt : t.winSize - 1 < t.slots.length := Nat.sub_lt h.pos Nat.one_pos
    rw [dispatch_eq h.pos, shifted_getElem? _ _ _ hlt, List.getElem?_eq_none]
    · rfl
    · have hlen : t.winSize = t.slots.length := rfl
      omega
  · exact .inl hh

def key (t : RxReorderTbl β) : Vector UInt8 6 × Nat := (t.ta, t.tid)

theorem isFor_iff {tid : Nat} {ta : Vector UInt8 6} {t : RxReorderTbl β} :
    isFor tid ta t = true ↔ key t = (ta, tid) := by
  simp [isFor, key]

def heldAll (tbls : List (RxReorderTbl β)) : List β := tbls.flatMap held

structure Found (tbls : List (RxReorderTbl β)) (tid : Nat) (ta : Vector UInt8 6)
    (t : RxReorderTbl β) (before after : List (RxReorderTbl β)) : Prop where
  split : tbls = before ++ t :: after
  key_eq : key t = (ta, tid)
  set_eq : ∀ u, setEntry tbls tid ta u = before ++ u :: after
  erase_eq : tbls.eraseP (isFor tid ta) = before ++ after

theorem getRxreorderTbl_found {tbls : List (RxReorderTbl β)} {tid : Nat} {ta : Vector UInt8 6}
    {t : RxReorderTbl β} (h : getRxreorderTbl tbls tid ta = some t) :
    ∃ before after, Found tbls tid ta t before after := by
  induction tbls with
  | nil => cases h
  | cons x xs ih =>
    rw [getRxreorderTbl, List.find?_cons] at h
    cases hx : isFor tid ta x with
    | true =>
      rw [hx] at h
      obtain rfl := Option.some.inj h
      exact ⟨[], xs, rfl, isFor_iff.mp hx, fun u => by rw [setEntry, if_pos hx]; rfl,
        by rw [List.eraseP_cons_of_pos hx]; rfl⟩
    | false =>
      rw [hx] at h
      obtain ⟨before, after, hf⟩ := ih h
      refine ⟨x :: before, after, by rw [hf.split]; rfl, hf.key_eq, fun u => ?_, ?_⟩
      · rw [setEntry, if_neg (by rw [hx]; exact Bool.false_ne_true), hf.set_eq]
        rfl
      · rw [List.eraseP_cons_of_neg (by rw [hx]; exact Bool.false_ne_true), hf.erase_eq]
        rfl

theorem heldAll_split (before after : List (RxReorderTbl β)) (t : RxReorderTbl β) :
    (heldAll (before ++ t :: after)).Perm (held t ++ heldAll (before ++ after)) := by
  simp only [heldAll, List.flatMap_append, List.flatMap_cons]
  exact List.perm_append_comm_assoc _ _ _

theorem delete_held {t : RxReorderTbl β} (h : Placed t) :
    (dispatchPktUntilStartWin t ((t.startWin + t.winSize) % maxTidValue)).2 = held t := by
  rw [dispatch_eq h.pos]
  simp only [noPktToSend_past h, List.take_length]
  rfl

theorem getRxreorderTbl_eq_none {tbls : List (RxReorderTbl β)} {tid : Nat}
    {ta : Vector UInt8 6} (h : getRxreorderTbl tbls tid ta = none) :
    (ta, tid) ∉ tbls.map key := by
  intro hmem
  obtain ⟨t, ht, hk⟩ := List.mem_map.mp hmem
  exact List.find?_eq_none.mp h t ht (isFor_iff.mpr hk)

theorem taken_dropped (pktType : PktType) (ret : MlanStatus) :
    taken pktType (.droppedInFw : Payload β) ret = [] := by
  cases ret with
  | success => cases pktType <;> rfl
  | failure => rfl

theorem droppedSeqs_lt {base s : Nat} {bytes : List UInt8} (h : s ∈ droppedSeqs base bytes) :
    s < maxTidValue := by
  induction bytes generalizing base with
  | nil => cases h
  | cons b bs ih =>
    rcases List.mem_append.mp h with h | h
    · obtain ⟨j, _, rfl⟩ := List.mem_map.mp h
      exact Nat.mod_lt _ (by decide)
    · exact ih h

-- twelve bits of a sequence number, ten of a window size
def Event.Fits : Event β → Prop
  | .packet _ seqNum _ _ _ _ => seqNum < maxTidValue
  | .addbaRspgen param _ _ lastSeq req =>
    0 < param.rxWinSize ∧ param.rxWinSize ≤ 1023 ∧ req.ssn < maxTidValue ∧
      (lastSeq < maxTidValue ∨ lastSeq = defaultSeqNum)
  | _ => True

def Event.given : Event β → List β
  | .packet _ _ _ _ _ pmbuf => [pmbuf]
  | _ => []

theorem rspWinSize_bounds {param : AddBaParam} (hpos : 0 < param.rxWinSize)
    (hfits : param.rxWinSize ≤ 1023) (req : AddBaReq) :
    0 < rspWinSize param req ∧ rspWinSize param req ≤ 1023 := by
  rw [rspWinSize]
  split <;> omega

theorem taken_released (pktType : PktType) (pmbuf : β) (ret : MlanStatus) :
    taken pktType (.buffer pmbuf) ret ++
      (if ret = .failure ∨ pktType = .bar then [pmbuf] else []) = [pmbuf] := by
  cases ret with
  | failure => rfl
  | success => cases pktType <;> rfl

def given (es : List (Event β)) : List β := es.flatMap Event.given

theorem getRxreorderTbl_map {f : RxReorderTbl β → RxReorderTbl β} (hf : ∀ t, key (f t) = key t)
    (tbls : List (RxReorderTbl β)) (tid : Nat) (ta : Vector UInt8 6) :
    getRxreorderTbl (tbls.map f) tid ta = (getRxreorderTbl tbls tid ta).map f := by
  rw [getRxreorderTbl, getRxreorderTbl, List.find?_map]
  congr 2
  funext t
  have hiff : isFor tid ta (f t) = true ↔ isFor tid ta t = true := by
    rw [isFor_iff, isFor_iff, hf]
  exact Bool.eq_iff_iff.mpr hiff

theorem getRxreorderTbl_set {tbls : List (RxReorderTbl β)} {tid : Nat} {ta : Vector UInt8 6}
    {t u : RxReorderTbl β} (h : getRxreorderTbl tbls tid ta = some t) (hk : key u = key t) :
    getRxreorderTbl (setEntry tbls tid ta u) tid ta = some u := by
  induction tbls with
  | nil => cases h
  | cons x xs ih =>
    rw [getRxreorderTbl, List.find?_cons] at h
    rw [setEntry]
    cases hx : isFor tid ta x with
    | true =>
      rw [hx] at h
      obtain rfl := Option.some.inj h
      have hu : isFor tid ta u = true := isFor_iff.mpr (hk.trans (isFor_iff.mp hx))
      rw [if_pos rfl, getRxreorderTbl, List.find?_cons, hu]
    | false =>
      rw [hx] at h
      rw [if_neg Bool.false_ne_true, getRxreorderTbl, List.find?_cons, hx]
      exact ih h

variable [ULong]

structure Kept (t : RxReorderTbl β) : Prop where
  sound : Sound t
  awake : t.winSize ≤ ULong.width → Awake t
  head : HeadFree t.slots

theorem orderPkt_awake {t : RxReorderTbl β} (h : Sound t) (hw : 1 < t.winSize)
    (hlong : t.winSize ≤ ULong.width) {seqNum : Nat} (hseq : seqNum < maxTidValue) {pktType : PktType}
    {payload : Payload β} {r : Reply β} (hr : orderPkt t seqNum pktType payload = some r) :
    Awake r.tbl := by
  obtain ⟨a, ha, he⟩ := admitPkt_effect h hw hseq pktType payload
  rw [orderPkt, ha, Option.map_some] at hr
  rw [← Option.some.inj hr]
  exact settleTimer_awake (he.sound.marked (by rw [he.winSize]; exact hlong)) t.startWin

theorem placePkt_headFree {t : RxReorderTbl β} {seqNum : Nat} {pktType : PktType}
    {payload : Payload β} {r : Reply β} (hr : placePkt t seqNum pktType payload = some r)
    (hh : HeadFree t.slots ∨ ∃ i, slotIndex t.startWin seqNum = some i ∧
      t.slots[i]? = some none) : HeadFree r.tbl.slots := by
  rw [placePkt] at hr
  split at hr
  · cases hr
  · rename_i u hu
    rw [← Option.some.inj hr]
    split at hu
    · rw [storePkt] at hu
      obtain ⟨i, hi, hs⟩ := Option.bind_eq_some_iff.mp hu
      split at hs
      · cases hs
      · rename_i p hp
        rw [← (Prod.mk.inj (Option.some.inj hs)).1]
        refine hh.resolve_right ?_
        rintro ⟨j, hj, hnone⟩
        rw [Option.some.inj (hj.symm.trans hi), hp] at hnone
        cases hnone
      · cases hs
    · cases hu
  · rename_i u hu
    rw [← Option.some.inj hr]
    exact scan_headFree u

theorem orderPkt_headFree {t : RxReorderTbl β} (h : Placed t) (hh : HeadFree t.slots)
    {seqNum : Nat} (hseq : seqNum < maxTidValue) {pktType : PktType} {payload : Payload β}
    {r : Reply β} (hr : orderPkt t seqNum pktType payload = some r) : HeadFree r.tbl.slots := by
  have hsettle (prev : Nat) (u : RxReorderTbl β) : (settleTimer prev u).slots = u.slots := by
    rw [settleTimer]
    split_ifs <;> rfl
  obtain ⟨a, ha, hra⟩ := Option.map_eq_some_iff.mp hr
  rw [← hra]
  simp only [hsettle]
  rw [admitPkt] at ha
  split at ha
  · rw [← Option.some.inj ha]
    exact hh
  · obtain ⟨b, hb, hab⟩ := Option.map_eq_some_iff.mp ha
    rw [← hab]
    have hbar : (if pktType = .bar then (seqNum + t.winSize - 1) % maxTidValue else seqNum) <
        maxTidValue := by
      split
      · exact Nat.mod_lt _ (by decide)
      · exact hseq
    have hp : Placed { t with forceNoDrop := false } := ⟨h.start, h.pos, h.fits⟩
    have hhead : HeadFree b.tbl.slots :=
      placePkt_headFree hb (shiftWindow_headFree hp hh hbar _)
    exact hhead

theorem rxreorderTblPkt_headFree {t : RxReorderTbl β} (h : Kept t) {seqNum : Nat}
    (hseq : seqNum < maxTidValue) {pktType : PktType} {payload : Payload β} {r : Reply β}
    (hr : rxreorderTblPkt t seqNum pktType payload = some r) : HeadFree r.tbl.slots := by
  have hf := flushPending_effect h.sound
  have hfh := flushPending_headFree h.sound.placed h.head
  rw [rxreorderTblPkt] at hr
  split at hr
  · rw [← Option.some.inj hr]
    exact hfh
  · cases hc : checkStart (flushPending t).1 seqNum pktType payload with
    | inl a =>
      rw [hc] at hr
      have hslots := checkStart_slots.1 a hc
      rw [← Option.some.inj hr]
      simp only [Reply.after, hslots]
      exact hfh
    | inr u =>
      have hu := hf.trans ((checkStart_effect hf.sound hseq pktType payload).2 u hc)
      have hn := hu.trans (noDropResync_effect hu.sound hseq pktType)
      have huh : HeadFree u.slots := by
        rw [checkStart_slots.2 u hc]
        exact hfh
      rw [hc] at hr
      obtain ⟨a, ha, hra⟩ := Option.map_eq_some_iff.mp hr
      have hhead : HeadFree a.tbl.slots := orderPkt_headFree hn.sound.placed
        (noDropResync_headFree hu.sound.placed huh seqNum pktType) hseq ha
      rw [← hra]
      exact hhead

theorem rxreorderTblPkt_kept {t : RxReorderTbl β} (h : Kept t) (hw : 1 < t.winSize)
    {seqNum : Nat} (hseq : seqNum < maxTidValue) (pktType : PktType) (payload : Payload β) :
    ∃ r, rxreorderTblPkt t seqNum pktType payload = some r ∧
      Effect t r.tbl r.sent (taken pktType payload r.ret) ∧ Kept r.tbl := by
  obtain ⟨r, hr, he⟩ := rxreorderTblPkt_effect h.sound hw hseq pktType payload
  refine ⟨r, hr, he, he.sound, fun hlong => ?_, rxreorderTblPkt_headFree h hseq hr⟩
  rw [he.winSize] at hlong
  have hf := flushPending_effect h.sound
  have hfa := flushPending_awake h.sound.placed (h.awake hlong)
  rw [rxreorderTblPkt] at hr
  split at hr
  · rw [← Option.some.inj hr]
    exact hfa
  · cases hc : checkStart (flushPending t).1 seqNum pktType payload with
    | inl a =>
      rw [hc] at hr
      rw [← Option.some.inj hr]
      have hawake : Awake a.tbl := checkStart_awake hfa hc
      exact hawake
    | inr u =>
      have hu := hf.trans ((checkStart_effect hf.sound hseq pktType payload).2 u hc)
      have hn := hu.trans (noDropResync_effect hu.sound hseq pktType)
      rw [hc] at hr
      obtain ⟨a, ha, hra⟩ := Option.map_eq_some_iff.mp hr
      have hawake : Awake a.tbl :=
        orderPkt_awake hn.sound (hn.winSize ▸ hw) (hn.winSize ▸ hlong) hseq ha
      rw [← hra]
      exact hawake

structure Good (tbls : List (RxReorderTbl β)) : Prop where
  kept : ∀ t ∈ tbls, Kept t
  distinct : (tbls.map key).Nodup

structure Moves (tbls tbls' : List (RxReorderTbl β)) (sent taken : List β) : Prop where
  good : Good tbls'
  balance : (sent ++ heldAll tbls').Perm (heldAll tbls ++ taken)

theorem Moves.refl {tbls : List (RxReorderTbl β)} (h : Good tbls) : Moves tbls tbls [] [] :=
  ⟨h, by simp⟩

theorem Moves.pass {tbls : List (RxReorderTbl β)} (h : Good tbls) (k : List β) :
    Moves tbls tbls k k := ⟨h, List.perm_append_comm⟩

theorem Moves.trans {a b c : List (RxReorderTbl β)} {s s' k k' : List β} (h : Moves a b s k)
    (h' : Moves b c s' k') : Moves a c (s ++ s') (k ++ k') where
  good := h'.good
  balance := by
    have hmid : (s ++ (heldAll b ++ k')).Perm ((heldAll a ++ k) ++ k') := by
      rw [← List.append_assoc]
      exact h.balance.append_right k'
    rw [List.append_assoc, ← List.append_assoc (heldAll a)]
    exact (h'.balance.append_left s).trans hmid

theorem set_moves {tbls before after : List (RxReorderTbl β)} {tid : Nat}
    {ta : Vector UInt8 6} {t u : RxReorderTbl β} {s k : List β} (hg : Good tbls)
    (hf : Found tbls tid ta t before after) (he : Effect t u s k) (hk : Kept u) :
    Moves tbls (setEntry tbls tid ta u) s k := by
  have hkey : key u = key t := by rw [key, key, he.ta, he.tid]
  obtain ⟨hkept, hdis⟩ := hg
  rw [hf.set_eq]
  refine ⟨⟨fun x hx => ?_, ?_⟩, ?_⟩
  · rcases List.mem_append.mp hx with hx | hx
    · exact hkept x (by rw [hf.split]; exact List.mem_append_left _ hx)
    · rcases List.mem_cons.mp hx with rfl | hx
      · exact hk
      · exact hkept x (by rw [hf.split]; exact List.mem_append_right _ (List.mem_cons_of_mem _ hx))
  · rw [hf.split] at hdis
    simpa only [List.map_append, List.map_cons, hkey] using hdis
  · have hall : (s ++ (held u ++ heldAll (before ++ after))).Perm
        ((held t ++ k) ++ heldAll (before ++ after)) := by
      rw [← List.append_assoc]
      exact he.balance.append_right _
    have hend : ((held t ++ k) ++ heldAll (before ++ after)).Perm
        ((held t ++ heldAll (before ++ after)) ++ k) := by
      rw [List.append_assoc, List.append_assoc]
      exact List.perm_append_comm.append_left _
    rw [hf.split]
    exact (((heldAll_split before after u).append_left s).trans hall).trans
      (hend.trans ((heldAll_split before after t).symm.append_right k))

theorem delete_moves {tbls before after : List (RxReorderTbl β)} {tid : Nat}
    {ta : Vector UInt8 6} {t : RxReorderTbl β} (hg : Good tbls)
    (hf : Found tbls tid ta t before after) :
    Moves tbls (deleteRxreorderTblEntry tbls t).1 (deleteRxreorderTblEntry tbls t).2 [] ∧
      (deleteRxreorderTblEntry tbls t).1 = before ++ after := by
  obtain ⟨hkept, hdis⟩ := hg
  have hkey := hf.key_eq
  simp only [key, Prod.mk.injEq] at hkey
  have herase : (deleteRxreorderTblEntry tbls t).1 = before ++ after := by
    rw [deleteRxreorderTblEntry, hkey.1, hkey.2]
    exact hf.erase_eq
  have ht : Kept t := hkept t (by rw [hf.split]; simp)
  refine ⟨⟨⟨fun x hx => ?_, ?_⟩, ?_⟩, herase⟩
  · rw [herase] at hx
    refine hkept x ?_
    rw [hf.split]
    rcases List.mem_append.mp hx with hx | hx
    · exact List.mem_append_left _ hx
    · exact List.mem_append_right _ (List.mem_cons_of_mem _ hx)
  · rw [herase]
    rw [hf.split] at hdis
    exact hdis.sublist ((List.sublist_cons_self _ _).append_left _ |>.map key)
  · rw [herase, deleteRxreorderTblEntry, delete_held ht.sound.placed, List.append_nil, hf.split]
    exact (heldAll_split before after t).symm

theorem kept_of_flags {t u : RxReorderTbl β} (h : Kept t) (he : Effect t u [] [])
    (hs : u.slots = t.slots) (ht : u.timerIsSet = t.timerIsSet)
    (hf : u.flushData = t.flushData) : Kept u :=
  ⟨he.sound, fun hlong => (h.awake (he.winSize ▸ hlong)).congr hs ht hf, hs ▸ h.head⟩

theorem newNode_kept {tid winSize seqNum lastSeq : Nat} {ta : Vector UInt8 6}
    (hpos : 0 < winSize) (hfits : winSize ≤ 1023) (hseq : seqNum < maxTidValue)
    (hlast : lastSeq < maxTidValue ∨ lastSeq = defaultSeqNum) :
    Kept (newNode tid ta winSize seqNum lastSeq : RxReorderTbl β) := by
  have hlen : (List.replicate winSize (none : Option (Payload β))).length = winSize :=
    List.length_replicate
  refine ⟨⟨⟨Nat.le_of_lt hseq, ?_, ?_⟩, hlast, fun _ i => ?_⟩, fun _ => .inl (held_replicate rfl),
    headFree_replicate winSize⟩
  · rw [RxReorderTbl.winSize, newNode, hlen]
    exact hpos
  · rw [RxReorderTbl.winSize, newNode, hlen]
    exact hfits
  · simp only [newNode]
    rw [List.getElem?_replicate]
    split <;> simp

theorem append_moves {tbls : List (RxReorderTbl β)} {t : RxReorderTbl β} (hg : Good tbls)
    (ht : Kept t) (hnew : key t ∉ tbls.map key) (hnil : held t = []) :
    Moves tbls (tbls ++ [t]) [] [] where
  good := {
    kept := fun x hx => by
      rcases List.mem_append.mp hx with hx | hx
      · exact hg.kept x hx
      · rw [List.mem_singleton.mp hx]
        exact ht
    distinct := by
      rw [List.map_append, List.map_singleton]
      refine List.nodup_append.mpr ⟨hg.distinct, List.nodup_singleton _, fun a ha b hb => ?_⟩
      rw [List.mem_singleton.mp hb]
      exact fun hab => hnew (hab ▸ ha) }
  balance := by simp [heldAll, hnil]

theorem found_removed {tbls before after : List (RxReorderTbl β)} {tid : Nat}
    {ta : Vector UInt8 6} {t : RxReorderTbl β} (hg : Good tbls)
    (hf : Found tbls tid ta t before after) : (ta, tid) ∉ (before ++ after).map key := by
  have hdis := hg.distinct
  rw [hf.split, List.map_append, List.map_cons, hf.key_eq] at hdis
  rw [List.map_append]
  exact (List.nodup_middle.mp hdis).notMem

theorem create_moves {tbls : List (RxReorderTbl β)} (hg : Good tbls) (alloc : Alloc)
    {ta : Vector UInt8 6} {tid winSize seqNum lastSeq : Nat} (hpos : 0 < winSize)
    (hfits : winSize ≤ 1023) (hseq : seqNum < maxTidValue)
    (hlast : lastSeq < maxTidValue ∨ lastSeq = defaultSeqNum) :
    Moves tbls (createRxreorderTbl tbls alloc ta tid winSize seqNum lastSeq).1
      (createRxreorderTbl tbls alloc ta tid winSize seqNum lastSeq).2 [] := by
  have hadd {ts : List (RxReorderTbl β)} {s : List β} (hm : Moves tbls ts s [])
      (hnew : (ta, tid) ∉ ts.map key) :
      Moves tbls (ts ++ [newNode tid ta winSize seqNum lastSeq]) s [] := by
    have happ := append_moves hm.good (newNode_kept hpos hfits hseq hlast) hnew
      (held_replicate rfl)
    simpa using hm.trans happ
  rw [createRxreorderTbl]
  split
  · exact .refl hg
  · cases hget : getRxreorderTbl tbls tid ta with
    | none =>
      simp only
      split
      · exact hadd (.refl hg) (getRxreorderTbl_eq_none hget)
      · exact .refl hg
    | some t =>
      obtain ⟨before, after, hf⟩ := getRxreorderTbl_found hget
      obtain ⟨hm, herase⟩ := delete_moves hg hf
      simp only
      split
      · exact hadd hm (by rw [herase]; exact found_removed hg hf)
      · exact hm

theorem delete_get_moves {tbls : List (RxReorderTbl β)} (hg : Good tbls) {tid : Nat}
    {ta : Vector UInt8 6} {t : RxReorderTbl β} (h : getRxreorderTbl tbls tid ta = some t) :
    Moves tbls (deleteRxreorderTblEntry tbls t).1 (deleteRxreorderTblEntry tbls t).2 [] := by
  obtain ⟨before, after, hf⟩ := getRxreorderTbl_found h
  exact (delete_moves hg hf).1

theorem set_get_moves {tbls : List (RxReorderTbl β)} (hg : Good tbls) {tid : Nat}
    {ta : Vector UInt8 6} {t u : RxReorderTbl β} {s k : List β}
    (h : getRxreorderTbl tbls tid ta = some t) (he : Effect t u s k) (hk : Kept u) :
    Moves tbls (setEntry tbls tid ta u) s k := by
  obtain ⟨before, after, hf⟩ := getRxreorderTbl_found h
  exact set_moves hg hf he hk

theorem kept_of_get {tbls : List (RxReorderTbl β)} (hg : Good tbls) {tid : Nat}
    {ta : Vector UInt8 6} {t : RxReorderTbl β} (h : getRxreorderTbl tbls tid ta = some t) :
    Kept t := hg.kept t (List.mem_of_find?_eq_some h)

theorem rxreorderPkt_moves {tbls : List (RxReorderTbl β)} (hg : Good tbls) {seqNum : Nat}
    (hseq : seqNum < maxTidValue) (tid : Nat) (ta : Vector UInt8 6) (pktType : PktType)
    (payload : Payload β) :
    ∃ r, rxreorderPkt tbls seqNum tid ta pktType payload = some r ∧
      Moves tbls r.1 r.2.1 (taken pktType payload r.2.2) := by
  rw [rxreorderPkt]
  cases hget : getRxreorderTbl tbls tid ta with
  | none => exact ⟨_, rfl, .pass hg _⟩
  | some t =>
    simp only
    split
    · exact ⟨_, rfl, .pass hg _⟩
    · rename_i hw
      have ht := kept_of_get hg hget
      obtain ⟨r, hr, he, hk⟩ := rxreorderTblPkt_kept ht (Nat.lt_of_not_le hw) hseq pktType payload
      exact ⟨_, congrArg (Option.map _) hr, set_get_moves hg hget he hk⟩

theorem flag_moves {tbls : List (RxReorderTbl β)} (hg : Good tbls)
    {f : RxReorderTbl β → RxReorderTbl β × List β}
    (hf : ∀ t, Kept t → Effect t (f t).1 (f t).2 [] ∧ Kept (f t).1) :
    Moves tbls (tbls.map fun t => (f t).1) (tbls.flatMap fun t => (f t).2) [] := by
  obtain ⟨hkept, hdis⟩ := hg
  refine ⟨⟨fun x hx => ?_, ?_⟩, ?_⟩
  · obtain ⟨t, ht, rfl⟩ := List.mem_map.mp hx
    exact (hf t (hkept t ht)).2
  · have hkeys : (tbls.map fun t => (f t).1).map key = tbls.map key := by
      rw [List.map_map]
      refine List.map_congr_left fun t ht => ?_
      have he := (hf t (hkept t ht)).1
      rw [Function.comp, key, key, he.ta, he.tid]
    rw [hkeys]
    exact hdis
  · clear hdis
    induction tbls with
    | nil => simp [heldAll]
    | cons t ts ih =>
      have ht := (hf t (hkept t (by simp))).1.balance
      have hts := ih (fun x hx => hkept x (List.mem_cons_of_mem _ hx))
      rw [List.append_nil] at ht hts ⊢
      simp only [heldAll, List.map_cons, List.flatMap_cons] at hts ⊢
      have hswap : (((f t).2 ++ List.flatMap (fun t => (f t).2) ts) ++
          (held (f t).1 ++ List.flatMap held (List.map (fun t => (f t).1) ts))).Perm
          (((f t).2 ++ held (f t).1) ++ (List.flatMap (fun t => (f t).2) ts ++
            List.flatMap held (List.map (fun t => (f t).1) ts))) := by
        rw [List.append_assoc, List.append_assoc]
        exact (List.perm_append_comm_assoc _ _ _).append_left _
      exact hswap.trans (ht.append hts)

theorem flushPending_kept {t : RxReorderTbl β} (h : Kept t) :
    Effect t (flushPending t).1 (flushPending t).2 [] ∧ Kept (flushPending t).1 := by
  have he := flushPending_effect h.sound
  exact ⟨he, he.sound, fun hlong => flushPending_awake h.sound.placed (h.awake (he.winSize ▸ hlong)),
    flushPending_headFree h.sound.placed h.head⟩

theorem noDrop_kept {t : RxReorderTbl β} (h : Kept t) (flag : Bool) :
    Effect t { t with forceNoDrop := flag } [] [] ∧ Kept { t with forceNoDrop := flag } := by
  have he : Effect t { t with forceNoDrop := flag } [] [] :=
    (Effect.refl h.sound).of_flags rfl rfl h.sound.placed.start h.sound.seq rfl rfl
  exact ⟨he, kept_of_flags h he rfl rfl rfl⟩

theorem settle_flags_kept {t : RxReorderTbl β} (h : Kept t) (ba : BaStatus) (amsdu : Bool) :
    Effect t { t with baStatus := ba, amsdu := amsdu } [] [] ∧
      Kept { t with baStatus := ba, amsdu := amsdu } := by
  have he : Effect t { t with baStatus := ba, amsdu := amsdu } [] [] :=
    (Effect.refl h.sound).of_flags rfl rfl h.sound.placed.start h.sound.seq rfl rfl
  exact ⟨he, kept_of_flags h he rfl rfl rfl⟩

theorem retAddbaResp_moves {tbls : List (RxReorderTbl β)} (hg : Good tbls) (param : AddBaParam)
    (accepted : Bool) (ta : Vector UInt8 6) (paramSet : BitVec 16) :
    Moves tbls (retAddbaResp tbls param accepted ta paramSet).1
      (retAddbaResp tbls param accepted ta paramSet).2 [] := by
  rw [retAddbaResp]
  cases hget : getRxreorderTbl tbls (paramTid paramSet) ta with
  | none => exact .refl hg
  | some t =>
    simp only
    split
    · obtain ⟨he, hk⟩ := settle_flags_kept (kept_of_get hg hget) .setupComplete
        (paramSet &&& 0x1 ≠ 0 && param.rxAmsdu)
      exact set_get_moves hg hget he hk
    · exact delete_get_moves hg hget

theorem deleteBastreamTbl_moves {tbls : List (RxReorderTbl β)} (hg : Good tbls) (tid : Nat)
    (ta : Vector UInt8 6) (type : DelbaType) (initiator : Bool) :
    Moves tbls (deleteBastreamTbl tbls tid ta type initiator).1
      (deleteBastreamTbl tbls tid ta type initiator).2 [] := by
  rw [deleteBastreamTbl]
  split
  · cases hget : getRxreorderTbl tbls tid ta with
    | none => exact .refl hg
    | some t => exact delete_get_moves hg hget
  · exact .refl hg

theorem cleanupReorderTbl_moves {tbls : List (RxReorderTbl β)} (hg : Good tbls) :
    Moves tbls (cleanupReorderTbl tbls).1 (cleanupReorderTbl tbls).2 [] := by
  induction tbls with
  | nil => exact .refl hg
  | cons t ts ih =>
    have hfirst : isFor t.tid t.ta t = true := isFor_iff.mpr rfl
    have hf : Found (t :: ts) t.tid t.ta t [] ts :=
      ⟨rfl, rfl, fun u => by rw [setEntry, if_pos hfirst]; rfl,
        by rw [List.eraseP_cons_of_pos hfirst]; rfl⟩
    obtain ⟨hm, herase⟩ := delete_moves hg hf
    rw [herase] at hm
    exact hm.trans (ih hm.good)

theorem cleanupTids_moves (ta : Vector UInt8 6) (is : List Nat) {tbls : List (RxReorderTbl β)}
    (hg : Good tbls) : Moves tbls (cleanupTids ta is tbls).1 (cleanupTids ta is tbls).2 [] := by
  induction is generalizing tbls with
  | nil => exact .refl hg
  | cons i is ih =>
    rw [cleanupTids]
    cases hget : getRxreorderTbl tbls i ta with
    | none => exact ih hg
    | some t =>
      have hm := delete_get_moves hg hget
      exact hm.trans (ih hm.good)

theorem flushData_moves {tbls : List (RxReorderTbl β)} (hg : Good tbls) (tid : Nat)
    (ta : Vector UInt8 6) : Moves tbls (flushData tbls tid ta) [] [] := by
  rw [flushData]
  cases hget : getRxreorderTbl tbls tid ta with
  | none => exact .refl hg
  | some t =>
    simp only
    split
    · have ht := kept_of_get hg hget
      have he : Effect t { t with flushData := true, timerIsSet := false } [] [] :=
        (Effect.refl ht.sound).of_flags rfl rfl ht.sound.placed.start ht.sound.seq rfl rfl
      exact set_get_moves hg hget he ⟨he.sound, fun _ => .inr (.inr rfl), ht.head⟩
    · exact .refl hg

theorem flushPriv_moves {tbls : List (RxReorderTbl β)} (hg : Good tbls) :
    Moves tbls (flushPrivRxreorderTbl tbls).1 (flushPrivRxreorderTbl tbls).2 [] :=
  flag_moves hg fun _ ht => flushPending_kept ht

theorem setNoDropFlag_moves {tbls : List (RxReorderTbl β)} (hg : Good tbls) (flag : Bool) :
    Moves tbls (setNoDropFlag tbls flag) [] [] := by
  have hm := flag_moves (f := fun t => ({ t with forceNoDrop := flag }, [])) hg
    fun _ ht => noDrop_kept ht flag
  have hnil : tbls.flatMap (fun _ => ([] : List β)) = [] :=
    List.flatMap_eq_nil_iff.mpr fun _ _ => rfl
  rwa [hnil] at hm

theorem reportDropped_moves (tid : Nat) (ta : Vector UInt8 6) {ss : List Nat}
    (hss : ∀ s ∈ ss, s < maxTidValue) {tbls : List (RxReorderTbl β)} (hg : Good tbls) :
    ∃ r, reportDropped tid ta ss tbls = some r ∧ Moves tbls r.1 r.2 [] := by
  induction ss generalizing tbls with
  | nil => exact ⟨_, rfl, .refl hg⟩
  | cons s ss ih =>
    obtain ⟨r, hr, hm⟩ :=
      rxreorderPkt_moves hg (hss s (by simp)) tid ta .other (.droppedInFw : Payload β)
    rw [taken_dropped] at hm
    obtain ⟨q, hq, hmq⟩ := ih (fun x hx => hss x (List.mem_cons_of_mem _ hx)) hm.good
    refine ⟨(q.1, r.2.1 ++ q.2), ?_, hm.trans hmq⟩
    rw [reportDropped, hr, Option.bind_some, hq]
    rfl

theorem rxbaSyncEvent_moves (tlvs : List RxBaSync) {tbls : List (RxReorderTbl β)}
    (hg : Good tbls) : ∃ r, rxbaSyncEvent tlvs tbls = some r ∧ Moves tbls r.1 r.2 [] := by
  induction tlvs generalizing tbls with
  | nil => exact ⟨_, rfl, .refl hg⟩
  | cons v vs ih =>
    rw [rxbaSyncEvent]
    split
    · exact ⟨_, rfl, .refl hg⟩
    · cases hget : getRxreorderTbl tbls v.tid v.mac with
      | none => exact ⟨_, rfl, .refl hg⟩
      | some t =>
        simp only
        split
        · exact ⟨_, rfl, .refl hg⟩
        · obtain ⟨r, hr, hm⟩ := reportDropped_moves v.tid v.mac (fun _ => droppedSeqs_lt) hg
          obtain ⟨q, hq, hmq⟩ := ih hm.good
          refine ⟨(q.1, r.2 ++ q.2), ?_, hm.trans hmq⟩
          rw [hr, Option.bind_some, hq]
          rfl

structure Accounted (p q : Priv β) (given : List β) : Prop where
  good : Good q.tbls
  balance : (q.delivered ++ q.released ++ heldAll q.tbls).Perm
    (p.delivered ++ p.released ++ heldAll p.tbls ++ given)

theorem Accounted.trans {p q r : Priv β} {g g' : List β} (h : Accounted p q g)
    (h' : Accounted q r g') : Accounted p r (g ++ g') where
  good := h'.good
  balance := by
    rw [← List.append_assoc]
    exact h'.balance.trans (h.balance.append_right g')

theorem accounted_of_moves {p : Priv β} {r : List (RxReorderTbl β) × List β}
    (h : Moves p.tbls r.1 r.2 []) : Accounted p (p.settle r) [] where
  good := h.good
  balance := by
    have hb := h.balance
    rw [List.append_nil] at hb ⊢
    have hswap : ((p.delivered ++ r.2) ++ p.released ++ heldAll r.1).Perm
        ((p.delivered ++ p.released) ++ (r.2 ++ heldAll r.1)) := by
      simp only [List.append_assoc]
      exact (List.perm_append_comm_assoc _ _ _).append_left _
    exact hswap.trans (hb.append_left _)

theorem processRxPacket_accounted {p : Priv β} (hg : Good p.tbls) (portOpen : Bool)
    {seqNum : Nat} (hseq : seqNum < maxTidValue) (tid : Nat) (ta : Vector UInt8 6)
    (pktType : PktType) (pmbuf : β) :
    ∃ q, processRxPacket p portOpen seqNum tid ta pktType pmbuf = some q ∧
      Accounted p q [pmbuf] := by
  rw [processRxPacket]
  split
  · obtain ⟨r, hr, hm⟩ := rxreorderPkt_moves hg hseq tid ta pktType (.droppedInFw : Payload β)
    rw [taken_dropped] at hm
    refine ⟨_, congrArg (Option.map _) hr, hm.good, ?_⟩
    have hb := (accounted_of_moves (p := p) (r := (r.1, r.2.1)) hm).balance.append_right [pmbuf]
    refine List.Perm.trans ?_ (by simpa using hb)
    simp only [Priv.settle, List.append_assoc]
    refine List.Perm.append_left _ (List.Perm.append_left _ ?_)
    exact (List.perm_append_comm).trans (by simp)
  · obtain ⟨r, hr, hm⟩ := rxreorderPkt_moves hg hseq tid ta pktType (.buffer pmbuf)
    refine ⟨_, congrArg (Option.map _) hr, hm.good, ?_⟩
    have hb := hm.balance.append_right
      (if r.2.2 = .failure ∨ pktType = .bar then [pmbuf] else [])
    rw [List.append_assoc, List.append_assoc, taken_released] at hb
    have hall := hb.append_left (p.delivered ++ p.released)
    simp only [List.append_assoc] at hall ⊢
    refine List.Perm.trans ?_ hall
    refine List.Perm.append_left _ ?_
    exact (List.perm_append_comm_assoc _ _ _).trans
      ((List.perm_append_comm.append_left _).append_left _)

theorem step_accounted {p : Priv β} (hg : Good p.tbls) {e : Event β} (he : e.Fits) :
    ∃ q, step p e = some q ∧ Accounted p q e.given := by
  cases e with
  | packet portOpen seqNum tid ta pktType pmbuf =>
    exact processRxPacket_accounted hg portOpen he tid ta pktType pmbuf
  | rxbaSync tlvs =>
    obtain ⟨r, hr, hm⟩ := rxbaSyncEvent_moves tlvs hg
    exact ⟨_, congrArg (Option.map _) hr, accounted_of_moves hm⟩
  | addbaRspgen param declined alloc lastSeq req =>
    refine ⟨_, rfl, accounted_of_moves ?_⟩
    rw [addbaRspgen]
    split
    · exact .refl hg
    · obtain ⟨hpos, hfits, hssn, hlast⟩ := he
      exact create_moves hg alloc (rspWinSize_bounds hpos hfits req).1
        (rspWinSize_bounds hpos hfits req).2 hssn hlast
  | retAddbaResp param accepted ta paramSet =>
    exact ⟨_, rfl, accounted_of_moves (retAddbaResp_moves hg param accepted ta paramSet)⟩
  | delba tid ta type initiator =>
    exact ⟨_, rfl, accounted_of_moves (deleteBastreamTbl_moves hg tid ta type initiator)⟩
  | timer tid ta => exact ⟨_, rfl, accounted_of_moves (flushData_moves hg tid ta)⟩
  | flushWork => exact ⟨_, rfl, accounted_of_moves (flushPriv_moves hg)⟩
  | noDropFlag flag => exact ⟨_, rfl, accounted_of_moves (setNoDropFlag_moves hg flag)⟩
  | cleanup => exact ⟨_, rfl, accounted_of_moves (cleanupReorderTbl_moves hg)⟩
  | cleanupStation ta => exact ⟨_, rfl, accounted_of_moves (cleanupTids_moves ta _ hg)⟩

theorem run_accounted {p : Priv β} (hg : Good p.tbls) {es : List (Event β)}
    (h : ∀ e ∈ es, e.Fits) : ∃ q, run p es = some q ∧ Accounted p q (given es) := by
  induction es generalizing p with
  | nil => exact ⟨p, rfl, hg, by simp [given]⟩
  | cons e es ih =>
    obtain ⟨q, hq, ha⟩ := step_accounted hg (h e (by simp))
    obtain ⟨r, hr, hb⟩ := ih ha.good (fun x hx => h x (List.mem_cons_of_mem _ hx))
    refine ⟨r, ?_, ha.trans hb⟩
    rw [run, hq, Option.bind_some, hr]

theorem started_good : Good (started : Priv β).tbls :=
  ⟨fun _ ht => (by cases ht), List.nodup_nil⟩

end RxReorder
