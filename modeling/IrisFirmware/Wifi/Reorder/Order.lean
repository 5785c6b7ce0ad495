import IrisFirmware.Wifi.Reorder.Delivery

namespace RxReorder

open SeqWindow

variable {β : Type*}

structure Shows (t : RxReorderTbl β) (w : Window (Payload β)) : Prop where
  base : t.startWin = w.base % maxTidValue
  cells : t.slots = w.cells

def Tame (w : Window (Payload β)) (d : Nat) : Prop :=
  w.base % maxTidValue + d < maxTidValue ∨ span w.cells ≤ d

instance tame_decidable (w : Window (Payload β)) (d : Nat) : Decidable (Tame w d) :=
  inferInstanceAs (Decidable (_ ∨ _))

theorem isOld_iff {b s : Nat} (hlow : b ≤ s + twoPow11) (hhigh : s < b + twoPow11) :
    isOld (b % maxTidValue) (s % maxTidValue) = true ↔ s < b := by
  rw [isOld]
  split
  · rename_i h
    rw [Bool.and_eq_true, decide_eq_true_eq, decide_eq_true_eq]
    simp only [maxTidValue, twoPow11] at *
    omega
  · rename_i h
    rw [Bool.or_eq_true, decide_eq_true_eq, decide_eq_true_eq]
    simp only [maxTidValue, twoPow11] at *
    omega

theorem isOutside_iff {b s w : Nat} (hw : 1 < w) (hfits : w ≤ 1023) (hlow : b ≤ s)
    (hhigh : s < b + maxTidValue) :
    isOutside (b % maxTidValue) ((b % maxTidValue + w - 1) % maxTidValue) (s % maxTidValue) =
      true ↔ b + w ≤ s := by
  simp only [isOutside, Bool.or_eq_true, Bool.and_eq_true, decide_eq_true_eq]
  simp only [maxTidValue] at *
  omega

theorem slotIndex_mod {b s : Nat} (hlow : b ≤ s) (hhigh : s < b + maxTidValue) :
    slotIndex (b % maxTidValue) (s % maxTidValue) = some (s - b) := by
  simp only [maxTidValue] at hhigh
  rcases Nat.lt_or_ge (s % maxTidValue) (b % maxTidValue) with hlt | hge
  · rw [slotIndex_of_lt hlt (Nat.le_of_lt (Nat.mod_lt _ (by decide)))]
    simp only [maxTidValue] at hlt ⊢
    exact congrArg some (by omega)
  · rw [slotIndex_of_le hge]
    simp only [maxTidValue] at hge ⊢
    exact congrArg some (by omega)

theorem noPktToSend_mod {t : RxReorderTbl β} {b d : Nat} (hb : t.startWin = b % maxTidValue)
    (hd : 0 < d) (hmax : d < maxTidValue) :
    noPktToSend t ((b + d) % maxTidValue) =
      if b % maxTidValue + d < maxTidValue then min d t.winSize else t.winSize := by
  have hlt : b % maxTidValue < maxTidValue := Nat.mod_lt _ (by decide)
  have hmod : (b + d) % maxTidValue = (b % maxTidValue + d) % maxTidValue := by
    rw [Nat.mod_add_mod]
  rw [noPktToSend, hb, hmod]
  rcases Nat.lt_or_ge (b % maxTidValue + d) maxTidValue with h | h
  · rw [if_pos h, Nat.mod_eq_of_lt h, if_pos (by omega)]
    congr 1
    omega
  · have hsub : (b % maxTidValue + d) % maxTidValue = b % maxTidValue + d - maxTidValue := by
      rw [Nat.mod_eq_sub_mod h, Nat.mod_eq_of_lt (by omega)]
    rw [if_neg (Nat.not_lt.mpr h), hsub, if_neg (by omega)]

theorem shifted_min (d : Nat) (cs : List (Option (Payload β))) :
    shifted (min d cs.length) cs = shifted d cs := by
  rcases Nat.le_total d cs.length with h | h
  · rw [Nat.min_eq_left h]
  · rw [Nat.min_eq_right h, shifted_of_length_le le_rfl, shifted_of_length_le h]

theorem take_min (d : Nat) (cs : List (Option (Payload β))) :
    cs.take (min d cs.length) = cs.take d := by
  rcases Nat.le_total d cs.length with h | h
  · rw [Nat.min_eq_left h]
  · rw [Nat.min_eq_right h, List.take_length, List.take_of_length_le h]

theorem dispatch_advance {t : RxReorderTbl β} {w : Window (Payload β)} (hs : Shows t w)
    (hpos : 0 < t.winSize) {d : Nat} (hd : 0 < d) (hmax : d < maxTidValue) (htame : Tame w d) :
    Shows (dispatchPktUntilStartWin t ((w.base + d) % maxTidValue)).1 (w.advance d).1 ∧
      (dispatchPktUntilStartWin t ((w.base + d) % maxTidValue)).2 = sentOf (w.advance d).2 := by
  have hn := noPktToSend_mod hs.base hd hmax
  rw [dispatch_eq hpos, hn]
  have hlen : t.winSize = t.slots.length := rfl
  rw [Tame, ← hs.cells] at htame
  rcases Nat.lt_or_ge (w.base % maxTidValue + d) maxTidValue with hlt | hge
  · rw [if_pos hlt, hlen, shifted_min, take_min, hs.cells]
    exact ⟨⟨rfl, rfl⟩, numbered_sent 0 w.base _⟩
  · have hspan : span t.slots ≤ d := htame.resolve_left (Nat.not_lt.mpr hge)
    rw [if_neg (Nat.not_lt.mpr hge), hlen, shifted_of_length_le le_rfl, List.take_length]
    refine ⟨⟨rfl, ?_⟩, ?_⟩
    · rw [Window.advance, ← hs.cells, shifted_of_span_le hspan]
    · rw [Window.advance, ← hs.cells, numbered_take_of_span_le w.base hspan]
      exact numbered_sent 0 w.base _

theorem scan_drain {t : RxReorderTbl β} {w : Window (Payload β)} (hs : Shows t w) :
    Shows (scanAndDispatch t).1 w.drain.1 ∧ (scanAndDispatch t).2 = sentOf w.drain.2 := by
  rw [scanAndDispatch_eq, hs.cells, hs.base, Nat.mod_add_mod]
  exact ⟨⟨rfl, rfl⟩, numbered_sent 0 w.base _⟩

theorem shiftWindow_advance {t : RxReorderTbl β} {w : Window (Payload β)} (hs : Shows t w)
    (hw : 1 < t.winSize) (hfits : t.winSize ≤ 1023) {s : Nat} (hlow : w.base ≤ s)
    (hhigh : s < w.base + maxTidValue) (htame : Tame w (w.jump s)) :
    Shows (shiftWindow t ((t.startWin + t.winSize - 1) % maxTidValue) (s % maxTidValue)).1
        (w.advance (w.jump s)).1 ∧
      (shiftWindow t ((t.startWin + t.winSize - 1) % maxTidValue) (s % maxTidValue)).2 =
        sentOf (w.advance (w.jump s)).2 := by
  have hout := isOutside_iff hw hfits hlow hhigh
  have hlen : w.cells.length = t.winSize := congrArg List.length hs.cells.symm
  rw [shiftWindow, hs.base]
  split
  · rename_i ho
    have hpast := hout.mp ho
    have hpos : 0 < w.jump s := by
      rw [Window.jump, hlen]
      omega
    have hmax : w.jump s < maxTidValue := by
      rw [Window.jump, hlen]
      omega
    have hmoved : movedStartWin t.winSize (s % maxTidValue) =
        (w.base + w.jump s) % maxTidValue := by
      rw [movedStartWin_eq (Nat.zero_lt_of_lt hw) hfits (Nat.mod_lt _ (by decide)),
        Window.jump, hlen]
      simp only [maxTidValue]
      omega
    rw [hmoved]
    exact dispatch_advance hs (Nat.zero_lt_of_lt hw) hpos hmax htame
  · rename_i ho
    have hin : w.jump s = 0 := by
      have hnot : ¬ w.base + t.winSize ≤ s := fun h => ho (hout.mpr h)
      rw [Window.jump, hlen]
      omega
    rw [hin, Window.advance_zero]
    exact ⟨hs, rfl⟩

def Follows (r : Reply β) (w : Window (Payload β)) :
    Option (Window (Payload β) × List (Nat × Payload β)) → Prop
  | some o => r.ret = .success ∧ Shows r.tbl o.1 ∧ r.sent = sentOf o.2
  | none => r.ret = .failure ∧ Shows r.tbl w ∧ r.sent = []

def opOf (s : Nat) (pktType : PktType) (payload : Payload β) : Op (Payload β) :=
  if pktType = .bar then .skipTo s else .receive s payload

def jumpOf (w : Window (Payload β)) (s : Nat) (pktType : PktType) : Nat :=
  if pktType = .bar then s - w.base else w.jump s

theorem advance_last {w : Window (Payload β)} {s : Nat} (hcells : 0 < w.cells.length)
    (hjump : 0 < w.jump s) :
    (w.advance (w.jump s)).1.cells[s - (w.advance (w.jump s)).1.base]? = some none := by
  have hidx : s - (w.advance (w.jump s)).1.base = w.cells.length - 1 := by
    rw [Window.advance_base, Window.jump] at *
    omega
  have hlast : w.cells.length - 1 < w.cells.length := Nat.sub_lt hcells Nat.one_pos
  rw [hidx, Window.advance]
  simp only
  rw [shifted_getElem? _ _ _ hlast, List.getElem?_eq_none (by omega)]
  rfl

theorem Shows.congr {t u : RxReorderTbl β} {w : Window (Payload β)} (hs : Shows t w)
    (hstart : u.startWin = t.startWin) (hslots : u.slots = t.slots) : Shows u w :=
  ⟨hstart.trans hs.base, hslots.trans hs.cells⟩

theorem Follows.congr {r r' : Reply β} {w : Window (Payload β)}
    {o : Option (Window (Payload β) × List (Nat × Payload β))} (h : Follows r w o)
    (hret : r'.ret = r.ret) (hsent : r'.sent = r.sent)
    (hstart : r'.tbl.startWin = r.tbl.startWin) (hslots : r'.tbl.slots = r.tbl.slots) :
    Follows r' w o := by
  cases o with
  | none => exact ⟨hret.trans h.1, h.2.1.congr hstart hslots, hsent.trans h.2.2⟩
  | some o => exact ⟨hret.trans h.1, h.2.1.congr hstart hslots, hsent.trans h.2.2⟩

structure Near (w : Window (Payload β)) (s : Nat) : Prop where
  low : w.base ≤ s + twoPow11
  high : s < w.base + twoPow11

instance near_decidable (w : Window (Payload β)) (s : Nat) : Decidable (Near w s) :=
  decidable_of_iff (w.base ≤ s + twoPow11 ∧ s < w.base + twoPow11)
    ⟨fun h => ⟨h.1, h.2⟩, fun h => ⟨h.low, h.high⟩⟩

def placedSeq (t : RxReorderTbl β) (seqNum : Nat) (pktType : PktType) : Nat :=
  if pktType = .bar then (seqNum + t.winSize - 1) % maxTidValue else seqNum

theorem settleTimer_startWin (prev : Nat) (u : RxReorderTbl β) :
    (settleTimer prev u).startWin = u.startWin := by
  rw [settleTimer]
  split_ifs <;> rfl

theorem settleTimer_slots (prev : Nat) (u : RxReorderTbl β) :
    (settleTimer prev u).slots = u.slots := by
  rw [settleTimer]
  split_ifs <;> rfl

theorem shiftWindow_wild {t : RxReorderTbl β} {w : Window (Payload β)} (hs : Shows t w)
    (hw : 1 < t.winSize) (hfits : t.winSize ≤ 1023) {s : Nat} (hlow : w.base ≤ s)
    (hhigh : s < w.base + maxTidValue) (hwild : ¬ Tame w (w.jump s)) :
    (shiftWindow t ((t.startWin + t.winSize - 1) % maxTidValue) (s % maxTidValue)).1.startWin =
        (w.base + w.jump s) % maxTidValue ∧
      (shiftWindow t ((t.startWin + t.winSize - 1) % maxTidValue) (s % maxTidValue)).1.slots =
        List.replicate t.winSize none := by
  have hlen : w.cells.length = t.winSize := congrArg List.length hs.cells.symm
  have hmod : w.base % maxTidValue < maxTidValue := Nat.mod_lt _ (by decide)
  rw [Tame, not_or, Nat.not_lt, Nat.not_le] at hwild
  have hpos : 0 < w.jump s := by omega
  have hmax : w.jump s < maxTidValue := by
    rw [Window.jump, hlen]
    omega
  have hpast : w.base + t.winSize ≤ s := by
    rw [Window.jump, hlen] at hpos
    omega
  have hmoved : movedStartWin t.winSize (s % maxTidValue) =
      (w.base + w.jump s) % maxTidValue := by
    rw [movedStartWin_eq (Nat.zero_lt_of_lt hw) hfits (Nat.mod_lt _ (by decide)),
      Window.jump, hlen]
    simp only [maxTidValue]
    omega
  have hout := (isOutside_iff hw hfits hlow hhigh).mpr hpast
  rw [← hs.base] at hout
  have hn := noPktToSend_mod hs.base hpos hmax
  rw [if_neg (Nat.not_lt.mpr hwild.1)] at hn
  rw [shiftWindow, hout, if_pos rfl, hmoved, dispatch_eq (Nat.zero_lt_of_lt hw), hn]
  exact ⟨rfl, shifted_of_length_le le_rfl⟩

theorem scan_stays {t : RxReorderTbl β} (h : HeadFree t.slots) (hb : t.startWin < maxTidValue) :
    (scanAndDispatch t).1.slots = t.slots ∧ (scanAndDispatch t).1.startWin = t.startWin := by
  have hlead : lead t.slots = 0 := by
    rw [HeadFree] at h
    cases hs : t.slots with
    | nil => rfl
    | cons c cs =>
      rw [hs] at h
      cases c with
      | none => rfl
      | some p => cases h
  rw [scanAndDispatch_eq, hlead, shifted_zero, Nat.add_zero]
  exact ⟨rfl, Nat.mod_eq_of_lt hb⟩

theorem not_shows_drain {u : RxReorderTbl β} {v : Window (Payload β)} {j : Nat}
    {a : Payload β} (hlen : v.cells.length ≤ 1023) (hbase : u.startWin = v.base % maxTidValue)
    (hheld : v.cells[j]? = some (some a)) (hlost : u.slots[j]?.join = none) :
    ¬ Shows u v.drain.1 := by
  intro hs
  have hle := lead_le v.cells
  have hb := hs.base
  rw [Window.drain, Window.advance_base, hbase] at hb
  have hlead : lead v.cells = 0 := by
    simp only [maxTidValue] at hb
    omega
  have hc := hs.cells
  rw [Window.drain, hlead, Window.advance_zero] at hc
  rw [hc, hheld] at hlost
  cases hlost

theorem advance_behind {w : Window (Payload β)} {d : Nat} (h : d < span w.cells) :
    ∃ j a, j + d < w.cells.length ∧ (w.advance d).1.cells[j]? = some (some a) := by
  obtain ⟨j, a, hj, ha⟩ := exists_of_lt_span h
  have hlt := (List.getElem?_eq_some_iff.mp ha).1
  refine ⟨j - d, a, by omega, ?_⟩
  rw [Window.advance]
  simp only
  rw [shifted_getElem? d (j - d) w.cells (by omega), Nat.add_sub_cancel' hj, ha]
  rfl

theorem shows_empty {t : RxReorderTbl β} {w : Window (Payload β)} (hs : Shows t w)
    (hw : 1 < t.winSize) (hfits : t.winSize ≤ 1023) {s : Nat} (hlow : w.base ≤ s)
    (hhigh : s < w.base + maxTidValue) (hwild : ¬ Tame w (w.jump s)) :
    Shows (shiftWindow t ((t.startWin + t.winSize - 1) % maxTidValue) (s % maxTidValue)).1
      ⟨w.base + w.jump s, List.replicate w.cells.length none⟩ := by
  have hlen : w.cells.length = t.winSize := congrArg List.length hs.cells.symm
  obtain ⟨hstart, hslots⟩ := shiftWindow_wild hs hw hfits hlow hhigh hwild
  exact ⟨hstart, by rw [hslots, hlen]⟩

theorem receive_past {w : Window (Payload β)} {s : Nat} (hlow : w.base ≤ s)
    (hcells : 0 < w.cells.length) (hjump : 0 < w.jump s) (payload : Payload β) :
    ∃ out, w.receive s payload =
      some (((w.advance (w.jump s)).1.put (w.cells.length - 1) payload).drain.1, out) := by
  have hidx : s - (w.advance (w.jump s)).1.base = w.cells.length - 1 := by
    rw [Window.advance_base, Window.jump] at *
    omega
  have hfree := advance_last hcells hjump
  rw [Window.receive, if_neg (Nat.not_lt.mpr hlow)]
  rw [hidx] at hfree
  simp only [hidx]
  rw [hfree]
  exact ⟨_, rfl⟩

variable [ULong]

theorem storePkt_free {t : RxReorderTbl β} {w : Window (Payload β)} (hs : Shows t w) {s : Nat}
    (hlow : w.base ≤ s) (hhigh : s < w.base + maxTidValue) (payload : Payload β)
    (hc : w.cells[s - w.base]? = some none) :
    storePkt t (s % maxTidValue) payload =
      some ({ t with
        slots := t.slots.set (s - w.base) (some payload)
        bitmap := t.bitmap ||| ULong.bit (s - w.base) }, .success) := by
  have hi : slotIndex t.startWin (s % maxTidValue) = some (s - w.base) := by
    rw [hs.base, slotIndex_mod hlow hhigh]
  rw [← hs.cells] at hc
  rw [storePkt, hi, Option.bind_some, hc]

theorem storePkt_taken {t : RxReorderTbl β} {w : Window (Payload β)} (hs : Shows t w) {s : Nat}
    (hlow : w.base ≤ s) (hhigh : s < w.base + maxTidValue) (payload : Payload β)
    {q : Payload β} (hc : w.cells[s - w.base]? = some (some q)) :
    storePkt t (s % maxTidValue) payload = some (t, .failure) := by
  have hi : slotIndex t.startWin (s % maxTidValue) = some (s - w.base) := by
    rw [hs.base, slotIndex_mod hlow hhigh]
  rw [← hs.cells] at hc
  rw [storePkt, hi, Option.bind_some, hc]

theorem placePkt_receive {t : RxReorderTbl β} {w : Window (Payload β)} {s : Nat}
    {pktType : PktType} (hne : pktType ≠ .bar) (payload : Payload β) (hlow : w.base ≤ s)
    (hhigh : s < w.base + maxTidValue) (hcells : 0 < w.cells.length)
    (hs : Shows t (w.advance (w.jump s)).1) :
    ∃ r, placePkt t (s % maxTidValue) pktType payload = some r ∧
      Follows (r.after (sentOf (w.advance (w.jump s)).2)) w (w.receive s payload) := by
  have hbase : (w.advance (w.jump s)).1.base = w.base + w.jump s := rfl
  have hle : (w.advance (w.jump s)).1.base ≤ s := by
    rw [hbase, Window.jump]
    omega
  have hlt : s - (w.advance (w.jump s)).1.base < (w.advance (w.jump s)).1.cells.length := by
    rw [Window.advance_length, hbase, Window.jump]
    omega
  have hmax : s < (w.advance (w.jump s)).1.base + maxTidValue := by omega
  rw [Window.receive, if_neg (Nat.not_lt.mpr hlow)]
  cases hc : (w.advance (w.jump s)).1.cells[s - (w.advance (w.jump s)).1.base]? with
  | none => exact absurd hlt (Nat.not_lt.mpr (List.getElem?_eq_none_iff.mp hc))
  | some c =>
    simp only [hc]
    cases c with
    | some q =>
      have hstore := storePkt_taken hs hle hmax payload hc
      have h0 : w.jump s = 0 := by
        rcases Nat.eq_zero_or_pos (w.jump s) with h0 | hpos
        · exact h0
        · rw [advance_last hcells hpos] at hc
          cases hc
      rw [h0, Window.advance_zero] at hs
      refine ⟨_, placePkt_failure hne hstore, rfl, hs, ?_⟩
      rw [h0, Window.advance_zero]
      rfl
    | none =>
      have hstore := storePkt_free hs hle hmax payload hc
      refine ⟨_, placePkt_success hne hstore, rfl, ?_⟩
      have hput : Shows { t with
          slots := t.slots.set (s - (w.advance (w.jump s)).1.base) (some payload)
          bitmap := t.bitmap ||| ULong.bit (s - (w.advance (w.jump s)).1.base) }
          ((w.advance (w.jump s)).1.put (s - (w.advance (w.jump s)).1.base) payload) :=
        ⟨hs.base, by
          rw [Window.put, ← hs.cells]⟩
      obtain ⟨hshow, hsent⟩ := scan_drain hput
      refine ⟨hshow, ?_⟩
      rw [sentOf_append, ← hsent]
      rfl

theorem placePkt_skip {t : RxReorderTbl β} {w : Window (Payload β)} {s : Nat} (seqNum : Nat)
    (payload : Payload β) (hlow : w.base ≤ s) (hs : Shows t (w.advance (s - w.base)).1) :
    ∃ r, placePkt t seqNum .bar payload = some r ∧
      Follows (r.after (sentOf (w.advance (s - w.base)).2)) w (w.skipTo s) := by
  refine ⟨_, placePkt_bar t seqNum payload, ?_⟩
  rw [Window.skipTo, if_neg (Nat.not_lt.mpr hlow)]
  obtain ⟨hshow, hsent⟩ := scan_drain hs
  refine ⟨rfl, hshow, ?_⟩
  rw [sentOf_append, ← hsent]
  rfl

theorem admitPkt_old {t : RxReorderTbl β} {seqNum : Nat} (hdrop : t.forceNoDrop = false)
    (ho : isOld t.startWin seqNum = true) (pktType : PktType) (payload : Payload β) :
    admitPkt t seqNum pktType payload = some ⟨t, [], .failure⟩ := by
  rw [admitPkt, hdrop, ho]
  rfl

theorem admitPkt_fresh {t : RxReorderTbl β} {seqNum : Nat} (hdrop : t.forceNoDrop = false)
    (ho : isOld t.startWin seqNum = false) (pktType : PktType) (payload : Payload β) :
    admitPkt t seqNum pktType payload =
      (placePkt (shiftWindow t ((t.startWin + t.winSize - 1) % maxTidValue)
          (placedSeq t seqNum pktType)).1 (placedSeq t seqNum pktType) pktType payload).map
        (Reply.after (shiftWindow t ((t.startWin + t.winSize - 1) % maxTidValue)
          (placedSeq t seqNum pktType)).2) := by
  have hsame : { t with forceNoDrop := false } = t := by
    rw [← hdrop]
  rw [admitPkt, hdrop, ho, hsame]
  rfl

theorem admitPkt_follows {t : RxReorderTbl β} {w : Window (Payload β)} (hs : Shows t w)
    (hw : 1 < t.winSize) (hfits : t.winSize ≤ 1023) (hdrop : t.forceNoDrop = false) {s : Nat}
    (hnear : Near w s) {pktType : PktType} (htame : Tame w (jumpOf w s pktType))
    (payload : Payload β) :
    ∃ r, admitPkt t (s % maxTidValue) pktType payload = some r ∧
      Follows r w (w.step (opOf s pktType payload)) := by
  have hold := isOld_iff hnear.low hnear.high
  rw [← hs.base] at hold
  have hlen : w.cells.length = t.winSize := congrArg List.length hs.cells.symm
  have hhigh : s < w.base + 2048 := hnear.high
  have hmax : maxTidValue = 4096 := rfl
  rcases Nat.lt_or_ge s w.base with hlt | hge
  · refine ⟨_, admitPkt_old hdrop (hold.mpr hlt) pktType payload, ?_⟩
    rw [opOf]
    split
    · rw [Window.step, Window.skipTo, if_pos hlt]
      exact ⟨rfl, hs, rfl⟩
    · rw [Window.step, Window.receive, if_pos hlt]
      exact ⟨rfl, hs, rfl⟩
  · have hfresh : isOld t.startWin (s % maxTidValue) = false :=
      Bool.eq_false_iff.mpr fun h => Nat.not_lt.mpr hge (hold.mp h)
    rw [admitPkt_fresh hdrop hfresh]
    rcases eq_or_ne pktType .bar with rfl | hne
    · have hseq : placedSeq t (s % maxTidValue) .bar = (s + t.winSize - 1) % maxTidValue := by
        rw [placedSeq, if_pos rfl, Nat.add_sub_assoc (Nat.le_of_lt hw), Nat.mod_add_mod,
          Nat.add_sub_assoc (Nat.le_of_lt hw)]
      have hjump : w.jump (s + t.winSize - 1) = s - w.base := by
        rw [Window.jump, hlen]
        omega
      rw [jumpOf, if_pos rfl, ← hjump] at htame
      obtain ⟨hshow, hsent⟩ := shiftWindow_advance hs hw hfits
        (Nat.le_trans hge (by omega)) (by omega) htame
      rw [hjump] at hshow hsent
      obtain ⟨r, hr, hf⟩ := placePkt_skip ((s + t.winSize - 1) % maxTidValue) payload hge hshow
      rw [hseq, hr, hsent]
      exact ⟨_, rfl, hf⟩
    · have hseq : placedSeq t (s % maxTidValue) pktType = s % maxTidValue := if_neg hne
      rw [jumpOf, if_neg hne] at htame
      obtain ⟨hshow, hsent⟩ := shiftWindow_advance hs hw hfits hge (by omega) htame
      obtain ⟨r, hr, hf⟩ := placePkt_receive hne payload hge (by omega) (by omega) hshow
      rw [hseq, hr, hsent, opOf, if_neg hne]
      exact ⟨_, rfl, hf⟩

theorem orderPkt_follows {t : RxReorderTbl β} {w : Window (Payload β)} (hs : Shows t w)
    (hw : 1 < t.winSize) (hfits : t.winSize ≤ 1023) (hdrop : t.forceNoDrop = false) {s : Nat}
    (hnear : Near w s) {pktType : PktType} (htame : Tame w (jumpOf w s pktType))
    (payload : Payload β) :
    ∃ r, orderPkt t (s % maxTidValue) pktType payload = some r ∧
      Follows r w (w.step (opOf s pktType payload)) := by
  obtain ⟨r, hr, hf⟩ := admitPkt_follows hs hw hfits hdrop hnear htame payload
  exact ⟨_, congrArg (Option.map _) hr,
    hf.congr rfl rfl (settleTimer_startWin _ _) (settleTimer_slots _ _)⟩

theorem placePkt_emptied {t : RxReorderTbl β} {b n s : Nat} {pktType : PktType}
    (hne : pktType ≠ .bar) (payload : Payload β) (hn : 1 < n) (hfits : n ≤ 1023)
    (hs : Shows t ⟨b, List.replicate n none⟩) (hlast : s = b + (n - 1)) :
    ∃ r, placePkt t (s % maxTidValue) pktType payload = some r ∧
      r.tbl.startWin = b % maxTidValue ∧
      r.tbl.slots = (List.replicate n none).set (n - 1) (some payload) := by
  have hidx : s - b = n - 1 := by omega
  have hmax : maxTidValue = 4096 := rfl
  have hfree : (List.replicate n (none : Option (Payload β)))[s - b]? = some none := by
    rw [hidx, List.getElem?_replicate_of_lt (by omega)]
  have hstore := storePkt_free hs (by simp only; omega) (by simp only; omega) payload hfree
  simp only [hidx] at hstore
  have hhead : HeadFree (t.slots.set (n - 1) (some payload)) := by
    rw [HeadFree, hs.cells, List.getElem?_set_ne (by omega)]
    exact headFree_replicate _
  have hlt : t.startWin < maxTidValue := by
    rw [hs.base]
    exact Nat.mod_lt _ (by decide)
  obtain ⟨hslots, hstart⟩ := scan_stays (t := { t with
      slots := t.slots.set (n - 1) (some payload)
      bitmap := t.bitmap ||| ULong.bit (n - 1) }) hhead hlt
  refine ⟨_, placePkt_success hne hstore, hstart.trans hs.base, ?_⟩
  rw [hslots, hs.cells]

theorem admitPkt_wild {t : RxReorderTbl β} {w : Window (Payload β)} (hs : Shows t w)
    (hw : 1 < t.winSize) (hfits : t.winSize ≤ 1023) (hdrop : t.forceNoDrop = false) {s : Nat}
    (hnear : Near w s) {pktType : PktType} (hwild : ¬ Tame w (jumpOf w s pktType))
    (payload : Payload β) :
    ∃ r, admitPkt t (s % maxTidValue) pktType payload = some r ∧
      ∃ v out, w.step (opOf s pktType payload) = some (v, out) ∧ ¬ Shows r.tbl v := by
  have hlen : w.cells.length = t.winSize := congrArg List.length hs.cells.symm
  have hmax : maxTidValue = 4096 := rfl
  have hmod : w.base % maxTidValue < maxTidValue := Nat.mod_lt _ (by decide)
  have hhigh : s < w.base + 2048 := hnear.high
  have hbehind := hwild
  rw [Tame, not_or, Nat.not_lt, Nat.not_le] at hbehind
  have hpos : 0 < jumpOf w s pktType := by omega
  have hge : w.base ≤ s := by
    rw [jumpOf, Window.jump] at hpos
    split at hpos <;> omega
  have hfresh : isOld t.startWin (s % maxTidValue) = false := by
    rw [hs.base]
    exact Bool.eq_false_iff.mpr fun h =>
      Nat.not_lt.mpr hge ((isOld_iff hnear.low hnear.high).mp h)
  obtain ⟨j, a, hj, ha⟩ := advance_behind hbehind.2
  rw [admitPkt_fresh hdrop hfresh]
  rcases eq_or_ne pktType .bar with rfl | hne
  · have hseq : placedSeq t (s % maxTidValue) .bar = (s + t.winSize - 1) % maxTidValue := by
      rw [placedSeq, if_pos rfl, Nat.add_sub_assoc (Nat.le_of_lt hw), Nat.mod_add_mod,
        Nat.add_sub_assoc (Nat.le_of_lt hw)]
    have hjump : jumpOf w s .bar = w.jump (s + t.winSize - 1) := by
      rw [jumpOf, if_pos rfl, Window.jump, hlen]
      omega
    have hskip : jumpOf w s .bar = s - w.base := rfl
    rw [hjump] at hwild
    have hempty := shows_empty hs hw hfits (Nat.le_trans hge (by omega)) (by omega) hwild
    obtain ⟨hslots, hstart⟩ := scan_stays (t := (shiftWindow t
      ((t.startWin + t.winSize - 1) % maxTidValue) ((s + t.winSize - 1) % maxTidValue)).1)
      (by rw [hempty.cells]; exact headFree_replicate _)
      (by rw [hempty.base]; exact Nat.mod_lt _ (by decide))
    rw [hseq, placePkt_bar]
    refine ⟨_, rfl, _, _, by rw [opOf, if_pos rfl, Window.step, Window.skipTo,
      if_neg (Nat.not_lt.mpr hge)], ?_⟩
    rw [hskip] at ha hj
    refine not_shows_drain (by rw [Window.advance_length, hlen]; exact hfits) ?_ ha ?_
    · rw [Reply.after, hstart, hempty.base, ← hjump, hskip]
      rfl
    · rw [Reply.after, hslots, hempty.cells, List.getElem?_replicate]
      split <;> rfl
  · have hseq : placedSeq t (s % maxTidValue) pktType = s % maxTidValue := if_neg hne
    have hjump : jumpOf w s pktType = w.jump s := if_neg hne
    rw [hjump] at hwild ha hj hpos
    have hempty := shows_empty hs hw hfits hge (by omega) hwild
    have hlast : s = w.base + w.jump s + (w.cells.length - 1) := by
      rw [Window.jump] at hpos ⊢
      omega
    obtain ⟨r, hr, hstart, hslots⟩ := placePkt_emptied hne payload (by omega) (by omega) hempty
      hlast
    obtain ⟨out, hrec⟩ := receive_past hge (by omega) hpos payload
    rw [hseq, hr]
    refine ⟨_, rfl, _, out, by rw [opOf, if_neg hne, Window.step, hrec], ?_⟩
    have hjne : w.cells.length - 1 ≠ j := by omega
    refine not_shows_drain (j := j) (a := a) ?_ ?_ ?_ ?_
    · rw [Window.put, List.length_set, Window.advance_length, hlen]
      exact hfits
    · exact hstart
    · rw [Window.put, List.getElem?_set_ne hjne]
      exact ha
    · rw [Reply.after, hslots, List.getElem?_set_ne hjne, List.getElem?_replicate]
      split <;> rfl

theorem orderPkt_follows_iff {t : RxReorderTbl β} {w : Window (Payload β)} (hs : Shows t w)
    (hw : 1 < t.winSize) (hfits : t.winSize ≤ 1023) (hdrop : t.forceNoDrop = false) {s : Nat}
    (hnear : Near w s) (pktType : PktType) (payload : Payload β) :
    (∃ r, orderPkt t (s % maxTidValue) pktType payload = some r ∧
      Follows r w (w.step (opOf s pktType payload))) ↔ Tame w (jumpOf w s pktType) := by
  refine ⟨fun ⟨r, hr, hf⟩ => ?_, fun htame =>
    orderPkt_follows hs hw hfits hdrop hnear htame payload⟩
  by_contra hwild
  obtain ⟨a, ha, v, out, hstep, hnot⟩ := admitPkt_wild hs hw hfits hdrop hnear hwild payload
  rw [orderPkt, ha, Option.map_some] at hr
  rw [hstep, ← Option.some.inj hr] at hf
  exact hnot (hf.2.1.congr (settleTimer_startWin _ _).symm (settleTimer_slots _ _).symm)

def atWrap : RxReorderTbl Nat :=
  { (newNode 0 peer 4 4094 4093 : RxReorderTbl Nat) with
    slots := [none, none, some (.buffer 7), none]
    bitmap := 4
    checkStartWin := false }

omit [ULong] in
theorem atWrap_loses :
    letI := arm32
    ¬ ∃ r, orderPkt atWrap (4099 % maxTidValue) .other (.buffer 9) = some r ∧
      Follows r ⟨4094, atWrap.slots⟩
        (Window.step ⟨4094, atWrap.slots⟩ (opOf 4099 .other (.buffer 9))) := by
  have hiff := @orderPkt_follows_iff _ arm32 atWrap ⟨4094, atWrap.slots⟩ ⟨rfl, rfl⟩ (by decide)
    (by decide) rfl 4099 (by decide) .other (.buffer 9)
  exact hiff.not.mpr (by decide)

end RxReorder
