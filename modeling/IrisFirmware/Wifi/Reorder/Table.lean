import IrisFirmware.Library.SeqWindow

namespace RxReorder

open SeqWindow

variable {β : Type*}

def maxTidValue : Nat := 4096
def twoPow11 : Nat := 2048
def defaultSeqNum : Nat := 0xffff
def maxNumTid : Nat := 8

inductive MlanStatus where
  | success
  | failure
deriving DecidableEq, Repr

inductive PktType where
  | amsdu
  | bar
  | other
deriving DecidableEq, Repr

inductive Payload (β : Type*) where
  | droppedInFw
  | buffer (b : β)
deriving DecidableEq, Repr

inductive BaStatus where
  | notSetup
  | setupInprogress
  | setupComplete
deriving DecidableEq, Repr

-- the slots are the allocation of rx_reorder_ptr, win_size entries of it
structure RxReorderTbl (β : Type*) where
  tid : Nat
  ta : Vector UInt8 6
  startWin : Nat
  lastSeq : Nat
  slots : List (Option (Payload β))
  timerIsSet : Bool
  baStatus : BaStatus
  amsdu : Bool
  forceNoDrop : Bool
  checkStartWin : Bool
  pktCount : UInt8
  flushData : Bool
  bitmap : BitVec 64
deriving DecidableEq, Repr

def RxReorderTbl.winSize (t : RxReorderTbl β) : Nat := t.slots.length

def dispatchPkt : Payload β → List β
  | .droppedInFw => []
  | .buffer b => [b]

def sendSlot (s : List (Option (Payload β)) × List β) (i : Nat) :
    List (Option (Payload β)) × List β :=
  match s.1[i]? with
  | some (some p) => (s.1.set i none, s.2 ++ dispatchPkt p)
  | _ => s

def sendSlots (n : Nat) (slots : List (Option (Payload β))) :
    List (Option (Payload β)) × List β :=
  (List.range n).foldl sendSlot (slots, [])

def moveSlot (n : Nat) (slots : List (Option (Payload β))) (i : Nat) :
    List (Option (Payload β)) :=
  (slots.set i (slots[n + i]?.join)).set (n + i) none

def rotateSlots (n : Nat) (slots : List (Option (Payload β))) : List (Option (Payload β)) :=
  (List.range (slots.length - n)).foldl (moveSlot n) slots

def clearBits (bitmap : BitVec 64) (n : Nat) : BitVec 64 := if n < 64 then bitmap >>> n else 0

def noPktToSend (t : RxReorderTbl β) (startWin : Nat) : Nat :=
  if startWin > t.startWin then min (startWin - t.startWin) t.winSize else t.winSize

def dispatchPktUntilStartWin (t : RxReorderTbl β) (startWin : Nat) :
    RxReorderTbl β × List β :=
  let n := noPktToSend t startWin
  let s := sendSlots n t.slots
  ({ t with
      slots := rotateSlots n s.1
      bitmap := clearBits t.bitmap n
      startWin := startWin }, s.2)

-- the loop stops at the first hole; k is what is left of the window
def scanSlots : Nat → Nat → List (Option (Payload β)) → Nat × List (Option (Payload β)) × List β
  | 0, i, slots => (i, slots, [])
  | k + 1, i, slots =>
    match slots[i]? with
    | some (some p) =>
      let r := scanSlots k (i + 1) (slots.set i none)
      (r.1, r.2.1, dispatchPkt p ++ r.2.2)
    | _ => (i, slots, [])

def scanAndDispatch (t : RxReorderTbl β) : RxReorderTbl β × List β :=
  let r := scanSlots t.winSize 0 t.slots
  ({ t with
      slots := if r.1 > 0 then rotateSlots r.1 r.2.1 else r.2.1
      bitmap := clearBits t.bitmap r.1
      startWin := (t.startWin + r.1) % maxTidValue }, r.2.2)

def findLastSlot (slots : List (Option (Payload β))) : Nat → Option Nat
  | 0 => none
  | i + 1 => if (slots[i]?.join).isSome then some i else findLastSlot slots i

def findLastSeqnum (t : RxReorderTbl β) : Option Nat := findLastSlot t.slots t.winSize

def startFlushData (t : RxReorderTbl β) : RxReorderTbl β × List β :=
  match findLastSeqnum t with
  | none => (t, [])
  | some last => dispatchPktUntilStartWin t ((t.startWin + last + 1) % maxTidValue)

def timerRestart (t : RxReorderTbl β) : RxReorderTbl β := { t with timerIsSet := true }

def sentOf (xs : List (Nat × Payload β)) : List β := xs.flatMap (fun x => dispatchPkt x.2)

@[simp] theorem sentOf_nil : sentOf ([] : List (Nat × Payload β)) = [] := rfl

@[simp] theorem sentOf_append (xs ys : List (Nat × Payload β)) :
    sentOf (xs ++ ys) = sentOf xs ++ sentOf ys := List.flatMap_append

theorem sendSlots_eq (b : Nat) {n : Nat} {slots : List (Option (Payload β))}
    (hn : n ≤ slots.length) :
    sendSlots n slots =
      (List.replicate n none ++ slots.drop n, sentOf (numbered b (slots.take n))) := by
  induction n with
  | zero => simp [sendSlots, numbered]
  | succ n ih =>
    have hlt : n < slots.length := hn
    rw [sendSlots, List.range_succ, List.foldl_append, ← sendSlots, ih (Nat.le_of_lt hn)]
    have hget : (List.replicate n none ++ slots.drop n)[n]? = some slots[n] := by
      rw [List.getElem?_append_right (by simp)]
      simp [hlt]
    have htake : slots.take (n + 1) = slots.take n ++ [slots[n]] := by
      rw [List.take_succ_eq_append_getElem hlt]
    have hdrop : slots.drop n = slots[n] :: slots.drop (n + 1) :=
      List.drop_eq_getElem_cons hlt
    rw [List.foldl_cons, List.foldl_nil, sendSlot, hget, htake, numbered_append,
      sentOf_append, hdrop, List.replicate_succ']
    cases slots[n] with
    | none => simp [numbered]
    | some p => simp [numbered, sentOf]

def moveSlots (n k : Nat) (slots : List (Option (Payload β))) : List (Option (Payload β)) :=
  (List.range k).foldl (moveSlot n) slots

theorem moveSlots_succ (n k : Nat) (slots : List (Option (Payload β))) :
    moveSlots n (k + 1) slots = moveSlot n (moveSlots n k slots) k := by
  rw [moveSlots, List.range_succ, List.foldl_append]
  rfl

@[simp] theorem moveSlots_length (n k : Nat) (slots : List (Option (Payload β))) :
    (moveSlots n k slots).length = slots.length := by
  induction k with
  | zero => rfl
  | succ k ih => rw [moveSlots_succ, moveSlot, List.length_set, List.length_set, ih]

theorem moveSlots_getElem? {n k : Nat} {slots : List (Option (Payload β))} (hn : 0 < n)
    (hk : n + k ≤ slots.length) (j : Nat) :
    (moveSlots n k slots)[j]? =
      if j < k then slots[n + j]? else if n ≤ j ∧ j < n + k then some none else slots[j]? := by
  induction k generalizing j with
  | zero =>
    rw [if_neg (Nat.not_lt_zero j), if_neg (by omega)]
    rfl
  | succ k ih =>
    have hprev := ih (by omega)
    have hsrc : (moveSlots n k slots)[n + k]? = slots[n + k]? := by
      rw [hprev, if_neg (by omega), if_neg (by omega)]
    have hin : n + k < slots.length := by omega
    rw [moveSlots_succ, moveSlot, List.getElem?_set, List.length_set, List.getElem?_set,
      moveSlots_length, hsrc, if_pos hin]
    rcases eq_or_ne (n + k) j with hj | hj
    · rw [if_pos hj, if_neg (by omega), if_pos (by omega)]
    · rw [if_neg hj]
      rcases eq_or_ne k j with hkj | hkj
      · rw [if_pos hkj, if_pos (by omega), if_pos (by omega), ← hkj,
          List.getElem?_eq_getElem hin]
        rfl
      · rw [if_neg hkj, hprev]
        rcases Nat.lt_or_ge j k with hlt | hge
        · rw [if_pos hlt, if_pos (by omega)]
        · have hk0 : ¬ j < k := by omega
          have hk1 : ¬ j < k + 1 := by omega
          have hiff : (n ≤ j ∧ j < n + k) ↔ (n ≤ j ∧ j < n + (k + 1)) := by omega
          rw [if_neg hk0, if_neg hk1]
          simp only [hiff]

theorem rotateSlots_eq {n : Nat} {rest : List (Option (Payload β))} (hn : 0 < n) :
    rotateSlots n (List.replicate n none ++ rest) = rest ++ List.replicate n none := by
  have hlen : (List.replicate n none ++ rest).length - n = rest.length := by simp
  rw [rotateSlots, hlen, ← moveSlots]
  refine List.ext_getElem? fun j => ?_
  rw [moveSlots_getElem? hn (by simp)]
  rcases Nat.lt_or_ge j rest.length with hj | hj
  · rw [if_pos hj, List.getElem?_append_left hj, List.getElem?_append_right (by simp)]
    simp
  · rw [if_neg (by omega), List.getElem?_append_right hj]
    rcases Nat.lt_or_ge j (n + rest.length) with hb | hb
    · rw [List.getElem?_replicate_of_lt (by omega)]
      rcases Nat.lt_or_ge j n with hjn | hjn
      · rw [if_neg (by omega), List.getElem?_append_left (by simpa using hjn),
          List.getElem?_replicate_of_lt hjn]
      · rw [if_pos ⟨hjn, hb⟩]
    · rw [if_neg (by omega), List.getElem?_eq_none (by simpa using hb),
        List.getElem?_eq_none (by simp; omega)]

theorem noPktToSend_le (t : RxReorderTbl β) (startWin : Nat) :
    noPktToSend t startWin ≤ t.slots.length := by
  rw [noPktToSend]
  split
  · exact min_le_right _ _
  · exact le_rfl

theorem noPktToSend_pos {t : RxReorderTbl β} (h : 0 < t.winSize) (startWin : Nat) :
    0 < noPktToSend t startWin := by
  rw [noPktToSend]
  split <;> omega

@[simp] theorem dispatch_startWin (t : RxReorderTbl β) (s : Nat) :
    (dispatchPktUntilStartWin t s).1.startWin = s := rfl

@[simp] theorem dispatch_bitmap (t : RxReorderTbl β) (s : Nat) :
    (dispatchPktUntilStartWin t s).1.bitmap = clearBits t.bitmap (noPktToSend t s) := rfl

theorem dispatch_eq {t : RxReorderTbl β} (h : 0 < t.winSize) (s : Nat) :
    dispatchPktUntilStartWin t s =
      ({ t with
          slots := shifted (noPktToSend t s) t.slots
          bitmap := clearBits t.bitmap (noPktToSend t s)
          startWin := s },
        sentOf (numbered 0 (t.slots.take (noPktToSend t s)))) := by
  have hle := noPktToSend_le t s
  rw [dispatchPktUntilStartWin]
  simp only [sendSlots_eq 0 hle, rotateSlots_eq (noPktToSend_pos h s), shifted,
    Nat.min_eq_left hle]

theorem scanSlots_eq (b : Nat) (k : Nat) (done : List (Option (Payload β)))
    (rest : List (Option (Payload β))) (hk : k = rest.length) :
    scanSlots k done.length (done ++ rest) =
      (done.length + lead rest,
        done ++ List.replicate (lead rest) none ++ rest.drop (lead rest),
        sentOf (numbered b (rest.take (lead rest)))) := by
  induction rest generalizing k b done with
  | nil =>
    obtain rfl : k = 0 := hk
    simp [scanSlots, lead, numbered]
  | cons c rest ih =>
    obtain rfl : k = rest.length + 1 := hk
    have hget : (done ++ c :: rest)[done.length]? = some c := by simp
    cases c with
    | none => simp [scanSlots, lead, numbered]
    | some p =>
      have hset : (done ++ some p :: rest).set done.length none = (done ++ [none]) ++ rest := by
        simp
      have hlen : done.length + 1 = (done ++ [(none : Option (Payload β))]).length := by simp
      rw [scanSlots, hget]
      simp only [hset]
      rw [hlen, ih (b + 1) _ _ rfl]
      simp only [List.length_append, List.length_cons, List.length_nil, lead,
        List.append_assoc, List.replicate_succ, List.cons_append, List.nil_append,
        List.drop_succ_cons, List.take_succ_cons, numbered, Prod.mk.injEq, true_and]
      exact ⟨by omega, rfl⟩

theorem scanAndDispatch_eq (t : RxReorderTbl β) :
    scanAndDispatch t =
      ({ t with
          slots := shifted (lead t.slots) t.slots
          bitmap := clearBits t.bitmap (lead t.slots)
          startWin := (t.startWin + lead t.slots) % maxTidValue },
        sentOf (numbered 0 (t.slots.take (lead t.slots)))) := by
  have h := scanSlots_eq 0 t.winSize [] t.slots rfl
  simp only [List.length_nil, List.nil_append, Nat.zero_add] at h
  have hle := lead_le t.slots
  rw [scanAndDispatch, h]
  rcases Nat.eq_zero_or_pos (lead t.slots) with h0 | hpos
  · simp [h0]
  · simp only [gt_iff_lt, hpos, if_true, rotateSlots_eq hpos, shifted, Nat.min_eq_left hle]

theorem findLastSlot_eq {slots : List (Option (Payload β))} {k : Nat} (hk : k ≤ slots.length) :
    findLastSlot slots k =
      if span (slots.take k) = 0 then none else some (span (slots.take k) - 1) := by
  induction k with
  | zero => rfl
  | succ k ih =>
    rw [findLastSlot, List.getElem?_eq_getElem hk, List.take_succ_eq_append_getElem hk]
    cases hs : slots[k] with
    | none =>
      rw [span_concat_none, ← ih (Nat.le_of_lt hk)]
      rfl
    | some p =>
      have hlen : (slots.take k).length = k := by rw [List.length_take]; omega
      rw [span_concat_some, hlen]
      rfl

theorem findLastSeqnum_eq (t : RxReorderTbl β) :
    findLastSeqnum t = if span t.slots = 0 then none else some (span t.slots - 1) := by
  have h := findLastSlot_eq (k := t.slots.length) (le_refl t.slots.length)
  rwa [List.take_length] at h

theorem numbered_sent (b c : Nat) (cs : List (Option (Payload β))) :
    sentOf (numbered b cs) = sentOf (numbered c cs) := by
  induction cs generalizing b c with
  | nil => rfl
  | cons x cs ih =>
    cases x with
    | none => exact ih (b + 1) (c + 1)
    | some p => exact congrArg (dispatchPkt p ++ ·) (ih (b + 1) (c + 1))

def held (t : RxReorderTbl β) : List β := sentOf (numbered 0 t.slots)

theorem held_shifted (b n : Nat) (slots : List (Option (Payload β))) :
    sentOf (numbered b (slots.take n)) ++ sentOf (numbered b (shifted n slots)) =
      sentOf (numbered b slots) := by
  rw [← shifted_held b n slots, sentOf_append, numbered_sent (b + n) b]

theorem dispatch_held {t : RxReorderTbl β} (h : 0 < t.winSize) (s : Nat) :
    (dispatchPktUntilStartWin t s).2 ++ held (dispatchPktUntilStartWin t s).1 = held t := by
  rw [dispatch_eq h]
  exact held_shifted 0 _ t.slots

theorem scan_held (t : RxReorderTbl β) :
    (scanAndDispatch t).2 ++ held (scanAndDispatch t).1 = held t := by
  rw [scanAndDispatch_eq]
  exact held_shifted 0 _ t.slots

theorem flush_eq {t : RxReorderTbl β} (h : span t.slots ≠ 0) :
    startFlushData t =
      dispatchPktUntilStartWin t ((t.startWin + span t.slots) % maxTidValue) := by
  rw [startFlushData, findLastSeqnum_eq, if_neg h]
  have hsum : t.startWin + (span t.slots - 1) + 1 = t.startWin + span t.slots := by omega
  simp only [hsum]

-- the head of the table is at most 4096: last_seq + 1 is stored without the mask
structure Placed (t : RxReorderTbl β) : Prop where
  start : t.startWin ≤ maxTidValue
  pos : 0 < t.winSize
  fits : t.winSize ≤ 1023

theorem span_le_noPktToSend {t : RxReorderTbl β} (h : Placed t) :
    span t.slots ≤ noPktToSend t ((t.startWin + span t.slots) % maxTidValue) := by
  have hle : span t.slots ≤ t.winSize := span_le t.slots
  have hstart := h.start
  have hfits := h.fits
  rw [noPktToSend]
  rcases Nat.lt_or_ge t.startWin ((t.startWin + span t.slots) % maxTidValue) with hw | hw
  · rw [if_pos hw]
    simp only [maxTidValue] at hstart hw ⊢
    omega
  · rw [if_neg (Nat.not_lt.mpr hw)]
    exact hle

theorem flush_all {t : RxReorderTbl β} (h : Placed t) :
    (startFlushData t).2 = held t ∧
      (startFlushData t).1.slots = List.replicate t.slots.length none := by
  rcases eq_or_ne (span t.slots) 0 with h0 | hpos
  · have hcells := shifted_of_span_le (le_of_eq h0)
    have hnum := numbered_take_of_span_le 0 (le_of_eq h0)
    rw [shifted_zero] at hcells
    rw [startFlushData, findLastSeqnum_eq, if_pos h0, held, ← hnum]
    exact ⟨rfl, hcells⟩
  · have hn := span_le_noPktToSend h
    rw [flush_eq hpos, dispatch_eq (h.pos)]
    exact ⟨congrArg sentOf (numbered_take_of_span_le 0 hn), shifted_of_span_le hn⟩

end RxReorder
