import IrisFirmware.Library.TimerQueue
import IrisFirmware.Misc.Schedule.Invariant

namespace PegaSchedule

open TimerQueue (Queue Entry countDown)

def SchDef.entry (e : SchDef) : Entry Nat := ⟨e.enEVT, e.wTMCount⟩

def Sched.queue (s : Sched) : Queue Nat := s.live.map SchDef.entry

abbrev schCap : Nat := schBuffMax - 1

def absOp : Op → TimerQueue.Op Nat
  | .push e d => if schEVTMax ≤ e ∨ e = schEVTNone then .skip else .arm e (toInt32 d)
  | .cancel e =>
    if schEVTMax ≤ e ∨ e = schEVTNone then .skip
    else if e = schEVTDeleteAll then .clear else .drop e
  | .round => .tick
  | .reset => .clear

def Op.strays (s : Sched) : Op → Prop
  | .cancel e => e = schEVTNone ∧ 0 < s.schCnt
  | _ => False

instance (s : Sched) : ∀ op : Op, Decidable (op.strays s)
  | .cancel _ => inferInstanceAs (Decidable (_ ∧ _))
  | .push _ _ => isFalse id
  | .round => isFalse id
  | .reset => isFalse id

@[simp] theorem entry_key (e : SchDef) : e.entry.key = e.enEVT := rfl

@[simp] theorem entry_left (e : SchDef) : e.entry.left = e.wTMCount := rfl

@[simp] theorem queue_assemble (l r : List SchDef) :
    (assemble l r).queue = l.map SchDef.entry := by
  simp [Sched.queue]

theorem keys_queue (s : Sched) : TimerQueue.keys s.queue = s.pending := by
  simp only [TimerQueue.keys, Sched.queue, Sched.pending, List.map_map]
  rfl

@[simp] theorem keys_map_entry (l : List SchDef) :
    TimerQueue.keys (l.map SchDef.entry) = l.map SchDef.enEVT := by
  simp only [TimerQueue.keys, List.map_map]
  rfl

theorem timeoutCheck_none {e : SchDef} (h : e.enEVT = schEVTNone) :
    timeoutCheck e = (e, false) := by
  simp [timeoutCheck, h]

theorem timeoutCheck_entry {e : SchDef} (h : e.enEVT ≠ schEVTNone) :
    (timeoutCheck e).1.entry = ⟨e.enEVT, countDown e.wTMCount⟩ := by
  by_cases hc : 0 < e.wTMCount <;> simp [timeoutCheck, h, hc, SchDef.entry, countDown]

theorem timeoutCheck_enEVT {e : SchDef} (h : e.enEVT ≠ schEVTNone) :
    (timeoutCheck e).1.enEVT = e.enEVT := congrArg Entry.key (timeoutCheck_entry h)

theorem timeoutCheck_expired {e : SchDef} (h : e.enEVT ≠ schEVTNone) :
    (timeoutCheck e).2 = decide (e.wTMCount = 1) := by
  by_cases hc : 0 < e.wTMCount
  · simp only [timeoutCheck, h, hc, if_true, if_false]
    exact decide_eq_decide.mpr (by omega)
  · have h1 : e.wTMCount ≠ 1 := by omega
    simp [timeoutCheck, h, hc, h1]

theorem eventTimeoutCheck_mid (pre post : List SchDef) (x : SchDef) (c : Nat) :
    eventTimeoutCheck ⟨pre ++ x :: post, c⟩ pre.length =
      (⟨pre ++ (timeoutCheck x).1 :: post, c⟩, (timeoutCheck x).2) := by
  simp [eventTimeoutCheck]

theorem eventGetFrom_cases (c : Nat) {z : SchDef} (r : List SchDef) (hz : z.enEVT = schEVTNone)
    (l : List SchDef) (hl : ∀ e ∈ l.map SchDef.enEVT, e ≠ schEVTNone) (pre : List SchDef) :
    (∃ l', eventGetFrom ⟨pre ++ (l ++ z :: r), c⟩ pre.length (l.length + 1) =
        (schEVTNone, ⟨pre ++ (l' ++ z :: r), c⟩) ∧
      TimerQueue.tick (l.map SchDef.entry) = (none, l'.map SchDef.entry)) ∨
    ∃ a y b, eventGetFrom ⟨pre ++ (l ++ z :: r), c⟩ pre.length (l.length + 1) =
        (y.enEVT, buffReschedlue ⟨pre ++ ((a ++ y :: b) ++ z :: r), c⟩ (pre ++ a).length) ∧
      (a ++ y :: b).map SchDef.enEVT = l.map SchDef.enEVT ∧
      TimerQueue.tick (l.map SchDef.entry) = (some y.enEVT, (a ++ b).map SchDef.entry) := by
  induction l generalizing pre with
  | nil =>
    left
    refine ⟨[], ?_, by simp [TimerQueue.tick]⟩
    simp [eventGetFrom, eventTimeoutCheck_mid, timeoutCheck_none hz]
  | cons x l ih =>
    have hx : x.enEVT ≠ schEVTNone := hl _ (by simp)
    have hstep : eventGetFrom ⟨pre ++ (x :: l ++ z :: r), c⟩ pre.length ((x :: l).length + 1) =
        if x.wTMCount = 1 then
          ((timeoutCheck x).1.enEVT,
            buffReschedlue ⟨pre ++ ((timeoutCheck x).1 :: (l ++ z :: r)), c⟩ pre.length)
        else eventGetFrom ⟨(pre ++ [(timeoutCheck x).1]) ++ (l ++ z :: r), c⟩
          (pre ++ [(timeoutCheck x).1]).length (l.length + 1) := by
      simp only [List.cons_append, List.length_cons, eventGetFrom, eventTimeoutCheck_mid,
        timeoutCheck_expired hx, decide_eq_true_eq, slot_length]
      simp
    by_cases h1 : x.wTMCount = 1
    · right
      refine ⟨[], (timeoutCheck x).1, l, ?_, by simp [timeoutCheck_enEVT hx], ?_⟩
      · rw [hstep, if_pos h1]
        simp
      · simp [TimerQueue.tick, h1, timeoutCheck_enEVT hx]
    · rw [hstep, if_neg h1]
      rcases ih (fun e he => hl e (by simp [he])) (pre ++ [(timeoutCheck x).1]) with
        ⟨l', hg, ht⟩ | ⟨a, y, b, hg, he, ht⟩
      · left
        refine ⟨(timeoutCheck x).1 :: l', by rw [hg]; simp, ?_⟩
        simp [TimerQueue.tick, h1, ht, timeoutCheck_entry hx]
      · right
        refine ⟨(timeoutCheck x).1 :: a, y, b, by rw [hg]; simp, ?_, ?_⟩
        · simpa [timeoutCheck_enEVT hx] using he
        · simp [TimerQueue.tick, h1, ht, timeoutCheck_entry hx]

theorem queue_rearm {a b r : List SchDef} {x : SchDef} (h : Layout (a ++ x :: b) r) (n : Int) :
    TimerQueue.arm schCap x.enEVT n ((a ++ x :: b).map SchDef.entry) =
      (a ++ ⟨x.enEVT, n, 0⟩ :: b).map SchDef.entry := by
  have hd := h.distinct
  simp only [List.map_append, List.map_cons, List.nodup_append, List.nodup_cons] at hd
  have other (c : List SchDef) (hc : x.enEVT ∉ c.map SchDef.enEVT) :
      TimerQueue.rearm x.enEVT n (c.map SchDef.entry) = c.map SchDef.entry := by
    simp only [TimerQueue.rearm, List.map_map]
    apply List.map_congr_left
    intro e he
    have hne : e.enEVT ≠ x.enEVT := fun hq => hc (hq ▸ List.mem_map_of_mem he)
    simp [hne]
  have ha := other a fun hc => hd.2.2 _ hc x.enEVT (by simp) rfl
  have hb := other b hd.2.1.1
  rw [TimerQueue.arm, if_pos (by simp)]
  simp only [TimerQueue.rearm] at ha hb
  simp [TimerQueue.rearm, ha, hb, SchDef.entry]

theorem queue_drop {a b r : List SchDef} {x : SchDef} (h : Layout (a ++ x :: b) r) :
    TimerQueue.drop x.enEVT ((a ++ x :: b).map SchDef.entry) = (a ++ b).map SchDef.entry := by
  have hd := h.distinct
  simp only [List.map_append, List.map_cons, List.nodup_append, List.nodup_cons] at hd
  have other (c : List SchDef) (hc : x.enEVT ∉ c.map SchDef.enEVT) :
      TimerQueue.drop x.enEVT (c.map SchDef.entry) = c.map SchDef.entry := by
    refine List.filter_eq_self.mpr fun e he => ?_
    obtain ⟨y, hy, rfl⟩ := List.mem_map.mp he
    exact decide_eq_true fun hq => hc (hq ▸ List.mem_map_of_mem hy)
  have ha := other a fun hc => hd.2.2 _ hc x.enEVT (by simp) rfl
  have hb := other b hd.2.1.1
  simp only [TimerQueue.drop] at ha hb ⊢
  rw [List.map_append, List.map_cons, List.filter_append, List.filter_cons_of_neg (by simp), ha, hb,
    List.map_append]

theorem eventPush_cases {l r : List SchDef} (h : Layout l r) (e d : Nat) :
    ∃ l' r' ok, eventPush (assemble l r) e d = (assemble l' r', ok) ∧ Layout l' r' ∧
      l'.map SchDef.entry =
        TimerQueue.step schCap (l.map SchDef.entry) (absOp (.push e d)) ∧
      (ok = false → l' = l ∧ r' = r) ∧
      (ok = true → e ≠ schEVTNone →
        e < schEVTMax ∧ ⟨e, toInt32 d, 0⟩ ∈ l') := by
  by_cases hmax : schEVTMax ≤ e
  · exact ⟨l, r, false, by simp [eventPush, hmax], h, by simp [absOp, hmax, TimerQueue.step],
      by simp, by simp⟩
  by_cases hnone : e = schEVTNone
  · subst hnone
    obtain ⟨z, r, rfl⟩ := List.exists_cons_of_ne_nil h.spare
    have hz : z.enEVT = schEVTNone := h.idle z (by simp)
    refine ⟨l, ⟨z.enEVT, toInt32 d, 0⟩ :: r, true, ?_, h.respare hz,
      by simp [absOp, TimerQueue.step], by simp, by simp⟩
    simp [eventPush, eventFind_none_event h, timeCountSet]
  have habs : absOp (.push e d) = .arm e (toInt32 d) := by simp [absOp, hmax, hnone]
  rcases eventFind_cases h hnone with ⟨hf, hm⟩ | ⟨a, x, b, rfl, rfl, hf⟩
  · have hk : e ∉ TimerQueue.keys (l.map SchDef.entry) := by simpa using hm
    by_cases hfull : schBuffMax - 1 ≤ l.length
    · refine ⟨l, r, false, ?_, h, ?_, by simp, by simp⟩
      · simp only [eventPush, if_neg hmax, hf, if_pos hfull]
      · rw [habs]
        have hlen : ¬ l.length < schCap := Nat.not_lt.mpr hfull
        simp only [TimerQueue.step, TimerQueue.arm, if_neg hk, List.length_map, if_neg hlen]
    · obtain ⟨z, r, rfl⟩ := List.exists_cons_of_ne_nil h.spare
      have hr : r ≠ [] := by
        rintro rfl
        have hs := h.size
        simp only [List.length_cons, List.length_nil] at hs
        omega
      refine ⟨l ++ [⟨e, toInt32 d, 0⟩], r, true, ?_, h.append hr hnone hm, ?_, by simp, ?_⟩
      · simp only [eventPush, if_neg hmax, hf, if_neg hfull]
        simp [timeCountSet, eventStore]
      · rw [habs]
        have hlen : l.length < schCap := Nat.lt_of_not_le hfull
        simp only [TimerQueue.step, TimerQueue.arm, if_neg hk, List.length_map, if_pos hlen]
        simp [SchDef.entry]
      · intro _ _
        exact ⟨Nat.lt_of_not_le hmax, by simp⟩
  · refine ⟨a ++ ⟨x.enEVT, toInt32 d, 0⟩ :: b, r, true, ?_, h.rearm rfl, ?_, by simp, ?_⟩
    · simp only [eventPush, if_neg hmax, hf]
      rw [timeCountSet_mid]
    · rw [habs, TimerQueue.step, queue_rearm h]
    · intro _ _
      exact ⟨Nat.lt_of_not_le hmax, by simp⟩

theorem eventCancel_cases {l r : List SchDef} (h : Layout l r) (e : Nat)
    (hs : ¬ (Op.cancel e).strays (assemble l r)) :
    ∃ l' r', (eventCancel (assemble l r) e).1 = assemble l' r' ∧ Layout l' r' ∧
      l'.map SchDef.entry =
        TimerQueue.step schCap (l.map SchDef.entry) (absOp (.cancel e)) := by
  by_cases hmax : schEVTMax ≤ e
  · exact ⟨l, r, by simp [eventCancel, hmax], h, by simp [absOp, hmax, TimerQueue.step]⟩
  by_cases hall : e = schEVTDeleteAll
  · obtain ⟨r', hr, hl⟩ := buffReset_layout (s := assemble l r) (by simpa using h.size)
    refine ⟨[], r', ?_, hl, by simp [absOp, hall, TimerQueue.step]⟩
    simp only [eventCancel, if_neg hmax, if_pos hall, hr]
  by_cases hnone : e = schEVTNone
  · subst hnone
    have hl : l = [] := by
      simpa [Op.strays, List.length_pos_iff] using hs
    subst hl
    obtain ⟨z, r, rfl⟩ := List.exists_cons_of_ne_nil h.spare
    have hf := eventFind_none_event h
    have hsize := h.size
    have hlast : ((z :: r).getLast (List.cons_ne_nil z r)).enEVT = schEVTNone :=
      h.getLast_idle (List.cons_ne_nil z r)
    have hshift := shiftDown_eq [] z r (by simpa [Nat.add_comm] using hsize)
    refine ⟨[], r ++ [(z :: r).getLast (List.cons_ne_nil z r)], ?_, ?_,
      by simp [absOp, TimerQueue.step]⟩
    · simp only [eventCancel, if_neg hmax, if_neg hall, hf, buffReschedlue]
      simpa using hshift
    · refine ⟨by simpa using hsize, by simp, by simp, by simp, ?_⟩
      intro y hy
      rcases List.mem_append.mp hy with hy | hy
      · exact h.idle y (by simp [hy])
      · rw [List.mem_singleton.mp hy]
        exact hlast
  have habs : absOp (.cancel e) = .drop e := by simp [absOp, hmax, hnone, hall]
  rcases eventFind_cases h hnone with ⟨hf, hm⟩ | ⟨a, x, b, rfl, rfl, hf⟩
  · refine ⟨l, r, ?_, h, ?_⟩
    · simp only [eventCancel, if_neg hmax, if_neg hall, hf]
    · rw [habs]
      refine (List.filter_eq_self.mpr fun y hy => ?_).symm
      obtain ⟨w, hw, rfl⟩ := List.mem_map.mp hy
      exact decide_eq_true fun hq => hm (hq ▸ List.mem_map_of_mem hw)
  · refine ⟨a ++ b, r ++ [r.getLast h.spare], ?_, h.remove (h.getLast_idle h.spare), ?_⟩
    · simp only [eventCancel, if_neg hmax, if_neg hall, hf, buffReschedlue_mid h]
    · rw [habs, TimerQueue.step, queue_drop h]

theorem eventGet_cases {l r : List SchDef} (h : Layout l r) :
    ∃ l' r', (eventGet (assemble l r)).2 = assemble l' r' ∧ Layout l' r' ∧
      TimerQueue.tick (l.map SchDef.entry) =
        (if (eventGet (assemble l r)).1 = schEVTNone then none
          else some (eventGet (assemble l r)).1, l'.map SchDef.entry) := by
  obtain ⟨z, r, rfl⟩ := List.exists_cons_of_ne_nil h.spare
  have hz : z.enEVT = schEVTNone := h.idle z (by simp)
  by_cases h0 : l.length = 0
  · obtain rfl := List.length_eq_zero_iff.mp h0
    exact ⟨[], z :: r, by simp [eventGet], h, by simp [eventGet, TimerQueue.tick]⟩
  have hget : eventGet (assemble l (z :: r)) =
      eventGetFrom ⟨l ++ z :: r, l.length⟩ 0 (l.length + 1) := by
    simp only [eventGet, if_neg h0]
  rcases eventGetFrom_cases l.length r hz l h.live [] with ⟨l', hg, ht⟩ | ⟨a, y, b, hg, he, ht⟩
  · simp only [List.nil_append, List.length_nil] at hg
    have hk := congrArg (fun q => TimerQueue.keys q.2) ht
    have hlive : l'.map SchDef.enEVT = l.map SchDef.enEVT := by
      have hsame := TimerQueue.tick_split (l.map SchDef.entry)
      rw [ht] at hsame
      rcases hsame with ⟨_, hs⟩ | ⟨_, _, _, _, hs, _⟩
      · simpa using hs
      · simp at hs
    have hlen : l'.length = l.length := by simpa using congrArg List.length hlive
    refine ⟨l', z :: r, ?_, h.retime hlive, ?_⟩
    · rw [hget, hg]
      simp [assemble, hlen]
    · rw [hget, hg, ht]
      simp
  · have hl' : Layout (a ++ y :: b) (z :: r) := h.retime he
    have hlen : (a ++ y :: b).length = l.length := by simpa using congrArg List.length he
    have hy : y.enEVT ≠ schEVTNone := hl'.live _ (by simp)
    simp only [List.nil_append, List.length_nil] at hg
    rw [← hlen] at hg
    refine ⟨a ++ b, (z :: r) ++ [(z :: r).getLast hl'.spare], ?_,
      hl'.remove (hl'.getLast_idle hl'.spare), ?_⟩
    · rw [hget, ← hlen, hg]
      exact buffReschedlue_mid hl'
    · rw [hget, ← hlen, hg, ht]
      simp [hy]

end PegaSchedule
