import IrisFirmware.Misc.Schedule.Buffer

namespace PegaSchedule

namespace Sched

def live (s : Sched) : List SchDef := s.schBuff.take s.schCnt

def idle (s : Sched) : List SchDef := s.schBuff.drop s.schCnt

def pending (s : Sched) : List Nat := s.live.map SchDef.enEVT

end Sched

structure SchInv (s : Sched) : Prop where
  size : s.schBuff.length = schBuffMax
  count : s.schCnt ≤ schBuffMax - 1
  distinct : s.pending.Nodup
  live : ∀ e ∈ s.pending, e ≠ schEVTNone
  idle : ∀ e ∈ s.idle, e.enEVT = schEVTNone

structure Layout (l r : List SchDef) : Prop where
  size : l.length + r.length = schBuffMax
  spare : r ≠ []
  distinct : (l.map SchDef.enEVT).Nodup
  live : ∀ e ∈ l.map SchDef.enEVT, e ≠ schEVTNone
  idle : ∀ e ∈ r, e.enEVT = schEVTNone

abbrev assemble (l r : List SchDef) : Sched := ⟨l ++ r, l.length⟩

@[simp] theorem live_assemble (l r : List SchDef) : (assemble l r).live = l := by
  simp [Sched.live]

@[simp] theorem idle_assemble (l r : List SchDef) : (assemble l r).idle = r := by
  simp [Sched.idle]

@[simp] theorem pending_assemble (l r : List SchDef) :
    (assemble l r).pending = l.map SchDef.enEVT := by
  simp [Sched.pending]

theorem schInv_assemble {l r : List SchDef} : SchInv (assemble l r) ↔ Layout l r := by
  constructor
  · rintro ⟨hs, hc, hd, hl, hi⟩
    simp only [pending_assemble, idle_assemble] at hd hl hi
    refine ⟨by simpa using hs, ?_, hd, hl, hi⟩
    rintro rfl
    simp [schBuffMax] at hs hc
    omega
  · rintro ⟨hs, hn, hd, hl, hi⟩
    have hr : 0 < r.length := List.length_pos_iff.mpr hn
    refine ⟨by simpa using hs, ?_, by simpa using hd, by simpa using hl, by simpa using hi⟩
    simp only [schBuffMax] at hs ⊢
    omega

theorem SchInv.exists_layout {s : Sched} (h : SchInv s) :
    ∃ l r, s = assemble l r ∧ Layout l r := by
  have hlen : (s.schBuff.take s.schCnt).length = s.schCnt := by
    have hs := h.size
    have hc := h.count
    rw [List.length_take]
    omega
  have he : s = assemble s.live s.idle := by
    cases s
    simp only [Sched.live, Sched.idle, assemble, List.take_append_drop] at hlen ⊢
    rw [hlen]
  exact ⟨s.live, s.idle, he, schInv_assemble.mp (he ▸ h)⟩

theorem slot_append_left {l : List SchDef} (r : List SchDef) {i : Nat} (h : i < l.length) :
    slot (l ++ r) i = slot l i := by
  simp [slot, List.getElem?_append_left h]

theorem slot_mem_pending {l : List SchDef} {i : Nat} (h : i < l.length) :
    (slot l i).enEVT ∈ l.map SchDef.enEVT := by
  have hs : slot l i = l[i] := by simp [slot, h]
  exact List.mem_map.mpr ⟨l[i], List.getElem_mem h, by rw [hs]⟩

@[simp] theorem slot_length (l : List SchDef) (x : SchDef) (r : List SchDef) :
    slot (l ++ x :: r) l.length = x := by
  simp [slot]

theorem shiftDown_eq (pre : List SchDef) (x : SchDef) (post : List SchDef)
    (h : pre.length + 1 + post.length = schBuffMax) :
    shiftDown (pre ++ x :: post) pre.length =
      pre ++ post ++ [(x :: post).getLast (List.cons_ne_nil x post)] := by
  have hn : schBuffMax - 1 - pre.length = post.length := by omega
  rw [shiftDown, hn]
  clear h hn
  induction post generalizing pre x with
  | nil => simp
  | cons y post ih =>
    have hset : (pre ++ x :: y :: post).set pre.length (slot (pre ++ x :: y :: post)
        (pre.length + 1)) = (pre ++ [y]) ++ y :: post := by
      have hy : slot (pre ++ x :: y :: post) (pre.length + 1) = y := by
        simpa using slot_length (pre ++ [x]) y post
      rw [hy]
      simp
    have hpre : pre.length + 1 = (pre ++ [y]).length := by simp
    rw [List.length_cons, List.range'_succ, List.foldl_cons, hset, hpre, ih]
    simp

theorem eventFind_none_event {l r : List SchDef} (h : Layout l r) :
    eventFind (assemble l r) schEVTNone = some l.length := by
  obtain ⟨z, r, rfl⟩ := List.exists_cons_of_ne_nil h.spare
  simp only [eventFind, List.find?_range_eq_some]
  refine ⟨by simpa using h.idle z (by simp), by simp, ?_⟩
  intro j hj
  simpa [slot_append_left _ hj] using h.live _ (slot_mem_pending hj)

theorem eventFind_cases {l r : List SchDef} (h : Layout l r) {e : Nat} (he : e ≠ schEVTNone) :
    (eventFind (assemble l r) e = none ∧ e ∉ l.map SchDef.enEVT) ∨
    ∃ a x b, l = a ++ x :: b ∧ x.enEVT = e ∧ eventFind (assemble l r) e = some a.length := by
  obtain ⟨z, r, rfl⟩ := List.exists_cons_of_ne_nil h.spare
  have hz : z.enEVT = schEVTNone := h.idle z (by simp)
  by_cases hm : e ∈ l.map SchDef.enEVT
  · right
    obtain ⟨x, hx, rfl⟩ := List.mem_map.mp hm
    obtain ⟨a, b, rfl⟩ := List.append_of_mem hx
    refine ⟨a, x, b, rfl, rfl, ?_⟩
    simp only [eventFind, List.find?_range_eq_some]
    refine ⟨by simp, by simp, ?_⟩
    intro j hj
    have hd := h.distinct
    simp only [List.map_append, List.map_cons, List.nodup_append] at hd
    have hne := hd.2.2 _ (slot_mem_pending hj) x.enEVT (by simp)
    simpa [slot_append_left _ hj] using hne
  · left
    refine ⟨?_, hm⟩
    simp only [eventFind, List.find?_range_eq_none]
    intro j hj
    rcases Nat.lt_succ_iff_lt_or_eq.mp hj with hj | rfl
    · have hne : (slot l j).enEVT ≠ e := fun hc => hm (hc ▸ slot_mem_pending hj)
      simpa [slot_append_left _ hj] using hne
    · simpa [hz] using he.symm

theorem Layout.rearm {a b r : List SchDef} {x y : SchDef} (h : Layout (a ++ x :: b) r)
    (hy : y.enEVT = x.enEVT) : Layout (a ++ y :: b) r := by
  obtain ⟨hs, hn, hd, hl, hi⟩ := h
  refine ⟨by simpa using hs, hn, ?_, ?_, hi⟩
  · simpa [hy] using hd
  · simpa [hy] using hl

theorem Layout.respare {l r : List SchDef} {y z : SchDef} (h : Layout l (z :: r))
    (hy : y.enEVT = schEVTNone) : Layout l (y :: r) := by
  refine ⟨by simpa only [List.length_cons] using h.size, List.cons_ne_nil y r, h.distinct, h.live, ?_⟩
  intro e he
  rcases List.mem_cons.mp he with he | he
  · rw [he, hy]
  · exact h.idle e (List.mem_cons_of_mem z he)

theorem Layout.append {l r : List SchDef} {z y : SchDef} (h : Layout l (z :: r)) (hr : r ≠ [])
    (hy : y.enEVT ≠ schEVTNone) (hm : y.enEVT ∉ l.map SchDef.enEVT) :
    Layout (l ++ [y]) r := by
  obtain ⟨hs, _, hd, hl, hi⟩ := h
  refine ⟨?_, hr, ?_, ?_, fun e he => hi e (by simp [he])⟩
  · simp only [List.length_cons, List.length_append, List.length_nil] at hs ⊢
    omega
  · rw [List.map_append, List.nodup_append]
    refine ⟨hd, by simp, ?_⟩
    intro u hu v hv
    simp only [List.map_cons, List.map_nil, List.mem_singleton] at hv
    rintro rfl
    exact hm (hv ▸ hu)
  · intro u hu
    simp only [List.map_append, List.map_cons, List.map_nil, List.mem_append,
      List.mem_singleton] at hu
    rcases hu with hu | rfl
    · exact hl u hu
    · exact hy

theorem Layout.remove {a b r : List SchDef} {x z : SchDef} (h : Layout (a ++ x :: b) r)
    (hz : z.enEVT = schEVTNone) : Layout (a ++ b) (r ++ [z]) := by
  obtain ⟨hs, _, hd, hl, hi⟩ := h
  have hsub : ((a ++ b).map SchDef.enEVT).Sublist ((a ++ x :: b).map SchDef.enEVT) :=
    ((List.sublist_cons_self x b).append_left a).map _
  refine ⟨?_, by simp, hsub.nodup hd, fun u hu => hl u (hsub.subset hu), ?_⟩
  · simp only [List.length_append, List.length_cons, List.length_nil] at hs ⊢
    omega
  · intro u hu
    simp only [List.mem_append, List.mem_singleton] at hu
    rcases hu with hu | rfl
    · exact hi u hu
    · exact hz

theorem Layout.retime {l l' r : List SchDef} (h : Layout l r)
    (he : l'.map SchDef.enEVT = l.map SchDef.enEVT) : Layout l' r := by
  have hlen : l'.length = l.length := by simpa using congrArg List.length he
  exact ⟨by rw [hlen]; exact h.size, h.spare, he ▸ h.distinct, he ▸ h.live, h.idle⟩

theorem Layout.getLast_idle {l r : List SchDef} (h : Layout l r) (hr : r ≠ []) :
    (r.getLast hr).enEVT = schEVTNone := h.idle _ (List.getLast_mem hr)

theorem buffReset_layout {s : Sched} (h : s.schBuff.length = schBuffMax) :
    ∃ r, buffReset s = assemble [] r ∧ Layout [] r := by
  refine ⟨_, rfl, ⟨by simpa using h, ?_, by simp, by simp, ?_⟩⟩
  · intro hc
    simp only [List.map_eq_nil_iff] at hc
    simp [hc, schBuffMax] at h
  · intro e he
    simp only [List.mem_map] at he
    obtain ⟨x, _, rfl⟩ := he
    rfl

theorem timeCountSet_mid (a b r : List SchDef) (x : SchDef) (d : Nat) :
    timeCountSet (assemble (a ++ x :: b) r) a.length d =
      assemble (a ++ ⟨x.enEVT, toInt32 d, 0⟩ :: b) r := by
  simp [timeCountSet, assemble]

theorem buffReschedlue_mid {a b r : List SchDef} {x : SchDef} (h : Layout (a ++ x :: b) r) :
    buffReschedlue (assemble (a ++ x :: b) r) a.length =
      assemble (a ++ b) (r ++ [r.getLast h.spare]) := by
  have hs := h.size
  have hshift := shiftDown_eq a x (b ++ r) (by
    simp only [List.length_append, List.length_cons] at hs ⊢; omega)
  have hlast : (x :: (b ++ r)).getLast (List.cons_ne_nil _ _) = r.getLast h.spare :=
    List.getLast_append_of_ne_nil (l := x :: b) (List.cons_ne_nil _ _) h.spare
  rw [hlast] at hshift
  have hb : (a ++ x :: b) ++ r = a ++ x :: (b ++ r) := by simp
  simp only [buffReschedlue, assemble, hb, hshift]
  simp

end PegaSchedule
