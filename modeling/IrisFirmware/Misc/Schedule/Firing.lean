import Mathlib.Data.List.TakeWhile
import IrisFirmware.Misc.Schedule.Runs

namespace PegaSchedule

open Run

def Op.nonNone : Op → Prop
  | .push e _ => e ≠ schEVTNone
  | .cancel e => e ≠ schEVTNone
  | .round => True
  | .reset => True

def Op.touches (e : Nat) : Op → Prop
  | .push e' _ => e' = e
  | .cancel e' => e' = e ∨ e' = schEVTDeleteAll
  | .round => False
  | .reset => True

instance (e : Nat) : DecidablePred (Op.touches e)
  | .push _ _ => inferInstanceAs (Decidable (_ = _))
  | .cancel _ => inferInstanceAs (Decidable (_ ∨ _))
  | .round => isFalse id
  | .reset => isTrue trivial

def window (e : Nat) (ops : List Op) : List Op := ops.takeWhile fun op => ¬ op.touches e

def rounds (ops : List Op) : Nat := ops.count .round

def lowerSlots (s : Sched) (e : Nat) : List Nat := s.pending.takeWhile fun x => x ≠ e

def lowerDelivered (s : Sched) (e : Nat) : Prop :=
  e ∈ s.pending ∧ (eventGet s).1 ∈ lowerSlots s e

instance (s : Sched) (e : Nat) : Decidable (lowerDelivered s e) :=
  inferInstanceAs (Decidable (_ ∧ _))

def lowerDeliveries (e : Nat) : Sched → List Op → Nat
  | _, [] => 0
  | s, .round :: ops =>
    (if lowerDelivered s e then 1 else 0) + lowerDeliveries e (step s .round) ops
  | s, op :: ops => lowerDeliveries e (step s op) ops

def deliveries (e : Nat) : Sched → List Op → List Nat
  | _, [] => []
  | s, .round :: ops =>
    (if (eventGet s).1 = e then [1] else []) ++ (deliveries e (step s .round) ops).map (· + 1)
  | s, op :: ops => deliveries e (step s op) ops

theorem not_strays_of_nonNone {op : Op} (h : op.nonNone) (s : Sched) : ¬ op.strays s := by
  cases op with
  | cancel e => exact fun hs => h hs.1
  | push e d => exact id
  | round => exact id
  | reset => exact id

theorem exec_inv {s : Sched} (h : SchInv s) {ops : List Op} (ho : ∀ op ∈ ops, op.nonNone) :
    SchInv (exec step s ops) := by
  refine exec_invariant (P := fun s op => ¬ op.strays s) h
    (fun _ op hi hp => (step_refines hi op hp).1) ?_
  exact along_of_forall (fun t op hm => not_strays_of_nonNone (ho op hm) t) s

theorem not_touches_absOp {e : Nat} {op : Op} (h : ¬ op.touches e) :
    ¬ TimerQueue.touches e (absOp op) := by
  cases op with
  | push e' d =>
    simp only [absOp]
    split_ifs
    · exact id
    · exact h
  | cancel e' =>
    simp only [Op.touches, not_or] at h
    simp only [absOp, if_neg h.2]
    split_ifs
    · exact id
    · exact h.1
  | round => exact id
  | reset => exact absurd trivial h

theorem not_touches_map {e : Nat} {ops : List Op} (ht : ∀ op ∈ ops, ¬ op.touches e) :
    ∀ o ∈ ops.map absOp, ¬ TimerQueue.touches e o := by
  intro o hm
  obtain ⟨op, hop, rfl⟩ := List.mem_map.mp hm
  exact not_touches_absOp (ht op hop)

theorem not_touches_window {e : Nat} {ops : List Op} :
    ∀ op ∈ window e ops, ¬ op.touches e := by
  intro op hm
  simpa using List.mem_takeWhile_imp hm

theorem lowerSlots_eq (s : Sched) (e : Nat) :
    lowerSlots s e = TimerQueue.keys (TimerQueue.before e s.queue) := by
  rw [TimerQueue.keys_before, keys_queue, lowerSlots]

theorem eventGet_eq_iff {s : Sched} (h : SchInv s) {e : Nat} (he : e ≠ schEVTNone) :
    (TimerQueue.tick s.queue).1 = some e ↔ (eventGet s).1 = e := by
  rw [eventGet_refines h]
  split_ifs with hn
  · simp [hn, he.symm]
  · exact Option.some_inj

theorem lowerDelivered_iff {s : Sched} (h : SchInv s) (e : Nat) :
    lowerDelivered s e ↔ TimerQueue.overtaken e s.queue = true := by
  have hd : (TimerQueue.keys s.queue).Nodup := keys_queue s ▸ h.distinct
  rw [TimerQueue.overtaken_iff hd, keys_queue, ← lowerSlots_eq, lowerDelivered]
  refine and_congr_right fun _ => ?_
  have live : ∀ x ∈ lowerSlots s e, x ≠ schEVTNone := fun x hx =>
    h.live x ((List.takeWhile_sublist _).subset hx)
  constructor
  · exact fun hx => ⟨_, hx, (eventGet_eq_iff h (live _ hx)).mpr rfl⟩
  · rintro ⟨x, hx, ht⟩
    rwa [(eventGet_eq_iff h (live x hx)).mp ht]

theorem absOp_ne_tick {op : Op} (h : op ≠ .round) : absOp op ≠ .tick := by
  cases op with
  | push e d => simp only [absOp]; split_ifs <;> simp
  | cancel e => simp only [absOp]; split_ifs <;> simp
  | round => exact absurd rfl h
  | reset => simp [absOp]

theorem between_rounds {op : Op} (h : op ≠ .round) (e : Nat) (s : Sched) (ops : List Op) :
    rounds (op :: ops) = rounds ops ∧
    lowerDeliveries e s (op :: ops) = lowerDeliveries e (step s op) ops ∧
    deliveries e s (op :: ops) = deliveries e (step s op) ops := by
  cases op with
  | round => exact absurd rfl h
  | push e' d => exact ⟨by simp [rounds], rfl, rfl⟩
  | cancel e' => exact ⟨by simp [rounds], rfl, rfl⟩
  | reset => exact ⟨by simp [rounds], rfl, rfl⟩

theorem window_refines {s : Sched} (h : SchInv s) {e : Nat} (he : e ≠ schEVTNone)
    {ops : List Op} (ho : Along step (fun s op => ¬ op.strays s) s ops) :
    rounds ops = TimerQueue.ticks (ops.map absOp) ∧
    lowerDeliveries e s ops = TimerQueue.overtakings schCap e s.queue (ops.map absOp) ∧
    deliveries e s ops = TimerQueue.firings schCap e s.queue (ops.map absOp) := by
  induction ops generalizing s with
  | nil => exact ⟨rfl, rfl, rfl⟩
  | cons op ops ih =>
    obtain ⟨hi, hq⟩ := step_refines h op ho.1
    obtain ⟨hr, hl, hd⟩ := ih hi ho.2
    rw [hq] at hl hd
    by_cases hround : op = .round
    · subst hround
      refine ⟨?_, ?_, ?_⟩
      · simp only [rounds, List.count_cons_self, List.map_cons, absOp, TimerQueue.ticks] at hr ⊢
        rw [hr]
      · simp only [lowerDeliveries, List.map_cons, absOp, TimerQueue.overtakings, hl,
          lowerDelivered_iff h, TimerQueue.step]
      · simp only [deliveries, List.map_cons, absOp, TimerQueue.firings, hd,
          eventGet_eq_iff h he, TimerQueue.step]
    · obtain ⟨hr', hl', hd'⟩ := between_rounds hround e s ops
      obtain ⟨ht, hov, hf⟩ := TimerQueue.between_ticks schCap (absOp_ne_tick hround) e s.queue
        (ops.map absOp)
      rw [hr', hl', hd', List.map_cons, ht, hov, hf]
      exact ⟨hr, hl, hd⟩

theorem push_stores {s : Sched} (h : SchInv s) {e d : Nat} (he : e ≠ schEVTNone)
    (hacc : (eventPush s e d).2 = true) :
    ∃ a b, (step s (.push e d)).queue = a ++ ⟨e, toInt32 d⟩ :: b ∧ a.length ≤ schBuffMax - 2 := by
  obtain ⟨l, r, rfl, hl⟩ := h.exists_layout
  obtain ⟨l', r', ok, hp, hl', _, _, hin⟩ := eventPush_cases hl e d
  rw [hp] at hacc
  obtain ⟨_, hm⟩ := hin hacc he
  obtain ⟨a, b, rfl⟩ := List.append_of_mem hm
  refine ⟨a.map SchDef.entry, b.map SchDef.entry, ?_, ?_⟩
  · simp only [step, hp, queue_assemble, List.map_append, List.map_cons, SchDef.entry]
  · have hs := hl'.size
    have hr : 0 < r'.length := List.length_pos_iff.mpr hl'.spare
    simp only [List.length_append, List.length_cons, List.length_map, schBuffMax] at hs ⊢
    omega

structure FiresOnTime (e d : Nat) (s : Sched) (ops : List Op) : Prop where
  ordinal : deliveries e s ops =
    if d + lowerDeliveries e s ops ≤ rounds ops then [d + lowerDeliveries e s ops] else []
  notEarly : ∀ n ∈ deliveries e s ops, d ≤ n
  bounded : lowerDeliveries e s ops ≤ schBuffMax - 2

theorem fires_on_time {s : Sched} (h : SchInv s) {e d : Nat} (he : e ≠ schEVTNone) (hd : 1 ≤ d)
    (hlt : d < 2 ^ 31) (hacc : (eventPush s e d).2 = true) {ops : List Op}
    (ho : Along step (fun s op => ¬ op.strays s) (step s (.push e d)) ops)
    (ht : ∀ op ∈ ops, ¬ op.touches e) :
    FiresOnTime e d (step s (.push e d)) ops := by
  obtain ⟨hi, _⟩ := step_refines h (.push e d) id
  obtain ⟨a, b, hq, hlen⟩ := push_stores h he hacc
  rw [toInt32_of_lt hlt] at hq
  obtain ⟨hr, hl, hdel⟩ := window_refines hi he ho
  have hnd : (TimerQueue.keys (a ++ ⟨e, (d : Int)⟩ :: b)).Nodup := by
    rw [← hq, keys_queue]
    exact hi.distinct
  obtain ⟨hf, hov⟩ := TimerQueue.firings_eq schCap (not_touches_map ht) hd hnd
  rw [← hq, ← hl, ← hr, ← hdel] at hf
  rw [← hq, ← hl] at hov
  refine ⟨hf, ?_, hov.trans hlen⟩
  intro n hn
  rw [hf] at hn
  split_ifs at hn
  · rw [List.mem_singleton.mp hn]
    exact Nat.le_add_right _ _
  · exact absurd hn (List.not_mem_nil)

structure OneAtMost (s : Sched) (op : Op) : Prop where
  round : op = .round →
    ((eventGet s).1 = schEVTNone ∨ (eventGet s).1 ∈ s.pending) ∧
    (step s op).pending = s.pending.erase (eventGet s).1
  source : ∀ e ∈ (step s op).pending,
    e ∈ s.pending ∨ ∃ d, op = .push e d ∧ (eventPush s e d).2 = true

theorem round_pending {s : Sched} (h : SchInv s) :
    ((eventGet s).1 = schEVTNone ∨ (eventGet s).1 ∈ s.pending) ∧
    (step s .round).pending = s.pending.erase (eventGet s).1 := by
  have hq : (step s .round).queue = (TimerQueue.tick s.queue).2 := (step_refines h .round id).2
  have hg := eventGet_refines h
  rcases TimerQueue.tick_split s.queue with ⟨hn, hk⟩ | ⟨x, y, k, hs, hf, hk⟩
  · rw [hn] at hg
    split_ifs at hg with hnone
    refine ⟨.inl hnone, ?_⟩
    rw [← keys_queue, hq, hk, keys_queue, hnone, List.erase_of_not_mem]
    exact fun hm => h.live _ hm rfl
  · rw [hf] at hg
    split_ifs at hg with hnone
    simp only [Option.some.injEq] at hg
    subst hg
    rw [keys_queue] at hs
    refine ⟨.inr (by simp [hs]), ?_⟩
    have hx : (eventGet s).1 ∉ x := by
      have hd := h.distinct
      rw [hs, List.nodup_append] at hd
      exact fun hm => hd.2.2 _ hm _ (by simp) rfl
    rw [← keys_queue, hq, hk, hs, List.erase_append_right _ hx, List.erase_cons_head]

theorem pending_source {s : Sched} (h : SchInv s) {op : Op} (hop : op.nonNone) {e : Nat}
    (he : e ∈ (step s op).pending) :
    e ∈ s.pending ∨ ∃ d, op = .push e d ∧ (eventPush s e d).2 = true := by
  have hq := (step_refines h op (not_strays_of_nonNone hop s)).2
  rw [← keys_queue, hq] at he
  rcases TimerQueue.mem_keys_step schCap he with hm | ⟨n, ha⟩
  · exact .inl (keys_queue s ▸ hm)
  · cases op with
    | push e' d =>
      simp only [absOp] at ha
      split_ifs at ha
      simp only [TimerQueue.Op.arm.injEq] at ha
      obtain ⟨rfl, _⟩ := ha
      by_cases hacc : (eventPush s e' d).2 = true
      · exact .inr ⟨d, rfl, hacc⟩
      · left
        obtain ⟨l, r, rfl, hl⟩ := h.exists_layout
        obtain ⟨l', r', ok, hp, _, hk, hrej, _⟩ := eventPush_cases hl e' d
        rw [hp, Bool.not_eq_true] at hacc
        obtain ⟨rfl, _⟩ := hrej hacc
        rw [queue_assemble, ← hk] at he
        simpa using he
    | cancel e' =>
      simp only [absOp] at ha
      split_ifs at ha
    | round => simp [absOp] at ha
    | reset => simp [absOp] at ha

theorem one_at_most {s : Sched} (h : SchInv s) {ops : List Op} (ho : ∀ op ∈ ops, op.nonNone) :
    Along step OneAtMost s ops := by
  refine along_mono (P := fun _ op => op.nonNone) h (fun t op hi hop => ?_)
    ((along_const s ops).mpr ho)
  refine ⟨⟨?_, fun e he => pending_source hi hop he⟩,
    (step_refines hi op (not_strays_of_nonNone hop t)).1⟩
  rintro rfl
  exact round_pending hi

theorem event_fires_exactly_once (pre post : List Op) (e d : Nat)
    (ho : ∀ op ∈ pre ++ .push e d :: post, op.nonNone) (hd : 1 ≤ d) (hlt : d < 2 ^ 31)
    (hacc : (eventPush (exec step handlerStart pre) e d).2 = true) :
    FiresOnTime e d (exec step handlerStart (pre ++ [.push e d])) (window e post) ∧
    Along step OneAtMost handlerStart (pre ++ .push e d :: post) := by
  refine ⟨?_, one_at_most handlerStart_inv ho⟩
  have he : e ≠ schEVTNone := ho (.push e d) (by simp)
  have hpre : SchInv (exec step handlerStart pre) :=
    exec_inv handlerStart_inv fun op hm => ho op (by simp [hm])
  rw [exec_append]
  refine fires_on_time hpre he hd hlt hacc (along_of_forall (fun t op hm => ?_) _)
    not_touches_window
  exact not_strays_of_nonNone (ho op (by simp [(List.takeWhile_sublist _).subset hm])) t

theorem diag_event_overtaken_once :
    deliveries 200 (exec step handlerStart ([.push 201 2] ++ [.push 200 3]))
      (window 200 [.round, .round, .round, .round, .round]) = [4] := by
  have h := (event_fires_exactly_once [.push 201 2] [.round, .round, .round, .round, .round] 200 3
    (by simp [Op.nonNone]) (by decide) (by decide) (by decide)).1.ordinal
  exact h.trans (by decide)

end PegaSchedule
