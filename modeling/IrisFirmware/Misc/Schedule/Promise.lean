import IrisFirmware.Misc.Schedule.Firing

namespace PegaSchedule

open Run

def eventPop (s : Sched) : Sched := buffReschedlue s 0

inductive Call where
  | op (op : Op)
  | pop
deriving DecidableEq, Repr

def call (s : Sched) : Call → Sched
  | .op op => step s op
  | .pop => eventPop s

def Call.sane (s : Sched) : Call → Prop
  | .op o => ¬ o.strays s
  | .pop => True

def Deliverable (s : Sched) (e wDelayTime : Nat) : Prop :=
  ∃ n, ∀ ops : List Op, (∀ op ∈ ops, ¬ op.touches e) →
    Along step (fun s op => ¬ op.strays s) (step s (.push e wDelayTime)) ops → n ≤ rounds ops →
      deliveries e (step s (.push e wDelayTime)) ops ≠ [] ∧
        e ∉ (exec step (step s (.push e wDelayTime)) ops).pending

theorem eventPop_inv {s : Sched} (h : SchInv s) : SchInv (eventPop s) := by
  obtain ⟨l, r, rfl, hl⟩ := h.exists_layout
  cases l with
  | nil =>
    obtain ⟨l', r', he, hl', -⟩ := eventCancel_cases hl schEVTNone (fun hs => Nat.lt_irrefl 0 hs.2)
    have hpop : (eventCancel (assemble [] r) schEVTNone).1 = eventPop (assemble [] r) := by
      simp only [eventCancel, eventFind_none_event hl, eventPop,
        if_neg (by decide : ¬ schEVTMax ≤ schEVTNone),
        if_neg (by decide : schEVTNone ≠ schEVTDeleteAll)]
      rfl
    rw [← hpop, he]
    exact schInv_assemble.mpr hl'
  | cons x b =>
    have hshift : eventPop (assemble (x :: b) r) = assemble b (r ++ [r.getLast hl.spare]) :=
      buffReschedlue_mid (a := []) hl
    rw [hshift]
    exact schInv_assemble.mpr (Layout.remove (a := []) hl (hl.getLast_idle hl.spare))

theorem call_inv {s : Sched} (h : SchInv s) {c : Call} (hc : c.sane s) : SchInv (call s c) := by
  cases c with
  | op op => exact (step_refines h op hc).1
  | pop => exact eventPop_inv h

theorem calls_inv {calls : List Call} (h : Along call (fun s c => c.sane s) handlerStart calls) :
    SchInv (exec call handlerStart calls) :=
  exec_invariant handlerStart_inv (fun _ _ hi hc => call_inv hi hc) h

theorem exec_refines {s : Sched} (h : SchInv s) {ops : List Op}
    (ho : Along step (fun s op => ¬ op.strays s) s ops) :
    (exec step s ops).queue = exec (TimerQueue.step schCap) s.queue (ops.map absOp) := by
  induction ops generalizing s with
  | nil => rfl
  | cons op ops ih =>
    obtain ⟨hi, hq⟩ := step_refines h op ho.1
    rw [exec_cons, ih hi ho.2, hq, List.map_cons, exec_cons]

theorem toInt32_nonpos {w : Nat} (hw : w < 2 ^ 32) (h : ¬ (1 ≤ w ∧ w < 2 ^ 31)) :
    toInt32 w ≤ 0 := by
  rcases Nat.eq_zero_or_pos w with rfl | hpos
  · exact (toInt32_of_lt (Nat.two_pow_pos 31)).le
  · have hge : 2 ^ 31 ≤ w := not_lt.mp fun hlt => h ⟨hpos, hlt⟩
    have hneg : Int.bmod w (2 ^ 32) < 0 := by
      norm_num at hge hw ⊢
      exact (Int.bmod_neg_iff (by omega) (by omega)).mpr (.inr (by omega))
    exact hneg.le

theorem delivered_in_time {s : Sched} (h : SchInv s) {e d : Nat} (he : e ≠ schEVTNone)
    (hd : 1 ≤ d) (hlt : d < 2 ^ 31) (hacc : (eventPush s e d).2 = true) :
    Deliverable s e d := by
  refine ⟨d + (schBuffMax - 2), fun ops ht ho hn => ?_⟩
  obtain ⟨hi, _⟩ := step_refines h (.push e d) id
  have hfires := fires_on_time h he hd hlt hacc ho ht
  have hbound := hfires.bounded
  have hsome : deliveries e (step s (.push e d)) ops ≠ [] := by
    rw [hfires.ordinal, if_pos (by omega)]
    exact List.cons_ne_nil _ _
  refine ⟨hsome, ?_⟩
  rw [(window_refines hi he ho).2.2] at hsome
  have hnd : (TimerQueue.keys (step s (.push e d)).queue).Nodup := by
    rw [keys_queue]
    exact hi.distinct
  rw [← keys_queue, exec_refines hi ho]
  exact TimerQueue.fired_absent schCap (not_touches_map ht) hnd hsome

theorem never_delivered {s : Sched} (h : SchInv s) {e d : Nat} (he : e ≠ schEVTNone)
    (hd : toInt32 d ≤ 0) (hacc : (eventPush s e d).2 = true) {ops : List Op}
    (ho : Along step (fun s op => ¬ op.strays s) (step s (.push e d)) ops)
    (ht : ∀ op ∈ ops, ¬ op.touches e) : deliveries e (step s (.push e d)) ops = [] := by
  obtain ⟨hi, _⟩ := step_refines h (.push e d) id
  obtain ⟨a, b, hq, _⟩ := push_stores h he hacc
  have hnd : (TimerQueue.keys (a ++ ⟨e, toInt32 d⟩ :: b)).Nodup := by
    rw [← hq, keys_queue]
    exact hi.distinct
  rw [(window_refines hi he ho).2.2, hq]
  exact TimerQueue.never_fires schCap (not_touches_map ht) hd hnd

theorem rounds_only (n e : Nat) (s : Sched) :
    (∀ op ∈ List.replicate n Op.round, ¬ op.touches e) ∧
      Along step (fun s op => ¬ op.strays s) s (List.replicate n Op.round) ∧
      rounds (List.replicate n Op.round) = n := by
  have hround : ∀ op ∈ List.replicate n Op.round, op = Op.round := fun op hin =>
    List.eq_of_mem_replicate hin
  refine ⟨fun op hin => ?_, along_of_forall (fun t op hin => ?_) s, List.count_replicate_self⟩
  · rw [hround op hin]
    exact id
  · rw [hround op hin]
    exact id

theorem undeliverable {s : Sched} (h : SchInv s) {e d : Nat} (he : e ≠ schEVTNone)
    (hd : toInt32 d ≤ 0) (hacc : (eventPush s e d).2 = true) : ¬ Deliverable s e d := by
  rintro ⟨n, hn⟩
  obtain ⟨ht, ho, hcount⟩ := rounds_only n e (step s (.push e d))
  exact (hn _ ht ho hcount.ge).1 (never_delivered h he hd hacc ho ht)

theorem accepted_push_deliverable_iff (calls : List Call) (e : Nat) (wDelayTime : BitVec 32)
    (hsane : Along call (fun s c => c.sane s) handlerStart calls) (he : e ≠ schEVTNone)
    (hacc : (eventPush (exec call handlerStart calls) e wDelayTime.toNat).2 = true) :
    Deliverable (exec call handlerStart calls) e wDelayTime.toNat ↔
      1 ≤ wDelayTime.toNat ∧ wDelayTime.toNat < 2 ^ 31 := by
  have hinv := calls_inv hsane
  constructor
  case mp =>
    intro hdel
    by_contra hbad
    exact undeliverable hinv he (toInt32_nonpos wDelayTime.isLt hbad) hacc hdel
  case mpr => exact fun hd => delivered_in_time hinv he hd.1 hd.2 hacc

theorem second_push_deliverable :
    Deliverable (exec call handlerStart [.op (.push 201 2), .pop]) 200 3 ↔
      1 ≤ 3 ∧ 3 < 2 ^ 31 := by
  have hsane : Along call (fun s c => c.sane s) handlerStart [.op (.push 201 2), .pop] :=
    ⟨fun hs => hs, trivial, trivial⟩
  exact accepted_push_deliverable_iff _ 200 3#32 hsane (by decide) (by decide)

theorem zero_delay_never_delivered :
    ¬ ∀ (calls : List Call) (e : Nat) (wDelayTime : BitVec 32), e ≠ schEVTNone →
      (eventPush (exec call handlerStart calls) e wDelayTime.toNat).2 = true →
        Deliverable (exec call handlerStart calls) e wDelayTime.toNat := by
  intro h
  have hdel := h [] 200 0#32 (by decide) (by decide)
  exact undeliverable handlerStart_inv (by decide) (by decide) (by decide) hdel

end PegaSchedule
