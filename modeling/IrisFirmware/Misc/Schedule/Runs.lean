import IrisFirmware.Misc.Schedule.Refinement

namespace PegaSchedule

open Run

theorem handlerStart_inv : SchInv handlerStart := by
  obtain ⟨r, hr, hl⟩ := buffReset_layout (s := ⟨List.replicate schBuffMax ⟨0, 0, 0⟩, 0⟩)
    (by simp)
  rw [handlerStart, hr]
  exact schInv_assemble.mpr hl

theorem handlerStart_queue : handlerStart.queue = [] := rfl

theorem step_refines {s : Sched} (h : SchInv s) (op : Op) (hop : ¬ op.strays s) :
    SchInv (step s op) ∧ (step s op).queue = TimerQueue.step schCap s.queue (absOp op) := by
  obtain ⟨l, r, rfl, hl⟩ := h.exists_layout
  cases op with
  | push e d =>
    obtain ⟨l', r', ok, he, hl', hq, _⟩ := eventPush_cases hl e d
    simp only [step, he, schInv_assemble, queue_assemble]
    exact ⟨hl', hq⟩
  | cancel e =>
    obtain ⟨l', r', he, hl', hq⟩ := eventCancel_cases hl e hop
    simp only [step, he, schInv_assemble, queue_assemble]
    exact ⟨hl', hq⟩
  | round =>
    obtain ⟨l', r', he, hl', hq⟩ := eventGet_cases hl
    simp only [step, he, schInv_assemble, queue_assemble]
    exact ⟨hl', by simp only [absOp, TimerQueue.step, hq]⟩
  | reset =>
    obtain ⟨r', he, hl'⟩ := buffReset_layout (s := assemble l r) (by simpa using hl.size)
    simp only [step, he, schInv_assemble, queue_assemble]
    exact ⟨hl', rfl⟩

theorem eventGet_refines {s : Sched} (h : SchInv s) :
    (TimerQueue.tick s.queue).1 =
      if (eventGet s).1 = schEVTNone then none else some (eventGet s).1 := by
  obtain ⟨l, r, rfl, hl⟩ := h.exists_layout
  obtain ⟨l', r', _, _, hq⟩ := eventGet_cases hl
  rw [queue_assemble, hq]

-- the loop bound of the cancel reaches the sentinel slot, which matches schEVT_None
theorem stray_cancel {s : Sched} (h : SchInv s) {op : Op} (hop : op.strays s) :
    ¬ SchInv (step s op) := by
  obtain ⟨l, r, rfl, hl⟩ := h.exists_layout
  cases op with
  | cancel e =>
    obtain ⟨rfl, hpos⟩ := hop
    obtain ⟨z, r, rfl⟩ := List.exists_cons_of_ne_nil hl.spare
    have hne : l ≠ [] := List.length_pos_iff.mp hpos
    have hsize : l.length + 1 + r.length = schBuffMax := by
      have hs := hl.size
      simp only [List.length_cons] at hs
      omega
    have hshift := shiftDown_eq l z r hsize
    have hstep : step (assemble l (z :: r)) (.cancel schEVTNone) =
        ⟨l ++ (r ++ [(z :: r).getLast (List.cons_ne_nil z r)]), l.length - 1⟩ := by
      simp only [step, eventCancel, eventFind_none_event hl, buffReschedlue]
      simp only [if_neg (by decide : ¬ schEVTMax ≤ schEVTNone),
        if_neg (by decide : schEVTNone ≠ schEVTDeleteAll), if_pos hpos]
      simpa using hshift
    have hlast : l.getLast hne ∈ (step (assemble l (z :: r)) (.cancel schEVTNone)).idle := by
      rw [hstep, Sched.idle]
      have hsplit := List.dropLast_append_getLast hne
      have hlen : l.length - 1 = l.dropLast.length := by simp
      have hd : (l ++ (r ++ [(z :: r).getLast (List.cons_ne_nil z r)])).drop (l.length - 1) =
          [l.getLast hne] ++ (r ++ [(z :: r).getLast (List.cons_ne_nil z r)]) := by
        conv_lhs => rw [hlen, ← hsplit, List.append_assoc]
        simp
      rw [hd]
      simp
    intro hinv
    exact hl.live _ (List.mem_map_of_mem (List.getLast_mem hne)) (hinv.idle _ hlast)
  | push e d => exact absurd hop id
  | round => exact absurd hop id
  | reset => exact absurd hop id

def Op.names : Op → Option Nat
  | .push e _ => some e
  | .cancel e => if e = schEVTDeleteAll then none else some e
  | .round => none
  | .reset => none

def Keeps (e : Nat) (s t : Sched) : Prop :=
  ∀ x, x ≠ e → t.queue.filter (fun y => y.key = x) = s.queue.filter (fun y => y.key = x)

structure Sound (s : Sched) (op : Op) : Prop where
  inv : SchInv (step s op)
  frame : ∀ e, op.names = some e → Keeps e s (step s op)

theorem step_frame {s : Sched} (h : SchInv s) {op : Op} (hop : ¬ op.strays s) {e : Nat}
    (he : op.names = some e) : Keeps e s (step s op) := by
  intro x hx
  rw [(step_refines h op hop).2]
  cases op with
  | push e' d =>
    simp only [Op.names, Option.some.injEq] at he
    subst he
    by_cases hm : schEVTMax ≤ e' ∨ e' = schEVTNone
    · simp only [absOp, if_pos hm, TimerQueue.step]
    · simp only [absOp, if_neg hm]
      exact TimerQueue.filter_step_other schCap (by simp) (by simpa [TimerQueue.touches] using hx.symm) _
  | cancel e' =>
    simp only [Op.names] at he
    split_ifs at he with hall
    simp only [Option.some.injEq] at he
    subst he
    by_cases hm : schEVTMax ≤ e' ∨ e' = schEVTNone
    · simp only [absOp, if_pos hm, TimerQueue.step]
    · simp only [absOp, if_neg hm, if_neg hall]
      exact TimerQueue.filter_step_other schCap (by simp) (by simpa [TimerQueue.touches] using hx.symm) _
  | round => simp [Op.names] at he
  | reset => simp [Op.names] at he

theorem sound_iff {s : Sched} (h : SchInv s) (op : Op) : Sound s op ↔ ¬ op.strays s := by
  constructor
  · intro hs hop
    exact stray_cancel h hop hs.inv
  · intro hop
    exact ⟨(step_refines h op hop).1, fun _ he => step_frame h hop he⟩

theorem buffer_sound_iff (ops : List Op) :
    Along step Sound handlerStart ops ↔
      Along step (fun s op => ¬ op.strays s) handlerStart ops :=
  along_iff handlerStart_inv (fun _ op h => sound_iff h op) (fun _ op h hp => (step_refines h op hp).1)

theorem cancel_none_hides_pending :
    ¬ Along step Sound handlerStart [.push schEVTSystemDiagCmdExecution 5, .cancel schEVTNone] := by
  intro h
  have hidle := h.2.1.inv.idle ⟨schEVTSystemDiagCmdExecution, 5, 0⟩ (by decide)
  exact absurd hidle (by decide)

end PegaSchedule
