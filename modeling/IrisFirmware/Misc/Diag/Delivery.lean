import IrisFirmware.Library.Mailbox
import IrisFirmware.Misc.Diag.Daemon

namespace PegaMiscDiag

open PegaSchedule Run
open TimerQueue (Entry)

def Act.isReceive : Act → Bool
  | .receive _ => true
  | .round _ => false

def received : List Act → List DiagMsg
  | [] => []
  | .receive m :: acts => m :: received acts
  | .round _ :: acts => received acts

def Spaced (acts : List Act) : Prop := acts.IsChain fun a b => ¬ (a.isReceive ∧ b.isReceive)

def after (acts : List Act) (rounds : List ℚ) : Daemon :=
  exec step daemonStart (acts ++ rounds.map .round)

structure ExactlyOnce (acts : List Act) : Prop where
  order : ∀ rounds, (after acts rounds).executed <+: received acts
  complete : ∃ rounds, (after acts rounds).executed = received acts
  settled : ∀ rounds, (after acts rounds).executed = received acts →
    (after acts rounds).stDiagCmd.wCmdCnt = 0

def toMail : Act → Mailbox.Op DiagMsg
  | .receive m => .put m
  | .round _ => .take

def diagEntry : Entry Nat := ⟨schEVTSystemDiagCmdExecution, 1⟩

structure Tracks (d : Daemon) (s : Mailbox.State DiagMsg) : Prop where
  inv : SchInv d.sched
  queue : d.sched.queue = s.slot.toList.map fun _ => diagEntry
  slot : ∀ m ∈ s.slot, d.stDiagCmd.fields = m
  executed : d.executed = s.taken

theorem received_eq_sent (acts : List Act) : received acts = Mailbox.sent (acts.map toMail) := by
  induction acts with
  | nil => rfl
  | cons a acts ih => cases a <;> simp [received, toMail, Mailbox.sent, ih]

theorem spaced_iff (acts : List Act) : Spaced acts ↔ Mailbox.Spaced (acts.map toMail) := by
  rw [Mailbox.Spaced, List.isChain_map, Spaced]
  refine List.IsChain.iff fun a b => ?_
  cases a <;> cases b <;> simp [Act.isReceive, toMail, Mailbox.Op.isPut]

theorem toMail_rounds (rounds : List ℚ) :
    (rounds.map Act.round).map toMail = List.replicate rounds.length .take := by
  simp [Function.comp_def, toMail]

theorem diag_rearm : TimerQueue.step schCap [diagEntry]
    (absOp (.push schEVTSystemDiagCmdExecution sch100ms)) = [diagEntry] := by
  decide

theorem diag_push {s : Sched} {l : List DiagMsg} (h : SchInv s)
    (hq : s.queue = l.map fun _ => diagEntry) (hl : l.length ≤ 1) :
    SchInv (eventPush s schEVTSystemDiagCmdExecution sch100ms).1 ∧
    (eventPush s schEVTSystemDiagCmdExecution sch100ms).1.queue = [diagEntry] := by
  obtain ⟨hi, hs⟩ := step_refines h (.push schEVTSystemDiagCmdExecution sch100ms) id
  refine ⟨hi, hs.trans ?_⟩
  rw [hq]
  match l, hl with
  | [], _ => decide
  | [_], _ => exact diag_rearm

theorem diag_round {s : Sched} {l : List DiagMsg} (h : SchInv s)
    (hq : s.queue = l.map fun _ => diagEntry) (hl : l.length ≤ 1) :
    SchInv (eventProcessing s).2 ∧ (eventProcessing s).2.queue = [] ∧
    (eventProcessing s).1 = if l = [] then .none else .diagMsgqCmdExecution := by
  obtain ⟨hi, hs⟩ := step_refines h .round id
  have hget := eventGet_refines h
  rw [hq] at hs hget
  match l, hl with
  | [], _ =>
    refine ⟨hi, hs, ?_⟩
    split_ifs at hget with hn
    · simp [eventProcessing, hn, handlerOf]
    · simp [TimerQueue.tick] at hget
  | [_], _ =>
    refine ⟨hi, hs, ?_⟩
    split_ifs at hget with hn
    · simp [TimerQueue.tick, diagEntry] at hget
    · simp only [List.map_cons, List.map_nil, TimerQueue.tick, diagEntry, if_true,
        Option.some.injEq] at hget
      simp [eventProcessing, ← hget, handlerOf]

theorem tracks_start : Tracks daemonStart Mailbox.empty :=
  ⟨handlerStart_inv, handlerStart_queue, by simp [Mailbox.empty], rfl⟩

theorem slot_length_le_one (o : Option DiagMsg) : o.toList.length ≤ 1 := by
  cases o <;> simp

theorem round_idle {d : Daemon} {s : Mailbox.State DiagMsg} (h : Tracks d s)
    (hs : s.slot = none) (fLux : ℚ) :
    round d fLux = { d with sched := (eventProcessing d.sched).2 } := by
  obtain ⟨_, _, hh⟩ := diag_round h.inv h.queue (slot_length_le_one _)
  simp [round, hh, hs]

theorem round_executes {d : Daemon} {s : Mailbox.State DiagMsg} (h : Tracks d s) {m : DiagMsg}
    (hs : s.slot = some m) (fLux : ℚ) :
    round d fLux = cmdExecution { d with sched := (eventProcessing d.sched).2 } fLux := by
  obtain ⟨_, _, hh⟩ := diag_round h.inv h.queue (slot_length_le_one _)
  simp [round, hh, hs]

theorem tracks_step {d : Daemon} {s : Mailbox.State DiagMsg} (h : Tracks d s) (a : Act) :
    Tracks (step d a) (Mailbox.step s (toMail a)) := by
  cases a with
  | receive m =>
    obtain ⟨hi, hq⟩ := diag_push h.inv h.queue (slot_length_le_one _)
    refine ⟨hi, hq, ?_, h.executed⟩
    rintro x hx
    simp only [toMail, Mailbox.step, Option.mem_some_iff] at hx
    subst hx
    rfl
  | round fLux =>
    obtain ⟨hi, hq, _⟩ := diag_round h.inv h.queue (slot_length_le_one _)
    cases hs : s.slot with
    | none =>
      rw [step, round_idle h hs]
      exact ⟨hi, hq, by simp [toMail, Mailbox.step], by simp [toMail, Mailbox.step, hs, h.executed]⟩
    | some m =>
      have hm : d.stDiagCmd.fields = m := h.slot m (by simp [hs])
      rw [step, round_executes h hs]
      refine ⟨hi, hq, by simp [toMail, Mailbox.step], ?_⟩
      simp [toMail, Mailbox.step, cmdExecution, hs, h.executed, hm]

theorem tracks_exec {d : Daemon} {s : Mailbox.State DiagMsg} (h : Tracks d s) (acts : List Act) :
    Tracks (exec step d acts) (exec Mailbox.step s (acts.map toMail)) := by
  induction acts generalizing d s with
  | nil => exact h
  | cons a acts ih => exact ih (tracks_step h a)

theorem count_step {d : Daemon} {s : Mailbox.State DiagMsg} (h : Tracks d s)
    (hc : d.stDiagCmd.wCmdCnt = s.slot.toList.length) {a : Act}
    (ha : a.isReceive → s.slot = none) :
    (step d a).stDiagCmd.wCmdCnt = (Mailbox.step s (toMail a)).slot.toList.length := by
  cases a with
  | receive m =>
    have hnone := ha rfl
    simp [step, commandsProcesser, toMail, Mailbox.step, hc, hnone]
  | round fLux =>
    cases hs : s.slot with
    | none => simp [step, round_idle h hs, toMail, Mailbox.step, hc, hs]
    | some m => simp [step, round_executes h hs, cmdExecution, toMail, Mailbox.step, hc, hs]

theorem count_exec {d : Daemon} {s : Mailbox.State DiagMsg} (h : Tracks d s)
    (hc : d.stDiagCmd.wCmdCnt = s.slot.toList.length) {acts : List Act}
    (hl : Mailbox.lost s (acts.map toMail) = 0) :
    (exec step d acts).stDiagCmd.wCmdCnt =
      (exec Mailbox.step s (acts.map toMail)).slot.toList.length := by
  induction acts generalizing d s with
  | nil => exact hc
  | cons a acts ih =>
    have ha : a.isReceive → s.slot = none := by
      cases a with
      | receive m =>
        simp only [List.map_cons, toMail, Mailbox.lost, Nat.add_eq_zero_iff] at hl
        exact fun _ => by simpa using hl.1
      | round fLux => simp [Act.isReceive]
    refine ih (tracks_step h a) (count_step h hc ha) ?_
    cases a with
    | receive m =>
      simp only [List.map_cons, toMail, Mailbox.lost, Nat.add_eq_zero_iff] at hl
      exact hl.2
    | round fLux => exact hl

theorem tracks_after (acts : List Act) (rounds : List ℚ) :
    Tracks (after acts rounds) (exec Mailbox.step Mailbox.empty
      (acts.map toMail ++ List.replicate rounds.length .take)) := by
  have h := tracks_exec tracks_start (acts ++ rounds.map .round)
  rwa [List.map_append, toMail_rounds] at h

theorem spaced_lost {acts : List Act} (h : Spaced acts) (rounds : List ℚ) :
    Mailbox.lost Mailbox.empty ((acts ++ rounds.map Act.round).map toMail) = 0 := by
  rw [Mailbox.lost_empty_iff, List.map_append, toMail_rounds]
  exact Mailbox.spaced_takes ((spaced_iff acts).mp h) rounds.length

theorem executed_append_waiting {acts : List Act} (h : Spaced acts) (rounds : List ℚ) :
    (after acts rounds).executed ++ (exec Mailbox.step Mailbox.empty
      (acts.map toMail ++ List.replicate rounds.length .take)).slot.toList = received acts := by
  have hheld := Mailbox.held_of_lost_eq_zero (spaced_lost h rounds)
  rw [List.map_append, toMail_rounds] at hheld
  rw [(tracks_after acts rounds).executed]
  simpa [Mailbox.held, Mailbox.sent_takes, received_eq_sent, Mailbox.empty] using hheld

theorem exactly_once_of_spaced {acts : List Act} (h : Spaced acts) : ExactlyOnce acts := by
  refine ⟨fun rounds => ?_, ?_, fun rounds hall => ?_⟩
  · rw [← executed_append_waiting h rounds]
    exact List.prefix_append _ _
  · obtain ⟨n, hn⟩ := (Mailbox.all_taken_iff _).mpr ((spaced_iff acts).mp h)
    refine ⟨List.replicate n 0, ?_⟩
    rw [(tracks_after acts _).executed, List.length_replicate, hn, received_eq_sent]
  · have hrest := executed_append_waiting h rounds
    rw [hall] at hrest
    have hempty := List.append_right_eq_self.mp hrest
    have hcount := count_exec tracks_start rfl (spaced_lost h rounds)
    rw [List.map_append, toMail_rounds, hempty] at hcount
    exact hcount

theorem spaced_of_exactly_once {acts : List Act} (h : ExactlyOnce acts) : Spaced acts := by
  obtain ⟨rounds, hall⟩ := h.complete
  rw [spaced_iff, ← Mailbox.all_taken_iff]
  refine ⟨rounds.length, ?_⟩
  rw [← (tracks_after acts rounds).executed, hall, received_eq_sent]

theorem diag_delivery_iff (acts : List Act) : ExactlyOnce acts ↔ Spaced acts :=
  ⟨spaced_of_exactly_once, exactly_once_of_spaced⟩

theorem back_to_back_commands_lost :
    ¬ ExactlyOnce [.receive ⟨7, 4, 0, 0, 0, 0⟩, .receive ⟨7, 1, 0, 0, 0, 0⟩, .round 0] := by
  intro h
  have hs := spaced_of_exactly_once h
  exact absurd hs (by simp [Spaced, Act.isReceive])

end PegaMiscDiag
