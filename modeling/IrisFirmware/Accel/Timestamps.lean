import Mathlib.Order.Hom.Basic
import IrisFirmware.Accel.Fifo
import IrisFirmware.Library.Run

namespace Lis2dw12

open Fallible Run

inductive FifoOp where
  | enableBuffer (sensor : SensorId)
  | disableBuffer (sensor : SensorId)
  | setHwfifoWatermark (val : Int)
  | writeRaw (sensor : SensorId) (val val2 : Int) (mask : InfoMask)
  | handlerIrq
  | handlerThread
  | flushFifo
  | readFifo
  | device (vals : Addr → Byte)

def FifoOp.positive : FifoOp → Prop
  | .writeRaw _ val _ .SAMP_FREQ => u16 val ≠ 0
  | _ => True

def sampled (vals : Addr → Byte) (d : Driver) : Driver :=
  { d with regmap := { d.regmap with
      dev := fun reg => if isVolatileReg reg then vals reg else d.regmap.dev reg } }

def fifoStep [Kernel] (d : Driver) : FifoOp → Driver
  | .enableBuffer sensor => final (enableBuffer sensor) d
  | .disableBuffer sensor => final (disableBuffer sensor) d
  | .setHwfifoWatermark val => final (setHwfifoWatermark val) d
  | .writeRaw sensor val val2 mask => final (writeRaw sensor val val2 mask) d
  | .handlerIrq => final handlerIrq d
  | .handlerThread => final handlerThread d
  | .flushFifo => final flushFifo d
  | .readFifo => final readFifo d
  | .device vals => sampled vals d

def onBus (bus : Nat → Bool) (d : Driver) : Driver :=
  { d with regmap := { d.regmap with bus := bus } }

def NotAhead (p : Push) : Prop := p.ts ≤ p.now

def Sorted (pushed : List Push) : Prop := pushed.Pairwise fun p q => p.ts ≤ q.ts

def InFifoOrder (d t : Driver) : Prop :=
  ∃ n new, t.pushed = d.pushed ++ new ∧ t.fifo = (fun k => d.fifo (k + n)) ∧
    (new.map Push.sample).Sublist ((List.range n).map d.fifo)

structure Timed (d : Driver) : Prop where
  clock : Monotone d.clock
  sorted : Sorted d.pushed
  notAhead : ∀ p ∈ d.pushed, NotAhead p
  past : ∀ p ∈ d.pushed, p.now ≤ d.clock 0
  delta : .ACC ∈ d.buffered → 0 ≤ d.deltaTs
  irq : .ACC ∈ d.buffered → d.tsIrq ≤ d.clock 0
  last : .ACC ∈ d.buffered → ∀ p ∈ d.pushed, p.ts ≤ d.ts

theorem ewma_nonneg {old new : Int} (ho : 0 ≤ old) (hn : 0 ≤ new) : 0 ≤ ewma old new 120 := by
  rw [ewma]
  rcases le_total old new with h | h
  · have hincr : 0 ≤ ((128 - 120) * (new - old)).tdiv 128 :=
      Int.tdiv_nonneg (mul_nonneg (by norm_num) (sub_nonneg.mpr h)) (by norm_num)
    exact add_nonneg ho hincr
  · have hneg : (128 - 120) * (new - old) = -((128 - 120) * (old - new)) := by ring
    rw [hneg, Int.neg_tdiv, Int.tdiv_eq_ediv_of_nonneg
      (mul_nonneg (by norm_num) (sub_nonneg.mpr h))]
    omega

theorem clock_step {clock : Nat → Int} (h : Monotone clock) :
    Monotone (fun n => clock (n + 1)) ∧ clock 0 ≤ clock (0 + 1) :=
  ⟨fun _ _ hle => h (Nat.add_le_add_right hle 1), h (Nat.zero_le 1)⟩

theorem Timed.withHw {d : Driver} (h : Timed d) (hw : Hw) : Timed { d with toHw := hw } :=
  ⟨h.clock, h.sorted, h.notAhead, h.past, h.delta, h.irq, h.last⟩

theorem timed_onHw {α : Type} (x : M α) : Keeps Timed (onHw x) :=
  Keeps.within (fun hw _ h => h.withHw hw) x

theorem stamp_timed {deltaTs : Int} {d : Driver} (hdelta : .ACC ∈ d.buffered → 0 ≤ deltaTs)
    (sample : Sample) (h : Timed d) : Timed (stamp deltaTs d sample) := by
  rw [stamp]
  dsimp only
  split_ifs with hskip hacc
  · refine ⟨h.clock, h.sorted, h.notAhead, h.past, h.delta, h.irq, fun ha p hp => ?_⟩
    exact (h.last ha p hp).trans (le_add_of_nonneg_right (hdelta ha))
  · obtain ⟨hclock, hnext⟩ := clock_step h.clock
    have hlast : ∀ p ∈ d.pushed, p.ts ≤ min (d.clock 0) d.ts := fun p hp =>
      le_min ((h.notAhead p hp).trans (h.past p hp)) (h.last hacc p hp)
    refine ⟨hclock, ?_, ?_, ?_, h.delta, fun ha => (h.irq ha).trans hnext, ?_⟩
    · rw [Sorted, List.pairwise_append]
      refine ⟨h.sorted, List.pairwise_singleton _ _, fun p hp q hq => ?_⟩
      rw [List.mem_singleton.mp hq]
      exact hlast p hp
    · intro p hp
      rcases List.mem_append.mp hp with hp | hp
      · exact h.notAhead p hp
      · rw [List.mem_singleton.mp hp]
        exact min_le_left ..
    · intro p hp
      rcases List.mem_append.mp hp with hp | hp
      · exact (h.past p hp).trans hnext
      · rw [List.mem_singleton.mp hp]
        exact hnext
    · intro _ p hp
      rcases List.mem_append.mp hp with hp | hp
      · exact (hlast p hp).trans (le_add_of_nonneg_right (hdelta hacc))
      · rw [List.mem_singleton.mp hp]
        exact le_add_of_nonneg_right (hdelta hacc)
  · obtain ⟨hclock, hnext⟩ := clock_step h.clock
    exact ⟨hclock, h.sorted, h.notAhead, fun p hp => (h.past p hp).trans hnext,
      fun ha => absurd ha hacc, fun ha => absurd ha hacc, fun ha => absurd ha hacc⟩

theorem stamp_frame (deltaTs : Int) (d : Driver) (sample : Sample) :
    (stamp deltaTs d sample).buffered = d.buffered ∧ (stamp deltaTs d sample).fifo = d.fifo ∧
      (stamp deltaTs d sample).toHw = d.toHw ∧
      ∃ new, (stamp deltaTs d sample).pushed = d.pushed ++ new ∧
        (new.map Push.sample).Sublist [sample] := by
  rw [stamp]
  dsimp only
  split_ifs
  · exact ⟨rfl, rfl, rfl, [], (List.append_nil _).symm, by simp⟩
  · exact ⟨rfl, rfl, rfl, _, rfl, by simp⟩
  · exact ⟨rfl, rfl, rfl, [], (List.append_nil _).symm, by simp⟩

theorem stamps_timed {deltaTs : Int} (buff : List Sample) {d : Driver}
    (hdelta : .ACC ∈ d.buffered → 0 ≤ deltaTs) (h : Timed d) :
    Timed (buff.foldl (stamp deltaTs) d) := by
  induction buff generalizing d with
  | nil => exact h
  | cons sample buff ih =>
    refine ih ?_ (stamp_timed hdelta sample h)
    rwa [(stamp_frame deltaTs d sample).1]

theorem stamps_frame (deltaTs : Int) (buff : List Sample) (d : Driver) :
    (buff.foldl (stamp deltaTs) d).buffered = d.buffered ∧
      (buff.foldl (stamp deltaTs) d).fifo = d.fifo ∧
      (buff.foldl (stamp deltaTs) d).toHw = d.toHw ∧
      ∃ new, (buff.foldl (stamp deltaTs) d).pushed = d.pushed ++ new ∧
        (new.map Push.sample).Sublist buff := by
  induction buff generalizing d with
  | nil => exact ⟨rfl, rfl, rfl, [], (List.append_nil _).symm, List.Sublist.refl _⟩
  | cons sample buff ih =>
    obtain ⟨hbuf, hfifo, hhw, new, hnew, hsub⟩ := stamp_frame deltaTs d sample
    obtain ⟨hbufs, hfifos, hhws, news, hnews, hsubs⟩ := ih (stamp deltaTs d sample)
    refine ⟨hbufs.trans hbuf, hfifos.trans hfifo, hhws.trans hhw, new ++ news, ?_, ?_⟩
    · rw [List.foldl_cons, hnews, hnew, List.append_assoc]
    · rw [List.map_append]
      exact hsub.append hsubs

theorem readChunk_run (deltaTs : Int) (n : Nat) (d : Driver) :
    ∃ hw : Hw, final (readChunk deltaTs n) d = { d with toHw := hw } ∨
      final (readChunk deltaTs n) d = ((List.range n).map d.fifo).foldl (stamp deltaTs)
        { d with toHw := hw, fifo := fun k => d.fifo (k + n) } := by
  cases hrun : (onHw (onRegmap (Regmap.transfer .busFault)) : D Unit) d with
  | ok a t =>
    have ht : ∃ hw, t = { d with toHw := hw } := by
      rw [onHw, within] at hrun
      split at hrun
      · obtain ⟨-, rfl⟩ := EStateM.Result.ok.inj hrun
        exact ⟨_, rfl⟩
      · cases hrun
    obtain ⟨hw, rfl⟩ := ht
    have hread : readEntries n d = .ok ((List.range n).map d.fifo)
        { d with toHw := hw, fifo := fun k => d.fifo (k + n) } := by
      rw [readEntries, bind_run hrun]
      rfl
    refine ⟨hw, .inr ?_⟩
    rw [final, readChunk, bind_run hread]
    rfl
  | error e t =>
    have ht : ∃ hw, t = { d with toHw := hw } := by
      rw [onHw, within] at hrun
      split at hrun
      · cases hrun
      · obtain ⟨-, rfl⟩ := EStateM.Result.error.inj hrun
        exact ⟨_, rfl⟩
    obtain ⟨hw, rfl⟩ := ht
    have hread : readEntries n d = .error e { d with toHw := hw } := by
      rw [readEntries, bind_error hrun]
    refine ⟨hw, .inl ?_⟩
    rw [final, readChunk, bind_error hread]

def TimedBy (deltaTs : Int) (d : Driver) : Prop :=
  Timed d ∧ (.ACC ∈ d.buffered → 0 ≤ deltaTs)

theorem readChunk_timed (deltaTs : Int) (n : Nat) :
    Keeps (TimedBy deltaTs) (readChunk deltaTs n) := by
  rintro d ⟨h, hdelta⟩
  obtain ⟨hw, hrun | hrun⟩ := readChunk_run deltaTs n d
  · rw [hrun]
    exact ⟨h.withHw hw, hdelta⟩
  · rw [hrun]
    have hpopped : Timed { d with toHw := hw, fifo := fun k => d.fifo (k + n) } :=
      ⟨h.clock, h.sorted, h.notAhead, h.past, h.delta, h.irq, h.last⟩
    refine ⟨stamps_timed _ hdelta hpopped, ?_⟩
    rwa [(stamps_frame ..).1]

theorem readChunks_timed (deltaTs : Int) (fuel left : Nat) :
    Keeps (TimedBy deltaTs) (readChunks deltaTs fuel left) := by
  induction fuel generalizing left with
  | zero => exact .ret ()
  | succ fuel ih =>
    rw [readChunks]
    exact .ite (.ret ()) (.bind (readChunk_timed deltaTs _) fun _ => ih _)

theorem readFifo_timed : Keeps Timed readFifo := by
  refine .bind (timed_onHw _) fun status => .get_bind fun d h => ?_
  have hby : TimedBy (d.deltaTs.tdiv d.watermark) d :=
    ⟨h, fun ha => Int.tdiv_nonneg (h.delta ha) (Int.natCast_nonneg _)⟩
  exact ((readChunks_timed (d.deltaTs.tdiv d.watermark) (fifoLen (status.getD 0 0))
    (fifoLen (status.getD 0 0))).bind fun _ => .ret (fifoLen (status.getD 0 0))) d hby |>.1

theorem flushFifo_timed : Keeps Timed flushFifo := by
  refine .bind readFifo_timed.outcome fun err d h => ?_
  obtain ⟨hclock, hnext⟩ := clock_step h.clock
  have hdone : Timed { d with clock := fun n => d.clock (n + 1), tsIrq := d.clock 0 } :=
    ⟨hclock, h.sorted, h.notAhead, fun p hp => (h.past p hp).trans hnext, h.delta,
      fun _ => hnext, h.last⟩
  cases err with
  | ok len => exact hdone
  | error e => exact hdone

theorem handlerIrq_timed : Keeps Timed handlerIrq := by
  intro d h
  obtain ⟨hclock, hnext⟩ := clock_step h.clock
  exact ⟨hclock, h.sorted, h.notAhead, fun p hp => (h.past p hp).trans hnext,
    fun ha => ewma_nonneg (h.delta ha) (sub_nonneg.mpr (h.irq ha)), fun _ => hnext, h.last⟩

theorem handlerThread_timed : Keeps Timed handlerThread := by
  refine .ignoring (.bind (timed_onHw _) fun status => ?_)
  exact .ite readFifo_timed.ignoring (.ret ())

def Restarted (d : Driver) : Prop :=
  Timed d ∧ 0 ≤ d.deltaTs ∧ d.tsIrq ≤ d.clock 0 ∧ ∀ p ∈ d.pushed, p.ts ≤ d.ts

theorem restarted_onHw {α : Type} (x : M α) : Keeps Restarted (onHw x) :=
  Keeps.within (fun hw _ h => ⟨h.1.withHw hw, h.2⟩) x

theorem updateFifo_tail {I : Driver → Prop} (h : ∀ {α : Type} (x : M α), Keeps I (onHw x))
    (sensor : SensorId) (enable : Bool) :
    Keeps I (do
      if sensor = .ACC then
        onHw (writeWithMaskLocked fifoCtrlAddr fifoModeMask
          (if enable then fifoContinuous else fifoBypass))
      onHw (sensorSetEnable sensor enable)) :=
  .ite (.bind (h _) fun _ => h _) (h _)

theorem restart {d : Driver} (h : Timed d) (sensor : SensorId) :
    Restarted { d with
      clock := fun n => d.clock (n + 1)
      tsIrq := d.clock 0
      ts := d.clock 0
      deltaTs := (1000000000 : Int).tdiv (d.odr sensor) * d.watermark
      samples := 0 } := by
  obtain ⟨hclock, hnext⟩ := clock_step h.clock
  have hdelta : 0 ≤ (1000000000 : Int).tdiv (d.odr sensor) * d.watermark :=
    mul_nonneg (Int.tdiv_nonneg (by norm_num) (Int.natCast_nonneg _)) (Int.natCast_nonneg _)
  have hlast : ∀ p ∈ d.pushed, p.ts ≤ d.clock 0 := fun p hp =>
    (h.notAhead p hp).trans (h.past p hp)
  exact ⟨⟨hclock, h.sorted, h.notAhead, fun p hp => (h.past p hp).trans hnext, fun _ => hdelta,
    fun _ => hnext, fun _ => hlast⟩, hdelta, hnext, hlast⟩

theorem updateFifo_enable {d : Driver} (h : Timed d) (sensor : SensorId) :
    Restarted (final (updateFifo sensor true) d) :=
  updateFifo_tail restarted_onHw sensor true _ (restart h sensor)

theorem updateFifo_disable (sensor : SensorId) : Keeps Timed (updateFifo sensor false) :=
  updateFifo_tail timed_onHw sensor false

theorem enableBuffer_timed (sensor : SensorId) : Keeps Timed (enableBuffer sensor) := by
  refine .get_bind fun d h => ?_
  split_ifs with hon
  · exact h
  · have hrestarted := updateFifo_enable h sensor
    rw [final] at hrestarted ⊢
    cases hrun : updateFifo sensor true d with
    | ok a t =>
      rw [hrun] at hrestarted
      rw [bind_run hrun]
      obtain ⟨ht, hdelta, hirq, hlast⟩ := hrestarted
      exact ⟨ht.clock, ht.sorted, ht.notAhead, ht.past, fun _ => hdelta, fun _ => hirq,
        fun _ => hlast⟩
    | error e t =>
      rw [hrun] at hrestarted
      rw [bind_error hrun]
      exact hrestarted.1

theorem disableBuffer_timed (sensor : SensorId) : Keeps Timed (disableBuffer sensor) := by
  refine .get_bind fun d h => ?_
  split_ifs
  swap
  · exact h
  · refine updateFifo_disable sensor _ ⟨h.clock, h.sorted, h.notAhead, h.past, ?_, ?_, ?_⟩
    · exact fun ha => h.delta (Finset.mem_of_mem_erase ha)
    · exact fun ha => h.irq (Finset.mem_of_mem_erase ha)
    · exact fun ha => h.last (Finset.mem_of_mem_erase ha)

structure Settings (I : Driver → Prop) : Prop where
  hw : ∀ d hw, I d → I { d with toHw := hw }
  gain : ∀ d gain, I d → I { d with gain := gain }
  stdLevel : ∀ d level, I d → I { d with stdLevel := level }
  watermark : ∀ d watermark, I d → I { d with watermark := watermark }

section settings

variable {I : Driver → Prop}

theorem keeps_claimDirectMode (sensor : SensorId) : Keeps I (claimDirectMode sensor) :=
  .get_bind fun d h => (Keeps.ite (c := sensor ∈ d.buffered) (.thrown _) (.ret ())) d h

theorem keeps_setHwfifoWatermark (hwrite : ∀ watermark, Keeps I (updateFifoWatermark watermark))
    (hstore : ∀ d watermark, I d → I { d with watermark }) (val : Int) :
    Keeps I (setHwfifoWatermark val) := by
  have hset : Keeps I (do
      updateFifoWatermark (BitVec.ofInt 8 val)
      modify fun d => { d with watermark := val.toNat }) :=
    .bind (hwrite _) fun _ => .modify fun d h => hstore d _ h
  have hrange : Keeps I (do
      if val < 1 ∨ 31 < val then throw .EINVAL
      updateFifoWatermark (BitVec.ofInt 8 val)
      modify fun d => { d with watermark := val.toNat }) :=
    .ite (.bind (.thrown _) fun _ => hset) hset
  refine .bind (keeps_claimDirectMode .ACC) fun _ => .get_bind fun d h => ?_
  exact (Keeps.ite (c := .ACC ∈ d.buffered) (.bind (.thrown _) fun _ => hrange) hrange) d h

variable (hI : Settings I)
include hI

theorem Settings.onHw {α : Type} (x : M α) : Keeps I (onHw x) :=
  Keeps.within (fun hw d h => hI.hw d hw h) x

theorem Settings.setFs [Kernel] (sensor : SensorId) (gain : Nat) : Keeps I (setFs sensor gain) := by
  rw [Lis2dw12.setFs]
  cases (fsTable sensor).find? (gain ≤ ·.gain) with
  | none => exact .thrown _
  | some fs => exact .bind (hI.onHw _) fun _ => .modify fun d h => hI.gain d _ h

theorem Settings.setStdLevel (odr : Nat) : Keeps I (setStdLevel odr) := by
  rw [Lis2dw12.setStdLevel]
  cases stdTable.find? (·.odr = odr) with
  | none => exact .thrown _
  | some entry => exact .modify fun d h => hI.stdLevel d _ h

theorem Settings.writeRaw [Kernel] (sensor : SensorId) (val val2 : Int) (mask : InfoMask) :
    Keeps I (writeRaw sensor val val2 mask) := by
  refine .bind (keeps_claimDirectMode sensor) fun _ => ?_
  cases mask with
  | SCALE => exact .ite (.bind (.thrown _) fun _ => hI.setFs _ _) (hI.setFs _ _)
  | SAMP_FREQ =>
    have hstore : Keeps I (do
        let _ ← Lis2dw12.onHw (getOdrIdx sensor (u16 val))
        modify fun d => { d with odr := Function.update d.odr sensor (u16 val) }) :=
      .bind (hI.onHw _) fun _ => .modify fun d h => hI.hw d _ h
    exact .ite (.bind (hI.setStdLevel _) fun _ => hstore) hstore
  | other => exact .thrown _

theorem Settings.setHwfifoWatermark (val : Int) : Keeps I (setHwfifoWatermark val) :=
  keeps_setHwfifoWatermark (fun _ => hI.onHw _) hI.watermark val

end settings

theorem timed_settings : Settings Timed where
  hw _ hw h := h.withHw hw
  gain _ _ h := ⟨h.clock, h.sorted, h.notAhead, h.past, h.delta, h.irq, h.last⟩
  stdLevel _ _ h := ⟨h.clock, h.sorted, h.notAhead, h.past, h.delta, h.irq, h.last⟩
  watermark _ _ h := ⟨h.clock, h.sorted, h.notAhead, h.past, h.delta, h.irq, h.last⟩

theorem order_settings (d : Driver) : Settings (InFifoOrder d) where
  hw _ _ h := h
  gain _ _ h := h
  stdLevel _ _ h := h
  watermark _ _ h := h

theorem order_refl (d : Driver) : InFifoOrder d d :=
  ⟨0, [], (List.append_nil _).symm, rfl, List.nil_sublist _⟩

theorem order_trans {d s t : Driver} (h : InFifoOrder d s) (h' : InFifoOrder s t) :
    InFifoOrder d t := by
  obtain ⟨n, new, hpushed, hfifo, hsub⟩ := h
  obtain ⟨n', new', hpushed', hfifo', hsub'⟩ := h'
  refine ⟨n + n', new ++ new', ?_, ?_, ?_⟩
  · rw [hpushed', hpushed, List.append_assoc]
  · rw [hfifo', hfifo]
    funext k
    exact congrArg d.fifo (by omega)
  · rw [List.map_append, List.range_add, List.map_append, List.map_map]
    refine hsub.append ?_
    rw [hfifo] at hsub'
    have hshift : d.fifo ∘ (fun k => n + k) = fun k => d.fifo (k + n) :=
      funext fun k => congrArg d.fifo (Nat.add_comm n k)
    rwa [hshift]

theorem readChunk_order (d : Driver) (deltaTs : Int) (n : Nat) :
    Keeps (InFifoOrder d) (readChunk deltaTs n) := by
  intro s h
  refine order_trans h ?_
  obtain ⟨hw, hrun | hrun⟩ := readChunk_run deltaTs n s
  · rw [hrun]
    exact order_refl s
  · rw [hrun]
    obtain ⟨-, hfifo, -, new, hnew, hsub⟩ := stamps_frame deltaTs ((List.range n).map s.fifo)
      { s with toHw := hw, fifo := fun k => s.fifo (k + n) }
    exact ⟨n, new, hnew, hfifo, hsub⟩

theorem readChunks_order (d : Driver) (deltaTs : Int) (fuel left : Nat) :
    Keeps (InFifoOrder d) (readChunks deltaTs fuel left) := by
  induction fuel generalizing left with
  | zero => exact .ret ()
  | succ fuel ih =>
    rw [readChunks]
    exact .ite (.ret ()) (.bind (readChunk_order d deltaTs _) fun _ => ih _)

theorem readFifo_order (d : Driver) : Keeps (InFifoOrder d) readFifo := by
  refine .bind ((order_settings d).onHw _) fun status => .get_bind fun s h => ?_
  have hloop := readChunks_order d (s.deltaTs.tdiv s.watermark) (fifoLen (status.getD 0 0))
    (fifoLen (status.getD 0 0))
  exact (hloop.bind fun _ => .ret (fifoLen (status.getD 0 0))) s h

theorem updateFifo_order (d : Driver) (sensor : SensorId) (enable : Bool) :
    Keeps (InFifoOrder d) (updateFifo sensor enable) := by
  have htail := updateFifo_tail (order_settings d).onHw sensor enable
  cases enable with
  | false => exact htail
  | true => exact fun s h => htail _ h

variable [Kernel]

theorem fifoStep_order (d : Driver) (op : FifoOp) : InFifoOrder d (fifoStep d op) := by
  have hset := order_settings d
  have hself := order_refl d
  cases op with
  | enableBuffer sensor =>
    refine Keeps.get_bind (fun s h => ?_) d hself
    split_ifs
    · exact h
    · refine (updateFifo_order d sensor true).bind (fun _ => ?_) s h
      exact fun _ ht => ht
  | disableBuffer sensor =>
    refine Keeps.get_bind (fun s h => ?_) d hself
    split_ifs
    · exact updateFifo_order d sensor false _ h
    · exact h
  | setHwfifoWatermark val => exact hset.setHwfifoWatermark val d hself
  | writeRaw sensor val val2 mask => exact hset.writeRaw sensor val val2 mask d hself
  | handlerIrq => exact hself
  | handlerThread =>
    refine Keeps.ignoring (.bind (hset.onHw _) fun status => ?_) d hself
    exact .ite (readFifo_order d).ignoring (.ret ())
  | flushFifo =>
    refine Keeps.bind (readFifo_order d).outcome (fun err => ?_) d hself
    intro s h
    cases err with
    | ok len => exact h
    | error e => exact h
  | readFifo => exact readFifo_order d d hself
  | device vals => exact hself

theorem fifoStep_timed {d : Driver} (h : Timed d) (op : FifoOp) : Timed (fifoStep d op) := by
  cases op with
  | enableBuffer sensor => exact enableBuffer_timed sensor d h
  | disableBuffer sensor => exact disableBuffer_timed sensor d h
  | setHwfifoWatermark val => exact timed_settings.setHwfifoWatermark val d h
  | writeRaw sensor val val2 mask => exact timed_settings.writeRaw sensor val val2 mask d h
  | handlerIrq => exact handlerIrq_timed d h
  | handlerThread => exact handlerThread_timed d h
  | flushFifo => exact flushFifo_timed d h
  | readFifo => exact readFifo_timed d h
  | device vals => exact h.withHw _

theorem probed_timed {hwId : HwId} (rates : Rates hwId) (dev : Addr → Byte)
    (cache : Addr → Option Byte) (bus : Nat → Bool) (clock : Nat →o Int) (fifo : Nat → Sample) :
    Timed (onBus bus (probedDriver rates dev cache clock fifo)) where
  clock := clock.monotone
  sorted := List.Pairwise.nil
  notAhead _ h := absurd h List.not_mem_nil
  past _ h := absurd h List.not_mem_nil
  delta h := absurd h (Finset.notMem_empty _)
  irq h := absurd h (Finset.notMem_empty _)
  last h := absurd h (Finset.notMem_empty _)

end Lis2dw12
