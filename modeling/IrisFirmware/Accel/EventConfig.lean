import IrisFirmware.Accel.OutputRate

namespace Lis2dw12

open Fallible Metered Run

def intBit (hw : Hw) (id : EventId) : Bool :=
  (hw.regmap.dev ctrl4Int1CtrlAddr).getLsbD (ffs (events hw.hwId id).irqMask)

def Consistent (hw : Hw) : Prop :=
  (∀ id, (events hw.hwId id).reqOdr ≠ 0 → (intBit hw id ↔ id ∈ hw.enableEvMask)) ∧
    hw.reqOdrEvents = eventDemand hw.hwId hw.enableEvMask

structure Untouched (hw t : Hw) : Prop where
  bits : ∀ id, (events hw.hwId id).reqOdr ≠ 0 → intBit t id = intBit hw id
  eventMask : t.enableEvMask = hw.enableEvMask
  required : t.reqOdrEvents = hw.reqOdrEvents

structure EventOp where
  chan : ChanType
  type : EvType
  dir : EvDir
  enable : Bool

def EventOp.run (op : EventOp) : M Unit := writeEventConfig op.chan op.type op.dir op.enable

def EventOp.event (op : EventOp) : Option EventId := eventOf op.chan op.type op.dir

def EventOp.supported (hwId : HwId) (op : EventOp) : Prop :=
  ∃ id ∈ op.event, (events hwId id).reqOdr ≠ 0

def eventStep (hw : Hw) (op : EventOp) : Hw := final op.run hw

def Atomic (hw : Hw) (op : EventOp) : Prop :=
  Consistent (eventStep hw op) ∧ ∀ e t, op.run hw = .error e t → Untouched hw t

structure Idle {hwId : HwId} (rates : Rates hwId) where
  hw : Hw
  device : hw.hwId = hwId
  odr : hw.odr = rates.odr
  cache : Regmap.Agrees ctrl4Int1CtrlAddr hw.regmap
  bits : ∀ id, (events hwId id).reqOdr ≠ 0 → intBit hw id = false
  noEvent : hw.enableEvMask = ∅
  noRate : hw.reqOdrEvents = 0

def tapTransfers (hw : Hw) (id : EventId) (enable : Bool) : Nat :=
  if id = .DTAP then
    Regmap.updateTransfers isVolatileReg hw.regmap wakeUpThsAddr singleDoubleTapMask
      (shiftVal (if enable then 1 else 0) singleDoubleTapMask)
  else 0

def transfersBefore (hw : Hw) (id : EventId) (enable : Bool) : Nat :=
  tapTransfers hw id enable + (Regmap.readTransfers isVolatileReg hw.regmap ctrl4Int1CtrlAddr + 1)

def rateWriteKept (hw : Hw) (op : EventOp) : Prop :=
  ∀ id ∈ op.event, evMaskAfter hw id op.enable ≠ hw.enableEvMask →
    (∀ n < transfersBefore hw id op.enable, hw.regmap.bus n) →
      hw.regmap.bus (transfersBefore hw id op.enable)

theorem getLsbD_manipulateBit (intReg irqMask : Byte) (en : Bool) {i : Nat} (hi : i < 8) :
    (manipulateBit intReg irqMask en).getLsbD i = if i = ffs irqMask then en
      else intReg.getLsbD i := by
  have hone : ∀ j, (1#8 <<< j).getLsbD i = decide (i = j) := by
    intro j
    simp only [BitVec.getLsbD_shiftLeft, BitVec.getLsbD_one]
    grind
  have hval : ((if en then 1#8 else 0#8) <<< ffs irqMask).getLsbD i =
      (en && decide (i = ffs irqMask)) := by
    cases en
    · simp
    · simpa using hone (ffs irqMask)
  rw [manipulateBit, BitVec.getLsbD_or, BitVec.getLsbD_and, BitVec.getLsbD_not, hone, hval]
  by_cases h : i = ffs irqMask <;> simp [h, hi]

theorem eventBit_lt (hwId : HwId) (id : EventId) : ffs (events hwId id).irqMask < 8 := by
  cases hwId <;> cases id <;> decide

theorem eventBit_inj (hwId : HwId) (i j : EventId) (hi : (events hwId i).reqOdr ≠ 0)
    (hj : (events hwId j).reqOdr ≠ 0)
    (h : ffs (events hwId i).irqMask = ffs (events hwId j).irqMask) : i = j := by
  revert hi hj h
  cases hwId <;> cases i <;> cases j <;> decide

def AtCtrl4 (val : Byte) (m : Regmap.Map Addr 8) : Prop :=
  m.dev ctrl4Int1CtrlAddr = val ∧ Regmap.Agrees ctrl4Int1CtrlAddr m

def bitsAfter (hw : Hw) (id : EventId) (enable : Bool) : Byte :=
  manipulateBit (hw.regmap.dev ctrl4Int1CtrlAddr) (events hw.hwId id).irqMask enable

def EventKept (hw t : Hw) : Prop :=
  ∃ m, t = { hw with regmap := m } ∧ AtCtrl4 (hw.regmap.dev ctrl4Int1CtrlAddr) m

def EventHalf (hw : Hw) (id : EventId) (enable : Bool) (t : Hw) : Prop :=
  ∃ m, t = { hw with
      regmap := m
      reqOdrEvents := eventDemand hw.hwId (evMaskAfter hw id enable) } ∧
    AtCtrl4 (bitsAfter hw id enable) m

def EventSet (hw : Hw) (id : EventId) (enable : Bool) (t : Hw) : Prop :=
  ∃ m, t = { hw with
      regmap := m
      reqOdrEvents := eventDemand hw.hwId (evMaskAfter hw id enable)
      enableEvMask := evMaskAfter hw id enable } ∧
    AtCtrl4 (bitsAfter hw id enable) m

def EventStopped (hw : Hw) (id : EventId) (enable : Bool) (k n : Nat) (t : Hw) : Prop :=
  if n < k then EventKept hw t else EventHalf hw id enable t

structure Configured {hwId : HwId} (rates : Rates hwId) (hw : Hw) : Prop where
  device : hw.hwId = hwId
  odr : hw.odr = rates.odr
  cache : Regmap.Agrees ctrl4Int1CtrlAddr hw.regmap
  offered : ∀ id ∈ hw.enableEvMask, (events hwId id).reqOdr ≠ 0

theorem setOdr_costs {hw : Hw} {sensor : SensorId} {reqOdr : Nat} {val : Byte}
    (hreq : reqOdr ∈ rated hw.hwId) (hothers : others hw sensor ∈ rated hw.hwId)
    (hev : hw.reqOdrEvents ∈ rated hw.hwId) (hval : AtCtrl4 val hw.regmap) :
    Costs hwBus 1 (setOdr sensor reqOdr) hw
      (fun _ t => ∃ m, t = { hw with regmap := m } ∧ AtCtrl4 val m)
      fun _ t => ∃ m, t = { hw with regmap := m } ∧ AtCtrl4 val m := by
  obtain ⟨ctrl1, -, hcosts⟩ := setOdr_stores hreq hothers hev
  refine hcosts.mono ?_ ?_
  · rintro _ _ rfl
    have hsame := Function.update_of_ne (by decide : ctrl4Int1CtrlAddr ≠ ctrl1Addr) ctrl1
      hw.regmap.dev
    exact ⟨_, rfl, hsame.trans hval.1, rfl, fun x hx => hsame.trans (hval.2.2 x hx)⟩
  · rintro _ _ - rfl
    exact ⟨_, rfl, hval.1, rfl, hval.2.2⟩

section configured

variable {hwId : HwId} {rates : Rates hwId} {hw : Hw}

theorem configureEvent_costs (h : Configured rates hw) {id : EventId}
    (hid : (events hwId id).reqOdr ≠ 0) (enable : Bool) :
    Costs hwBus (Regmap.readTransfers isVolatileReg hw.regmap ctrl4Int1CtrlAddr + 1 + 1)
      (configureEvent id enable) hw (fun _ => EventSet hw id enable)
      (EventStopped hw id enable
        (Regmap.readTransfers isVolatileReg hw.regmap ctrl4Int1CtrlAddr + 1)) := by
  obtain rfl := h.device
  have hcached : Regmap.readValue isVolatileReg hw.regmap ctrl4Int1CtrlAddr =
      hw.regmap.dev ctrl4Int1CtrlAddr := Regmap.readValue_agrees (by decide) h.cache
  have hrated := eventDemand_rated hw.hwId (evMaskAfter hw id enable)
  refine Costs.bind (k := 2) ((onRegmap_costs (Regmap.read_costs ..)).mono (fun _ _ h => h) ?_) ?_
  · rintro n _ hn ⟨m, rfl, hdev, hm⟩
    rw [EventStopped, if_pos (by omega)]
    exact ⟨m, rfl, congrFun hdev _, hm.agrees _ (by decide) h.cache⟩
  · rintro intVal _ ⟨m, rfl, rfl, hdev, hm⟩
    have hkept := hm.agrees _ (by decide) h.cache
    refine .get_bind (Costs.bind (k := 1)
      ((onRegmap_costs (Regmap.write_costs ..)).mono (fun _ _ h => h) ?_) ?_)
    · rintro n _ hn ⟨m', rfl, hdev', hm'⟩
      rw [EventStopped, if_pos (by omega)]
      exact ⟨m', rfl, congrFun (hdev'.trans hdev) _, hm'.agrees _ (by decide) hkept⟩
    · rintro _ _ ⟨m', rfl, hval, hm'⟩
      have hset : AtCtrl4 (bitsAfter hw id enable) m' := by
        rw [hcached] at hval
        exact ⟨hval, hm'.agrees _ (by decide) hkept⟩
      have hreq := @checkEvents_eq { hw with regmap := m' } id hid h.offered enable
      refine .get_bind ?_
      rw [hreq]
      refine Costs.modify_bind rfl ?_
      let asked : Hw := { hw with
        regmap := m', reqOdrEvents := eventDemand hw.hwId (evMaskAfter hw id enable) }
      have hothers : others asked .ACC ∈ rated hw.hwId := by
        change (hw.enableMask.erase .ACC).sup hw.odr ∈ _
        rw [h.odr]
        exact sup_rated fun id _ => rated_rate rates id
      refine Costs.bind (k := 0)
        ((@setOdr_costs asked .ACC _ _ hrated hothers hrated hset).mono (fun _ _ h => h) ?_) ?_
      · rintro n _ - ⟨m'', rfl, hm''⟩
        rw [EventStopped, if_neg (by omega)]
        exact ⟨m'', rfl, hm''⟩
      · rintro _ _ ⟨m'', rfl, hm''⟩
        exact .modify rfl ⟨m'', rfl, hm''⟩

theorem stopped_after {m : Regmap.Map Addr 8}
    (hbits : m.dev ctrl4Int1CtrlAddr = hw.regmap.dev ctrl4Int1CtrlAddr) (j : Nat) {id : EventId}
    {enable : Bool} {k n : Nat} {t : Hw}
    (hstop : EventStopped { hw with regmap := m } id enable k n t) :
    EventStopped hw id enable (j + k) (n + j) t := by
  rw [EventStopped] at hstop ⊢
  split_ifs at hstop with hn
  · obtain ⟨m', rfl, hval, hm'⟩ := hstop
    rw [if_pos (by omega)]
    exact ⟨m', rfl, hval.trans hbits, hm'⟩
  · obtain ⟨m', rfl, hval, hm'⟩ := hstop
    rw [if_neg (by omega)]
    refine ⟨m', rfl, ?_, hm'⟩
    rwa [bitsAfter, ← hbits]

theorem writeEventConfig_costs (h : Configured rates hw) {op : EventOp} {id : EventId}
    (he : op.event = some id) (hid : (events hwId id).reqOdr ≠ 0) :
    Costs hwBus (transfersBefore hw id op.enable + 1) op.run hw
      (fun _ => EventSet hw id op.enable)
      (EventStopped hw id op.enable (transfersBefore hw id op.enable)) := by
  have he' : eventOf op.chan op.type op.dir = some id := he
  have hrun : op.run = (do
      if id = .DTAP then
        writeWithMaskLocked wakeUpThsAddr singleDoubleTapMask (if op.enable then 1 else 0)
      configureEvent id op.enable) := by
    rw [EventOp.run, writeEventConfig, he']
  rw [hrun, transfersBefore, tapTransfers]
  by_cases hdtap : id = .DTAP
  · rw [if_pos hdtap, if_pos hdtap, Nat.add_assoc]
    refine Costs.bind ((onRegmap_costs (Regmap.updateBits_costs ..)).mono (fun _ _ h => h) ?_) ?_
    · rintro n _ hn ⟨m, rfl, hm⟩
      rw [EventStopped, if_pos (by omega)]
      exact ⟨m, rfl, hm.dev _ (by decide), hm.agrees _ (by decide) h.cache⟩
    · rintro _ _ ⟨m, rfl, hm⟩
      have hcache := hm.agrees _ (by decide) h.cache
      have hsame : Regmap.readTransfers isVolatileReg m ctrl4Int1CtrlAddr =
          Regmap.readTransfers isVolatileReg hw.regmap ctrl4Int1CtrlAddr := by
        rw [Regmap.readTransfers, hm.cached _ (by decide), Regmap.readTransfers]
      have hbits := hm.dev ctrl4Int1CtrlAddr (by decide)
      have hconf := @configureEvent_costs hwId rates { hw with regmap := m }
        ⟨h.device, h.odr, hcache, h.offered⟩ id hid op.enable
      rw [hsame] at hconf
      refine hconf.mono ?_ ?_
      · rintro _ _ ⟨m', rfl, hm'⟩
        refine ⟨m', rfl, ?_⟩
        rwa [bitsAfter, ← hbits]
      · intro n t _ hstop
        exact stopped_after hbits _ hstop
  · rw [if_neg hdtap, if_neg hdtap, Nat.zero_add]
    exact configureEvent_costs h hid op.enable

theorem intBit_after {t : Hw} {id : EventId} {enable : Bool}
    (hm : t.regmap.dev ctrl4Int1CtrlAddr = bitsAfter hw id enable) (hdevice : t.hwId = hw.hwId)
    (hid : (events hw.hwId id).reqOdr ≠ 0) (i : EventId) (hi : (events hw.hwId i).reqOdr ≠ 0) :
    intBit t i = if i = id then enable else intBit hw i := by
  rw [intBit, hm, hdevice, bitsAfter, getLsbD_manipulateBit _ _ _ (eventBit_lt hw.hwId i)]
  by_cases h : i = id
  · subst h
    rw [if_pos rfl, if_pos rfl]
  · rw [if_neg h, if_neg fun heq => h (eventBit_inj hw.hwId i id hi hid heq), intBit]

theorem kept_untouched {t : Hw} (hkept : EventKept hw t) : Untouched hw t := by
  obtain ⟨m, rfl, hm⟩ := hkept
  refine ⟨fun id _ => ?_, rfl, rfl⟩
  rw [intBit, hm.1, intBit]

theorem Untouched.consistent {t : Hw} (h : Untouched hw t) (hdevice : t.hwId = hw.hwId)
    (hc : Consistent hw) : Consistent t := by
  refine ⟨fun id hid => ?_, ?_⟩
  · rw [hdevice] at hid
    rw [h.bits id hid, h.eventMask]
    exact hc.1 id hid
  · rw [h.required, h.eventMask, hdevice]
    exact hc.2

theorem mem_evMaskAfter (id i : EventId) (enable : Bool) :
    i ∈ evMaskAfter hw id enable ↔ if i = id then enable = true else i ∈ hw.enableEvMask := by
  cases enable
  · by_cases h : i = id <;> simp [evMaskAfter, h]
  · by_cases h : i = id <;> simp [evMaskAfter, h]

theorem set_consistent {t : Hw} {id : EventId} {enable : Bool}
    (hid : (events hw.hwId id).reqOdr ≠ 0) (hset : EventSet hw id enable t)
    (hc : Consistent hw) : Consistent t := by
  obtain ⟨m, rfl, hm⟩ := hset
  let t : Hw := { hw with
    regmap := m
    reqOdrEvents := eventDemand hw.hwId (evMaskAfter hw id enable)
    enableEvMask := evMaskAfter hw id enable }
  have hbit := @intBit_after hw t id enable hm.1 rfl hid
  refine ⟨fun i hi => ?_, rfl⟩
  rw [hbit i hi]
  change _ ↔ i ∈ evMaskAfter hw id enable
  rw [mem_evMaskAfter]
  split_ifs
  · exact Iff.rfl
  · exact hc.1 i hi

theorem half_iff {t : Hw} {id : EventId} {enable : Bool}
    (hid : (events hw.hwId id).reqOdr ≠ 0) (hhalf : EventHalf hw id enable t)
    (hc : Consistent hw) :
    evMaskAfter hw id enable = hw.enableEvMask ↔ Consistent t ∧ Untouched hw t := by
  obtain ⟨m, rfl, hm⟩ := hhalf
  have hbit := @intBit_after hw { hw with
    regmap := m
    reqOdrEvents := eventDemand hw.hwId (evMaskAfter hw id enable) } id enable hm.1 rfl hid
  constructor
  · intro hsame
    have hkept : Untouched hw { hw with
        regmap := m, reqOdrEvents := eventDemand hw.hwId (evMaskAfter hw id enable) } := by
      refine ⟨fun i hi => ?_, rfl, ?_⟩
      · rw [hbit i hi]
        split_ifs with hi'
        · subst hi'
          have hmem := @mem_evMaskAfter hw i i enable
          rw [hsame, if_pos rfl, ← hc.1 i hi] at hmem
          exact (Bool.eq_iff_iff.mpr hmem).symm
        · rfl
      · exact (congrArg (eventDemand hw.hwId) hsame).trans hc.2.symm
    exact ⟨hkept.consistent rfl hc, hkept⟩
  · rintro ⟨hcons, -⟩
    have hmem := hcons.1 id hid
    rw [hbit id hid, if_pos rfl] at hmem
    ext i
    rw [mem_evMaskAfter]
    split_ifs with hi
    · subst hi
      exact hmem
    · rfl

section step

variable {rates : Rates hw.hwId} (h : Configured rates hw) (hc : Consistent hw) {op : EventOp}
  {id : EventId} (he : id ∈ op.event) (hid : (events hw.hwId id).reqOdr ≠ 0)
include h hc he hid

theorem step_answered (hbefore : ∀ n < transfersBefore hw id op.enable, hw.regmap.bus n)
    (hlast : hw.regmap.bus (transfersBefore hw id op.enable) = true) :
    Configured rates (eventStep hw op) ∧ Atomic hw op := by
  have hoffered : ∀ i ∈ evMaskAfter hw id op.enable, (events hw.hwId i).reqOdr ≠ 0 := by
    intro i hi
    rw [mem_evMaskAfter] at hi
    split_ifs at hi with heq
    · rwa [heq]
    · exact h.offered i hi
  obtain ⟨_, t, hrun, -, hset⟩ := (writeEventConfig_costs h he hid).answered fun n hn => by
    rcases Nat.lt_succ_iff_lt_or_eq.mp hn with hn | rfl
    · exact hbefore n hn
    · exact hlast
  have hstep : eventStep hw op = t := final_ok hrun
  have hcons := set_consistent hid hset hc
  rw [Atomic, hstep]
  obtain ⟨m, rfl, hm⟩ := hset
  refine ⟨⟨rfl, h.odr, hm.2, hoffered⟩, hcons, fun e t herr => ?_⟩
  cases hrun.symm.trans herr

theorem step_half (hbefore : ∀ n < transfersBefore hw id op.enable, hw.regmap.bus n)
    (hlast : hw.regmap.bus (transfersBefore hw id op.enable) = false) :
    Configured rates (eventStep hw op) ∧
      (Atomic hw op ↔ evMaskAfter hw id op.enable = hw.enableEvMask) := by
  obtain ⟨e, t, hrun, hstop⟩ :=
    (writeEventConfig_costs h he hid).refused _ (Nat.lt_succ_self _) hbefore hlast
  rw [EventStopped, if_neg (lt_irrefl _)] at hstop
  have hstep : eventStep hw op = t := final_error hrun
  have hatomic : Atomic hw op ↔ Consistent t ∧ Untouched hw t := by
    rw [Atomic, hstep, hrun]
    exact and_congr_right fun _ => ⟨fun hun => hun e t rfl, by rintro hun _ _ ⟨⟩; exact hun⟩
  rw [hatomic, ← half_iff hid hstop hc, hstep]
  obtain ⟨m, rfl, hm⟩ := hstop
  exact ⟨⟨rfl, h.odr, hm.2, h.offered⟩, Iff.rfl⟩

theorem step_early {n : Nat} (hn : n < transfersBefore hw id op.enable)
    (hmin : ∀ i < n, hw.regmap.bus i) (hno : hw.regmap.bus n = false) :
    Configured rates (eventStep hw op) ∧ Atomic hw op := by
  obtain ⟨e, t, hrun, hstop⟩ :=
    (writeEventConfig_costs h he hid).refused n (hn.trans (Nat.lt_succ_self _)) hmin hno
  rw [EventStopped, if_pos hn] at hstop
  have hstep : eventStep hw op = t := final_error hrun
  have hkept := kept_untouched hstop
  rw [Atomic, hstep]
  obtain ⟨m, rfl, hm⟩ := hstop
  refine ⟨⟨rfl, h.odr, hm.2, h.offered⟩, hkept.consistent rfl hc, ?_⟩
  intro e' t herr
  cases hrun.symm.trans herr
  exact hkept

end step

theorem eventStep_iff (h : Configured rates hw) (hc : Consistent hw) {op : EventOp}
    (ho : op.supported hwId) :
    Configured rates (eventStep hw op) ∧ (Atomic hw op ↔ rateWriteKept hw op) := by
  obtain rfl := h.device
  obtain ⟨id, he, hid⟩ := ho
  have hkeep : rateWriteKept hw op ↔ (evMaskAfter hw id op.enable ≠ hw.enableEvMask →
      (∀ n < transfersBefore hw id op.enable, hw.regmap.bus n) →
        hw.regmap.bus (transfersBefore hw id op.enable)) := by
    rw [rateWriteKept, Option.mem_def.mp he]
    simp only [Option.mem_def, Option.some.injEq, forall_eq']
  rw [hkeep]
  rcases Costs.first_refused hw.regmap.bus (transfersBefore hw id op.enable) with
    hbefore | ⟨n, hn, hmin, hno⟩
  · cases hlast : hw.regmap.bus (transfersBefore hw id op.enable) with
    | true =>
      obtain ⟨hconf, hatomic⟩ := step_answered h hc he hid hbefore hlast
      exact ⟨hconf, iff_of_true hatomic fun _ _ => rfl⟩
    | false =>
      obtain ⟨hconf, hiff⟩ := step_half h hc he hid hbefore hlast
      rw [hiff]
      refine ⟨hconf, fun hsame hne => absurd hsame hne, fun hkept => ?_⟩
      by_contra hne
      exact absurd (hkept hne hbefore) (by simp)
  · obtain ⟨hconf, hatomic⟩ := step_early h hc he hid hn hmin hno
    refine ⟨hconf, iff_of_true hatomic fun _ hall => ?_⟩
    rw [hall n hn] at hno
    cases hno

end configured

theorem Idle.ready {hwId : HwId} {rates : Rates hwId} (start : Idle rates) :
    Configured rates start.hw ∧ Consistent start.hw := by
  refine ⟨⟨start.device, start.odr, start.cache, ?_⟩, fun id hid => ?_, ?_⟩
  · rw [start.noEvent]
    simp
  · rw [start.device] at hid
    rw [start.bits id hid, start.noEvent]
    simp
  · rw [start.noRate, start.noEvent]
    rfl

theorem event_config_atomic_iff {hwId : HwId} {rates : Rates hwId} (start : Idle rates)
    (ops : List {op : EventOp // op.supported hwId}) :
    Along (fun hw op => eventStep hw op.1) (fun hw op => Atomic hw op.1) start.hw ops ↔
      Along (fun hw op => eventStep hw op.1) (fun hw op => rateWriteKept hw op.1) start.hw ops := by
  refine along_iff (I := fun hw => Configured rates hw ∧ Consistent hw) start.ready
    (fun hw op h => (eventStep_iff h.1 h.2 op.2).2) fun hw op h hop => ?_
  have hstep := eventStep_iff h.1 h.2 op.2
  exact ⟨hstep.1, (hstep.2.mpr hop).1⟩

def rateWriteFails : Idle fastAccel where
  hw :=
    { probed fastAccel (fun _ => 0) (fun _ => none) with
      regmap := ⟨fun _ => 0, fun _ => none, false, fun n => n ≠ 2⟩ }
  device := rfl
  odr := rfl
  cache := ⟨rfl, by simp⟩
  bits := by simp [intBit]
  noEvent := rfl
  noRate := rfl

theorem failed_rate_write_leaves_interrupt_on :
    ¬ ∀ (hwId : HwId) (rates : Rates hwId) (start : Idle rates)
      (ops : List {op : EventOp // op.supported hwId}),
      Along (fun hw op => eventStep hw op.1) (fun hw op => Atomic hw op.1) start.hw ops := by
  intro h
  have hbit := (h .LIS2DW12 fastAccel rateWriteFails
    [⟨⟨.ACCEL, .THRESH, .RISING, true⟩, .WAKEUP, rfl, by decide⟩]).1.1.1 .WAKEUP (by decide)
  revert hbit
  decide

end Lis2dw12
