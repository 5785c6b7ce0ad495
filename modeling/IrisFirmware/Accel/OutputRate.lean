import IrisFirmware.Accel.Events
import IrisFirmware.Accel.SetOdr
import IrisFirmware.Library.Run

namespace Lis2dw12

open Fallible Run

inductive Op where
  | sensorSetEnable (sensor : SensorId) (enable : Bool)
  | readOneshot (sensor : SensorId) (addr : Addr)
  | writeEventConfig (chan : ChanType) (type : EvType) (dir : EvDir) (enable : Bool)

def Op.offered (hwId : HwId) : Op → Prop
  | .writeEventConfig chan type dir _ => ∀ id ∈ eventOf chan type dir, (events hwId id).reqOdr ≠ 0
  | _ => True

def rateStep (hw : Hw) : Op → Hw
  | .sensorSetEnable sensor enable => final (sensorSetEnable sensor enable) hw
  | .readOneshot sensor addr => final (readOneshot sensor addr) hw
  | .writeEventConfig chan type dir enable => final (writeEventConfig chan type dir enable) hw

def eventDemand (hwId : HwId) (mask : Finset EventId) : Nat :=
  mask.sup fun id => (events hwId id).reqOdr

def demand (hw : Hw) : Nat := max (hw.enableMask.sup hw.odr) (eventDemand hw.hwId hw.enableEvMask)

def Serves (hw : Hw) : Prop :=
  codeOf hw.hwId (demand hw) = some (odrField hw) ∧
    (odrField hw = 0 ↔ hw.enableMask = ∅ ∧ hw.enableEvMask = ∅)

def evMaskAfter (hw : Hw) (id : EventId) (enable : Bool) : Finset EventId :=
  if enable then insert id hw.enableEvMask else hw.enableEvMask.erase id

def served (hw : Hw) : Op → Prop
  | .sensorSetEnable sensor true =>
    max (hw.odr sensor) (others hw sensor) ≤ max 100 (eventDemand hw.hwId hw.enableEvMask)
  | .sensorSetEnable sensor false => others hw sensor ≤ eventDemand hw.hwId hw.enableEvMask
  | .readOneshot sensor _ => others hw sensor ≤ eventDemand hw.hwId hw.enableEvMask
  | .writeEventConfig chan type dir enable => ∀ id ∈ eventOf chan type dir,
    let required := eventDemand hw.hwId (evMaskAfter hw id enable)
    (.ACC ∈ hw.enableMask → hw.odr .ACC ≤ max required (others hw .ACC)) ∧
      (required = 0 → hw.enableMask = ∅)

structure Ready (hwId : HwId) (rates : Rates hwId) (hw : Hw) : Prop where
  live : Regmap.Live hw.regmap
  device : hw.hwId = hwId
  odr : hw.odr = rates.odr
  offered : ∀ id ∈ hw.enableEvMask, (events hwId id).reqOdr ≠ 0
  required : hw.reqOdrEvents = eventDemand hwId hw.enableEvMask

theorem rated_event (hwId : HwId) (id : EventId) : (events hwId id).reqOdr ∈ rated hwId := by
  cases hwId <;> cases id <;> decide

section ready

variable {hwId : HwId} {rates : Rates hwId} {hw : Hw}

theorem eventDemand_rated (hwId : HwId) (mask : Finset EventId) :
    eventDemand hwId mask ∈ rated hwId :=
  sup_rated fun id _ => rated_event hwId id

theorem sensors_rated (h : Ready hwId rates hw) (mask : Finset SensorId) :
    mask.sup hw.odr ∈ rated hwId := by
  rw [h.odr]
  exact sup_rated fun id _ => rated_rate rates id

theorem sensors_eq_zero_iff (h : Ready hwId rates hw) (mask : Finset SensorId) :
    mask.sup hw.odr = 0 ↔ mask = ∅ := by
  constructor
  · intro hzero
    rw [Finset.eq_empty_iff_forall_notMem]
    intro id hid
    have hle : hw.odr id ≤ mask.sup hw.odr := Finset.le_sup hid
    rw [hzero, h.odr] at hle
    exact absurd (rates.positive id) (Nat.not_lt_of_le hle)
  · rintro rfl
    rfl

theorem events_eq_zero_iff {mask : Finset EventId}
    (hmask : ∀ id ∈ mask, (events hwId id).reqOdr ≠ 0) : eventDemand hwId mask = 0 ↔ mask = ∅ := by
  constructor
  · intro hzero
    rw [Finset.eq_empty_iff_forall_notMem]
    intro id hid
    have hle : (events hwId id).reqOdr ≤ eventDemand hwId mask :=
      Finset.le_sup (f := fun id => (events hwId id).reqOdr) hid
    rw [hzero] at hle
    exact hmask id hid (Nat.le_zero.mp hle)
  · rintro rfl
    rfl

theorem serves_iff (h : Ready hwId rates hw) {hz : Nat} (hrated : hz ∈ rated hwId)
    (hcode : codeOf hwId hz = some (odrField hw)) : Serves hw ↔ hz = demand hw := by
  have hdemand : demand hw ∈ rated hwId := by
    rw [demand, h.device]
    exact max_rated (sensors_rated h _) (eventDemand_rated hwId _)
  have hempty : demand hw = 0 ↔ hw.enableMask = ∅ ∧ hw.enableEvMask = ∅ := by
    rw [demand, h.device, Nat.max_eq_zero_iff, sensors_eq_zero_iff h, events_eq_zero_iff h.offered]
  rw [Serves, h.device]
  constructor
  · rintro ⟨hserved, -⟩
    exact codeOf_inj hwId hz hrated _ hdemand (hcode.trans hserved.symm)
  · rintro rfl
    refine ⟨hcode, ?_⟩
    rw [← hempty, ← codeOf_zero_iff hwId _ hrated, hcode, Option.some_inj]

theorem sup_insert_others (hw : Hw) (sensor : SensorId) :
    (insert sensor hw.enableMask).sup hw.odr = max (hw.odr sensor) (others hw sensor) := by
  rw [← Finset.insert_erase (Finset.mem_insert_self sensor hw.enableMask),
    Finset.erase_insert_eq_erase, Finset.sup_insert]
  rfl

theorem sup_eq_others (hw : Hw) (sensor : SensorId) :
    hw.enableMask.sup hw.odr =
      max (if sensor ∈ hw.enableMask then hw.odr sensor else 0) (others hw sensor) := by
  split_ifs with hmem
  · rw [← sup_insert_others, Finset.insert_eq_of_mem hmem]
  · rw [others, Finset.erase_eq_of_notMem hmem, max_eq_right (Nat.zero_le _)]

def enableMaskAfter (hw : Hw) (sensor : SensorId) (enable : Bool) : Finset SensorId :=
  if enable then insert sensor hw.enableMask else hw.enableMask.erase sensor

structure EnableDone (rates : Rates hwId) (hw : Hw) (sensor : SensorId) (enable : Bool)
    (t : Hw) : Prop where
  ready : Ready hwId rates t
  sensors : t.enableMask = enableMaskAfter hw sensor enable
  eventMask : t.enableEvMask = hw.enableEvMask
  ofTable : written hw sensor (if enable then hw.odr sensor else 0) ∈ rated hwId
  code : codeOf hwId (written hw sensor (if enable then hw.odr sensor else 0)) = some (odrField t)

theorem sensorSetEnable_ready (h : Ready hwId rates hw) (sensor : SensorId) (enable : Bool) :
    Succeeds (sensorSetEnable sensor enable) hw fun _ => EnableDone rates hw sensor enable := by
  obtain rfl := h.device
  have hreq : (if enable then hw.odr sensor else 0) ∈ rated hw.hwId := by
    split_ifs
    · rw [h.odr]
      exact rated_rate rates sensor
    · exact rated_zero hw.hwId
  have hev : hw.reqOdrEvents ∈ rated hw.hwId := h.required ▸ eventDemand_rated hw.hwId _
  have hothers : others hw sensor ∈ rated hw.hwId := sensors_rated h _
  have hrated := written_rated hreq hothers hev
  refine .get_bind ?_
  refine (setOdr_writes h.live hreq hothers hev).bind ?_
  rintro _ t ⟨m, rfl, hm, hcode⟩
  cases enable <;> cases sensor <;>
    exact ⟨(), _, rfl, ⟨hm, rfl, h.odr, h.offered, h.required⟩, rfl, rfl, hrated, hcode⟩

theorem EnableDone.serves_iff {sensor : SensorId} {enable : Bool} {t : Hw}
    (hd : EnableDone rates hw sensor enable t) (h : Ready hwId rates hw) :
    Serves t ↔ served hw (.sensorSetEnable sensor enable) := by
  have hodr : t.odr = hw.odr := hd.ready.odr.trans h.odr.symm
  have hpos : 0 < hw.odr sensor := h.odr ▸ rates.positive sensor
  rw [Lis2dw12.serves_iff hd.ready hd.ofTable hd.code, demand, hd.ready.device, hd.eventMask,
    hd.sensors, hodr, written, h.required]
  cases enable with
  | true =>
    rw [served, enableMaskAfter, if_pos rfl, if_pos rfl, if_pos hpos, sup_insert_others, h.device]
    omega
  | false =>
    change max _ 0 = max (others hw sensor) _ ↔ others hw sensor ≤ _
    rw [h.device]
    omega

theorem Ready.withRegmap (h : Ready hwId rates hw) {m : Regmap.Map Addr 8}
    (hm : Regmap.Live m) : Ready hwId rates { hw with regmap := m } :=
  ⟨hm, h.device, h.odr, h.offered, h.required⟩

theorem readOneshot_ready (h : Ready hwId rates hw) (sensor : SensorId) (addr : Addr) :
    Succeeds (readOneshot sensor addr) hw fun _ t =>
      Ready hwId rates t ∧ (Serves t ↔ served hw (.readOneshot sensor addr)) := by
  refine (sensorSetEnable_ready h sensor true).bind ?_
  intro _ on hon
  have hread : Succeeds (readBytes [addr, addr + 1]) on fun _ t =>
      ∃ m, t = { on with regmap := m } ∧ Regmap.Live m :=
    onRegmap_live ((Regmap.bulkRead_live hon.ready.live _).mono fun _ _ hm => hm.1)
  refine hread.bind ?_
  rintro data _ ⟨m, rfl, hm⟩
  have hready := hon.ready.withRegmap hm
  refine (Succeeds.ignoring (sensorSetEnable_ready hready sensor false)).bind ?_
  intro _ off hoff
  refine .ret ⟨hoff.ready, ?_⟩
  have hsame : others { on with regmap := m } sensor = others hw sensor := by
    change (on.enableMask.erase sensor).sup on.odr = _
    rw [hon.sensors, hon.ready.odr, ← h.odr, enableMaskAfter, if_pos rfl,
      Finset.erase_insert_eq_erase]
    rfl
  rw [hoff.serves_iff hready, served, served, hsame]
  change _ ≤ eventDemand on.hwId on.enableEvMask ↔ _
  rw [hon.ready.device, hon.eventMask, h.device]

theorem events_rising (hwId : HwId) : eventIds.Pairwise fun i j =>
    (events hwId j).reqOdr ≠ 0 → (events hwId i).reqOdr ≤ (events hwId j).reqOdr := by
  cases hwId <;> decide

theorem mem_eventIds (id : EventId) : id ∈ eventIds := by
  cases id <;> decide

theorem checkEvents_eq {id : EventId} (hid : (events hw.hwId id).reqOdr ≠ 0)
    (hmask : ∀ id ∈ hw.enableEvMask, (events hw.hwId id).reqOdr ≠ 0) (enable : Bool) :
    checkEventsOdrDependency hw (events hw.hwId id).reqOdr id enable =
      eventDemand hw.hwId (evMaskAfter hw id enable) := by
  cases enable with
  | false =>
    have hfold : checkEventsOdrDependency hw (events hw.hwId id).reqOdr id false =
        eventIds.foldl (fun ret i => if i ∈ hw.enableEvMask.erase id then
          max (events hw.hwId i).reqOdr ret else ret) 0 := by
      unfold checkEventsOdrDependency
      congr 1
      funext ret i
      by_cases hmem : i ∈ hw.enableEvMask
      · have hne := hmask i hmem
        by_cases hi : i = id <;> simp [hmem, hne, hi]
      · simp [hmem]
    rw [hfold, Vote.foldl_max_mem mem_eventIds]
    exact max_eq_right (Nat.zero_le _)
  | true =>
    have hfold : checkEventsOdrDependency hw (events hw.hwId id).reqOdr id true =
        eventIds.foldl (fun ret i => if i ∈ insert id hw.enableEvMask then
          max (events hw.hwId i).reqOdr (events hw.hwId id).reqOdr else ret) 0 := by
      unfold checkEventsOdrDependency
      congr 1
      funext ret i
      by_cases hi : i = id
      · subst hi
        simp [hid]
      · by_cases hmem : i ∈ hw.enableEvMask
        · simp [hmem, hmask i hmem]
        · simp [hmem, hi]
    have hoffered : ∀ i ∈ insert id hw.enableEvMask, (events hw.hwId i).reqOdr ≠ 0 := by
      intro i hi
      rcases Finset.mem_insert.mp hi with rfl | hi
      · exact hid
      · exact hmask i hi
    have hrising := (events_rising hw.hwId).imp fun {i j} hij (hj : j ∈ insert id hw.enableEvMask) =>
      max_le_max_right (events hw.hwId id).reqOdr (hij (hoffered j hj))
    rw [hfold, Vote.foldl_latest hrising (fun _ _ _ => Nat.zero_le _),
      Vote.foldl_max_mem mem_eventIds]
    have hle : ∀ i ∈ insert id hw.enableEvMask, (events hw.hwId i).reqOdr ≤
        eventDemand hw.hwId (evMaskAfter hw id true) := fun i hi =>
      Finset.le_sup (f := fun i => (events hw.hwId i).reqOdr) hi
    refine (max_eq_right (Nat.zero_le _)).trans (le_antisymm ?_ ?_)
    · exact Finset.sup_le fun i hi => max_le (hle i hi) (hle id (Finset.mem_insert_self _ _))
    · exact Finset.sup_mono_fun fun i _ => le_max_left _ _

def eventWritten (hwId : HwId) (hw : Hw) (id : EventId) (enable : Bool) : Nat :=
  let required := eventDemand hwId (evMaskAfter hw id enable)
  max required (if 0 < required then min 100 (max required (others hw .ACC)) else 0)

structure EventDone (rates : Rates hwId) (hw : Hw) (id : EventId) (enable : Bool) (t : Hw) :
    Prop where
  ready : Ready hwId rates t
  sensors : t.enableMask = hw.enableMask
  eventMask : t.enableEvMask = evMaskAfter hw id enable
  ofTable : eventWritten hwId hw id enable ∈ rated hwId
  code : codeOf hwId (eventWritten hwId hw id enable) = some (odrField t)

theorem configureEvent_ready (h : Ready hwId rates hw) {id : EventId}
    (hid : (events hwId id).reqOdr ≠ 0) (enable : Bool) :
    Succeeds (configureEvent id enable) hw fun _ => EventDone rates hw id enable := by
  obtain rfl := h.device
  have hmask : ∀ i ∈ evMaskAfter hw id enable, (events hw.hwId i).reqOdr ≠ 0 := by
    intro i hi
    cases enable with
    | true =>
      rcases Finset.mem_insert.mp hi with rfl | hi
      · exact hid
      · exact h.offered i hi
    | false => exact h.offered i (Finset.mem_of_mem_erase hi)
  refine (onRegmap_live ((Regmap.read_live h.live _).mono fun _ _ hm => hm.1)).bind ?_
  rintro intVal _ ⟨m, rfl, hm⟩
  refine .get_bind ?_
  refine (onRegmap_live ((Regmap.write_live hm _ _).mono fun _ _ hm => hm.1)).bind ?_
  rintro _ _ ⟨m', rfl, hm'⟩
  refine .get_bind ?_
  have hreq := @checkEvents_eq { hw with regmap := m' } id hid h.offered enable
  rw [hreq]
  have hrated := eventDemand_rated hw.hwId (evMaskAfter hw id enable)
  refine .modify_bind ?_
  let asked : Hw := { hw with
    regmap := m', reqOdrEvents := eventDemand hw.hwId (evMaskAfter hw id enable) }
  have hothers : others asked .ACC ∈ rated hw.hwId := sensors_rated h _
  refine (@setOdr_writes asked .ACC _ hm' hrated hothers hrated).bind ?_
  rintro _ _ ⟨m'', rfl, hm'', hcode⟩
  have hofTable := @written_rated asked .ACC _ hrated hothers hrated
  exact .modify ⟨⟨hm'', rfl, h.odr, hmask, rfl⟩, rfl, rfl, hofTable, hcode⟩

theorem writeEventConfig_ready (h : Ready hwId rates hw) {chan : ChanType} {type : EvType}
    {dir : EvDir} {id : EventId} (he : eventOf chan type dir = some id)
    (hid : (events hwId id).reqOdr ≠ 0) (enable : Bool) :
    Succeeds (writeEventConfig chan type dir enable) hw fun _ => EventDone rates hw id enable := by
  unfold writeEventConfig
  rw [he]
  dsimp only
  by_cases hdtap : id = .DTAP
  · rw [if_pos hdtap]
    refine (onRegmap_live ((Regmap.updateBits_live h.live ..).mono fun _ _ hm => hm.1)).bind ?_
    rintro _ _ ⟨m, rfl, hm⟩
    refine (configureEvent_ready (h.withRegmap hm) hid enable).mono ?_
    intro _ t ht
    exact ⟨ht.ready, ht.sensors, ht.eventMask, ht.ofTable, ht.code⟩
  · rw [if_neg hdtap]
    exact configureEvent_ready h hid enable

theorem others_accel_le (h : Ready hwId rates hw) : others hw .ACC ≤ 50 := by
  refine Finset.sup_le fun id hid => ?_
  cases id with
  | ACC => exact absurd rfl (Finset.ne_of_mem_erase hid)
  | TEMP =>
    rw [h.odr]
    exact (rated_of_temp hwId _ (rates.ofTable .TEMP)).2

theorem EventDone.serves_iff {id : EventId} {enable : Bool} {t : Hw}
    (hd : EventDone rates hw id enable t) (h : Ready hwId rates hw) :
    Serves t ↔
      (.ACC ∈ hw.enableMask →
        hw.odr .ACC ≤ max (eventDemand hwId (evMaskAfter hw id enable)) (others hw .ACC)) ∧
      (eventDemand hwId (evMaskAfter hw id enable) = 0 → hw.enableMask = ∅) := by
  have hodr : t.odr = hw.odr := hd.ready.odr.trans h.odr.symm
  have hlow := others_accel_le h
  rw [Lis2dw12.serves_iff hd.ready hd.ofTable hd.code, demand, hd.ready.device, hd.eventMask,
    hd.sensors, hodr, eventWritten, ← sensors_eq_zero_iff h, sup_eq_others hw .ACC]
  by_cases hacc : .ACC ∈ hw.enableMask
  · simp only [hacc, if_true, forall_const]
    split_ifs <;> omega
  · simp only [hacc, if_false, false_imp_iff, true_and]
    split_ifs <;> omega

theorem rateStep_iff (h : Ready hwId rates hw) (hs : Serves hw) {op : Op}
    (ho : op.offered hwId) :
    Ready hwId rates (rateStep hw op) ∧ (Serves (rateStep hw op) ↔ served hw op) := by
  cases op with
  | sensorSetEnable sensor enable =>
    exact ((sensorSetEnable_ready h sensor enable).mono fun _ t ht =>
      (⟨ht.ready, ht.serves_iff h⟩ : Ready hwId rates t ∧ _)).final
  | readOneshot sensor addr => exact (readOneshot_ready h sensor addr).final
  | writeEventConfig chan type dir enable =>
    cases he : eventOf chan type dir with
    | none =>
      have hkept : rateStep hw (.writeEventConfig chan type dir enable) = hw := by
        simp only [rateStep, writeEventConfig, he]
        rfl
      rw [hkept, served, he]
      exact ⟨h, iff_of_true hs (by simp)⟩
    | some id =>
      have hid := ho id he
      rw [served, he, h.device]
      simp only [Option.mem_def, Option.some.injEq, forall_eq']
      exact ((writeEventConfig_ready h he hid enable).mono fun _ t ht =>
        (⟨ht.ready, ht.serves_iff h⟩ : Ready hwId rates t ∧ _)).final

end ready

theorem probed_ready {hwId : HwId} (rates : Rates hwId) (dev : Addr → Byte)
    (cache : Addr → Option Byte) :
    Ready hwId rates (probed rates dev cache) ∧ Serves (probed rates dev cache) := by
  have hready : Ready hwId rates (probed rates dev cache) :=
    ⟨fun _ => rfl, rfl, rfl, by simp [probed], rfl⟩
  have hfield : odrField (probed rates dev cache) = 0 := by
    have hreset : (probed rates dev cache).regmap.dev ctrl1Addr = 0 :=
      Function.update_self ctrl1Addr 0 dev
    rw [odrField, hreset]
    decide
  refine ⟨hready, (serves_iff hready (rated_zero hwId) ?_).mpr rfl⟩
  rw [hfield, codeOf_zero_iff hwId 0 (rated_zero hwId)]

theorem output_rate_serves_iff {hwId : HwId} (rates : Rates hwId) (dev : Addr → Byte)
    (cache : Addr → Option Byte) (ops : List {op : Op // op.offered hwId}) :
    (Serves (probed rates dev cache) ∧
      Along (fun hw op => rateStep hw op.1) (fun hw op => Serves (rateStep hw op.1))
        (probed rates dev cache) ops) ↔
      Along (fun hw op => rateStep hw op.1) (fun hw op => served hw op.1)
        (probed rates dev cache) ops := by
  have hstart := probed_ready rates dev cache
  refine (and_iff_right hstart.2).trans (along_iff
    (I := fun hw => Ready hwId rates hw ∧ Serves hw) hstart (fun hw op h => ?_) fun hw op h hop => ?_)
  · exact (rateStep_iff h.1 h.2 op.2).2
  · have hstep := rateStep_iff h.1 h.2 op.2
    exact ⟨hstep.1, hstep.2.mpr hop⟩

def fastAccel : Rates .LIS2DW12 where
  odr
    | .ACC => 100
    | .TEMP => 12
  positive := by rintro ⟨⟩ <;> decide
  ofTable := by rintro ⟨⟩ <;> decide

theorem one_shot_stops_accelerometer :
    ¬ ∀ (hwId : HwId) (rates : Rates hwId) (dev : Addr → Byte) (cache : Addr → Option Byte)
      (ops : List {op : Op // op.offered hwId}),
      Serves (probed rates dev cache) ∧
        Along (fun hw op => rateStep hw op.1) (fun hw op => Serves (rateStep hw op.1))
          (probed rates dev cache) ops := by
  intro h
  have hstop := (h .LIS2DW12 fastAccel (fun _ => 0) (fun _ => none)
    [⟨.sensorSetEnable .ACC true, trivial⟩, ⟨.readOneshot .TEMP tempOutTLAddr, trivial⟩]).2.2.1.1
  revert hstop
  decide

end Lis2dw12
