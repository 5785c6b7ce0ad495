import IrisFirmware.Accel.SleepRuns
import IrisFirmware.Accel.WriteRaw

namespace Lis2dw12

open Fallible Metered Kernel

def selected [Kernel] (gain : Nat) : Option Fs := (fsTable .ACC).find? (gain ≤ ·.gain)

theorem selected_smallest [Kernel] : selected (gToMS2 244) = some ⟨gToMS2 244, 0⟩ :=
  List.find?_cons_of_pos (decide_eq_true le_rfl)

structure Rest [Kernel] (hwId : HwId) (d : Driver) : Prop where
  device : d.hwId = hwId
  ofTable : ∀ id, d.odr id ∈ (odrTable hwId id).map Odr.hz
  required : d.reqOdrEvents ∈ rated hwId
  quiet : ∀ reg ∈ quietRegs, Regmap.Agrees reg d.regmap
  level : ∃ fs ∈ selected (d.gain .ACC), fsField d.toHw = fs.val

structure Steady (hwId : HwId) (v : Addr → Byte) (hw : Hw) : Prop where
  regs : Regmap.Intact (· ∈ quietRegs) v false hw.regmap
  device : hw.hwId = hwId
  ofTable : ∀ id, hw.odr id ∈ (odrTable hwId id).map Odr.hz
  required : hw.reqOdrEvents ∈ rated hwId

def SteadyDriver (hwId : HwId) (v : Addr → Byte) (gain : SensorId → Nat) (d : Driver) : Prop :=
  Steady hwId v d.toHw ∧ d.gain = gain

theorem quiet_static : ∀ reg ∈ quietRegs, isVolatileReg reg = false := by decide

section steady

variable {hwId : HwId} {v : Addr → Byte} {gain : SensorId → Nat}

theorem steady_device : Guarded hwId (Regmap.Intact (· ∈ quietRegs) v false) (Steady hwId v) where
  read := Regmap.intact_read
  write _ hreg _ := Regmap.intact_write fun hr => absurd hr hreg
  transfer := Regmap.intact_transfer
  rate _ := Regmap.intact_bypassed (Regmap.intact_write fun hr => absurd hr (by decide))
  into hx := Keeps.into (fun _ h => h.regs) (fun _ _ h hm => ⟨hm, h.device, h.ofTable, h.required⟩) hx
  device _ h := h.device
  enabled _ _ _ _ _ h := ⟨h.regs, h.device, h.ofTable, h.required⟩
  events _ _ h := ⟨h.regs, h.device, h.ofTable, h.required⟩
  required _ _ hodr h := ⟨h.regs, h.device, h.ofTable, hodr⟩

theorem steady_guarded : GuardedDriver hwId (Regmap.Intact (· ∈ quietRegs) v false)
    (Steady hwId v) (SteadyDriver hwId v gain) where
  toGuarded := steady_device
  lift hx := Keeps.into (fun _ h => h.1) (fun _ _ h ht => ⟨ht, h.2⟩) hx
  frame d t hhw hgain h := by
    rw [SteadyDriver, hhw, hgain]
    exact h
  poll _ _ _ h := ⟨⟨h.1.regs, h.1.device, h.1.ofTable, h.1.required⟩, h.2⟩
  sampled d vals h := by
    have hdev : ∀ reg ∈ quietRegs, (sampled vals d).regmap.dev reg = v reg := fun reg hreg =>
      (if_neg (by simp [quiet_static reg hreg])).trans (h.1.regs.dev reg hreg)
    exact ⟨⟨⟨h.1.regs.bypass, hdev, h.1.regs.cache⟩, h.1.device, h.1.ofTable, h.1.required⟩, h.2⟩

theorem steady_configureWakeUp : Keeps (Steady hwId v) configureWakeUp := by
  refine .get_bind fun hw h => steady_device.into (Regmap.intact_bypassed ?_) hw h
  refine .bind (Regmap.intact_updateBits (by decide) _ _) fun _ => ?_
  refine .bind (Regmap.intact_updateBits (by decide) _ _) fun _ => ?_
  refine .bind (Regmap.intact_write fun hr => absurd hr (by decide)) fun _ => ?_
  exact .bind (Regmap.intact_read _) fun _ => Regmap.intact_updateBits (by decide) _ _

theorem steady_suspend : Keeps (SteadyDriver hwId v gain) suspend := by
  have hmode : Keeps (SteadyDriver hwId v gain) (setFifoMode fifoBypass) :=
    steady_guarded.writeMask (by decide) _ _
  have hsensor : ∀ sensor, Keeps (SteadyDriver hwId v gain) (onHw (suspendSensor sensor)) := by
    refine fun sensor => steady_guarded.lift (.get_bind fun hw h => ?_)
    split_ifs
    · exact steady_configureWakeUp hw h
    · exact steady_device.setOdr sensor 0 hw h
    · exact h
  have hsensors : Keeps (SteadyDriver hwId v gain) (do
      suspendSensors
      regcacheMarkDirty) :=
    .bind (.bind (hsensor .ACC) fun _ => hsensor .TEMP) fun _ => .modify fun _ h => h
  refine .bind (.modify fun d h => steady_guarded.poll d false false h) fun _ => ?_
  refine .get_bind fun d h => ?_
  split_ifs
  · exact (Keeps.bind steady_guarded.readFifo.ignoring fun _ => hmode).bind (fun _ => hsensors) d h
  · exact hsensors d h

theorem steady_resume : Keeps (SteadyDriver hwId v gain) resume := by
  have hsync : Keeps (SteadyDriver hwId v gain) regcacheSync := by
    have hwritten : Keeps (SteadyDriver hwId v gain)
        (onHw (onRegmap (Regmap.sync isVolatileReg Errno.busFault regcacheRegs))) :=
      steady_guarded.lift (steady_device.into (Regmap.intact_sync _))
    refine .get_bind fun d h => ?_
    split_ifs
    · refine hwritten.bind (fun _ => .modify fun t ht => ?_) d h
      exact steady_guarded.frame t _ rfl rfl ht
    · exact h
  have hmode : Keeps (SteadyDriver hwId v gain) (do
      if .ACC ∈ (← get).enableMask then setFifoMode fifoContinuous) := by
    refine .get_bind fun d h => ?_
    exact Keeps.ite (steady_guarded.writeMask (by decide) _ _) (.ret ()) d h
  have hsensor : ∀ sensor, Keeps (SteadyDriver hwId v gain) (onHw (resumeSensor sensor)) := by
    refine fun sensor => steady_guarded.lift (.get_bind fun hw h => ?_)
    exact Keeps.ite (steady_device.setOdr sensor _) (.ret ()) hw h
  have hsensors : Keeps (SteadyDriver hwId v gain) (do
      resumeSensors
      if .ACC ∈ (← get).enableMask then setFifoMode fifoContinuous) :=
    .bind (.bind (hsensor .ACC) fun _ => hsensor .TEMP) fun _ => hmode
  refine .bind steady_guarded.readFifo.ignoring fun _ => .bind hsync.ignoring fun _ => ?_
  refine .get_bind fun d h => ?_
  split_ifs
  · exact (steady_guarded.lift (steady_device.readBytes _)).ignoring.bind (fun _ => hsensors) d h
  · exact hsensors d h

variable [Kernel]

theorem Rest.steady {d : Driver} (h : Rest hwId d) :
    SteadyDriver hwId d.regmap.dev d.gain d :=
  ⟨⟨Regmap.intact_of_agrees (h.quiet ctrl6Addr (by decide)).1 h.quiet, h.device, h.ofTable,
    h.required⟩, rfl⟩

theorem Rest.of_steady {d t : Driver} (h : Rest hwId d)
    (ht : SteadyDriver hwId d.regmap.dev d.gain t) : Rest hwId t := by
  obtain ⟨fs, hfs, hlevel⟩ := h.level
  refine ⟨ht.1.device, ht.1.ofTable, ht.1.required, fun reg hreg => ht.1.regs.agrees hreg, fs, ?_,
    ?_⟩
  · rwa [ht.2]
  · rwa [fsField, ht.1.regs.dev ctrl6Addr (by decide)]

theorem Rest.odr_rated {d : Driver} (h : Rest hwId d) (sensor : SensorId) :
    d.odr sensor ∈ rated d.hwId := by
  rw [h.device]
  exact rated_of_table (h.ofTable sensor)

theorem rest_keeps {α : Type} {x : D α}
    (hx : ∀ v gain, Keeps (SteadyDriver hwId v gain) x) : Keeps (Rest hwId) x :=
  fun d h => h.of_steady (hx _ _ d h.steady)

theorem rest_setFs (gain : Nat) : Keeps (Rest hwId) (setFs .ACC gain) := by
  intro d h
  have hcache := h.quiet ctrl6Addr (by decide)
  cases hfs : selected gain with
  | none =>
    rw [selected] at hfs
    rw [setFs, hfs]
    exact h
  | some fs =>
    refine (setFs_costs hcache hfs).final ?_ ?_
    · rintro _ _ ⟨m, rfl, hput, hm⟩
      refine ⟨h.device, h.ofTable, h.required,
        fun reg hreg => hm.agrees reg (quiet_static reg hreg) (h.quiet reg hreg), fs, ?_, ?_⟩
      · change fs ∈ selected (Function.update d.gain .ACC gain .ACC)
        rwa [Function.update_self]
      · have hmem := List.mem_of_find?_eq_some hfs
        rw [fsField, hput, Register.field_put_same]
        exact ((fsTable_field fs hmem fs hmem).mpr rfl).symm
    · rintro _ _ ⟨m, rfl, hdev, hm⟩
      obtain ⟨fs', hfs', hlevel⟩ := h.level
      refine ⟨h.device, h.ofTable, h.required,
        fun reg hreg => hm.agrees reg (quiet_static reg hreg) (h.quiet reg hreg), fs', hfs', ?_⟩
      rwa [fsField, hdev]

theorem rest_storeRate (sensor : SensorId) (val : Int) :
    Keeps (Rest hwId) (storeRate sensor val) := by
  intro d h
  have hidx := getOdrIdx_run d sensor (u16 val)
  by_cases hmem : u16 val ∈ (odrTable d.hwId sensor).map Odr.hz
  · obtain ⟨i, hi⟩ := hidx.1 hmem
    rw [final, storeRate, bind_run hi]
    refine ⟨h.device, fun id => ?_, h.required, h.quiet, h.level⟩
    change Function.update d.odr sensor (u16 val) id ∈ _
    by_cases hid : id = sensor
    · subst hid
      rwa [Function.update_self, ← h.device]
    · rw [Function.update_of_ne hid]
      exact h.ofTable id
  · rw [final, storeRate, bind_error (hidx.2 hmem)]
    exact h

theorem rest_writeRaw (sensor : SensorId) (val val2 : Int) (mask : InfoMask) :
    Keeps (Rest hwId) (writeRaw sensor val val2 mask) := by
  refine (keeps_claimDirectMode sensor).bind fun _ => ?_
  cases mask with
  | SCALE =>
    cases sensor with
    | TEMP => exact .thrown _
    | ACC => exact rest_setFs (u16 val2)
  | SAMP_FREQ =>
    have hlevel : Keeps (Rest hwId) (setStdLevel (u16 val)) := by
      rw [setStdLevel]
      cases stdTable.find? (·.odr = u16 val) with
      | none => exact .thrown _
      | some entry =>
        exact .modify fun d h => ⟨h.device, h.ofTable, h.required, h.quiet, h.level⟩
    exact .ite (.bind hlevel fun _ => rest_storeRate sensor val) (rest_storeRate sensor val)
  | other => exact .thrown _

theorem rest_powerStep {d : Driver} (h : Rest hwId d) (op : PowerOp) :
    Rest hwId (powerStep d op) := by
  cases op with
  | fifo op =>
    cases op with
    | writeRaw sensor val val2 mask => exact rest_writeRaw sensor val val2 mask d h
    | _ => exact h.of_steady (steady_guarded.fifoStep h.steady (by simp))
  | readRaw sensor addr => exact rest_keeps (fun _ _ => steady_guarded.readRaw sensor addr) d h
  | event op => exact rest_keeps (fun _ _ => steady_guarded.lift (steady_device.event op)) d h
  | tempPollFunctionRead =>
    exact rest_keeps (fun _ _ => steady_guarded.tempPollFunctionRead) d h
  | tempPollFunctionWork =>
    exact rest_keeps (fun _ _ => steady_guarded.tempPollFunctionWork) d h
  | sleep vals =>
    have hslept := steady_suspend d h.steady
    exact h.of_steady (steady_resume _ (steady_guarded.sampled _ vals hslept))

end steady

end Lis2dw12
