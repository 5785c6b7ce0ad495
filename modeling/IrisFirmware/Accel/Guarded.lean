import IrisFirmware.Accel.EventConfig
import IrisFirmware.Accel.Sleep
import IrisFirmware.Accel.Timestamps
import IrisFirmware.Library.Intact

namespace Lis2dw12

open Fallible Run

abbrev ctrl3Addr : Addr := 0x22

def quietRegs : List Addr := [ctrl3Addr, ctrl6Addr]

structure Guarded (hwId : HwId) (J : Regmap.Map Addr 8 → Prop) (I : Hw → Prop) : Prop where
  read : ∀ reg, Keeps J (Regmap.read isVolatileReg Errno.busFault reg)
  write : ∀ reg ∉ quietRegs, ∀ v, Keeps J (Regmap.write isVolatileReg Errno.busFault reg v)
  transfer : Keeps J (Regmap.transfer Errno.busFault)
  rate : ∀ v, Keeps J (Regmap.bypassed (Regmap.write isVolatileReg Errno.busFault ctrl1Addr v))
  into : ∀ {α : Type} {x : EStateM Errno (Regmap.Map Addr 8) α}, Keeps J x → Keeps I (onRegmap x)
  device : ∀ hw, I hw → hw.hwId = hwId
  enabled : ∀ hw mask time timer work, I hw →
    I { hw with enableMask := mask, oldktime := time, hrTimer := timer, iioWork := work }
  events : ∀ hw mask, I hw → I { hw with enableEvMask := mask }
  required : ∀ hw, ∀ odr ∈ rated hwId, I hw → I { hw with reqOdrEvents := odr }

namespace Guarded

variable {hwId : HwId} {J : Regmap.Map Addr 8 → Prop} {I : Hw → Prop} (h : Guarded hwId J I)
include h

theorem readBytes (addrs : List Addr) : Keeps I (readBytes addrs) :=
  h.into (Regmap.keeps_bulkRead h.read h.transfer addrs)

theorem writeWithMaskLocked {addr : Addr} (haddr : addr ∉ quietRegs) (mask data : Byte) :
    Keeps I (writeWithMaskLocked addr mask data) :=
  h.into (Regmap.keeps_updateBits (h.read addr) (h.write addr haddr) mask _)

theorem setOdr (sensor : SensorId) (reqOdr : Nat) : Keeps I (setOdr sensor reqOdr) := by
  have hidx : ∀ odr, Keeps I (getOdrIdx .ACC odr) := by
    refine fun odr => .get_bind fun hw hhw => ?_
    cases (odrTable hw.hwId .ACC).findIdx? (·.hz = odr) <;> exact hhw
  exact .get_bind fun hw hhw => (hidx _).bind (fun _ => h.into (h.rate _)) hw hhw

theorem sensorSetEnable (sensor : SensorId) (enable : Bool) :
    Keeps I (sensorSetEnable sensor enable) := by
  refine .get_bind fun hw hhw => (h.setOdr sensor _).bind (fun _ => ?_) hw hhw
  have henabled : ∀ g : Hw → Hw, (∀ hw, ∃ mask time timer work, g hw = { hw with
      enableMask := mask, oldktime := time, hrTimer := timer, iioWork := work }) →
      Keeps I (modify g : M Unit) := by
    refine fun g hg => .modify fun hw hhw => ?_
    obtain ⟨mask, time, timer, work, heq⟩ := hg hw
    rw [heq]
    exact h.enabled hw mask time timer work hhw
  refine .ite (.ite (.bind ?_ fun _ => ?_) ?_) (.ite (.bind ?_ fun _ => ?_) ?_) <;>
    exact henabled _ fun hw => ⟨_, _, _, _, rfl⟩

theorem readOneshot (sensor : SensorId) (addr : Addr) : Keeps I (readOneshot sensor addr) :=
  (h.sensorSetEnable sensor true).bind fun _ => (h.readBytes _).bind fun _ =>
    (h.sensorSetEnable sensor false).ignoring.bind fun _ => .ret _

omit h in
theorem checkEvents_rated (hw : Hw) {odr : Nat} (hodr : odr ∈ rated hw.hwId) (id : EventId)
    (enable : Bool) : checkEventsOdrDependency hw odr id enable ∈ rated hw.hwId := by
  refine List.foldlRecOn eventIds _ (rated_zero hw.hwId) fun ret hret i _ => ?_
  have hi := rated_event hw.hwId i
  dsimp only
  split_ifs
  · exact hret
  · exact hret
  · exact max_rated hi hodr
  · exact max_rated hi hret
  · exact max_rated hi hodr
  · exact hret
  · exact hret

theorem configureEvent (id : EventId) (enable : Bool) : Keeps I (configureEvent id enable) := by
  have hstored : ∀ reqOdr, Keeps I (do
      Lis2dw12.setOdr .ACC reqOdr
      modify fun hw => { hw with
        enableEvMask := if enable then insert id hw.enableEvMask else hw.enableEvMask.erase id }) :=
    fun reqOdr => (h.setOdr .ACC reqOdr).bind fun _ => .modify fun hw hhw => h.events hw _ hhw
  refine (h.into (h.read _)).bind fun intVal => .get_bind fun hw hhw => ?_
  refine (h.into (h.write _ (by decide) _)).bind (fun _ => .get_bind fun t ht => ?_) hw hhw
  have hreq : checkEventsOdrDependency t (Lis2dw12.events hw.hwId id).reqOdr id enable ∈
      rated hwId := by
    rw [← h.device t ht]
    refine checkEvents_rated t ?_ id enable
    rw [h.device hw hhw, h.device t ht]
    exact rated_event hwId id
  have hrequired := h.required t _ hreq ht
  exact hstored (checkEventsOdrDependency t (Lis2dw12.events hw.hwId id).reqOdr id enable) _
    hrequired

theorem event (op : EventOp) : Keeps I op.run := by
  rw [EventOp.run, writeEventConfig]
  cases eventOf op.chan op.type op.dir with
  | none => exact .thrown _
  | some id =>
    exact .ite (.bind (h.writeWithMaskLocked (by decide) _ _) fun _ => h.configureEvent id _)
      (h.configureEvent id _)

end Guarded

theorem stamp_gain (deltaTs : Int) (d : Driver) (sample : Sample) :
    (stamp deltaTs d sample).gain = d.gain := by
  rw [stamp]
  dsimp only
  split_ifs <;> rfl

structure GuardedDriver (hwId : HwId) (J : Regmap.Map Addr 8 → Prop) (I : Hw → Prop)
    (K : Driver → Prop) : Prop extends Guarded hwId J I where
  lift : ∀ {α : Type} {x : M α}, Keeps I x → Keeps K (onHw x)
  frame : ∀ d t : Driver, t.toHw = d.toHw → t.gain = d.gain → K d → K t
  poll : ∀ d timer work, K d → K { d with hrTimer := timer, iioWork := work }
  sampled : ∀ d vals, K d → K (sampled vals d)

namespace GuardedDriver

variable {hwId : HwId} {J : Regmap.Map Addr 8 → Prop} {I : Hw → Prop} {K : Driver → Prop}
  (h : GuardedDriver hwId J I K)
include h

theorem writeMask {addr : Addr} (haddr : addr ∉ quietRegs) (mask data : Byte) :
    Keeps K (onHw (Lis2dw12.writeWithMaskLocked addr mask data)) :=
  h.lift (h.writeWithMaskLocked haddr mask data)

theorem updateFifo (sensor : SensorId) (enable : Bool) : Keeps K (updateFifo sensor enable) := by
  have htail : Keeps K (do
      if sensor = .ACC then
        onHw (Lis2dw12.writeWithMaskLocked fifoCtrlAddr fifoModeMask
          (if enable then fifoContinuous else fifoBypass))
      onHw (Lis2dw12.sensorSetEnable sensor enable)) :=
    .ite (.bind (h.writeMask (by decide) _ _) fun _ => h.lift (h.sensorSetEnable _ _))
      (h.lift (h.sensorSetEnable _ _))
  cases enable with
  | false => exact htail
  | true => exact fun d hd => htail _ (h.frame d _ rfl rfl hd)

theorem readEntries (n : Nat) : Keeps K (readEntries n) := by
  refine (h.lift (h.into h.transfer)).bind fun _ => .get_bind fun d hd => ?_
  exact h.frame d { d with fifo := fun k => d.fifo (k + n) } rfl rfl hd

theorem readChunk (deltaTs : Int) (n : Nat) : Keeps K (readChunk deltaTs n) := by
  refine (h.readEntries n).bind fun buff => .modify fun d hd => ?_
  refine List.foldlRecOn buff _ hd fun t ht sample _ => ?_
  exact h.frame t _ (stamp_frame deltaTs t sample).2.2.1 (stamp_gain deltaTs t sample) ht

theorem readChunks (deltaTs : Int) (fuel left : Nat) : Keeps K (readChunks deltaTs fuel left) := by
  induction fuel generalizing left with
  | zero => exact .ret ()
  | succ fuel ih => exact .ite (.ret ()) (.bind (h.readChunk deltaTs _) fun _ => ih _)

theorem readFifo : Keeps K readFifo :=
  .bind (h.lift (h.readBytes _)) fun _ => .get_bind fun d hd =>
    (h.readChunks _ _ _).bind (fun _ => .ret _) d hd

theorem setHwfifoWatermark (val : Int) : Keeps K (setHwfifoWatermark val) :=
  keeps_setHwfifoWatermark (fun _ => h.writeMask (by decide) _ _)
    (fun d _ hd => h.frame d _ rfl rfl hd) val

theorem enableBuffer (sensor : SensorId) : Keeps K (enableBuffer sensor) := by
  refine .get_bind fun d hd => ?_
  split_ifs
  · exact hd
  · refine (h.updateFifo sensor true).bind (fun _ => .modify fun t ht => ?_) d hd
    exact h.frame t _ rfl rfl ht

theorem disableBuffer (sensor : SensorId) : Keeps K (disableBuffer sensor) := by
  refine .get_bind fun d hd => ?_
  split_ifs
  · exact h.updateFifo sensor false _ (h.frame d _ rfl rfl hd)
  · exact hd

theorem handlerThread : Keeps K handlerThread :=
  .ignoring (.bind (h.lift (h.readBytes _)) fun _ => .ite h.readFifo.ignoring (.ret ()))

theorem flushFifo : Keeps K flushFifo := by
  refine h.readFifo.outcome.bind fun err d hd => ?_
  cases err with
  | ok len => exact h.frame d _ rfl rfl hd
  | error e => exact h.frame d _ rfl rfl hd

theorem fifoStep [Kernel] {d : Driver} (hd : K d) {op : FifoOp}
    (hraw : ∀ sensor val val2 mask, op = .writeRaw sensor val val2 mask →
      K (final (writeRaw sensor val val2 mask) d)) : K (fifoStep d op) := by
  cases op with
  | enableBuffer sensor => exact h.enableBuffer sensor d hd
  | disableBuffer sensor => exact h.disableBuffer sensor d hd
  | setHwfifoWatermark val => exact h.setHwfifoWatermark val d hd
  | writeRaw sensor val val2 mask => exact hraw sensor val val2 mask rfl
  | handlerIrq => exact h.frame d _ rfl rfl hd
  | handlerThread => exact h.handlerThread d hd
  | flushFifo => exact h.flushFifo d hd
  | readFifo => exact h.readFifo d hd
  | device vals => exact h.sampled d vals hd

theorem readRaw (sensor : SensorId) (addr : Addr) : Keeps K (readRaw sensor addr) :=
  (keeps_claimDirectMode sensor).bind fun _ => h.lift (h.readOneshot sensor addr)

theorem tempPollFunctionRead : Keeps K tempPollFunctionRead := by
  refine .get_bind fun d hd => ?_
  split_ifs
  · exact h.poll d false true hd
  · exact hd

theorem tempPollFunctionWork : Keeps K tempPollFunctionWork := by
  refine .get_bind fun d hd => ?_
  split_ifs
  · exact (h.lift (h.readBytes _)).ignoring _ (h.poll d true false hd)
  · exact hd

end GuardedDriver

end Lis2dw12
