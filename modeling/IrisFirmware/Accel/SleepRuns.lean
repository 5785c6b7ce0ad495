import IrisFirmware.Accel.Guarded
import IrisFirmware.Accel.SleepCycle

namespace Lis2dw12

open Fallible Run

inductive PowerOp where
  | fifo (op : FifoOp)
  | readRaw (sensor : SensorId) (addr : Addr)
  | event (op : EventOp)
  | tempPollFunctionRead
  | tempPollFunctionWork
  | sleep (vals : Addr → Byte)

def PowerOp.admitted (hwId : HwId) : PowerOp → Prop
  | .fifo op => op.positive
  | .event op => op.supported hwId
  | _ => True

def powerStep [Kernel] (d : Driver) : PowerOp → Driver
  | .fifo op => fifoStep d op
  | .readRaw sensor addr => final (readRaw sensor addr) d
  | .event op => final (onHw op.run) d
  | .tempPollFunctionRead => final tempPollFunctionRead d
  | .tempPollFunctionWork => final tempPollFunctionWork d
  | .sleep vals => woken vals d

-- the probe's write of the watermark leaves FIFO_CTRL in the cache
def setUp [Kernel] {hwId : HwId} (rates : Rates hwId) (dev : Addr → Byte) (cache : Addr → Option Byte)
    (clock : Nat → Int) (fifo : Nat → Sample) : Driver :=
  probedDriver rates dev (Function.update cache fifoCtrlAddr (some (dev fifoCtrlAddr))) clock fifo

def SleepSafe (d : Driver) : PowerOp → Prop
  | .sleep vals => SleepKept vals d
  | _ => True

def sleepRestorable (d : Driver) : PowerOp → Prop
  | .sleep _ => sleepRestored d
  | _ => True

variable {hwId : HwId}

theorem sound_read (reg : Addr) : Keeps Sound (Regmap.read isVolatileReg Errno.busFault reg) :=
  fun m h => (((Regmap.read_costs m reg).succeeds h.1).mono
    fun _ _ ht => h.moved ht.1.2.2 ht.2).final

theorem sound_write (reg : Addr) (v : Byte) :
    Keeps Sound (Regmap.write isVolatileReg Errno.busFault reg v) :=
  fun m h => (((Regmap.write_costs m reg v).succeeds h.1).mono
    fun _ _ ht => h.moved ht.1.2 ht.2).final

theorem sound_transfer : Keeps Sound (Regmap.transfer Errno.busFault) := by
  intro m h
  rw [final, Regmap.transfer_live h.1]
  exact h

theorem sound_rate (v : Byte) :
    Keeps Sound (Regmap.bypassed (Regmap.write isVolatileReg Errno.busFault ctrl1Addr v)) := by
  intro m h
  rw [final, Regmap.bypassed_write_live h.1]
  refine ⟨h.1, rfl, fun x hx => ?_⟩
  have hsame := Function.update_of_ne (by decide : fifoCtrlAddr ≠ ctrl1Addr) v m.dev
  exact hsame.trans (h.2.2 x hx)

def AwakeDriver (hwId : HwId) (d : Driver) : Prop := Awake hwId d.toHw

theorem awake_guarded : GuardedDriver hwId Sound (Awake hwId) (AwakeDriver hwId) where
  read := sound_read
  write reg _ v := sound_write reg v
  transfer := sound_transfer
  rate := sound_rate
  into hx := Keeps.into (fun _ h => h.sound) (fun _ _ h hm => h.withRegmap hm) hx
  device _ h := h.device
  enabled _ _ _ _ _ h := ⟨h.sound, h.device, h.positive, h.ofTable, h.required⟩
  events _ _ h := ⟨h.sound, h.device, h.positive, h.ofTable, h.required⟩
  required _ _ hodr h := ⟨h.sound, h.device, h.positive, h.ofTable, hodr⟩
  lift hx := Keeps.into (fun _ h => h) (fun _ _ _ h => h) hx
  frame d t hhw _ h := by
    rw [AwakeDriver, hhw]
    exact h
  poll _ _ _ h := ⟨h.sound, h.device, h.positive, h.ofTable, h.required⟩
  sampled _ vals h := h.withRegmap (sampled_sound h.sound vals)

variable [Kernel]

theorem awake_writeRaw (sensor : SensorId) (val val2 : Int) (mask : InfoMask)
    (hpos : (FifoOp.writeRaw sensor val val2 mask).positive) :
    Keeps (AwakeDriver hwId) (writeRaw sensor val val2 mask) := by
  intro d h
  cases mask with
  | SCALE =>
    refine (keeps_claimDirectMode sensor).bind (fun _ => ?_) d h
    have hset : Keeps (AwakeDriver hwId) (setFs sensor (u16 val2)) := by
      rw [setFs]
      cases (fsTable sensor).find? (u16 val2 ≤ ·.gain) with
      | none => exact .thrown _
      | some fs =>
        have hwrite : Keeps (Awake hwId) (writeWithMaskLocked ctrl6Addr fsMask fs.val) :=
          awake_guarded.into (Regmap.keeps_updateBits (sound_read _) (sound_write _) _ _)
        exact (awake_guarded.lift hwrite).bind fun _ d h => h
    exact .ite (.bind (.thrown _) fun _ => hset) hset
  | SAMP_FREQ =>
    have husable : RatesUsable d := fun id =>
      usable_of_positive (h.positive id) (h.device ▸ h.ofTable id)
    have hkept : RatesUsable (rateWrite d ⟨sensor, val, val2⟩) :=
      (rateWrite_iff husable ⟨sensor, val, val2⟩).mpr fun _ _ => hpos
    have hhw := (rateWrite_written d ⟨sensor, val, val2⟩).hw
    have hframe : (rateWrite d ⟨sensor, val, val2⟩).hwId = d.hwId ∧
        (rateWrite d ⟨sensor, val, val2⟩).regmap = d.regmap ∧
        (rateWrite d ⟨sensor, val, val2⟩).reqOdrEvents = d.reqOdrEvents := by
      rw [hhw]
      exact ⟨rfl, rfl, rfl⟩
    obtain ⟨hdevice, hregmap, hreq⟩ := hframe
    refine ⟨hregmap.symm ▸ h.sound, hdevice.trans h.device, fun id => (hkept id).positive,
      fun id => ?_, hreq.symm ▸ h.required⟩
    have hmem := (hkept id).ofTable
    rwa [hdevice, h.device] at hmem
  | other => exact (keeps_claimDirectMode sensor).bind (fun _ => .thrown _) d h

theorem awake_powerStep {d : Driver} (h : AwakeDriver hwId d) {op : PowerOp}
    (hop : op.admitted hwId) : AwakeDriver hwId (powerStep d op) := by
  cases op with
  | fifo op =>
    refine awake_guarded.fifoStep h ?_
    rintro sensor val val2 mask rfl
    exact awake_writeRaw sensor val val2 mask hop d h
  | readRaw sensor addr => exact awake_guarded.readRaw sensor addr d h
  | event op => exact awake_guarded.lift (awake_guarded.event op) d h
  | tempPollFunctionRead => exact awake_guarded.tempPollFunctionRead d h
  | tempPollFunctionWork => exact awake_guarded.tempPollFunctionWork d h
  | sleep vals =>
    obtain ⟨m, ht, hm⟩ := woken_frame h vals
    change Awake hwId (woken vals d).toHw
    rw [ht]
    exact h.cancelled.withRegmap hm

theorem setUp_awake (rates : Rates hwId) (dev : Addr → Byte) (cache : Addr → Option Byte)
    (clock : Nat → Int) (fifo : Nat → Sample) :
    AwakeDriver hwId (setUp rates dev cache clock fifo) where
  sound := by
    refine ⟨fun _ => rfl, rfl, fun v hv => ?_⟩
    have hcached : Function.update cache fifoCtrlAddr (some (dev fifoCtrlAddr)) fifoCtrlAddr =
        some v := hv
    rw [Function.update_self] at hcached
    have hdev : Function.update dev ctrl1Addr 0 fifoCtrlAddr = dev fifoCtrlAddr :=
      Function.update_of_ne (by decide) ..
    exact hdev.trans (Option.some_inj.mp hcached)
  device := rfl
  positive := rates.positive
  ofTable := rates.ofTable
  required := rated_zero hwId

theorem sleep_restores_iff (rates : Rates hwId) (dev : Addr → Byte)
    (cache : Addr → Option Byte) (clock : Nat → Int) (fifo : Nat → Sample)
    (ops : List {op : PowerOp // op.admitted hwId}) :
    Along (fun d op => powerStep d op.1) (fun d op => SleepSafe d op.1)
        (setUp rates dev cache clock fifo) ops ↔
      Along (fun d op => powerStep d op.1) (fun d op => sleepRestorable d op.1)
        (setUp rates dev cache clock fifo) ops := by
  refine along_iff (I := AwakeDriver hwId) (setUp_awake rates dev cache clock fifo)
    (fun d op h => ?_) fun d op h _ => awake_powerStep h op.2
  obtain ⟨op, hop⟩ := op
  cases op with
  | sleep vals => exact sleepKept_iff h vals
  | _ => exact Iff.rfl

omit [Kernel] in
theorem temperature_poll_not_resumed :
    ¬ ∀ [Kernel] (hwId : HwId) (rates : Rates hwId) (dev : Addr → Byte) (cache : Addr → Option Byte)
      (clock : Nat → Int) (fifo : Nat → Sample) (ops : List {op : PowerOp // op.admitted hwId}),
      Along (fun d op => powerStep d op.1) (fun d op => SleepSafe d op.1)
        (setUp rates dev cache clock fifo) ops := by
  intro h
  have hsleep := (@h truncating .LIS2DW12 lowRates (fun _ => 0) (fun _ => none) (fun _ => 0) (fun _ => 0)
    [⟨.fifo (.enableBuffer .ACC), trivial⟩, ⟨.fifo (.enableBuffer .TEMP), trivial⟩,
      ⟨.sleep fun _ => 0, trivial⟩]).2.2.1
  rcases hsleep.source .TEMP (by decide) with htimer | hwork
  · revert htimer
    decide
  · revert hwork
    decide

end Lis2dw12
