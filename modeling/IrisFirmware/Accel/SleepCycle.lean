import IrisFirmware.Accel.Sleep
import IrisFirmware.Accel.EventConfig
import IrisFirmware.Accel.SampFreq
import IrisFirmware.Accel.Timestamps

namespace Lis2dw12

open Fallible Run

def fifoMode (hw : Hw) : Byte :=
  Register.field fifoModeMask (ffs fifoModeMask) (hw.regmap.dev fifoCtrlAddr)

def wakeUpOn (hw : Hw) : Prop := hw.regmap.dev ctrl4Int1CtrlAddr &&& wuInt1Mask = wuInt1Mask

def Sampling (hw : Hw) : SensorId → Prop
  | .ACC => fifoMode hw = fifoContinuous
  | .TEMP => hw.hrTimer ∨ hw.iioWork

def asleep (d : Driver) : Driver := final suspend d

def woken (vals : Addr → Byte) (d : Driver) : Driver := final resume (sampled vals (asleep d))

structure SleepKept (vals : Addr → Byte) (d : Driver) : Prop where
  wakeRate : .ACC ∈ d.enableMask → codeOf d.hwId 25 = some (odrField (asleep d).toHw)
  wakeUp : .ACC ∈ d.enableMask → wakeUpOn (asleep d).toHw
  rate : ∀ id ∈ d.enableMask, odrField (woken vals d).toHw = odrField d.toHw
  source : ∀ id ∈ d.enableMask, Sampling (woken vals d).toHw id

def sleepRestored (d : Driver) : Prop :=
  .TEMP ∉ d.enableMask ∧ (.ACC ∈ d.enableMask →
    codeOf d.hwId (max d.reqOdrEvents (min 100 (d.odr .ACC))) = some (odrField d.toHw))

def Sound (m : Regmap.Map Addr 8) : Prop := Regmap.Live m ∧ Regmap.Agrees fifoCtrlAddr m

structure Awake (hwId : HwId) (hw : Hw) : Prop where
  sound : Sound hw.regmap
  device : hw.hwId = hwId
  positive : ∀ id, 0 < hw.odr id
  ofTable : ∀ id, hw.odr id ∈ (odrTable hwId id).map Odr.hz
  required : hw.reqOdrEvents ∈ rated hwId

theorem Sound.moved {reg : Addr} {m t : Regmap.Map Addr 8} (h : Sound m)
    (ht : Regmap.Moved isVolatileReg reg m t) (hlive : Regmap.Live t) : Sound t :=
  ⟨hlive, ht.agrees _ (by decide) h.2⟩

theorem onHw_succeeds {d : Driver} {α : Type} {x : M α} {P : α → Hw → Prop}
    (h : Succeeds x d.toHw P) :
    Succeeds (onHw x) d fun a t => ∃ hw, t = { d with toHw := hw } ∧ P a hw :=
  Succeeds.within h

theorem onRegmap_succeeds {hw : Hw} {α : Type} {x : EStateM Errno (Regmap.Map Addr 8) α}
    {P : α → Regmap.Map Addr 8 → Prop} (h : Succeeds x hw.regmap P) :
    Succeeds (onRegmap x) hw fun a t => ∃ m, t = { hw with regmap := m } ∧ P a m :=
  Succeeds.within h

theorem readVolatile_run {d : Driver} (h : Regmap.Live d.regmap) {addrs : List Addr}
    (hvol : addrs.all isVolatileReg) :
    onHw (readBytes addrs) d = .ok (addrs.map d.regmap.dev) d := by
  rw [onHw, within, readBytes, onRegmap, within, Regmap.bulkRead_volatile h hvol]

theorem readChunk_live (deltaTs : Int) (n : Nat) {d : Driver} (h : Regmap.Live d.regmap) :
    Succeeds (readChunk deltaTs n) d fun _ t => t.toHw = d.toHw := by
  have htransfer : onHw (onRegmap (Regmap.transfer .busFault)) d = .ok () d := by
    rw [onHw, within, onRegmap, within, Regmap.transfer_live h]
  have hread : readEntries n d = .ok ((List.range n).map d.fifo)
      { d with fifo := fun k => d.fifo (k + n) } := by
    rw [readEntries, bind_run htransfer]
    rfl
  refine ⟨(), _, by rw [readChunk, bind_run hread]; rfl, ?_⟩
  exact (stamps_frame ..).2.2.1

theorem readChunks_live (deltaTs : Int) (fuel left : Nat) {d : Driver}
    (h : Regmap.Live d.regmap) :
    Succeeds (readChunks deltaTs fuel left) d fun _ t => t.toHw = d.toHw := by
  induction fuel generalizing left d with
  | zero => exact .ret rfl
  | succ fuel ih =>
    rw [readChunks]
    split_ifs
    · exact .ret rfl
    · refine (readChunk_live deltaTs _ h).bind ?_
      intro _ t ht
      refine (ih _ (by rw [ht]; exact h)).mono ?_
      intro _ u hu
      exact hu.trans ht

theorem readFifo_live {d : Driver} (h : Regmap.Live d.regmap) :
    Succeeds readFifo d fun _ t => t.toHw = d.toHw := by
  have hstatus : onHw (readBytes [fifoSamplesAddr]) d = _ := readVolatile_run h (by decide)
  rw [Succeeds, readFifo, bind_run hstatus, get_bind_run]
  exact (readChunks_live _ _ _ h).bind fun _ t ht => .ret ht

def wakeCode (hwId : HwId) : Byte := ((odrTable hwId .ACC).getD 2 ⟨0, 0⟩).val <<< ffs odrMask

def wakeUpDev (hw : Hw) : Addr → Byte :=
  let off := Function.update hw.regmap.dev ctrl4Int1CtrlAddr
    (Register.put wuInt1Mask (shiftVal 0 wuInt1Mask) (hw.regmap.dev ctrl4Int1CtrlAddr))
  let ths := Function.update off wakeUpThsAddr
    (Register.put wakeUpThsMask (shiftVal 2 wakeUpThsMask) (off wakeUpThsAddr))
  let rate := Function.update ths ctrl1Addr (wakeCode hw.hwId)
  Function.update rate ctrl4Int1CtrlAddr
    (Register.put wuInt1Mask (shiftVal 1 wuInt1Mask) (rate ctrl4Int1CtrlAddr))

theorem configureWakeUp_run {hw : Hw} (h : Regmap.Live hw.regmap) :
    configureWakeUp hw =
      .ok () { hw with regmap := { hw.regmap with dev := wakeUpDev hw, bypass := false } } := by
  have hlive : ∀ dev, Regmap.Live { hw.regmap with dev := dev, bypass := true } := fun _ => h
  rw [configureWakeUp, get_bind_run, onRegmap, within, Regmap.bypassed,
    bind_run (Regmap.updateBits_bypass (hlive _) rfl ..),
    bind_run (Regmap.updateBits_bypass (hlive _) rfl ..),
    bind_run (Regmap.write_bypass (hlive _) rfl ..),
    bind_run (Regmap.read_bypass (hlive _) rfl _),
    Regmap.updateBits_bypass (hlive _) rfl]
  rfl

theorem wakeUp_sound {hw : Hw} (h : Sound hw.regmap) :
    Sound { hw.regmap with dev := wakeUpDev hw, bypass := false } := by
  have hsame : wakeUpDev hw fifoCtrlAddr = hw.regmap.dev fifoCtrlAddr := by
    rw [wakeUpDev, Function.update_of_ne (by decide), Function.update_of_ne (by decide),
      Function.update_of_ne (by decide), Function.update_of_ne (by decide)]
  exact ⟨h.1, rfl, fun v hv => hsame.trans (h.2.2 v hv)⟩

theorem wakeUpDev_ctrl1 (hw : Hw) : wakeUpDev hw ctrl1Addr = wakeCode hw.hwId := by
  rw [wakeUpDev, Function.update_of_ne (by decide), Function.update_self]

theorem wakeUpDev_ctrl4 (hw : Hw) :
    wakeUpDev hw ctrl4Int1CtrlAddr &&& wuInt1Mask = wuInt1Mask := by
  rw [wakeUpDev, Function.update_self, Register.put_and_mask]
  decide

theorem wakeCode_holds (hwId : HwId) :
    codeOf hwId 25 = some (Register.field odrMask (ffs odrMask) (wakeCode hwId)) := by
  cases hwId <;> decide

section awake

variable {hwId : HwId}

theorem Awake.odr_rated {hw : Hw} (h : Awake hwId hw) (sensor : SensorId) :
    hw.odr sensor ∈ rated hw.hwId := by
  rw [h.device]
  exact rated_of_table (h.ofTable sensor)

theorem Awake.others_rated {hw : Hw} (h : Awake hwId hw) (sensor : SensorId) :
    others hw sensor ∈ rated hw.hwId := by
  exact sup_rated fun id _ => h.odr_rated id

theorem Awake.withRegmap {hw : Hw} (h : Awake hwId hw) {m : Regmap.Map Addr 8} (hm : Sound m) :
    Awake hwId { hw with regmap := m } :=
  ⟨hm, h.device, h.positive, h.ofTable, h.required⟩

theorem setOdr_awake {hw : Hw} (h : Awake hwId hw) (sensor : SensorId) {reqOdr : Nat}
    (hreq : reqOdr ∈ rated hw.hwId) :
    Succeeds (setOdr sensor reqOdr) hw fun _ t => ∃ m, t = { hw with regmap := m } ∧ Sound m ∧
      (∀ reg ≠ ctrl1Addr, m.dev reg = hw.regmap.dev reg) ∧
      codeOf hw.hwId (written hw sensor reqOdr) = some (odrField t) := by
  have hev : hw.reqOdrEvents ∈ rated hw.hwId := h.device ▸ h.required
  obtain ⟨val, hcode, hstores⟩ := setOdr_stores hreq (h.others_rated sensor) hev
  obtain ⟨_, _, hrun, -, rfl⟩ := hstores.answered fun n _ => h.sound.1 n
  refine ⟨(), _, hrun, _, rfl, ⟨fun n => h.sound.1 (n + 1), rfl, fun v hv => ?_⟩, ?_, ?_⟩
  · dsimp only
    rw [Function.update_of_ne (by decide)]
    exact h.sound.2.2 v hv
  · intro reg hreg
    exact Function.update_of_ne hreg ..
  · rw [hcode, odrField]
    dsimp only
    rw [Function.update_self]

theorem setFifoMode_awake {d : Driver} (h : Awake hwId d.toHw) (mode : Byte) :
    Succeeds (setFifoMode mode) d fun _ t => ∃ m, t = { d with regmap := m } ∧ Sound m ∧
      m.dev fifoCtrlAddr =
        Register.put fifoModeMask (shiftVal mode fifoModeMask) (d.regmap.dev fifoCtrlAddr) ∧
      ∀ reg ≠ fifoCtrlAddr, m.dev reg = d.regmap.dev reg := by
  have hupdate : Succeeds (Regmap.updateBits isVolatileReg Errno.busFault fifoCtrlAddr fifoModeMask
      (shiftVal mode fifoModeMask)) d.regmap _ :=
    Regmap.updateBits_agrees h.sound.1 (by decide) h.sound.2 fifoModeMask _
  refine (onHw_succeeds (onRegmap_succeeds hupdate)).mono ?_
  rintro _ _ ⟨_, rfl, m, rfl, hlive, hreg, hm⟩
  exact ⟨m, rfl, h.sound.moved hm hlive, hreg, hm.dev⟩

def cancelled (d : Driver) : Driver := { d with iioWork := false, hrTimer := false }

theorem Awake.cancelled {d : Driver} (h : Awake hwId d.toHw) :
    Awake hwId (cancelled d).toHw :=
  ⟨h.sound, h.device, h.positive, h.ofTable, h.required⟩

theorem suspendFifo_awake {d : Driver} (h : Awake hwId d.toHw) :
    Succeeds suspendFifo d fun _ t => ∃ m, t.toHw = { d.toHw with regmap := m } ∧ Sound m := by
  refine ((readFifo_live h.sound.1).ignoring).bind ?_
  intro _ t ht
  refine (setFifoMode_awake (d := t) (by rw [ht]; exact h) fifoBypass).mono ?_
  rintro _ _ ⟨m, rfl, hm, -⟩
  exact ⟨m, by rw [ht], hm⟩

theorem suspendSensor_accel {hw : Hw} (h : Awake hwId hw) :
    Succeeds (suspendSensor .ACC) hw fun _ t => ∃ m, t = { hw with regmap := m } ∧ Sound m ∧
      (.ACC ∈ hw.enableMask → codeOf hw.hwId 25 = some (odrField t) ∧ wakeUpOn t) := by
  refine .get_bind ?_
  by_cases hon : .ACC ∈ hw.enableMask
  · rw [if_pos hon, if_pos (by decide)]
    refine ⟨(), _, configureWakeUp_run h.sound.1, _, rfl, wakeUp_sound h.sound, fun _ => ⟨?_, ?_⟩⟩
    · rw [wakeCode_holds hw.hwId, odrField]
      dsimp only
      rw [wakeUpDev_ctrl1]
    · exact wakeUpDev_ctrl4 hw
  · rw [if_neg hon]
    exact .ret ⟨hw.regmap, rfl, h.sound, fun ha => absurd ha hon⟩

theorem suspendSensor_temp {hw : Hw} (h : Awake hwId hw) :
    Succeeds (suspendSensor .TEMP) hw fun _ t => ∃ m, t = { hw with regmap := m } ∧ Sound m ∧
      (.TEMP ∉ hw.enableMask → t = hw) := by
  refine .get_bind ?_
  by_cases hon : .TEMP ∈ hw.enableMask
  · rw [if_pos hon, if_neg (by decide)]
    refine (setOdr_awake h .TEMP (rated_zero hw.hwId)).mono ?_
    rintro _ _ ⟨m, rfl, hm, -⟩
    exact ⟨m, rfl, hm, fun hn => absurd hon hn⟩
  · rw [if_neg hon]
    exact .ret ⟨hw.regmap, rfl, h.sound, fun _ => rfl⟩

def Suspended (d s : Driver) : Prop :=
  ∃ m, s.toHw = { (cancelled d).toHw with regmap := m } ∧ Sound m ∧
    (.ACC ∈ d.enableMask → .TEMP ∉ d.enableMask →
      codeOf d.hwId 25 = some (odrField s.toHw) ∧ wakeUpOn s.toHw)

theorem suspendSensors_awake {d t : Driver} (h : Awake hwId d.toHw) {m : Regmap.Map Addr 8}
    (ht : t.toHw = { (cancelled d).toHw with regmap := m }) (hm : Sound m) :
    Succeeds suspendSensors t fun _ s => Suspended d s := by
  have hawake : Awake hwId t.toHw := by
    rw [ht]
    exact h.cancelled.withRegmap hm
  have hmask : t.enableMask = d.enableMask ∧ t.hwId = d.hwId := by
    rw [ht]
    exact ⟨rfl, rfl⟩
  refine (onHw_succeeds (suspendSensor_accel hawake)).bind ?_
  rintro _ _ ⟨_, rfl, m', rfl, hm', hwake⟩
  have hawake' := hawake.withRegmap hm'
  refine (onHw_succeeds (d := { t with regmap := m' }) (suspendSensor_temp hawake')).mono ?_
  rintro _ _ ⟨_, rfl, m'', rfl, hm'', htemp⟩
  refine ⟨m'', ?_, hm'', fun hacc hnt => ?_⟩
  · dsimp only
    rw [ht]
  · have hsame := htemp (by rw [← hmask.1] at hnt; exact hnt)
    dsimp only at hsame ⊢
    rw [hsame, ← hmask.2]
    exact hwake (hmask.1 ▸ hacc)

theorem suspend_awake {d : Driver} (h : Awake hwId d.toHw) :
    Succeeds suspend d fun _ s => Suspended d s := by
  have hrest : ∀ t : Driver, (∃ m, t.toHw = { (cancelled d).toHw with regmap := m } ∧ Sound m) →
      Succeeds (do suspendSensors; regcacheMarkDirty) t fun _ s => Suspended d s := by
    rintro t ⟨m, ht, hm⟩
    exact (suspendSensors_awake h ht hm).bind fun _ s hs => .modify hs
  rw [suspend]
  refine Succeeds.modify_bind (.get_bind ?_)
  by_cases hacc : .ACC ∈ d.enableMask
  · rw [if_pos hacc]
    exact (suspendFifo_awake h.cancelled).bind fun _ t ht => hrest t ht
  · rw [if_neg hacc]
    exact hrest _ ⟨d.regmap, rfl, h.sound⟩

theorem regcacheSync_awake {d : Driver} (h : Awake hwId d.toHw) :
    Succeeds regcacheSync d fun _ t => ∃ m, t.toHw = { d.toHw with regmap := m } ∧ Sound m := by
  refine .get_bind ?_
  split_ifs
  · refine (onHw_succeeds (onRegmap_succeeds (Regmap.sync_live h.sound.1 regcacheRegs))).bind ?_
    rintro _ _ ⟨_, rfl, m, rfl, hlive, hm⟩
    exact .modify ⟨m, rfl, hlive, (hm fifoCtrlAddr h.sound.2).1⟩
  · exact .ret ⟨d.regmap, rfl, h.sound⟩

theorem others_accel {hw : Hw} (h : .TEMP ∉ hw.enableMask) : others hw .ACC = 0 := by
  have hempty : hw.enableMask.erase .ACC = ∅ := by
    ext id
    cases id <;> simp [h]
  rw [others, hempty]
  rfl

theorem resumeSensor_awake {hw : Hw} (h : Awake hwId hw) (sensor : SensorId) :
    Succeeds (resumeSensor sensor) hw fun _ t => ∃ m, t = { hw with regmap := m } ∧ Sound m ∧
      (sensor ∈ hw.enableMask →
        codeOf hw.hwId (written hw sensor (hw.odr sensor)) = some (odrField t)) ∧
      (sensor ∉ hw.enableMask → t = hw) := by
  refine .get_bind ?_
  split_ifs with hon
  · refine (setOdr_awake h sensor (h.odr_rated sensor)).mono ?_
    rintro _ _ ⟨m, rfl, hm, -, hcode⟩
    exact ⟨m, rfl, hm, fun _ => hcode, fun hn => absurd hon hn⟩
  · exact .ret ⟨hw.regmap, rfl, h.sound, fun ha => absurd ha hon, fun _ => rfl⟩

structure Resumed (s t : Hw) : Prop where
  frame : ∃ m, t = { s with regmap := m } ∧ Sound m
  rate : .ACC ∈ s.enableMask → .TEMP ∉ s.enableMask →
    codeOf s.hwId (max s.reqOdrEvents (min 100 (s.odr .ACC))) = some (odrField t)

theorem resumeSensors_awake {d : Driver} (h : Awake hwId d.toHw) :
    Succeeds resumeSensors d fun _ t => Resumed d.toHw t.toHw := by
  refine (onHw_succeeds (resumeSensor_awake h .ACC)).bind ?_
  rintro _ _ ⟨_, rfl, m, rfl, hm, hcode, -⟩
  have hawake := h.withRegmap hm
  refine (onHw_succeeds (d := { d with regmap := m }) (resumeSensor_awake hawake .TEMP)).mono ?_
  rintro _ _ ⟨_, rfl, m', rfl, hm', -, hsame⟩
  refine ⟨⟨m', rfl, hm'⟩, fun hacc hnt => ?_⟩
  have hrate := hcode hacc
  rw [written, others_accel hnt, if_pos (h.positive .ACC), Nat.max_zero] at hrate
  rw [hrate]
  exact congrArg (fun hw => some (odrField hw)) (hsame hnt).symm

theorem fifoMode_put (r : Byte) : Register.field fifoModeMask (ffs fifoModeMask)
    (Register.put fifoModeMask (shiftVal fifoContinuous fifoModeMask) r) = fifoContinuous := by
  rw [Register.field_put_same]
  decide

theorem resume_awake {s : Driver} (h : Awake hwId s.toHw) :
    Succeeds resume s fun _ t => Resumed s.toHw t.toHw ∧
      (.ACC ∈ s.enableMask → Sampling t.toHw .ACC) := by
  rw [resume, flushFifoDuringResume]
  refine ((readFifo_live h.sound.1).ignoring).bind ?_
  intro _ t₁ ht₁
  have hawake₁ : Awake hwId t₁.toHw := ht₁ ▸ h
  refine ((regcacheSync_awake hawake₁).ignoring).bind ?_
  rintro _ t ⟨m, ht, hm⟩
  rw [ht₁] at ht
  have hawake : Awake hwId t.toHw := ht ▸ h.withRegmap hm
  have hmask : t.enableMask = s.enableMask := by rw [ht]
  have hread : ignoring (onHw (readBytes [allIntSrcAddr])) t = .ok () t := by
    rw [ignoring, readVolatile_run hawake.sound.1 (by decide)]
  have hmode : Succeeds (do
      resumeSensors
      if .ACC ∈ (← get).enableMask then setFifoMode fifoContinuous) t
      fun _ u => Resumed t.toHw u.toHw ∧ (.ACC ∈ t.enableMask → Sampling u.toHw .ACC) := by
    refine (resumeSensors_awake hawake).bind ?_
    rintro _ u ⟨⟨m', hu, hm'⟩, hrate⟩
    have humask : u.enableMask = t.enableMask := by rw [hu]
    refine .get_bind ?_
    rw [humask]
    split_ifs with hacc
    · refine (setFifoMode_awake (hu ▸ hawake.withRegmap hm') fifoContinuous).mono ?_
      rintro _ _ ⟨m'', rfl, hm'', hreg, hrest⟩
      refine ⟨⟨⟨m'', by dsimp only; rw [hu], hm''⟩, fun ha hnt => ?_⟩, fun _ => ?_⟩
      · rw [hrate ha hnt, odrField, odrField, hrest ctrl1Addr (by decide)]
      · rw [Sampling, fifoMode, hreg]
        exact fifoMode_put _
    · exact .ret ⟨⟨⟨m', hu, hm'⟩, hrate⟩, fun ha => absurd ha hacc⟩
  have hdone := hmode.mono (Q := fun _ u => Resumed s.toHw u.toHw ∧
    (.ACC ∈ s.enableMask → Sampling u.toHw .ACC)) (by
      rintro _ u ⟨⟨⟨m', hu, hm'⟩, hrate⟩, hsource⟩
      rw [ht] at hu hrate
      rw [hmask] at hsource
      exact ⟨⟨⟨m', hu, hm'⟩, hrate⟩, hsource⟩)
  refine .get_bind ?_
  split_ifs
  · rw [Succeeds, bind_run hread]
    exact hdone
  · exact hdone

theorem sampled_sound {hw : Hw} (h : Sound hw.regmap) (vals : Addr → Byte) :
    Sound { hw.regmap with
      dev := fun reg => if isVolatileReg reg then vals reg else hw.regmap.dev reg } := by
  have hfixed : isVolatileReg fifoCtrlAddr = false := by decide
  refine ⟨h.1, h.2.1, fun v hv => ?_⟩
  dsimp only
  rw [hfixed]
  exact h.2.2 v hv

theorem woken_resumed {d : Driver} (h : Awake hwId d.toHw) (vals : Addr → Byte) :
    Suspended d (asleep d) ∧ Resumed (sampled vals (asleep d)).toHw (woken vals d).toHw ∧
      (.ACC ∈ d.enableMask → Sampling (woken vals d).toHw .ACC) := by
  have hsuspended : Suspended d (asleep d) := (suspend_awake h).final
  obtain ⟨m, hs, hm, -⟩ := id hsuspended
  have hawake : Awake hwId (asleep d).toHw := hs ▸ h.cancelled.withRegmap hm
  have hsampled : Awake hwId (sampled vals (asleep d)).toHw :=
    hawake.withRegmap (sampled_sound hawake.sound vals)
  have hmask : (sampled vals (asleep d)).enableMask = d.enableMask := by
    change (asleep d).enableMask = _
    rw [hs]
    rfl
  obtain ⟨hresumed, hsource⟩ := (resume_awake hsampled).final
  exact ⟨hsuspended, hresumed, fun ha => hsource (hmask ▸ ha)⟩

theorem woken_frame {d : Driver} (h : Awake hwId d.toHw) (vals : Addr → Byte) :
    ∃ m, (woken vals d).toHw = { (cancelled d).toHw with regmap := m } ∧ Sound m := by
  obtain ⟨⟨m, hs, hm, -⟩, ⟨⟨m', ht, hm'⟩, -⟩, -⟩ := woken_resumed h vals
  refine ⟨m', ht.trans ?_, hm'⟩
  change { (asleep d).toHw with regmap := m' } = _
  rw [hs]

theorem sleepKept_iff {d : Driver} (h : Awake hwId d.toHw) (vals : Addr → Byte) :
    SleepKept vals d ↔ sleepRestored d := by
  obtain ⟨⟨m, hs, hm, hwake⟩, ⟨-, hrate⟩, hsource⟩ := woken_resumed h vals
  obtain ⟨m', ht, -⟩ := woken_frame h vals
  have hrate' : .ACC ∈ d.enableMask → .TEMP ∉ d.enableMask →
      codeOf d.hwId (max d.reqOdrEvents (min 100 (d.odr .ACC))) =
        some (odrField (woken vals d).toHw) := by
    change .ACC ∈ (asleep d).enableMask → .TEMP ∉ (asleep d).enableMask →
      codeOf (asleep d).hwId (max (asleep d).reqOdrEvents (min 100 ((asleep d).odr .ACC))) = _
      at hrate
    rwa [hs] at hrate
  constructor
  · intro hkept
    have htemp : .TEMP ∉ d.enableMask := by
      intro hon
      have hpoll := hkept.source .TEMP hon
      rw [ht, Sampling] at hpoll
      simp [cancelled] at hpoll
    refine ⟨htemp, fun hacc => ?_⟩
    rw [hrate' hacc htemp, hkept.rate .ACC hacc]
  · rintro ⟨htemp, hcode⟩
    have honly : ∀ id ∈ d.enableMask, id = .ACC := by
      intro id hid
      cases id with
      | ACC => rfl
      | TEMP => exact absurd hid htemp
    refine ⟨fun ha => (hwake ha htemp).1, fun ha => (hwake ha htemp).2, fun id hid => ?_,
      fun id hid => ?_⟩
    · obtain rfl := honly id hid
      exact Option.some_inj.mp ((hrate' hid htemp).symm.trans (hcode hid))
    · obtain rfl := honly id hid
      exact hsource hid

end awake

end Lis2dw12
