import IrisFirmware.Accel.Rest
import IrisFirmware.Library.CText

namespace Lis2dw12

open Fallible Metered Kernel

abbrev stMask : Byte := 0xc0

abbrev selftestMin : Int := 285
abbrev selftestMax : Int := 6150

structure SelftestReq where
  mode : String
  val : Byte

def selftestTable : List SelftestReq :=
  [⟨"disabled", 0x0⟩, ⟨"positive-sign", 0x1⟩, ⟨"negative-sign", 0x2⟩]

inductive SelftestStatus where
  | RESET
  | PASS
  | FAIL
deriving DecidableEq, Repr

-- readings are what the volatile registers come to hold at each coming wait
structure Tested extends Driver where
  stStatus : SelftestStatus
  readings : Nat → Addr → Byte

abbrev T (α : Type) := EStateM Errno Tested α

def onDriver {α : Type} (x : D α) : T α :=
  within Tested.toDriver (fun d s => { s with toDriver := d }) x

def msleep : T Unit := modify fun s =>
  { s with
    toDriver := sampled (s.readings 0) s.toDriver
    readings := fun n => s.readings (n + 1) }

structure Axes where
  x : Int
  y : Int
  z : Int

def axis (data : List Byte) (offset : Nat) : Int :=
  ((le16 (data.drop offset)).shiftRight 2).tdiv 5

def int16 (v : Int) : Int := Int.bmod v (2 ^ 16)

-- the sums are of type s16
def accumulate (acc : Axes) (data : List Byte) : Axes where
  x := int16 (acc.x + axis data 0)
  y := int16 (acc.y + axis data 2)
  z := int16 (acc.z + axis data 4)

def outRegs : List Addr :=
  [outXLAddr, outXLAddr + 1, outYLAddr, outYLAddr + 1, outZLAddr, outZLAddr + 1]

def readAxes : Nat → Axes → T Axes
  | 0, acc => return acc
  | n + 1, acc => do
    let data ← onDriver (onHw (readBytes outRegs))
    msleep
    readAxes n (accumulate acc data)

-- the upper bound is checked on x alone
def passes (acc accSt : Axes) : Prop :=
  selftestMin ≤ |accSt.x - acc.x| ∧ |accSt.x - acc.x| ≤ selftestMax ∧
    selftestMin ≤ |accSt.y - acc.y| ∧ selftestMin ≤ |accSt.y - acc.y| ∧
    selftestMin ≤ |accSt.z - acc.z| ∧ selftestMin ≤ |accSt.z - acc.z|

instance (acc accSt : Axes) : Decidable (passes acc accSt) :=
  inferInstanceAs (Decidable (_ ∧ _))

-- what st_lis2dw12_enable_selftest does up to its verdict
def examine [Kernel] (val : Byte) : T Unit := do
  onDriver (setFs .ACC (gToMS2 244))
  onDriver (onHw (setOdr .ACC 50))
  msleep
  let acc ← readAxes 5 ⟨0, 0, 0⟩
  onDriver (onHw (writeWithMaskLocked ctrl3Addr stMask val))
  msleep
  let accSt ← readAxes 5 ⟨0, 0, 0⟩
  modify fun s => { s with stStatus := if passes acc accSt then .PASS else .FAIL }

-- and after it
def restore [Kernel] (gain : Nat) : T Unit := do
  onDriver (onHw (writeWithMaskLocked ctrl3Addr stMask 0))
  onDriver (setFs .ACC gain)
  onDriver (onHw (sensorSetEnable .ACC false))

-- the count of a size below 2 wraps, and the whole of both is compared
def selftestReq (buf : List Char) (size : Nat) : Option SelftestReq :=
  let count := (size + (2 ^ 64 - 2)) % 2 ^ 64
  selftestTable.find? fun req => (CText.cstr buf).take count = req.mode.toList.take count

def enableSelftest [Kernel] (buf : List Char) (size : Nat) : T Unit := do
  onDriver (claimDirectMode .ACC)
  if .ACC ∈ (← get).buffered then throw .EBUSY
  match selftestReq buf size with
  | none => throw .EINVAL
  | some req =>
    modify fun s => { s with stStatus := .RESET }
    let gain := (← get).gain .ACC
    examine req.val
    restore gain

def stField (hw : Hw) : Byte := Register.field stMask (ffs stMask) (hw.regmap.dev ctrl3Addr)

abbrev testedBus (s : Tested) : Nat → Bool := s.regmap.bus

theorem onDriver_costs {s : Tested} {k : Nat} {α : Type} {x : D α} {P : α → Driver → Prop}
    {F : Nat → Driver → Prop} (h : Costs driverBus k x s.toDriver P F) :
    Costs testedBus k (onDriver x) s (fun a t => ∃ d, t = { s with toDriver := d } ∧ P a d)
      fun n t => ∃ d, t = { s with toDriver := d } ∧ F n d :=
  Costs.within (fun _ _ => rfl) h

structure Touched (s : Tested) (val : Byte) (fs rate st : Bool) (m : Regmap.Map Addr 8) :
    Prop where
  scale : m.dev ctrl6Addr = if fs
    then Register.put fsMask (shiftVal 0 fsMask) (s.regmap.dev ctrl6Addr)
    else s.regmap.dev ctrl6Addr
  power : if rate then Register.field odrMask (ffs odrMask) (m.dev ctrl1Addr) ≠ 0
    else m.dev ctrl1Addr = s.regmap.dev ctrl1Addr
  bits : m.dev ctrl3Addr = if st
    then Register.put stMask (shiftVal val stMask) (s.regmap.dev ctrl3Addr)
    else s.regmap.dev ctrl3Addr
  quiet : ∀ reg ∈ quietRegs, Regmap.Agrees reg m

def gainAt [Kernel] (s : Tested) (fs : Bool) : SensorId → Nat :=
  if fs then Function.update s.gain .ACC (gToMS2 244) else s.gain

def Stage [Kernel] (s : Tested) (val : Byte) (fs rate st : Bool) (t : Tested) : Prop :=
  ∃ m status readings, t = { s with
      regmap := m
      gain := gainAt s fs
      stStatus := status
      readings := readings } ∧
    Touched s val fs rate st m

def Early [Kernel] (s : Tested) (val : Byte) (fs rate : Bool) (t : Tested) : Prop :=
  Stage s val fs rate false t ∧ Regmap.cached isVolatileReg t.regmap ctrl3Addr =
    Regmap.cached isVolatileReg s.regmap ctrl3Addr

def scaleTransfers (s : Tested) : Nat :=
  Regmap.updateTransfers isVolatileReg s.regmap ctrl6Addr fsMask (shiftVal 0 fsMask)

def bitTransfers (s : Tested) (val : Byte) : Nat :=
  Regmap.updateTransfers isVolatileReg s.regmap ctrl3Addr stMask (shiftVal val stMask)

def Stopped [Kernel] (s : Tested) (val : Byte) (n : Nat) (t : Tested) : Prop :=
  Stage s val (scaleTransfers s ≤ n) (scaleTransfers s < n)
    (scaleTransfers s + 6 + bitTransfers s val ≤ n) t

theorem quiet_not_rate : ∀ reg ∈ quietRegs, reg ≠ ctrl1Addr := by decide

theorem fifty_rated (hwId : HwId) : 50 ∈ rated hwId := by
  cases hwId <;> decide

section stage

variable {hwId : HwId} {s t : Tested} {val : Byte} {fs rate st : Bool}

theorem Touched.withRate {m : Regmap.Map Addr 8} (h : Touched s val fs rate st m) {byte : Byte}
    (hfield : Register.field odrMask (ffs odrMask) byte ≠ 0) (bus : Nat → Bool) :
    Touched s val fs true st
      { m with dev := Function.update m.dev ctrl1Addr byte, bus := bus, bypass := false } := by
  have hother : ∀ reg ≠ ctrl1Addr, Function.update m.dev ctrl1Addr byte reg = m.dev reg :=
    fun reg hreg => Function.update_of_ne hreg ..
  refine ⟨(hother _ (by decide)).trans h.scale, ?_, (hother _ (by decide)).trans h.bits,
    fun reg hreg => ⟨rfl, fun x hx => ?_⟩⟩
  · rw [if_pos rfl]
    dsimp only
    rwa [Function.update_self]
  · exact (hother reg (quiet_not_rate reg hreg)).trans ((h.quiet reg hreg).2 x hx)

theorem Touched.withBus {m : Regmap.Map Addr 8} (h : Touched s val fs rate st m)
    (bus : Nat → Bool) : Touched s val fs rate st { m with bus := bus, bypass := false } :=
  ⟨h.scale, h.power, h.bits, fun reg hreg => ⟨rfl, (h.quiet reg hreg).2⟩⟩

theorem readBytes_costs (hw : Hw) {regs : List Addr} (hregs : regs.all isVolatileReg) :
    Costs hwBus 1 (readBytes regs) hw
      (fun _ u => ∃ bus, u = { hw with regmap := { hw.regmap with bus := bus } })
      fun _ u => ∃ bus, u = { hw with regmap := { hw.regmap with bus := bus } } := by
  refine (onRegmap_costs (Regmap.bulkRead_costs hw.regmap hregs)).mono ?_ ?_
  · rintro _ _ ⟨_, rfl, rfl⟩
    exact ⟨_, rfl⟩
  · rintro _ _ - ⟨_, rfl, rfl⟩
    exact ⟨_, rfl⟩

def Waited (t u : Tested) : Prop :=
  ∃ dev bus readings, u = { t with
      regmap := { t.regmap with dev := dev, bus := bus }
      readings := readings } ∧
    ∀ reg, isVolatileReg reg = false → dev reg = t.regmap.dev reg

theorem Waited.trans {t u v : Tested} (h : Waited t u) (h' : Waited u v) : Waited t v := by
  obtain ⟨dev, bus, readings, rfl, hdev⟩ := h
  obtain ⟨dev', bus', readings', rfl, hdev'⟩ := h'
  exact ⟨dev', bus', readings', rfl, fun reg hreg => (hdev' reg hreg).trans (hdev reg hreg)⟩

theorem waited_bus (t : Tested) (bus : Nat → Bool) :
    Waited t { t with regmap := { t.regmap with bus := bus } } :=
  ⟨t.regmap.dev, bus, t.readings, rfl, fun _ _ => rfl⟩

theorem waited_msleep (t : Tested) : Waited t (final msleep t) :=
  ⟨_, t.regmap.bus, _, rfl, fun reg hreg => if_neg (by simp [hreg])⟩

theorem readAxes_costs (t : Tested) (n : Nat) (acc : Axes) :
    Costs testedBus n (readAxes n acc) t (fun _ => Waited t) fun _ => Waited t := by
  have hvol : outRegs.all isVolatileReg = true := by decide
  induction n generalizing t acc with
  | zero => exact .ret (waited_bus t t.regmap.bus)
  | succ n ih =>
    rw [readAxes, Nat.add_comm n 1]
    refine Costs.bind ((onDriver_costs (onHw_costs (readBytes_costs t.toHw hvol))).mono
      (fun _ _ h => h) ?_) ?_
    · rintro _ _ - ⟨_, rfl, _, rfl, bus, rfl⟩
      exact waited_bus t bus
    · rintro data _ ⟨_, rfl, _, rfl, bus, rfl⟩
      have hslept := (waited_bus t bus).trans (waited_msleep _)
      exact .modify_bind rfl ((ih _ _).mono (fun _ _ h => hslept.trans h) fun _ _ _ h =>
        hslept.trans h)

theorem Touched.waited {m : Regmap.Map Addr 8} (h : Touched s val fs rate st m)
    {dev : Addr → Byte} (hdev : ∀ reg, isVolatileReg reg = false → dev reg = m.dev reg)
    (bus : Nat → Bool) : Touched s val fs rate st { m with dev := dev, bus := bus } := by
  refine ⟨(hdev _ (by decide)).trans h.scale, ?_, (hdev _ (by decide)).trans h.bits,
    fun reg hreg => ⟨(h.quiet reg hreg).1, fun x hx => ?_⟩⟩
  · dsimp only
    rw [hdev ctrl1Addr (by decide)]
    exact h.power
  · exact (hdev reg (quiet_static reg hreg)).trans ((h.quiet reg hreg).2 x hx)

variable [Kernel]

theorem stage_setFs (h : Rest hwId s.toDriver) (val : Byte) :
    Costs testedBus (scaleTransfers s) (onDriver (setFs .ACC (gToMS2 244))) s
      (fun _ => Early s val true false) fun _ => Stage s val false false false := by
  refine (onDriver_costs (setFs_costs (h.quiet ctrl6Addr (by decide)) selected_smallest)).mono ?_ ?_
  · rintro _ _ ⟨_, rfl, m, rfl, hput, hm⟩
    refine ⟨⟨m, s.stStatus, s.readings, rfl, hput, hm.dev _ (by decide), hm.dev _ (by decide), ?_⟩,
      hm.cached _ (by decide)⟩
    exact fun reg hreg => hm.agrees reg (quiet_static reg hreg) (h.quiet reg hreg)
  · rintro _ _ - ⟨_, rfl, m, rfl, hdev, hm⟩
    refine ⟨m, s.stStatus, s.readings, rfl, congrFun hdev _, congrFun hdev _, congrFun hdev _, ?_⟩
    exact fun reg hreg => hm.agrees reg (quiet_static reg hreg) (h.quiet reg hreg)

theorem stage_setOdr (h : Rest hwId s.toDriver) (ht : Early s val true false t) :
    Costs testedBus 1 (onDriver (onHw (setOdr .ACC 50))) t
      (fun _ => Early s val true true) fun _ => Stage s val true false false := by
  obtain ⟨⟨m, status, readings, rfl, htouched⟩, hcopy⟩ := ht
  let hw : Hw := { s.toHw with regmap := m }
  have hothers : others hw .ACC ∈ rated hw.hwId := sup_rated fun id _ => h.odr_rated id
  have hev : hw.reqOdrEvents ∈ rated hw.hwId := h.device ▸ h.required
  obtain ⟨byte, hcode, hcosts⟩ := setOdr_stores (fifty_rated hw.hwId) hothers hev
  have hfield : Register.field odrMask (ffs odrMask) byte ≠ 0 := by
    intro hzero
    rw [hzero, codeOf_zero_iff hw.hwId _ (written_rated (fifty_rated hw.hwId) hothers hev),
      written, if_pos (by decide)] at hcode
    omega
  refine (onDriver_costs (onHw_costs hcosts)).mono ?_ ?_
  · rintro _ _ ⟨_, rfl, _, rfl, rfl⟩
    refine ⟨⟨_, status, readings, rfl, htouched.withRate hfield _⟩, ?_⟩
    have hbypass : m.bypass = false := (htouched.quiet ctrl3Addr (by decide)).1
    rw [← hcopy, Regmap.cached, Regmap.cached, hbypass]
  · rintro _ _ - ⟨_, rfl, _, rfl, rfl⟩
    exact ⟨_, status, readings, rfl, htouched.withBus _⟩

theorem Stage.waited {u : Tested} (h : Stage s val fs rate st t) (hu : Waited t u) :
    Stage s val fs rate st u := by
  obtain ⟨m, status, _, rfl, htouched⟩ := h
  obtain ⟨dev, bus, readings, rfl, hdev⟩ := hu
  exact ⟨_, status, readings, rfl, htouched.waited hdev bus⟩

theorem Early.waited {u : Tested} (h : Early s val fs rate t) (hu : Waited t u) :
    Early s val fs rate u := by
  refine ⟨h.1.waited hu, ?_⟩
  obtain ⟨dev, bus, readings, rfl, -⟩ := hu
  exact h.2

theorem stage_bits (ht : Early s val true true t) :
    Costs testedBus (bitTransfers s val)
      (onDriver (onHw (writeWithMaskLocked ctrl3Addr stMask val))) t
      (fun _ => Stage s val true true true) fun _ => Stage s val true true false := by
  obtain ⟨⟨m, status, readings, rfl, htouched⟩, hcopy⟩ := ht
  have hsame : bitTransfers s val =
      Regmap.updateTransfers isVolatileReg m ctrl3Addr stMask (shiftVal val stMask) := by
    have hcached : Regmap.cached isVolatileReg m ctrl3Addr = _ := hcopy
    have hdev : m.dev ctrl3Addr = s.regmap.dev ctrl3Addr := htouched.bits
    rw [bitTransfers, Regmap.updateTransfers, Regmap.updateTransfers, Regmap.readTransfers,
      Regmap.readTransfers, Regmap.readValue, Regmap.readValue, hcached, hdev]
  rw [hsame]
  refine (onDriver_costs (onHw_costs (onRegmap_costs (Regmap.updateBits_put (by decide)
    (htouched.quiet ctrl3Addr (by decide)) stMask (shiftVal val stMask))))).mono ?_ ?_
  · rintro _ _ ⟨_, rfl, _, rfl, m', rfl, hput, hm⟩
    refine ⟨m', status, readings, rfl, (hm.dev _ (by decide)).trans htouched.scale, ?_, ?_,
      fun reg hreg => hm.agrees reg (quiet_static reg hreg) (htouched.quiet reg hreg)⟩
    · rw [if_pos rfl, hm.dev ctrl1Addr (by decide)]
      exact htouched.power
    · exact hput.trans (congrArg (Register.put stMask (shiftVal val stMask)) htouched.bits)
  · rintro _ _ - ⟨_, rfl, _, rfl, m', rfl, hdev, hm⟩
    refine ⟨m', status, readings, rfl, (congrFun hdev _).trans htouched.scale, ?_,
      (congrFun hdev _).trans htouched.bits,
      fun reg hreg => hm.agrees reg (quiet_static reg hreg) (htouched.quiet reg hreg)⟩
    rw [if_pos rfl, hdev]
    exact htouched.power

theorem Stage.stopped {n : Nat} (h : Stage s val fs rate st t)
    (hfs : fs ↔ scaleTransfers s ≤ n) (hrate : rate ↔ scaleTransfers s < n)
    (hst : st ↔ scaleTransfers s + 6 + bitTransfers s val ≤ n) : Stopped s val n t := by
  rw [Stopped]
  simpa only [← hfs, ← hrate, ← hst, Bool.decide_eq_true] using h

theorem examine_costs (h : Rest hwId s.toDriver) :
    Costs testedBus (scaleTransfers s + (1 + (5 + (bitTransfers s val + (5 + 0))))) (examine val) s
      (fun _ => Stage s val true true true) (Stopped s val) := by
  refine Costs.bind ((stage_setFs h val).mono (fun _ _ h => h) fun n t hn ht => ?_) fun _ t ht => ?_
  · exact ht.stopped (by simp; omega) (by simp; omega) (by simp; omega)
  refine Costs.bind ((stage_setOdr h ht).mono (fun _ _ h => h) fun n t hn ht => ?_) fun _ t ht => ?_
  · exact ht.stopped (by simp) (by simp; omega) (by simp; omega)
  have ht := ht.waited (waited_msleep t)
  refine .modify_bind rfl ?_
  refine Costs.bind ((readAxes_costs _ 5 _).mono (fun _ _ h => h) fun n u hn hu => ?_)
    fun acc u hu => ?_
  · exact (ht.waited hu).1.stopped (by simp) (by simp) (by simp; omega)
  refine Costs.bind ((stage_bits (ht.waited hu)).mono (fun _ _ h => h) fun n t hn ht => ?_)
    fun _ t ht => ?_
  · exact ht.stopped (by simp) (by simp) (by simp; omega)
  have ht := ht.waited (waited_msleep t)
  refine .modify_bind rfl ?_
  refine Costs.bind ((readAxes_costs _ 5 _).mono (fun _ _ h => h) fun n u hn hu => ?_)
    fun accSt u hu => ?_
  · exact (ht.waited hu).stopped (by simp) (by simp) (by simp; omega)
  obtain ⟨m, status, readings, heq, htouched⟩ := ht.waited hu
  rw [heq]
  exact .modify rfl ⟨m, _, readings, rfl, htouched⟩

end stage

def RestTested [Kernel] (hwId : HwId) (s : Tested) : Prop := Rest hwId s.toDriver

section kept

variable {hwId : HwId} [Kernel]

theorem rest_onDriver {α : Type} {x : D α} (hx : Keeps (Rest hwId) x) :
    Keeps (RestTested hwId) (onDriver x) := Keeps.into (fun _ h => h) (fun _ _ _ h => h) hx

theorem rest_bits (val : Byte) :
    Keeps (Rest hwId) (onHw (writeWithMaskLocked ctrl3Addr stMask val)) := by
  intro d h
  have hmoved : ∀ m : Regmap.Map Addr 8, Regmap.Moved isVolatileReg ctrl3Addr d.regmap m →
      Rest hwId { d with regmap := m } := by
    intro m hm
    obtain ⟨fs, hfs, hlevel⟩ := h.level
    refine ⟨h.device, h.ofTable, h.required,
      fun reg hreg => hm.agrees reg (quiet_static reg hreg) (h.quiet reg hreg), fs, hfs, ?_⟩
    rwa [fsField, hm.dev ctrl6Addr (by decide)]
  refine (onHw_costs (onRegmap_costs (Regmap.updateBits_costs d.regmap ctrl3Addr stMask _))).final
    ?_ ?_
  · rintro _ _ ⟨_, rfl, m, rfl, hm⟩
    exact hmoved m hm
  · rintro _ _ ⟨_, rfl, m, rfl, hm⟩
    exact hmoved m hm

theorem rest_msleep : Keeps (RestTested hwId) msleep :=
  .modify fun s h => Rest.of_steady h (steady_guarded.sampled s.toDriver _ (Rest.steady h))

theorem rest_readAxes (n : Nat) (acc : Axes) : Keeps (RestTested hwId) (readAxes n acc) := by
  induction n generalizing acc with
  | zero => exact .ret acc
  | succ n ih =>
    exact .bind (rest_onDriver (rest_keeps fun _ _ =>
      steady_guarded.lift (steady_device.readBytes outRegs))) fun data =>
        rest_msleep.bind fun _ => ih _

theorem rest_examine (val : Byte) : Keeps (RestTested hwId) (examine val) := by
  refine .bind (rest_onDriver (rest_setFs _)) fun _ => ?_
  refine .bind (rest_onDriver (rest_keeps fun _ _ =>
    steady_guarded.lift (steady_device.setOdr .ACC 50))) fun _ => rest_msleep.bind fun _ => ?_
  refine .bind (rest_readAxes 5 _) fun acc => .bind (rest_onDriver (rest_bits val)) fun _ => ?_
  refine rest_msleep.bind fun _ => .bind (rest_readAxes 5 _) fun accSt => ?_
  exact .modify fun _ h => h

theorem rest_restore (gain : Nat) : Keeps (RestTested hwId) (restore gain) := by
  refine .bind (rest_onDriver (rest_bits 0)) fun _ => ?_
  refine .bind (rest_onDriver (rest_setFs gain)) fun _ => ?_
  exact rest_onDriver (rest_keeps fun _ _ =>
    steady_guarded.lift (steady_device.sensorSetEnable .ACC false))

theorem rest_enableSelftest (buf : List Char) (size : Nat) :
    Keeps (RestTested hwId) (enableSelftest buf size) := by
  refine .bind (rest_onDriver (keeps_claimDirectMode .ACC)) fun _ => .get_bind fun s h => ?_
  split_ifs
  · exact h
  · cases selftestReq buf size with
    | none => exact h
    | some req => exact (rest_examine req.val).bind (fun _ => rest_restore _) _ h

end kept

end Lis2dw12
