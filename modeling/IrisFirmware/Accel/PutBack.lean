import IrisFirmware.Accel.SelfTest

namespace Lis2dw12

open Fallible Metered Run Kernel

inductive Channel where
  | accelX
  | accelY
  | accelZ
  | temp
deriving DecidableEq, Repr

def Channel.sensor : Channel → SensorId
  | temp => .TEMP
  | _ => .ACC

def Channel.address : Channel → Addr
  | accelX => outXLAddr
  | accelY => outYLAddr
  | accelZ => outZLAddr
  | temp => tempOutTLAddr

structure PutBack (d t : Driver) : Prop where
  enableMask : t.enableMask = d.enableMask
  fullScale : fsField t.toHw = fsField d.toHw
  gain : t.gain = d.gain
  selfTest : stField t.toHw = stField d.toHw
  power : odrField t.toHw = 0 ↔ odrField d.toHw = 0

inductive CallOp where
  | readRaw (chan : Channel)
  | enableSelftest (buf : List Char) (size : Nat)
  | other (op : PowerOp)

def callStep [Kernel] (s : Tested) : CallOp → Tested
  | .readRaw chan => final (onDriver (readRaw chan.sensor chan.address)) s
  | .enableSelftest buf size => final (enableSelftest buf size) s
  | .other op => { s with toDriver := powerStep s.toDriver op }

def resetStatus (s : Tested) : Tested := { s with stStatus := .RESET }

def Concludes [Kernel] (s : Tested) : CallOp → Prop
  | .readRaw chan => 0 < s.odr chan.sensor ∧ ∀ t data u,
      sensorSetEnable chan.sensor true s.toHw = .ok () t →
      readBytes [chan.address, chan.address + 1] t = .ok data u →
        ∃ v, sensorSetEnable chan.sensor false u = .ok () v
  | .enableSelftest buf size => ∀ req ∈ selftestReq buf size, ∀ u,
      examine req.val (resetStatus s) = .ok () u → ∃ v, restore (s.gain .ACC) u = .ok () v
  | .other _ => False

def OffForEvents (d : Driver) (sensor : SensorId) : Prop :=
  sensor ∉ d.enableMask ∧ (odrField d.toHw = 0 ↔ d.reqOdrEvents = 0)

def oneshotHarmless (d : Driver) (sensor : SensorId) : Prop :=
  d.regmap.bus 0 →
    if d.regmap.bus 1 then OffForEvents d sensor
    else sensor ∈ d.enableMask ∧ odrField d.toHw ≠ 0

def examineTransfers (s : Tested) (val : Byte) : Nat :=
  scaleTransfers s + (1 + (5 + (bitTransfers s val + (5 + 0))))

def stBits (val : Byte) : Byte := Register.field stMask (ffs stMask) (shiftVal val stMask)

def FirstRefused (s : Tested) (n : Nat) : Prop :=
  (∀ i < n, s.regmap.bus i) ∧ s.regmap.bus n = false

structure StopHarmless [Kernel] (s : Tested) (val : Byte) (n : Nat) : Prop where
  gain : scaleTransfers s ≤ n → s.gain .ACC = gToMS2 244
  power : scaleTransfers s < n → odrField s.toHw ≠ 0
  bits : scaleTransfers s + 6 + bitTransfers s val ≤ n → stField s.toHw = stBits val

structure TestHarmless [Kernel] (s : Tested) (val : Byte) : Prop where
  stopped : ∀ n < examineTransfers s val, FirstRefused s n → StopHarmless s val n
  examined : (∀ n < examineTransfers s val, s.regmap.bus n) →
    OffForEvents s.toDriver .ACC ∧ stField s.toHw = 0

def harmless [Kernel] (s : Tested) : CallOp → Prop
  | .readRaw chan => chan.sensor ∉ s.buffered → oneshotHarmless s.toDriver chan.sensor
  | .enableSelftest buf size => .ACC ∉ s.buffered → ∀ req ∈ selftestReq buf size,
      TestHarmless s req.val
  | .other _ => True

def CallPutBack [Kernel] (s : Tested) (op : CallOp) : Prop :=
  Concludes s op → PutBack s.toDriver (callStep s op).toDriver

def callHarmless [Kernel] (s : Tested) (op : CallOp) : Prop := Concludes s op → harmless s op

theorem FirstRefused.unique {s : Tested} {m n : Nat} (hm : FirstRefused s m)
    (hn : FirstRefused s n) : m = n := by
  rcases lt_trichotomy m n with hlt | rfl | hlt
  · exact absurd (hn.1 m hlt) (by simp [hm.2])
  · rfl
  · exact absurd (hm.1 n hlt) (by simp [hn.2])

theorem putBack_refl (d : Driver) : PutBack d d := ⟨rfl, rfl, rfl, rfl, Iff.rfl⟩

structure Switched (hw : Hw) (sensor : SensorId) (enable : Bool) (t : Hw) : Prop where
  mask : t.enableMask = enableMaskAfter hw sensor enable
  power : odrField t = 0 ↔ written hw sensor (if enable then hw.odr sensor else 0) = 0
  dev : ∀ reg ≠ ctrl1Addr, t.regmap.dev reg = hw.regmap.dev reg
  device : t.hwId = hw.hwId
  odr : t.odr = hw.odr
  required : t.reqOdrEvents = hw.reqOdrEvents

structure Rateable (hw : Hw) : Prop where
  odr : ∀ id, hw.odr id ∈ rated hw.hwId
  required : hw.reqOdrEvents ∈ rated hw.hwId

theorem sensorSetEnable_costs {hw : Hw} (h : Rateable hw) (sensor : SensorId) (enable : Bool) :
    Costs hwBus 1 (sensorSetEnable sensor enable) hw (fun _ => Switched hw sensor enable)
      fun _ t => t.enableMask = hw.enableMask ∧ t.regmap.dev = hw.regmap.dev := by
  have hreq : (if enable then hw.odr sensor else 0) ∈ rated hw.hwId := by
    split_ifs
    · exact h.odr sensor
    · exact rated_zero hw.hwId
  have hothers : others hw sensor ∈ rated hw.hwId := sup_rated fun id _ => h.odr id
  have hrated := written_rated hreq hothers h.required
  obtain ⟨byte, hcode, hcosts⟩ := setOdr_stores hreq hothers h.required
  let after : Hw := { hw with regmap := { hw.regmap with
    dev := Function.update hw.regmap.dev ctrl1Addr byte
    bus := fun n => hw.regmap.bus (n + 1)
    bypass := false } }
  have hbyte : after.regmap.dev ctrl1Addr = byte := Function.update_self ctrl1Addr byte hw.regmap.dev
  have hpower : odrField after = 0 ↔
      written hw sensor (if enable then hw.odr sensor else 0) = 0 := by
    rw [← codeOf_zero_iff hw.hwId _ hrated, hcode, Option.some_inj, odrField, hbyte]
  have hdev : ∀ reg ≠ ctrl1Addr, after.regmap.dev reg = hw.regmap.dev reg :=
    fun reg hreg => Function.update_of_ne hreg ..
  refine .get_bind (Costs.bind (k := 0) (hcosts.mono (fun _ _ h => h) ?_) ?_)
  · rintro _ _ - rfl
    exact ⟨rfl, rfl⟩
  · rintro _ _ rfl
    cases enable with
    | true =>
      cases sensor with
      | TEMP => exact .modify_bind rfl (.modify rfl ⟨rfl, hpower, hdev, rfl, rfl, rfl⟩)
      | ACC => exact .modify rfl ⟨rfl, hpower, hdev, rfl, rfl, rfl⟩
    | false =>
      cases sensor with
      | TEMP => exact .modify_bind rfl (.modify rfl ⟨rfl, hpower, hdev, rfl, rfl, rfl⟩)
      | ACC => exact .modify rfl ⟨rfl, hpower, hdev, rfl, rfl, rfl⟩

theorem written_off (hw : Hw) (sensor : SensorId) : written hw sensor 0 = hw.reqOdrEvents := by
  rw [written, if_neg (lt_irrefl 0), Nat.max_zero]

theorem written_on {hw : Hw} {sensor : SensorId} {reqOdr : Nat} (hpos : 0 < reqOdr) :
    written hw sensor reqOdr ≠ 0 := by
  rw [written, if_pos hpos]
  omega

theorem final_onHw {α : Type} (x : M α) (d : Driver) :
    final (onHw x) d = { d with toHw := final x d.toHw } := by
  rw [final, onHw, within, final]
  cases x d.toHw <;> rfl

theorem final_onDriver {α : Type} (x : D α) (s : Tested) :
    final (onDriver x) s = { s with toDriver := final x s.toDriver } := by
  rw [final, onDriver, within, final]
  cases x s.toDriver <;> rfl

theorem putBack_iff {d : Driver} {t : Hw} (hdev : ∀ reg ∈ quietRegs,
    t.regmap.dev reg = d.regmap.dev reg) :
    PutBack d { d with toHw := t } ↔
      t.enableMask = d.enableMask ∧ (odrField t = 0 ↔ odrField d.toHw = 0) := by
  constructor
  · intro h
    exact ⟨h.enableMask, h.power⟩
  · rintro ⟨hmask, hpower⟩
    refine ⟨hmask, ?_, rfl, ?_, hpower⟩
    · exact congrArg (Register.field fsMask (ffs fsMask)) (hdev ctrl6Addr (by decide))
    · exact congrArg (Register.field stMask (ffs stMask)) (hdev ctrl3Addr (by decide))

theorem claimTested_refused {s : Tested} (h : .ACC ∈ s.buffered) :
    onDriver (claimDirectMode .ACC) s = .error .EBUSY s := by
  rw [onDriver, within, claim_refused h]

theorem claimTested_granted {s : Tested} (h : .ACC ∉ s.buffered) :
    onDriver (claimDirectMode .ACC) s = .ok () s := by
  rw [onDriver, within, claim_granted h]

variable [Kernel]

theorem Rest.rateable {hwId : HwId} {d : Driver} (h : Rest hwId d) : Rateable d.toHw :=
  ⟨h.odr_rated, h.device ▸ h.required⟩

section oneshot

variable {hwId : HwId} {d : Driver} (h : Rest hwId d) (chan : Channel)
  (hpos : 0 < d.odr chan.sensor)
include h hpos

theorem oneshot_putBack_iff (hundo : ∀ t data u,
      sensorSetEnable chan.sensor true d.toHw = .ok () t →
      readBytes [chan.address, chan.address + 1] t = .ok data u →
        ∃ v, sensorSetEnable chan.sensor false u = .ok () v) :
    PutBack d { d with toHw := final (readOneshot chan.sensor chan.address) d.toHw } ↔
      oneshotHarmless d chan.sensor := by
  have hvol : [chan.address, chan.address + 1].all isVolatileReg = true := by
    cases chan <;> decide
  have hon := sensorSetEnable_costs h.rateable chan.sensor true
  rw [oneshotHarmless]
  cases hfirst : d.regmap.bus 0 with
  | false =>
    obtain ⟨e, t, hrun, hmask, hdev⟩ := hon.refused 0 Nat.zero_lt_one (by simp) hfirst
    have hfinal : final (readOneshot chan.sensor chan.address) d.toHw = t :=
      final_error (bind_error hrun _)
    rw [hfinal, putBack_iff fun reg _ => congrFun hdev reg]
    refine iff_of_true ⟨hmask, ?_⟩ (by simp)
    rw [odrField, hdev, odrField]
  | true =>
    obtain ⟨_, t, hrun, hbus, ht⟩ := hon.answered fun n hn => by
      obtain rfl := Nat.lt_one_iff.mp hn
      exact hfirst
    have hread := readBytes_costs t hvol
    have hquiet : ∀ reg ∈ quietRegs, t.regmap.dev reg = d.regmap.dev reg := fun reg hreg =>
      ht.dev reg (quiet_not_rate reg hreg)
    have hpowered : odrField t ≠ 0 := fun hzero =>
      written_on hpos (ht.power.mp hzero)
    cases hsecond : d.regmap.bus 1 with
    | false =>
      obtain ⟨e, u, hfail, bus, hu⟩ :=
        hread.refused 0 Nat.zero_lt_one (by simp) ((congrFun hbus 0).trans hsecond)
      have hfinal : final (readOneshot chan.sensor chan.address) d.toHw = u :=
        final_error ((bind_run hrun _).trans (bind_error hfail _))
      rw [hfinal, hu]
      refine (putBack_iff (t := { t with regmap := { t.regmap with bus := bus } }) hquiet).trans ?_
      change t.enableMask = _ ∧ (odrField t = 0 ↔ _) ↔ _
      rw [ht.mask, enableMaskAfter, if_pos rfl, Finset.insert_eq_self, iff_false_left hpowered]
      simp
    | true =>
      obtain ⟨data, u, hdata, -, bus, hu⟩ := hread.answered fun n hn => by
        obtain rfl := Nat.lt_one_iff.mp hn
        exact (congrFun hbus 0).trans hsecond
      obtain ⟨v, hoff⟩ := hundo t data u hrun hdata
      have hrates : Rateable u := by
        rw [hu]
        refine ⟨fun id => ?_, ?_⟩
        · change t.odr id ∈ rated t.hwId
          rw [ht.odr, ht.device]
          exact h.odr_rated id
        · change t.reqOdrEvents ∈ rated t.hwId
          rw [ht.required, ht.device]
          exact h.rateable.required
      have hv := ((sensorSetEnable_costs hrates chan.sensor false).of_ok hoff).2
      have hignored : ignoring (sensorSetEnable chan.sensor false) u = .ok () v := by
        rw [ignoring, hoff]
      have hfinal : final (readOneshot chan.sensor chan.address) d.toHw = v :=
        final_ok ((bind_run hrun _).trans ((bind_run hdata _).trans (bind_run hignored _)))
      rw [hfinal]
      have hmask : u.enableMask = insert chan.sensor d.enableMask := by
        rw [hu]
        exact ht.mask
      have hreq : u.reqOdrEvents = d.reqOdrEvents := by
        rw [hu]
        exact ht.required
      refine (putBack_iff fun reg hreg => ?_).trans ?_
      · rw [hv.dev reg (quiet_not_rate reg hreg), hu]
        exact hquiet reg hreg
      · rw [hv.mask, enableMaskAfter, hmask, hv.power]
        simp only [Bool.false_eq_true, if_false, written_off, hreq, forall_const, if_true,
          Finset.erase_insert_eq_erase, Finset.erase_eq_self, OffForEvents]
        exact and_congr_right fun _ => iff_comm

end oneshot

theorem enableSelftest_run {s : Tested} {buf : List Char} {size : Nat} {req : SelftestReq}
    (hbuf : .ACC ∉ s.buffered) (hreq : selftestReq buf size = some req) :
    enableSelftest buf size s =
      (examine req.val >>= fun _ => restore (s.gain .ACC)) (resetStatus s) := by
  rw [enableSelftest, bind_run (claimTested_granted hbuf), get_bind_run, if_neg hbuf, hreq]
  rfl

section selftest

variable {hwId : HwId} {s t u v : Tested} {val : Byte} {fs rate st : Bool}
  (h : Rest hwId s.toDriver)
include h

theorem Stage.putBack_iff (ht : Stage s val fs rate st t) :
    PutBack s.toDriver t.toDriver ↔ (fs → s.gain .ACC = gToMS2 244) ∧
      (rate → odrField s.toHw ≠ 0) ∧ (st → stField s.toHw = stBits val) := by
  obtain ⟨m, status, readings, rfl, ht⟩ := ht
  constructor
  · intro hback
    refine ⟨fun hfs => ?_, fun hrate hzero => ?_, fun hst => ?_⟩
    · have hgain : gainAt s fs = s.gain := hback.gain
      rw [gainAt, if_pos hfs] at hgain
      rw [← hgain, Function.update_self]
    · have hpower := ht.power
      rw [if_pos hrate] at hpower
      exact hpower (hback.power.mpr hzero)
    · have hbits := ht.bits
      rw [if_pos hst] at hbits
      rw [← hback.selfTest, stField, hbits, Register.field_put_same, stBits]
  · rintro ⟨hgain, hpower, hbits⟩
    refine ⟨rfl, ?_, ?_, ?_, ?_⟩
    · change fsField { s.toHw with regmap := m } = _
      rw [fsField, ht.scale]
      split_ifs with hfs
      · obtain ⟨entry, hentry, hlevel⟩ := h.level
        rw [hgain hfs, selected_smallest] at hentry
        obtain rfl := Option.some_inj.mp hentry
        rw [hlevel, Register.field_put_same]
        exact (by decide : Register.field fsMask (ffs fsMask) (shiftVal 0 fsMask) = 0)
      · rfl
    · change gainAt s fs = s.gain
      rw [gainAt]
      split_ifs with hfs
      · rw [← hgain hfs, Function.update_eq_self]
      · rfl
    · change stField { s.toHw with regmap := m } = _
      rw [stField, ht.bits]
      split_ifs with hst
      · rw [hbits hst, Register.field_put_same, stBits]
      · rfl
    · have hfield := ht.power
      change Register.field odrMask (ffs odrMask) (m.dev ctrl1Addr) = 0 ↔ _
      split_ifs at hfield with hrate
      · exact iff_of_false hfield (hpower hrate)
      · rw [hfield, odrField]

theorem restore_putBack_iff (hu : Stage s val true true true u)
    (hrun : restore (s.gain .ACC) u = .ok () v) :
    PutBack s.toDriver v.toDriver ↔ OffForEvents s.toDriver .ACC ∧ stField s.toHw = 0 := by
  obtain ⟨m, status, readings, rfl, ht⟩ := hu
  obtain ⟨fs, hfs, hlevel⟩ := h.level
  obtain ⟨_, u₁, hbits, hrest⟩ := bind_ok hrun
  obtain ⟨_, u₂, hscale, hoff⟩ := bind_ok hrest
  obtain ⟨-, _, rfl, _, rfl, m₁, rfl, hput, hm₁⟩ := (onDriver_costs (onHw_costs (onRegmap_costs
    (Regmap.updateBits_put (by decide) (ht.quiet ctrl3Addr (by decide)) stMask _)))).of_ok hbits
  have hcache : Regmap.Agrees ctrl6Addr m₁ :=
    hm₁.agrees ctrl6Addr (by decide) (ht.quiet ctrl6Addr (by decide))
  obtain ⟨-, _, rfl, m₂, rfl, hput₂, hm₂⟩ := (onDriver_costs (setFs_costs hcache hfs)).of_ok hscale
  have hrates : Rateable { s.toHw with regmap := m₂ } := ⟨h.odr_rated, h.rateable.required⟩
  obtain ⟨-, _, rfl, hw, rfl, hv⟩ :=
    (onDriver_costs (onHw_costs (sensorSetEnable_costs hrates .ACC false))).of_ok hoff
  have hgain : Function.update (gainAt s true) .ACC (s.gain .ACC) = s.gain := by
    rw [gainAt, if_pos rfl, Function.update_idem, Function.update_eq_self]
  have hfield : fsField hw = fsField s.toHw := by
    have hmem := List.mem_of_find?_eq_some hfs
    rw [fsField, hv.dev ctrl6Addr (by decide), hput₂, Register.field_put_same, hlevel]
    exact ((fsTable_field fs hmem fs hmem).mpr rfl).symm
  have hcleared : stField hw = 0 := by
    rw [stField, hv.dev ctrl3Addr (by decide), hm₂.dev ctrl3Addr (by decide), hput,
      Register.field_put_same]
    decide
  have hmask : hw.enableMask = s.enableMask.erase .ACC := hv.mask
  have hpower : odrField hw = 0 ↔ s.reqOdrEvents = 0 := by
    rw [hv.power, if_neg (by decide), written_off]
  constructor
  · intro hback
    refine ⟨⟨?_, ?_⟩, ?_⟩
    · have hsame : hw.enableMask = s.enableMask := hback.enableMask
      rwa [hmask, Finset.erase_eq_self] at hsame
    · exact hback.power.symm.trans hpower
    · exact hback.selfTest.symm.trans hcleared
  · rintro ⟨⟨hoff, hreq⟩, hst⟩
    refine ⟨?_, hfield, hgain, hcleared.trans hst.symm, hpower.trans hreq.symm⟩
    exact hmask.trans (Finset.erase_eq_self.mpr hoff)

theorem enableSelftest_putBack_iff {buf : List Char} {size : Nat} (hbuf : .ACC ∉ s.buffered)
    {req : SelftestReq} (hreq : selftestReq buf size = some req)
    (hundo : ∀ u, examine req.val (resetStatus s) = .ok () u →
      ∃ v, restore (s.gain .ACC) u = .ok () v) :
    PutBack s.toDriver (final (enableSelftest buf size) s).toDriver ↔ TestHarmless s req.val := by
  have hrun := enableSelftest_run hbuf hreq
  have hcosts := @examine_costs hwId (resetStatus s) req.val _ h
  cases hexamine : examine req.val (resetStatus s) with
  | error e t =>
    obtain ⟨n, hn, hbefore, hno, ht⟩ := hcosts.of_error hexamine
    rw [final_error (hrun.trans (bind_error hexamine _))]
    refine (Stage.putBack_iff (s := resetStatus s) h ht).trans ?_
    simp only [decide_eq_true_eq]
    constructor
    · rintro ⟨hgain, hpower, hbits⟩
      refine ⟨fun n' _ hfirst => ?_, fun hall => ?_⟩
      · obtain rfl := hfirst.unique ⟨hbefore, hno⟩
        exact ⟨hgain, hpower, hbits⟩
      · have hanswered : s.regmap.bus n = true := hall n hn
        rw [show s.regmap.bus n = false from hno] at hanswered
        cases hanswered
    · intro hharmless
      obtain ⟨hgain, hpower, hbits⟩ := hharmless.stopped n hn ⟨hbefore, hno⟩
      exact ⟨hgain, hpower, hbits⟩
  | ok _ u =>
    obtain ⟨hall, hu⟩ := hcosts.of_ok hexamine
    obtain ⟨v, hv⟩ := hundo u hexamine
    rw [final_ok (hrun.trans ((bind_run hexamine _).trans hv))]
    refine (restore_putBack_iff (s := resetStatus s) h hu hv).trans ?_
    constructor
    · intro hoff
      refine ⟨fun n hn hfirst => ?_, fun _ => hoff⟩
      have hanswered : s.regmap.bus n = true := hall n hn
      rw [hfirst.2] at hanswered
      cases hanswered
    · exact fun hharmless => hharmless.examined hall

end selftest

theorem rest_callStep {hwId : HwId} {s : Tested} (h : RestTested hwId s) (op : CallOp) :
    RestTested hwId (callStep s op) := by
  cases op with
  | readRaw chan =>
    exact rest_onDriver (rest_keeps fun _ _ => steady_guarded.readRaw _ _) s h
  | enableSelftest buf size => exact rest_enableSelftest buf size s h
  | other op => exact rest_powerStep h op

theorem callPutBack_iff {hwId : HwId} {s : Tested} (h : RestTested hwId s) (op : CallOp) :
    CallPutBack s op ↔ callHarmless s op := by
  refine forall_congr' fun hconcludes => ?_
  cases op with
  | other op => exact hconcludes.elim
  | readRaw chan =>
    obtain ⟨hpos, hundo⟩ := hconcludes
    change PutBack _ (final (onDriver _) s).toDriver ↔ _
    rw [final_onDriver, harmless]
    by_cases hbuf : chan.sensor ∈ s.buffered
    · have hfinal : final (readRaw chan.sensor chan.address) s.toDriver = s.toDriver :=
        final_error (bind_error (claim_refused hbuf) _)
      rw [hfinal]
      exact iff_of_true (putBack_refl _) fun hfree => absurd hbuf hfree
    · have hfinal : final (readRaw chan.sensor chan.address) s.toDriver =
          { s.toDriver with
            toHw := final (readOneshot chan.sensor chan.address) s.toHw } := by
        rw [← final_onHw, final, readRaw, bind_run (claim_granted hbuf), ← final]
      rw [hfinal, oneshot_putBack_iff h chan hpos hundo]
      exact ⟨fun h _ => h, fun h => h hbuf⟩
  | enableSelftest buf size =>
    change PutBack _ (final (enableSelftest buf size) s).toDriver ↔ _
    rw [harmless]
    by_cases hbuf : .ACC ∈ s.buffered
    · have hrun : enableSelftest buf size s = .error .EBUSY s :=
        bind_error (claimTested_refused hbuf) _
      rw [final_error hrun]
      exact iff_of_true (putBack_refl _) fun hfree => absurd hbuf hfree
    · cases hreq : selftestReq buf size with
      | none =>
        have hrun : enableSelftest buf size s = .error .EINVAL s := by
          rw [enableSelftest, bind_run (claimTested_granted hbuf), get_bind_run, if_neg hbuf, hreq]
          rfl
        rw [final_error hrun]
        exact iff_of_true (putBack_refl _) (by simp)
      | some req =>
        rw [enableSelftest_putBack_iff h hbuf hreq (hconcludes req hreq)]
        simp [hbuf]

structure Resting (hwId : HwId) where
  state : Tested
  rest : Rest hwId state.toDriver

theorem calls_put_back_iff {hwId : HwId} (start : Resting hwId) (ops : List CallOp) :
    Along callStep CallPutBack start.state ops ↔ Along callStep callHarmless start.state ops :=
  along_iff (I := RestTested hwId) start.rest (fun _ op h => callPutBack_iff h op)
    fun _ op h _ => rest_callStep h op

def dataReadFails : Resting .LIS2DW12 where
  state :=
    { probedDriver lowRates (fun _ => 0) (fun _ => none) (fun _ => 0) fun _ => 0 with
      regmap := ⟨fun _ => 0, fun _ => none, false, fun n => n ≠ 1⟩
      stStatus := .RESET
      readings := fun _ _ => 0 }
  rest :=
    { device := rfl
      ofTable := lowRates.ofTable
      required := rated_zero .LIS2DW12
      quiet := fun _ _ => ⟨rfl, by simp⟩
      level := ⟨⟨gToMS2 244, 0⟩, selected_smallest,
        (by decide : Register.field fsMask (ffs fsMask) 0 = 0)⟩ }

omit [Kernel] in
theorem failed_read_leaves_sensor_on :
    ¬ ∀ [Kernel] (hwId : HwId) (start : Resting hwId) (ops : List CallOp),
      Along callStep CallPutBack start.state ops := by
  intro h
  have hback := (@h truncating .LIS2DW12 (@dataReadFails truncating) [.readRaw .accelX]).1
    ⟨by decide, ?_⟩
  · have hmask := hback.enableMask
    revert hmask
    decide
  · rintro t data u hon hread
    obtain ⟨-, rfl⟩ := EStateM.Result.ok.inj hon
    cases hread

end Lis2dw12
