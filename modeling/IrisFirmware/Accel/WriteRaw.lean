import IrisFirmware.Accel.Events
import IrisFirmware.Accel.SampFreq

namespace Lis2dw12

open Fallible Metered Run

-- the case IIO_CHAN_INFO_SCALE of st_lis2dw12_read_raw
def readScale (chan : ChanType) (sensor : SensorId) (d : Driver) : Option (Int × Int) :=
  match chan with
  | .ACCEL => some (0, d.gain sensor)
  | .TEMP => some (1000, d.gain sensor)
  | .TIMESTAMP => none

def fsField (hw : Hw) : Byte := Register.field fsMask (ffs fsMask) (hw.regmap.dev ctrl6Addr)

structure RawKept (d t : Driver) : Prop where
  odr : t.odr = d.odr
  gain : t.gain = d.gain
  stdLevel : t.stdLevel = d.stdLevel
  fullScale : fsField t.toHw = fsField d.toHw

theorem rawKept_refl (d : Driver) : RawKept d d := ⟨rfl, rfl, rfl, rfl⟩

abbrev driverBus (d : Driver) : Nat → Bool := d.regmap.bus

theorem onHw_costs {d : Driver} {k : Nat} {α : Type} {x : M α} {P : α → Hw → Prop}
    {F : Nat → Hw → Prop} (h : Costs hwBus k x d.toHw P F) :
    Costs driverBus k (onHw x) d (fun a t => ∃ hw, t = { d with toHw := hw } ∧ P a hw)
      fun n t => ∃ hw, t = { d with toHw := hw } ∧ F n hw :=
  Costs.within (fun _ _ => rfl) h

theorem u16_iff (val : Int) : (u16 val : Int) = val ↔ 0 ≤ val ∧ val < 65536 := by
  rw [u16]
  omega

theorem fs_field : ∀ val ∈ ([0x0, 0x1, 0x2, 0x3] : List Byte),
    Register.field fsMask (ffs fsMask) (shiftVal val fsMask) = val := by decide

variable [Kernel]

structure RawWrite where
  sensor : SensorId
  val : Int
  val2 : Int
  mask : InfoMask

def RawWrite.run (op : RawWrite) : D Unit := writeRaw op.sensor op.val op.val2 op.mask

def rawWrite (d : Driver) (op : RawWrite) : Driver := final op.run d

def ReportsScale (t : Driver) (sensor : SensorId) : Prop :=
  ∃ fs ∈ fsTable .ACC,
    fs.val = fsField t.toHw ∧ readScale .ACCEL sensor t = some (0, (fs.gain : Int))

structure RawExact (d : Driver) (op : RawWrite) : Prop where
  fails : ∀ e t, op.run d = .error e t → RawKept d t
  rate : op.mask = .SAMP_FREQ → ∀ t, op.run d = .ok () t → (t.odr op.sensor : Int) = op.val
  scale : op.mask = .SCALE → ∀ t, op.run d = .ok () t → ReportsScale t op.sensor

def fsWritten (d : Driver) (fs : Fs) : Prop :=
  ∀ n < Regmap.updateTransfers isVolatileReg d.regmap ctrl6Addr fsMask (shiftVal fs.val fsMask),
    d.regmap.bus n

def RawTaken (d : Driver) (op : RawWrite) : Prop :=
  op.sensor ∉ d.buffered →
    match op.mask with
    | .SCALE => op.sensor = .ACC →
      ∀ fs ∈ (fsTable .ACC).find? (u16 op.val2 ≤ ·.gain), fsWritten d fs → u16 op.val2 = fs.gain
    | .SAMP_FREQ =>
      (op.sensor = .ACC → ∀ entry ∈ stdTable.find? (·.odr = u16 op.val),
        u16 op.val ∉ (odrTable d.hwId .ACC).map Odr.hz → entry.val = d.stdLevel) ∧
      ((acceptedRate d ⟨op.sensor, op.val, op.val2⟩).isSome → 0 ≤ op.val ∧ op.val < 65536)
    | .other => True

theorem setFs_costs {d : Driver} (hd : Regmap.Agrees ctrl6Addr d.regmap) {sensor : SensorId}
    {gain : Nat} {fs : Fs} (hfs : (fsTable sensor).find? (gain ≤ ·.gain) = some fs) :
    Costs driverBus (Regmap.updateTransfers isVolatileReg d.regmap ctrl6Addr fsMask
        (shiftVal fs.val fsMask)) (setFs sensor gain) d
      (fun _ t => ∃ m, t = { d with
          regmap := m, gain := Function.update d.gain sensor gain } ∧
        m.dev ctrl6Addr = Register.put fsMask (shiftVal fs.val fsMask) (d.regmap.dev ctrl6Addr) ∧
        Regmap.Moved isVolatileReg ctrl6Addr d.regmap m)
      fun _ t => ∃ m, t = { d with regmap := m } ∧ m.dev = d.regmap.dev ∧
        Regmap.Moved isVolatileReg ctrl6Addr d.regmap m := by
  rw [setFs, hfs]
  refine Costs.bind (k := 0) ((onHw_costs (onRegmap_costs
    (Regmap.updateBits_put (by decide) hd fsMask (shiftVal fs.val fsMask)))).mono
      (fun _ _ h => h) ?_) ?_
  · rintro n _ - ⟨_, rfl, m, rfl, hm⟩
    exact ⟨m, rfl, hm⟩
  · rintro _ _ ⟨_, rfl, m, rfl, hm⟩
    exact .modify rfl ⟨m, rfl, hm⟩

section exact

variable {d t : Driver} {op : RawWrite}

theorem rawExact_of_error {e : Errno} (h : op.run d = .error e t) :
    RawExact d op ↔ RawKept d t := by
  refine ⟨fun hexact => hexact.fails e t h, fun hkept => ⟨fun e' t' h' => ?_, ?_, ?_⟩⟩
  · obtain ⟨-, rfl⟩ := EStateM.Result.error.inj (h.symm.trans h')
    exact hkept
  · intro _ t' h'
    cases h.symm.trans h'
  · intro _ t' h'
    cases h.symm.trans h'

theorem rawExact_of_ok (h : op.run d = .ok () t) :
    RawExact d op ↔ (op.mask = .SAMP_FREQ → (t.odr op.sensor : Int) = op.val) ∧
      (op.mask = .SCALE → ReportsScale t op.sensor) := by
  constructor
  · intro hexact
    exact ⟨fun hmask => hexact.rate hmask t h, fun hmask => hexact.scale hmask t h⟩
  · rintro ⟨hrate, hscale⟩
    refine ⟨fun e t' h' => ?_, fun hmask t' h' => ?_, fun hmask t' h' => ?_⟩
    · cases h.symm.trans h'
    · obtain ⟨-, rfl⟩ := EStateM.Result.ok.inj (h.symm.trans h')
      exact hrate hmask
    · obtain ⟨-, rfl⟩ := EStateM.Result.ok.inj (h.symm.trans h')
      exact hscale hmask

end exact

theorem fsTable_field : ∀ fs ∈ fsTable .ACC, ∀ fs' ∈ fsTable .ACC,
    fs'.val = Register.field fsMask (ffs fsMask) (shiftVal fs.val fsMask) ↔ fs' = fs := by
  intro fs hfs fs' hfs'
  have hvals : (fsTable .ACC).map Fs.val = [0x0, 0x1, 0x2, 0x3] := rfl
  have hfield := fs_field fs.val (hvals ▸ List.mem_map_of_mem hfs)
  have hnodup : ((fsTable .ACC).map Fs.val).Nodup := hvals ▸ by decide
  rw [hfield]
  exact ⟨List.inj_on_of_nodup_map hnodup hfs' hfs, congrArg Fs.val⟩

section scale

variable {d : Driver} (hd : Regmap.Agrees ctrl6Addr d.regmap) {val val2 : Int}
include hd

theorem scale_exact (hbuf : .ACC ∉ d.buffered) :
    RawExact d ⟨.ACC, val, val2, .SCALE⟩ ↔
      ∀ fs ∈ (fsTable .ACC).find? (u16 val2 ≤ ·.gain), fsWritten d fs → u16 val2 = fs.gain := by
  have hrun : RawWrite.run ⟨.ACC, val, val2, .SCALE⟩ d = setFs .ACC (u16 val2) d := by
    rw [RawWrite.run, writeRaw, bind_run (claim_granted hbuf)]
    rfl
  cases hfs : (fsTable .ACC).find? (u16 val2 ≤ ·.gain) with
  | none =>
    have hfail : setFs .ACC (u16 val2) d = .error .EINVAL d := by
      rw [setFs, hfs]
      rfl
    rw [rawExact_of_error (hrun.trans hfail)]
    exact iff_of_true (rawKept_refl d) (by simp)
  | some fs =>
    have hcosts := setFs_costs hd hfs
    have hmem := List.mem_of_find?_eq_some hfs
    cases hset : setFs .ACC (u16 val2) d with
    | error e t =>
      obtain ⟨n, hn, -, hno, m, rfl, hdev, -⟩ := hcosts.of_error hset
      rw [rawExact_of_error (hrun.trans hset)]
      have hfield := congrArg (fun dev => Register.field fsMask (ffs fsMask) (dev ctrl6Addr)) hdev
      refine iff_of_true ⟨rfl, rfl, rfl, hfield⟩ ?_
      rintro _ ⟨⟩ hwritten
      exact absurd (hwritten n hn) (by simp [hno])
    | ok _ t =>
      obtain ⟨hwritten, m, rfl, hput, -⟩ := hcosts.of_ok hset
      have hfield : fsField { d.toHw with regmap := m } =
          Register.field fsMask (ffs fsMask) (shiftVal fs.val fsMask) := by
        rw [fsField, hput, Register.field_put_same]
      have hreports : ReportsScale { d with
          regmap := m, gain := Function.update d.gain .ACC (u16 val2) } .ACC ↔
            u16 val2 = fs.gain := by
        constructor
        · rintro ⟨fs', hfs', hval, hgain⟩
          rw [hfield, fsTable_field fs hmem fs' hfs'] at hval
          simpa [readScale, hval] using hgain
        · intro hgain
          refine ⟨fs, hmem, ?_, by simp [readScale, hgain]⟩
          rw [hfield, fsTable_field fs hmem fs hmem]
      rw [rawExact_of_ok (hrun.trans hset)]
      constructor
      · rintro ⟨-, hreport⟩ _ ⟨⟩ _
        exact hreports.mp (hreport rfl)
      · intro h
        exact ⟨InfoMask.noConfusion, fun _ => hreports.mpr (h fs rfl hwritten)⟩

end scale

section rate

variable {d : Driver} {sensor : SensorId} {val val2 : Int}

def storeRate (sensor : SensorId) (val : Int) : D Unit := do
  let _ ← onHw (getOdrIdx sensor (u16 val))
  modify fun d => { d with odr := Function.update d.odr sensor (u16 val) }

theorem stored_exact {level : Nat} (hbuf : sensor ∉ d.buffered)
    (hstd : ¬ (sensor = .ACC ∧ ∀ entry ∈ stdTable, entry.odr ≠ u16 val))
    (hrun : RawWrite.run ⟨sensor, val, val2, .SAMP_FREQ⟩ d =
      storeRate sensor val { d with stdLevel := level }) :
    RawExact d ⟨sensor, val, val2, .SAMP_FREQ⟩ ↔
      (u16 val ∉ (odrTable d.hwId sensor).map Odr.hz → level = d.stdLevel) ∧
        ((acceptedRate d ⟨sensor, val, val2⟩).isSome → 0 ≤ val ∧ val < 65536) := by
  have hidx := getOdrIdx_run { d with stdLevel := level } sensor (u16 val)
  rw [acceptedRate, if_neg hbuf, if_neg hstd]
  by_cases hmem : u16 val ∈ (odrTable d.hwId sensor).map Odr.hz
  case pos =>
    obtain ⟨i, hi⟩ := hidx.1 hmem
    rw [storeRate, bind_run hi] at hrun
    have hstored : (Function.update d.odr sensor (u16 val) sensor : Int) = val ↔
        0 ≤ val ∧ val < 65536 := by
      rw [Function.update_self, u16_iff]
    rw [rawExact_of_ok hrun, if_pos hmem]
    constructor
    · rintro ⟨hrate, -⟩
      exact ⟨fun hnot => absurd hmem hnot, fun _ => hstored.mp (hrate rfl)⟩
    · rintro ⟨-, hval⟩
      exact ⟨fun _ => hstored.mpr (hval rfl), InfoMask.noConfusion⟩
  case neg =>
    rw [storeRate, bind_error (hidx.2 hmem)] at hrun
    rw [rawExact_of_error hrun, if_neg hmem]
    refine ⟨fun hkept => ⟨fun _ => hkept.stdLevel, fun hsome => absurd hsome (by simp)⟩, fun h => ?_⟩
    exact ⟨rfl, rfl, h.1 hmem, rfl⟩

theorem rate_exact (hbuf : sensor ∉ d.buffered) :
    RawExact d ⟨sensor, val, val2, .SAMP_FREQ⟩ ↔
      (sensor = .ACC → ∀ entry ∈ stdTable.find? (·.odr = u16 val),
        u16 val ∉ (odrTable d.hwId .ACC).map Odr.hz → entry.val = d.stdLevel) ∧
      ((acceptedRate d ⟨sensor, val, val2⟩).isSome → 0 ≤ val ∧ val < 65536) := by
  have hclaim := claim_granted hbuf
  cases sensor with
  | TEMP =>
    have hrun : RawWrite.run ⟨.TEMP, val, val2, .SAMP_FREQ⟩ d = storeRate .TEMP val d := by
      rw [RawWrite.run, writeRaw, bind_run hclaim]
      rfl
    refine (stored_exact hbuf (by simp) hrun).trans ?_
    exact and_congr_left' (iff_of_true (fun _ => rfl) SensorId.noConfusion)
  | ACC =>
    cases hfind : stdTable.find? (·.odr = u16 val) with
    | none =>
      have hnone : ∀ entry ∈ stdTable, entry.odr ≠ u16 val := by
        simpa using List.find?_eq_none.mp hfind
      have hrun : RawWrite.run ⟨.ACC, val, val2, .SAMP_FREQ⟩ d = .error .EINVAL d := by
        rw [RawWrite.run, writeRaw, bind_run hclaim]
        exact bind_error ((setStdLevel_run d (u16 val)).1 hnone) _
      rw [rawExact_of_error hrun, acceptedRate, if_neg hbuf, if_pos ⟨rfl, hnone⟩]
      exact iff_of_true (rawKept_refl d) ⟨by simp, fun hsome => absurd hsome (by simp)⟩
    | some entry =>
      have hodr : entry.odr = u16 val := by simpa using List.find?_some hfind
      have hlevel : setStdLevel (u16 val) d = .ok () { d with stdLevel := entry.val } := by
        rw [setStdLevel, hfind]
        rfl
      have hrun : RawWrite.run ⟨.ACC, val, val2, .SAMP_FREQ⟩ d =
          storeRate .ACC val { d with stdLevel := entry.val } := by
        rw [RawWrite.run, writeRaw, bind_run hclaim]
        exact bind_run hlevel _
      have hstd : ¬ (SensorId.ACC = .ACC ∧ ∀ entry ∈ stdTable, entry.odr ≠ u16 val) := fun h =>
        h.2 entry (List.mem_of_find?_eq_some hfind) hodr
      refine (stored_exact hbuf hstd hrun).trans (and_congr_left' ?_)
      simp

end rate

theorem refused_exact {d : Driver} {op : RawWrite} {e : Errno} (h : op.run d = .error e d) :
    RawExact d op := (rawExact_of_error h).mpr (rawKept_refl d)

theorem rawExact_iff {d : Driver} (hd : Regmap.Agrees ctrl6Addr d.regmap) (op : RawWrite) :
    RawExact d op ↔ RawTaken d op := by
  obtain ⟨sensor, val, val2, mask⟩ := op
  by_cases hbuf : sensor ∈ d.buffered
  case pos =>
    have hrun : RawWrite.run ⟨sensor, val, val2, mask⟩ d = .error .EBUSY d :=
      bind_error (claim_refused hbuf) _
    exact iff_of_true (refused_exact hrun) fun hfree => absurd hbuf hfree
  case neg =>
    have hclaim := claim_granted hbuf
    rw [RawTaken, forall_prop_of_true hbuf]
    cases mask with
    | SAMP_FREQ => exact rate_exact hbuf
    | other => exact iff_of_true (refused_exact (bind_run hclaim _)) trivial
    | SCALE =>
      cases sensor with
      | ACC => exact (scale_exact hd hbuf).trans ⟨fun h _ => h, fun h => h rfl⟩
      | TEMP => exact iff_of_true (refused_exact (bind_run hclaim _)) SensorId.noConfusion

theorem rawWrite_agrees {d : Driver} (hd : Regmap.Agrees ctrl6Addr d.regmap) (op : RawWrite) :
    Regmap.Agrees ctrl6Addr (rawWrite d op).regmap := by
  obtain ⟨sensor, val, val2, mask⟩ := op
  by_cases hbuf : sensor ∈ d.buffered
  case pos =>
    have hkept : rawWrite d ⟨sensor, val, val2, mask⟩ = d :=
      final_error (bind_error (claim_refused hbuf) _)
    rwa [hkept]
  case neg =>
    cases mask with
    | SAMP_FREQ =>
      have hhw := (rateWrite_written d ⟨sensor, val, val2⟩).hw
      change Regmap.Agrees ctrl6Addr (rateWrite d ⟨sensor, val, val2⟩).regmap
      rwa [hhw]
    | other =>
      have hkept : rawWrite d ⟨sensor, val, val2, .other⟩ = d :=
        final_error (bind_run (claim_granted hbuf) _)
      rwa [hkept]
    | SCALE =>
      rw [rawWrite, RawWrite.run, writeRaw, final, bind_run (claim_granted hbuf), ← final]
      cases sensor with
      | TEMP => exact hd
      | ACC =>
        change Regmap.Agrees ctrl6Addr (final (setFs .ACC (u16 val2)) d).regmap
        cases hfs : (fsTable .ACC).find? (u16 val2 ≤ ·.gain) with
        | none =>
          rw [setFs, hfs]
          exact hd
        | some fs =>
          refine (setFs_costs hd hfs).final (R := fun t => Regmap.Agrees ctrl6Addr t.regmap) ?_ ?_
          · rintro _ _ ⟨m, rfl, -, hm⟩
            exact hm.agrees _ (by decide) hd
          · rintro _ _ ⟨m, rfl, -, hm⟩
            exact hm.agrees _ (by decide) hd

structure Working where
  driver : Driver
  cache : Regmap.Agrees ctrl6Addr driver.regmap

theorem raw_writes_exact_iff (start : Working) (ops : List RawWrite) :
    Along rawWrite RawExact start.driver ops ↔ Along rawWrite RawTaken start.driver ops :=
  along_iff (I := fun d => Regmap.Agrees ctrl6Addr d.regmap) start.cache
    (fun _ op hd => rawExact_iff hd op) fun _ op hd _ => rawWrite_agrees hd op

def workingStart : Working where
  driver := probedDriver lowRates (fun _ => 0) (fun _ => none) (fun _ => 0) fun _ => 0
  cache := ⟨rfl, by simp [probedDriver, probed]⟩

omit [Kernel] in
theorem requested_scale_cached :
    ¬ ∀ [Kernel] (start : Working) (ops : List RawWrite),
      Along rawWrite RawExact start.driver ops := by
  intro h
  let op : RawWrite := ⟨.ACC, 0, 3000, .SCALE⟩
  have hexact := (@h truncating (@workingStart truncating) [op]).1
  have htaken := (@rawExact_iff truncating _ (@workingStart truncating).cache op).mp hexact
  have hgain : u16 3000 = (4785 : Nat) :=
    htaken (Finset.notMem_empty _) rfl ⟨4785, 0x1⟩ (by decide) fun _ _ => rfl
  exact absurd hgain (by decide)

end Lis2dw12
