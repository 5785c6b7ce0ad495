import IrisFirmware.Accel.SampFreq
import IrisFirmware.Accel.Saturation

namespace Lis2dw12

open Fallible Run

inductive ProbeErrno where
  | busFault
  | ENODEV
deriving DecidableEq, Repr

-- what st_lis2dw12_check_whoami uses of a hw that is otherwise zero
structure Probe where
  regmap : Regmap.Map Addr 8
  settings : Option HwId
  odrEntry : OdrEntry

def allocated (regmap : Regmap.Map Addr 8) : Probe := ⟨regmap, none, .null⟩

abbrev whoamiVal : Byte := 0x44

def sensorSettings : List HwId := [.LIS2DW12, .IIS2DLPC, .AIS2IH, .AIS2DW12]

def HwId.value : HwId → Int
  | LIS2DW12 => 0
  | IIS2DLPC => 1
  | AIS2IH => 2
  | AIS2DW12 => 3

-- the address of the table in settings, which takes no access to it
def odrTableOf : Option HwId → OdrEntry
  | none => .behindNull
  | some hwId => .table hwId

def checkWhoami (id : Int) : EStateM ProbeErrno Probe Unit := do
  match sensorSettings.find? (·.value = id) with
  | none => throw .ENODEV
  | some hwId =>
    let data ← within Probe.regmap (fun m p => { p with regmap := m })
      (Regmap.read isVolatileReg .busFault whoamiAddr)
    if data ≠ whoamiVal then throw .ENODEV
    modify fun p => { p with odrEntry := odrTableOf p.settings }
    modify fun p => { p with settings := some hwId }

def attached (p : Probe) (hw : Hw) : EventHw where
  toHw := hw
  odrEntry := p.odrEntry
  sixDThreshold := 0
  freefallThreshold := 0
  wkThMg := 0
  wkDurMs := 0
  tapThreshold := 0
  tapQuietTime := 0
  tapShockTime := 0
  dtapDuration := 0

inductive AttachedOp where
  | device (x : M Unit)
  | eventValue (odr : Int) (chan : ChanType) (type : EvType) (dir : EvDir) (info : EvInfo)
    (val : Int)

def AttachedOp.run : AttachedOp → E Unit
  | device x => onDevice x
  | eventValue odr chan type dir info val => writeEventValue odr chan type dir info val

def attachedStep (s : EventHw) (op : AttachedOp) : EventHw := final op.run s

def programmedRate (s : EventHw) : Option Nat :=
  let code := Register.field odrMask (ffs odrMask) (s.regmap.dev ctrl1Addr)
  if code = 0 then some 0 else ((odrTable s.hwId .ACC).find? (·.val = code)).map Odr.hz

structure RateDefined (settings : Option HwId) (s : EventHw) : Prop where
  entry : ∃ hwId ∈ settings, s.odrEntry = .table hwId
  assigned : ∀ odr t, getXlOdr s = .ok odr t → odr.isSome ∧ odr = programmedRate s
  computed : ∀ id odr odr' rate t, getDefaultXlOdr odr id s = .ok rate t →
    getDefaultXlOdr odr' id s = .ok rate t

section entry

variable {entry : OdrEntry}

theorem keeps_entry_device {α : Type} (x : M α) :
    Keeps (fun s => s.odrEntry = entry) (onDevice x) := by
  intro s hs
  rw [final, onDevice]
  cases x s.toHw <;> exact hs

theorem keeps_entry_fields (code : Nat) (rs : List (Addr × Byte)) :
    Keeps (fun s => s.odrEntry = entry) (writeFields code rs) := by
  induction rs with
  | nil => exact .ret ()
  | cons r rs ih => exact .bind (keeps_entry_device _) fun _ => ih

theorem keeps_entry_code (code : Option Nat) (rs : List (Addr × Byte)) :
    Keeps (fun s => s.odrEntry = entry) (writeCode code rs) := by
  cases code with
  | none => exact .thrown _
  | some code => exact keeps_entry_fields code rs

theorem keeps_entry_xlOdr : Keeps (fun s => s.odrEntry = entry) getXlOdr := by
  refine .bind (keeps_entry_device _) fun odrXl => .ite (.ret _) (.get_bind fun s hs => ?_)
  cases s.odrEntry with
  | table hwId =>
    dsimp only
    cases (odrTable hwId .ACC).find? (·.val = odrXl) <;> exact hs
  | _ => exact hs

theorem keeps_entry_setter {r : E Int} {f : Int → E Unit} {g : EventHw → EventHw}
    (hr : Keeps (fun s => s.odrEntry = entry) r)
    (hf : ∀ x, Keeps (fun s => s.odrEntry = entry) (f x))
    (hg : ∀ s, (g s).odrEntry = s.odrEntry) :
    Keeps (fun s => s.odrEntry = entry) (do let x ← r; f x; modify g) :=
  .bind hr fun x => .bind (hf x) fun _ => .modify fun s hs => (hg s).trans hs

theorem keeps_entry_fs : Keeps (fun s => s.odrEntry = entry) getXlFs :=
  .bind (keeps_entry_device _) fun _ => .ret _

theorem keeps_entry_rate (odr : Int) (id : EventId) :
    Keeps (fun s => s.odrEntry = entry) (getDefaultXlOdr odr id) :=
  .bind keeps_entry_xlOdr fun _ => .get_bind fun _ hs => hs

theorem keeps_entry_value (odr : Int) (chan : ChanType) (type : EvType) (dir : EvDir)
    (info : EvInfo) (val : Int) :
    Keeps (fun s => s.odrEntry = entry) (writeEventValue odr chan type dir info val) := by
  have htap : Keeps (fun s => s.odrEntry = entry) (setTapThreshold val) :=
    keeps_entry_setter keeps_entry_fs (fun _ => keeps_entry_code _ _) fun _ => rfl
  have hquiet : Keeps (fun s => s.odrEntry = entry) (setTapQuietTime odr (u8 val)) :=
    keeps_entry_setter (keeps_entry_rate _ _) (fun _ => keeps_entry_code _ _) fun _ => rfl
  unfold writeEventValue
  split
  · rw [setFreefallThreshold]
    cases freeFallThreshold.find? (·.least ≤ u32 val) with
    | none => exact .thrown _
    | some t => exact .bind (keeps_entry_device _) fun _ => .modify fun _ hs => hs
  · exact keeps_entry_setter keeps_entry_fs (fun _ => keeps_entry_code _ _) fun _ => rfl
  · exact keeps_entry_setter (keeps_entry_rate _ _) (fun _ => keeps_entry_code _ _) fun _ => rfl
  · rw [set6DThreshold]
    cases sixDThresholds.find? (fun t => (t.least : Int) ≤ val) with
    | none => exact .thrown _
    | some t => exact .bind (keeps_entry_device _) fun _ => .modify fun _ hs => hs
  · exact htap
  · exact hquiet
  · exact htap
  · exact hquiet
  · exact keeps_entry_setter (keeps_entry_rate _ _) (fun _ => keeps_entry_code _ _) fun _ => rfl
  · exact .thrown _

theorem exec_entry {s : EventHw} (hs : s.odrEntry = entry) (ops : List AttachedOp) :
    (exec attachedStep s ops).odrEntry = entry := by
  refine exec_invariant (I := fun s => s.odrEntry = entry) hs (fun s op hs _ => ?_)
    (along_true s ops)
  cases op with
  | device x => exact keeps_entry_device x s hs
  | eventValue odr chan type dir info val => exact keeps_entry_value odr chan type dir info val s hs

end entry

-- the settings are still missing when odr_entry is set
theorem checkWhoami_entry {id : Int} {regmap : Regmap.Map Addr 8} {p : Probe}
    (h : checkWhoami id (allocated regmap) = .ok () p) : p.odrEntry = .behindNull := by
  rw [checkWhoami] at h
  cases hfind : sensorSettings.find? (·.value = id) with
  | none =>
    rw [hfind] at h
    cases h
  | some hwId =>
    rw [hfind] at h
    obtain ⟨data, q, hread, hrest⟩ := bind_ok h
    obtain ⟨m, -, rfl⟩ := within_ok hread
    split_ifs at hrest
    · cases hrest
    · obtain ⟨-, rfl⟩ := EStateM.Result.ok.inj hrest
      rfl

theorem getXlOdr_unassigned {s t : EventHw} {odr : Option Nat} (hs : s.odrEntry = .behindNull)
    (h : getXlOdr s = .ok odr t) : odr = none := by
  obtain ⟨odrXl, u, hread, hrest⟩ := bind_ok h
  obtain ⟨hw, -, rfl⟩ := onDevice_ok hread
  split_ifs at hrest
  · obtain ⟨rfl, -⟩ := EStateM.Result.ok.inj hrest
    rfl
  · rw [get_bind_run] at hrest
    dsimp only at hrest
    rw [hs] at hrest
    cases hrest

theorem rate_never_defined {id : Int} {regmap : Regmap.Map Addr 8} {p : Probe}
    (h : checkWhoami id (allocated regmap) = .ok () p) (hw : Hw) (ops : List AttachedOp) :
    let s := exec attachedStep (attached p hw) ops
    ¬ RateDefined p.settings s ∧ ∀ odr t, getXlOdr s = .ok odr t → odr = none := by
  intro s
  have hentry : s.odrEntry = .behindNull := exec_entry (checkWhoami_entry h) ops
  refine ⟨fun hdefined => ?_, fun odr t => getXlOdr_unassigned hentry⟩
  obtain ⟨hwId, -, htable⟩ := hdefined.entry
  rw [hentry] at htable
  cases htable

def answering : Regmap.Map Addr 8 := ⟨fun _ => whoamiVal, fun _ => none, false, fun _ => true⟩

def checked : Probe := ⟨answering, some .LIS2DW12, .behindNull⟩

def poweredDown : Hw := probed lowRates (fun _ => 0) fun _ => none

theorem checked_rate_undefined :
    ¬ RateDefined checked.settings (attached checked poweredDown) ∧
      ∀ odr t, getXlOdr (attached checked poweredDown) = .ok odr t → odr = none :=
  @rate_never_defined 0 answering checked rfl poweredDown []

theorem probed_device_has_no_rate :
    ¬ ∀ (id : Int) (regmap : Regmap.Map Addr 8) (p : Probe) (hw : Hw) (ops : List AttachedOp),
      checkWhoami id (allocated regmap) = .ok () p → p.settings = some hw.hwId →
        RateDefined p.settings (exec attachedStep (attached p hw) ops) := by
  intro h
  obtain ⟨hwId, -, htable⟩ := (h 0 answering checked poweredDown [] rfl rfl).entry
  cases htable

end Lis2dw12
