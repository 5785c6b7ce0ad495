import IrisFirmware.Accel.Rate
import IrisFirmware.Library.Vote

namespace Lis2dw12

open Fallible Metered

def rated (hwId : HwId) : List Nat := (odrTable hwId .ACC).map Odr.hz

def codeOf (hwId : HwId) (hz : Nat) : Option Byte :=
  ((odrTable hwId .ACC).find? (·.hz = hz)).map Odr.val

def odrField (hw : Hw) : Byte := Register.field odrMask (ffs odrMask) (hw.regmap.dev ctrl1Addr)

def others (hw : Hw) (sensor : SensorId) : Nat := (hw.enableMask.erase sensor).sup hw.odr

theorem rated_zero (hwId : HwId) : 0 ∈ rated hwId := by
  cases hwId <;> decide

theorem rated_hundred (hwId : HwId) : 100 ∈ rated hwId := by
  cases hwId <;> decide

theorem rated_of_temp (hwId : HwId) :
    ∀ hz ∈ (odrTable hwId .TEMP).map Odr.hz, hz ∈ rated hwId ∧ hz ≤ 50 := by
  cases hwId <;> decide

theorem automotive_le : ∀ hz ∈ rated .AIS2DW12, hz ≤ 100 := by decide

theorem max_rated {hwId : HwId} {a b : Nat} (ha : a ∈ rated hwId) (hb : b ∈ rated hwId) :
    max a b ∈ rated hwId := by
  rcases max_choice a b with h | h
  · rwa [h]
  · rwa [h]

theorem sup_rated {hwId : HwId} {ι : Type} {s : Finset ι} {f : ι → Nat}
    (h : ∀ i ∈ s, f i ∈ rated hwId) : s.sup f ∈ rated hwId :=
  Finset.sup_induction (rated_zero hwId) (fun _ ha _ hb => max_rated ha hb) h

theorem rated_of_table {hwId : HwId} {hz : Nat} {sensor : SensorId}
    (h : hz ∈ (odrTable hwId sensor).map Odr.hz) : hz ∈ rated hwId := by
  cases sensor with
  | ACC => exact h
  | TEMP => exact (rated_of_temp hwId _ h).1

theorem rated_rate {hwId : HwId} (rates : Rates hwId) (id : SensorId) :
    rates.odr id ∈ rated hwId :=
  rated_of_table (rates.ofTable id)

theorem codeOf_inj (hwId : HwId) : ∀ a ∈ rated hwId, ∀ b ∈ rated hwId,
    codeOf hwId a = codeOf hwId b → a = b := by
  cases hwId <;> decide

theorem codeOf_zero_iff (hwId : HwId) : ∀ hz ∈ rated hwId, codeOf hwId hz = some 0 ↔ hz = 0 := by
  cases hwId <;> decide

def ctrl1Val (odr mode : Byte) : Byte :=
  (odr <<< ffs odrMask) ||| (mode <<< ffs modeMask) ||| lp2ModeVal

theorem ctrl1_field (hwId : HwId) : ∀ odr ∈ odrTable hwId .ACC, ∀ mode ∈ [lpModeVal, hpModeVal],
    Register.field odrMask (ffs odrMask) (ctrl1Val odr.val mode) = odr.val := by
  cases hwId <;> decide

theorem ctrl1_holds_code (hwId : HwId) : ∀ hz ∈ rated hwId, ∀ mode ∈ [lpModeVal, hpModeVal],
    ∃ i ∈ (odrTable hwId .ACC).findIdx? (·.hz = hz),
      codeOf hwId hz = some (Register.field odrMask (ffs odrMask)
        (ctrl1Val ((odrTable hwId .ACC).getD i ⟨0, 0⟩).val mode)) := by
  intro hz hmem mode hmode
  have hfound : ((odrTable hwId .ACC).findIdx? (·.hz = hz)).isSome := by
    rw [List.findIdx?_isSome]
    simpa [rated] using hmem
  obtain ⟨i, hi⟩ := Option.isSome_iff_exists.mp hfound
  obtain ⟨hlt, -⟩ := List.findIdx?_eq_some_iff_getElem.mp hi
  refine ⟨i, hi, ?_⟩
  rw [codeOf, List.find?_eq_bind_findIdx?_getElem?, hi, Option.bind_some,
    List.getD_eq_getElem?_getD, List.getElem?_eq_getElem hlt, Option.map_some, Option.getD_some,
    ctrl1_field hwId _ (List.getElem_mem hlt) mode hmode]

theorem dependency_eq (hw : Hw) (upd : Nat) (i : SensorId) :
    (if upd < checkOdrDependency hw upd i then checkOdrDependency hw upd i else upd) =
      if i ∈ hw.enableMask then max (hw.odr i) upd else upd := by
  unfold checkOdrDependency
  split_ifs <;> omega

theorem updOdr_eq (hw : Hw) (sensor : SensorId) (reqOdr : Nat) :
    updOdr hw sensor reqOdr = max reqOdr (others hw sensor) := by
  have hfold : updOdr hw sensor reqOdr = [SensorId.ACC, .TEMP].foldl (fun upd i =>
      if i ∈ hw.enableMask.erase sensor then max (hw.odr i) upd else upd) reqOdr := by
    unfold updOdr
    congr 1
    funext upd i
    dsimp only
    rw [dependency_eq]
    by_cases hi : i = sensor
    · simp [hi]
    · simp [hi]
  have hall : ∀ i, i ∈ [SensorId.ACC, .TEMP] := by
    intro i
    cases i <;> decide
  exact hfold.trans (Vote.foldl_max_mem hall _ reqOdr)

theorem clip_eq {hwId : HwId} {upd : Nat} (h : upd ∈ rated hwId) :
    ∃ mode ∈ [lpModeVal, hpModeVal],
      (if 100 < upd then if hwId ≠ .AIS2DW12 then (100, lpModeVal) else (upd, hpModeVal)
        else (upd, lpModeVal)) = (min 100 upd, mode) := by
  split_ifs with hhigh hid
  · exact ⟨lpModeVal, by simp, by rw [min_eq_left hhigh.le]⟩
  · obtain rfl := not_not.mp hid
    exact absurd (automotive_le upd h) (Nat.not_le_of_lt hhigh)
  · exact ⟨lpModeVal, by simp, by rw [min_eq_right (Nat.le_of_not_lt hhigh)]⟩

theorem onRegmap_live {hw : Hw} {α : Type} {x : EStateM Errno (Regmap.Map Addr 8) α}
    (hx : Succeeds x hw.regmap fun _ m => Regmap.Live m) :
    Succeeds (onRegmap x) hw fun _ t => ∃ m, t = { hw with regmap := m } ∧ Regmap.Live m :=
  Succeeds.within hx

def written (hw : Hw) (sensor : SensorId) (reqOdr : Nat) : Nat :=
  max hw.reqOdrEvents (if 0 < reqOdr then min 100 (max reqOdr (others hw sensor)) else 0)

theorem written_rated {hw : Hw} {sensor : SensorId} {reqOdr : Nat} (hreq : reqOdr ∈ rated hw.hwId)
    (hothers : others hw sensor ∈ rated hw.hwId) (hev : hw.reqOdrEvents ∈ rated hw.hwId) :
    written hw sensor reqOdr ∈ rated hw.hwId := by
  have hlow : min 100 (max reqOdr (others hw sensor)) ∈ rated hw.hwId := by
    rcases min_choice 100 (max reqOdr (others hw sensor)) with h | h
    · rw [h]
      exact rated_hundred hw.hwId
    · rw [h]
      exact max_rated hreq hothers
  rw [written]
  split_ifs
  · exact max_rated hev hlow
  · exact max_rated hev (rated_zero hw.hwId)

theorem setOdr_run {hw : Hw} {sensor : SensorId} {reqOdr : Nat}
    (hreq : reqOdr ∈ rated hw.hwId) (hothers : others hw sensor ∈ rated hw.hwId)
    (hev : hw.reqOdrEvents ∈ rated hw.hwId) :
    ∃ val, setOdr sensor reqOdr hw = writeUncached ctrl1Addr val hw ∧
      codeOf hw.hwId (written hw sensor reqOdr) =
        some (Register.field odrMask (ffs odrMask) val) := by
  have hupd := max_rated hreq hothers
  obtain ⟨mode, hmode, hclip⟩ := clip_eq hupd
  have hwritten := written_rated hreq hothers hev
  obtain ⟨i, hi, hcode⟩ := ctrl1_holds_code hw.hwId _ hwritten mode hmode
  have hidx : getOdrIdx .ACC (written hw sensor reqOdr) hw = .ok i hw := by
    rw [getOdrIdx, get_bind_run, Option.mem_def.mp hi]
    rfl
  refine ⟨ctrl1Val ((odrTable hw.hwId .ACC).getD i ⟨0, 0⟩).val mode, ?_, hcode⟩
  rw [setOdr, get_bind_run, updOdr_eq, hclip]
  dsimp only
  rw [← written, bind_run hidx]
  rfl

theorem setOdr_stores {hw : Hw} {sensor : SensorId} {reqOdr : Nat}
    (hreq : reqOdr ∈ rated hw.hwId) (hothers : others hw sensor ∈ rated hw.hwId)
    (hev : hw.reqOdrEvents ∈ rated hw.hwId) :
    ∃ val, codeOf hw.hwId (written hw sensor reqOdr) =
        some (Register.field odrMask (ffs odrMask) val) ∧
      Costs hwBus 1 (setOdr sensor reqOdr) hw
        (fun _ t => t = { hw with regmap := { hw.regmap with
          dev := Function.update hw.regmap.dev ctrl1Addr val
          bus := fun n => hw.regmap.bus (n + 1)
          bypass := false } })
        fun _ t => t = { hw with regmap := { hw.regmap with
          bus := fun n => hw.regmap.bus (n + 1)
          bypass := false } } := by
  obtain ⟨val, hrun, hcode⟩ := setOdr_run hreq hothers hev
  refine ⟨val, hcode, .of_eq hrun ((onRegmap_costs (Regmap.bypassed_write_costs ..)).mono ?_ ?_)⟩
  · rintro _ _ ⟨_, rfl, rfl⟩
    rfl
  · rintro _ _ - ⟨_, rfl, rfl⟩
    rfl

theorem setOdr_writes {hw : Hw} {sensor : SensorId} {reqOdr : Nat} (hl : Regmap.Live hw.regmap)
    (hreq : reqOdr ∈ rated hw.hwId) (hothers : others hw sensor ∈ rated hw.hwId)
    (hev : hw.reqOdrEvents ∈ rated hw.hwId) :
    Succeeds (setOdr sensor reqOdr) hw fun _ t =>
      ∃ m, t = { hw with regmap := m } ∧ Regmap.Live m ∧
        codeOf hw.hwId (written hw sensor reqOdr) = some (odrField t) := by
  obtain ⟨val, hcode, hstores⟩ := setOdr_stores hreq hothers hev
  obtain ⟨_, _, hrun, -, rfl⟩ := hstores.answered fun n _ => hl n
  refine ⟨(), _, hrun, _, rfl, fun n => hl (n + 1), ?_⟩
  rw [hcode, odrField]
  dsimp only
  rw [Function.update_self]

end Lis2dw12
