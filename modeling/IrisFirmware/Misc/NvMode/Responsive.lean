import IrisFirmware.Library.Trigger
import IrisFirmware.Misc.NvMode.Debounce

namespace PegaNvMode

open Run Trigger

structure Para where
  nv : NvDef
  dayByte : nv.u8DayModeCounts < 2 ^ 8
  nightByte : nv.u8NightModeCounts < 2 ^ 8

def nvramUpdate (s : NvState) (fLuxGain : ℚ) : NvState :=
  if 0 < fLuxGain then { s with nv := { s.nv with fLuxCal := fLuxGain } } else s

def enterNVThresholdUpdate (s : NvState) (nightThd : Int) : NvState :=
  if 0 < nightThd then { s with nv := { s.nv with fNightModeThd := nightThd / 100 } } else s

def exitNVThresholdUpdate (s : NvState) (dayThd : Int) : NvState :=
  if 0 < dayThd then { s with nv := { s.nv with fDayModeThd := dayThd / 100 } } else s

def thresholdSet (s : NvState) (fNightModeThd fDayModeThd : ℚ) : NvState :=
  { s with nv := { s.nv with fNightModeThd := fNightModeThd, fDayModeThd := fDayModeThd } }

def luxCalSet (s : NvState) (fLuxCal : ℚ) : NvState := { s with nv := { s.nv with fLuxCal } }

def luxOffsetSet (s : NvState) (fLuxOffset : ℚ) : NvState :=
  { s with nv := { s.nv with fOffset := fLuxOffset } }

def setTriggerCounts (s : NvState) (value : Int) : NvState :=
  { s with nv := { s.nv with sTriggerCounts := value } }

-- every function of the module's header that writes the mode's state
inductive Call where
  | processing (fLux : ℚ)
  | nvramUpdate (fLuxGain : ℚ)
  | dayNighModeManualSet (bNightMode : BitVec 8)
  | enterNVThresholdUpdate (nightThd : BitVec 32)
  | exitNVThresholdUpdate (dayThd : BitVec 32)
  | nightModeSet
  | dayModeSet
  | thresholdSet (fNightModeThd fDayModeThd : ℚ)
  | controlSet (bFlag : BitVec 8)
  | parametersSet (para : Para)
  | modeSetFlagClear
  | luxCalSet (fLuxCal : ℚ)
  | luxOffsetSet (fLuxOffset : ℚ)
  | setNightMode (dayNight : BitVec 8)
  | diagLuxGet (fLux : ℚ)
  | setTriggerCounts (value : BitVec 32)
  | diagForceDayNightMode (isNightMode : BitVec 8)

def call (s : NvState) : Call → NvState
  | .processing fLux => (processing s fLux).1
  | .nvramUpdate fLuxGain => nvramUpdate s fLuxGain
  | .dayNighModeManualSet bNightMode => dayNighModeManualSet s bNightMode.toNat
  | .enterNVThresholdUpdate nightThd => enterNVThresholdUpdate s nightThd.toInt
  | .exitNVThresholdUpdate dayThd => exitNVThresholdUpdate s dayThd.toInt
  | .nightModeSet => nightModeSet s
  | .dayModeSet => dayModeSet s
  | .thresholdSet fNightModeThd fDayModeThd => thresholdSet s fNightModeThd fDayModeThd
  | .controlSet bFlag => controlSet s bFlag.toNat
  | .parametersSet para => { s with nv := para.nv }
  | .modeSetFlagClear => setModeSet s FALSE
  | .luxCalSet fLuxCal => luxCalSet s fLuxCal
  | .luxOffsetSet fLuxOffset => luxOffsetSet s fLuxOffset
  | .setNightMode dayNight => setNightFlag s dayNight.toNat
  | .diagLuxGet fLux => (diagLuxGet s fLux).2
  | .setTriggerCounts value => setTriggerCounts s value.toInt
  | .diagForceDayNightMode isNightMode => diagForceDayNightMode s isNightMode.toNat

def dark (s : NvState) (fLux : ℚ) : Prop := 0 ≤ fLux ∧ correctedLux s fLux < s.nv.fNightModeThd

def bright (s : NvState) (fLux : ℚ) : Prop := 0 ≤ fLux ∧ s.nv.fDayModeThd < correctedLux s fLux

structure Responsive (s : NvState) : Prop where
  night : ∀ readings : List ℚ, readings.length = s.nv.sTriggerCounts →
    (∀ fLux ∈ readings, dark s fLux) → (exec autoStep s readings).nv.bIsNightMode = TRUE
  day : ∀ readings : List ℚ, readings.length = s.nv.sTriggerCounts →
    (∀ fLux ∈ readings, bright s fLux) → (exec autoStep s readings).nv.bIsNightMode = FALSE

structure InTime (s : NvState) : Prop where
  apart : ∀ fLux, dark s fLux → ¬ bright s fLux
  night : (∃ fLux, dark s fLux) → s.nv.sTriggerCounts ≤ 256 ∨ s.nv.bIsNightMode = TRUE
  day : (∃ fLux, bright s fLux) → s.nv.sTriggerCounts ≤ 256 ∨ s.nv.bIsNightMode = FALSE

structure Counted (nv : NvDef) : Prop where
  day : nv.u8DayModeCounts < 2 ^ 8
  night : nv.u8NightModeCounts < 2 ^ 8

def settings (nv : NvDef) : Nat × Int × ℚ × ℚ × ℚ × ℚ :=
  (nv.bIsNVModeAuto, nv.sTriggerCounts, nv.fNightModeThd, nv.fDayModeThd, nv.fLuxCal, nv.fOffset)

theorem nightReading_settings (s : NvState) (rtn : Int) :
    settings (nightReading s rtn).1.nv = settings s.nv ∧
      (Counted s.nv → Counted (nightReading s rtn).1.nv) := by
  rw [nightReading]
  split_ifs with hn ht
  · rw [nightModeSet_nv]
    exact ⟨rfl, fun h => ⟨Nat.two_pow_pos 8, h.night⟩⟩
  · exact ⟨rfl, fun h => ⟨h.day, Nat.mod_lt _ (Nat.two_pow_pos 8)⟩⟩
  · exact ⟨rfl, id⟩

theorem dayReading_settings (s : NvState) (rtn : Int) :
    settings (dayReading s rtn).1.nv = settings s.nv ∧
      (Counted s.nv → Counted (dayReading s rtn).1.nv) := by
  rw [dayReading]
  split_ifs with hd ht
  · rw [dayModeSet_nv]
    exact ⟨rfl, fun h => ⟨h.day, Nat.two_pow_pos 8⟩⟩
  · exact ⟨rfl, fun h => ⟨Nat.mod_lt _ (Nat.two_pow_pos 8), h.night⟩⟩
  · exact ⟨rfl, id⟩

theorem modeManualSet_settings (s : NvState) :
    settings (modeManualSet s).nv = settings s.nv ∧
      (Counted s.nv → Counted (modeManualSet s).nv) := by
  rw [modeManualSet]
  split_ifs
  · exact ⟨rfl, id⟩
  · exact ⟨rfl, fun h => ⟨h.day, h.night⟩⟩
  · exact ⟨rfl, fun h => ⟨h.day, h.night⟩⟩

theorem processing_settings (s : NvState) (fLux : ℚ) :
    settings (processing s fLux).1.nv = settings s.nv ∧
      (Counted s.nv → Counted (processing s fLux).1.nv) := by
  rw [processing]
  split_ifs
  · exact modeManualSet_settings s
  · exact ⟨rfl, id⟩
  · obtain ⟨hnset, hncount⟩ := nightReading_settings (luxUpdate s fLux) notThing
    obtain ⟨hdset, hdcount⟩ := dayReading_settings (nightReading (luxUpdate s fLux) notThing).1
      (nightReading (luxUpdate s fLux) notThing).2
    exact ⟨hdset.trans hnset, fun h => hdcount (hncount ⟨h.day, h.night⟩)⟩

theorem call_counted {s : NvState} (h : Counted s.nv) (c : Call) : Counted (call s c).nv := by
  cases c with
  | processing fLux => exact (processing_settings s fLux).2 h
  | nvramUpdate fLuxGain =>
    rw [call, nvramUpdate]
    split_ifs <;> exact ⟨h.day, h.night⟩
  | dayNighModeManualSet bNightMode => exact ⟨h.day, h.night⟩
  | enterNVThresholdUpdate nightThd =>
    rw [call, enterNVThresholdUpdate]
    split_ifs <;> exact ⟨h.day, h.night⟩
  | exitNVThresholdUpdate dayThd =>
    rw [call, exitNVThresholdUpdate]
    split_ifs <;> exact ⟨h.day, h.night⟩
  | nightModeSet =>
    rw [call, nightModeSet_nv]
    exact ⟨h.day, h.night⟩
  | dayModeSet =>
    rw [call, dayModeSet_nv]
    exact ⟨h.day, h.night⟩
  | thresholdSet fNightModeThd fDayModeThd => exact ⟨h.day, h.night⟩
  | controlSet bFlag => exact ⟨Nat.two_pow_pos 8, Nat.two_pow_pos 8⟩
  | parametersSet para => exact ⟨para.dayByte, para.nightByte⟩
  | modeSetFlagClear => exact ⟨h.day, h.night⟩
  | luxCalSet fLuxCal => exact ⟨h.day, h.night⟩
  | luxOffsetSet fLuxOffset => exact ⟨h.day, h.night⟩
  | setNightMode dayNight => exact ⟨h.day, h.night⟩
  | diagLuxGet fLux => exact ⟨h.day, h.night⟩
  | setTriggerCounts value => exact ⟨h.day, h.night⟩
  | diagForceDayNightMode isNightMode =>
    rw [call, diagForceDayNightMode]
    dsimp only
    split_ifs <;> exact ⟨h.day, h.night⟩

theorem start_counted : Counted nvStart.nv := ⟨by decide, by decide⟩

theorem calls_counted (calls : List Call) : Counted (exec call nvStart calls).nv := by
  have hstep : ∀ (s : NvState) c, Counted s.nv → True → Counted (call s c).nv :=
    fun _ c h _ => call_counted h c
  exact exec_invariant (I := fun s : NvState => Counted s.nv) start_counted hstep
    (along_true _ calls)

def nightCounter (s : NvState) : Nat × Bool :=
  (s.nv.u8NightModeCounts, decide (s.nv.bIsNightMode = TRUE))

def dayCounter (s : NvState) : Nat × Bool :=
  (s.nv.u8DayModeCounts, decide (s.nv.bIsNightMode = FALSE))

theorem autoStep_nightCounter {s : NvState} (h : s.nv.bIsNVModeAuto = TRUE) {fLux : ℚ}
    (hd : dark s fLux) (hb : ¬ bright s fLux) :
    nightCounter (autoStep s fLux) = tick (2 ^ 8) s.nv.sTriggerCounts (nightCounter s) := by
  rw [autoStep, processing_only_below h hd.1 hd.2 fun hlt => hb ⟨hd.1, hlt⟩, nightCounter,
    nightReading_below hd.2]
  by_cases ht : (luxUpdate s fLux).nv.sTriggerCounts - 1 ≤ (luxUpdate s fLux).nv.u8NightModeCounts
  case pos =>
    rw [if_pos ht]
    exact (if_pos ht).symm
  case neg =>
    rw [if_neg ht]
    exact (if_neg ht).symm

theorem autoStep_dayCounter {s : NvState} (h : s.nv.bIsNVModeAuto = TRUE) {fLux : ℚ}
    (hb : bright s fLux) (hd : ¬ dark s fLux) :
    dayCounter (autoStep s fLux) = tick (2 ^ 8) s.nv.sTriggerCounts (dayCounter s) := by
  rw [autoStep, processing_not_below h hb.1 fun hlt => hd ⟨hb.1, hlt⟩, dayCounter,
    dayReading_above hb.2]
  by_cases ht : (luxUpdate s fLux).nv.sTriggerCounts - 1 ≤ (luxUpdate s fLux).nv.u8DayModeCounts
  case pos =>
    rw [if_pos ht]
    exact (if_pos ht).symm
  case neg =>
    rw [if_neg ht]
    exact (if_neg ht).symm

theorem side_of_settings {s t : NvState} (h : settings t.nv = settings s.nv) (fLux : ℚ) :
    (dark t fLux ↔ dark s fLux) ∧ (bright t fLux ↔ bright s fLux) := by
  simp only [settings, Prod.mk.injEq] at h
  obtain ⟨-, -, hnight, hday, hcal, hoffset⟩ := h
  simp only [dark, bright, correctedLux, luxUpdate, hnight, hday, hcal, hoffset, and_self]

section spell

variable {s : NvState} (h : s.nv.bIsNVModeAuto = TRUE) (hc : Counted s.nv)
  (hT : 1 ≤ s.nv.sTriggerCounts) {readings : List ℚ}
  (hlen : readings.length = s.nv.sTriggerCounts)
include h hT hlen

theorem marked_after_spell {counter : NvState → Nat × Bool} (hlt : (counter s).1 < 2 ^ 8)
    {side : NvState → ℚ → Prop} (hside : ∀ t fLux, settings t.nv = settings s.nv →
      side s fLux → side t fLux)
    (hcount : ∀ t fLux, t.nv.bIsNVModeAuto = TRUE → side t fLux →
      counter (autoStep t fLux) = tick (2 ^ 8) t.nv.sTriggerCounts (counter t))
    (hr : ∀ fLux ∈ readings, side s fLux) :
    (counter (exec autoStep s readings)).2 = true ↔
      s.nv.sTriggerCounts ≤ 256 ∨ (counter s).2 = true := by
  have hstep : ∀ t, ∀ fLux ∈ readings, settings t.nv = settings s.nv →
      settings (autoStep t fLux).nv = settings s.nv ∧
        counter (autoStep t fLux) = tick (2 ^ 8) s.nv.sTriggerCounts (counter t) := by
    intro t fLux hin ht
    have hauto : t.nv.bIsNVModeAuto = TRUE := (congrArg Prod.fst ht).trans h
    have htrigger : t.nv.sTriggerCounts = s.nv.sTriggerCounts := congrArg (fun x => x.2.1) ht
    have hnext := hcount t fLux hauto (hside t fLux ht (hr fLux hin))
    rw [htrigger] at hnext
    exact ⟨(processing_settings t fLux).1.trans ht, hnext⟩
  rw [exec_ticks hstep rfl]
  exact ticks_iff hT hlt hlen

include hc

theorem night_after_spell (hr : ∀ fLux ∈ readings, dark s fLux ∧ ¬ bright s fLux) :
    (exec autoStep s readings).nv.bIsNightMode = TRUE ↔
      s.nv.sTriggerCounts ≤ 256 ∨ s.nv.bIsNightMode = TRUE := by
  have hside : ∀ t fLux, settings t.nv = settings s.nv → dark s fLux ∧ ¬ bright s fLux →
      dark t fLux ∧ ¬ bright t fLux := fun t fLux ht hs =>
    ⟨(side_of_settings ht fLux).1.2 hs.1, fun hb => hs.2 ((side_of_settings ht fLux).2.1 hb)⟩
  have hcount : ∀ t fLux, t.nv.bIsNVModeAuto = TRUE → dark t fLux ∧ ¬ bright t fLux →
      nightCounter (autoStep t fLux) = tick (2 ^ 8) t.nv.sTriggerCounts (nightCounter t) :=
    fun t fLux hauto hs => autoStep_nightCounter hauto hs.1 hs.2
  have hlt : (nightCounter s).1 < 2 ^ 8 := hc.night
  have hmark := marked_after_spell h hT hlen hlt hside hcount hr
  simpa only [nightCounter, decide_eq_true_eq] using hmark

theorem day_after_spell (hr : ∀ fLux ∈ readings, bright s fLux ∧ ¬ dark s fLux) :
    (exec autoStep s readings).nv.bIsNightMode = FALSE ↔
      s.nv.sTriggerCounts ≤ 256 ∨ s.nv.bIsNightMode = FALSE := by
  have hside : ∀ t fLux, settings t.nv = settings s.nv → bright s fLux ∧ ¬ dark s fLux →
      bright t fLux ∧ ¬ dark t fLux := fun t fLux ht hs =>
    ⟨(side_of_settings ht fLux).2.2 hs.1, fun hd => hs.2 ((side_of_settings ht fLux).1.1 hd)⟩
  have hcount : ∀ t fLux, t.nv.bIsNVModeAuto = TRUE → bright t fLux ∧ ¬ dark t fLux →
      dayCounter (autoStep t fLux) = tick (2 ^ 8) t.nv.sTriggerCounts (dayCounter t) :=
    fun t fLux hauto hs => autoStep_dayCounter hauto hs.1 hs.2
  have hlt : (dayCounter s).1 < 2 ^ 8 := hc.day
  have hmark := marked_after_spell h hT hlen hlt hside hcount hr
  simpa only [dayCounter, decide_eq_true_eq] using hmark

end spell

theorem responsive_iff (calls : List Call)
    (h : (exec call nvStart calls).nv.bIsNVModeAuto = TRUE)
    (hT : 1 ≤ (exec call nvStart calls).nv.sTriggerCounts) :
    Responsive (exec call nvStart calls) ↔ InTime (exec call nvStart calls) := by
  have hc := calls_counted calls
  generalize exec call nvStart calls = s at *
  have hlen : ∀ fLux : ℚ, (List.replicate s.nv.sTriggerCounts.toNat fLux).length =
      s.nv.sTriggerCounts := by
    intro fLux
    rw [List.length_replicate]
    omega
  have hall : ∀ {P : ℚ → Prop} {fLux : ℚ}, P fLux →
      ∀ lux ∈ List.replicate s.nv.sTriggerCounts.toNat fLux, P lux := by
    intro P fLux hP lux hin
    rwa [List.eq_of_mem_replicate hin]
  constructor
  case mp =>
    intro hresp
    have hapart : ∀ fLux, dark s fLux → ¬ bright s fLux := by
      intro fLux hd hb
      have hnight := hresp.night _ (hlen fLux) (hall hd)
      rw [hresp.day _ (hlen fLux) (hall hb)] at hnight
      exact absurd hnight (by decide)
    refine ⟨hapart, ?_, ?_⟩
    · rintro ⟨fLux, hd⟩
      exact (night_after_spell h hc hT (hlen fLux) (hall ⟨hd, hapart fLux hd⟩)).1
        (hresp.night _ (hlen fLux) (hall hd))
    · rintro ⟨fLux, hb⟩
      have hd : ¬ dark s fLux := fun hd => hapart fLux hd hb
      exact (day_after_spell h hc hT (hlen fLux) (hall ⟨hb, hd⟩)).1
        (hresp.day _ (hlen fLux) (hall hb))
  case mpr =>
    intro htime
    have hfirst : ∀ readings : List ℚ, readings.length = s.nv.sTriggerCounts →
        ∃ fLux, fLux ∈ readings := fun readings hreadings =>
      List.exists_mem_of_length_pos (by omega)
    constructor
    · intro readings hreadings hd
      obtain ⟨fLux, hin⟩ := hfirst readings hreadings
      exact (night_after_spell h hc hT hreadings fun lux hlux =>
        ⟨hd lux hlux, htime.apart lux (hd lux hlux)⟩).2 (htime.night ⟨fLux, hd fLux hin⟩)
    · intro readings hreadings hb
      obtain ⟨fLux, hin⟩ := hfirst readings hreadings
      exact (day_after_spell h hc hT hreadings fun lux hlux =>
        ⟨hb lux hlux, fun hd => htime.apart lux hd (hb lux hlux)⟩).2
          (htime.day ⟨fLux, hb fLux hin⟩)

theorem responsive_at_start_iff :
    Responsive (exec call nvStart [.setTriggerCounts 256#32]) ↔
      InTime (exec call nvStart [.setTriggerCounts 256#32]) :=
  responsive_iff [.setTriggerCounts 256#32] rfl (by decide)

theorem late_trigger_stays_unswitched :
    ¬ ∀ calls : List Call, (exec call nvStart calls).nv.bIsNVModeAuto = TRUE →
      1 ≤ (exec call nvStart calls).nv.sTriggerCounts → Responsive (exec call nvStart calls) := by
  intro h
  have hresp := h [.setTriggerCounts 257#32] rfl (by decide)
  have hdark : ∀ fLux ∈ List.replicate 257 (1 : ℚ),
      dark (exec call nvStart [.setTriggerCounts 257#32]) fLux ∧
        ¬ bright (exec call nvStart [.setTriggerCounts 257#32]) fLux := by
    intro fLux hin
    rw [List.eq_of_mem_replicate hin]
    exact ⟨⟨by decide, by decide +kernel⟩, fun hb => absurd hb.2 (by decide +kernel)⟩
  have hlen : ((List.replicate 257 (1 : ℚ)).length : Int) =
      (exec call nvStart [.setTriggerCounts 257#32]).nv.sTriggerCounts := by
    rw [List.length_replicate]
    decide
  have hnight := hresp.night _ hlen fun fLux hin => (hdark fLux hin).1
  rw [night_after_spell rfl (calls_counted _) (by decide) hlen hdark] at hnight
  exact absurd hnight (by decide)

end PegaNvMode
