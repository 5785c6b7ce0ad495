import IrisFirmware.Misc.NvMode.Mode

namespace PegaNvMode

open Run

def start (fNightModeThd fDayModeThd fLuxCal fOffset : ℚ) (sTriggerCounts : Int) : NvState :=
  { nvStart with nv := { stNVmode with
    fNightModeThd := fNightModeThd
    fDayModeThd := fDayModeThd
    fLuxCal := fLuxCal
    fOffset := fOffset
    sTriggerCounts := sTriggerCounts } }

def autoStep (s : NvState) (fLux : ℚ) : NvState := (processing s fLux).1

def correctedLux (s : NvState) (fLux : ℚ) : ℚ := (luxUpdate s fLux).nv.fLux

def inconclusive (s : NvState) (fLux : ℚ) : Prop :=
  fLux < 0 ∨ (s.nv.fNightModeThd ≤ correctedLux s fLux ∧ correctedLux s fLux ≤ s.nv.fDayModeThd)

def switched (s : NvState) (fLux : ℚ) : Prop :=
  (autoStep s fLux).nv.bIsNightMode ≠ s.nv.bIsNightMode

instance (s : NvState) (fLux : ℚ) : Decidable (switched s fLux) :=
  inferInstanceAs (Decidable (_ ≠ _))

structure AutoInv (T : Int) (s : NvState) : Prop where
  auto : s.nv.bIsNVModeAuto = TRUE
  trigger : s.nv.sTriggerCounts = T
  ordered : s.nv.fNightModeThd ≤ s.nv.fDayModeThd

def waited (nv : NvDef) : Int :=
  if nv.bIsNightMode = TRUE then nv.u8DayModeCounts
  else if nv.bIsNightMode = FALSE then nv.u8NightModeCounts
  else max nv.u8DayModeCounts nv.u8NightModeCounts

inductive Outcome (s : NvState) (fLux : ℚ) : NvDef → Prop
  | ignored : inconclusive s fLux → Outcome s fLux s.nv
  | between : inconclusive s fLux → Outcome s fLux (luxUpdate s fLux).nv
  | nightCounted : Outcome s fLux { (luxUpdate s fLux).nv with
      u8NightModeCounts := (s.nv.u8NightModeCounts + 1) % 2 ^ 8 }
  | dayCounted : Outcome s fLux { (luxUpdate s fLux).nv with
      u8DayModeCounts := (s.nv.u8DayModeCounts + 1) % 2 ^ 8 }
  | night : ¬ inconclusive s fLux → s.nv.sTriggerCounts - 1 ≤ s.nv.u8NightModeCounts →
    Outcome s fLux { (luxUpdate s fLux).nv with u8DayModeCounts := 0, bIsNightMode := TRUE }
  | day : ¬ inconclusive s fLux → s.nv.sTriggerCounts - 1 ≤ s.nv.u8DayModeCounts →
      Outcome s fLux { (luxUpdate s fLux).nv with u8NightModeCounts := 0, bIsNightMode := FALSE }

theorem nightModeSet_nv (s : NvState) : (nightModeSet s).nv = { s.nv with bIsNightMode := TRUE } := by
  rw [nightModeSet]
  split_ifs with h
  · rw [← h]
  · rfl

theorem dayModeSet_nv (s : NvState) : (dayModeSet s).nv = { s.nv with bIsNightMode := FALSE } := by
  rw [dayModeSet]
  split_ifs with h
  · rw [← h]
  · rfl

theorem nightReading_below {s : NvState} (h : s.nv.fLux < s.nv.fNightModeThd) (rtn : Int) :
    (nightReading s rtn).1.nv =
      if s.nv.sTriggerCounts - 1 ≤ s.nv.u8NightModeCounts then
        { s.nv with u8DayModeCounts := 0, bIsNightMode := TRUE }
      else { s.nv with u8NightModeCounts := (s.nv.u8NightModeCounts + 1) % 2 ^ 8 } := by
  rw [nightReading, if_pos h]
  split_ifs
  · rw [nightModeSet_nv]
    rfl
  · rfl

theorem dayReading_above {s : NvState} (h : s.nv.fDayModeThd < s.nv.fLux) (rtn : Int) :
    (dayReading s rtn).1.nv =
      if s.nv.sTriggerCounts - 1 ≤ s.nv.u8DayModeCounts then
        { s.nv with u8NightModeCounts := 0, bIsNightMode := FALSE }
      else { s.nv with u8DayModeCounts := (s.nv.u8DayModeCounts + 1) % 2 ^ 8 } := by
  rw [dayReading, if_pos h]
  split_ifs
  · rw [dayModeSet_nv]
    rfl
  · rfl

theorem dayReading_not_above {s : NvState} (h : ¬ s.nv.fDayModeThd < s.nv.fLux) (rtn : Int) :
    dayReading s rtn = (s, rtn) := if_neg h

theorem nightReading_not_below {s : NvState} (h : ¬ s.nv.fLux < s.nv.fNightModeThd) (rtn : Int) :
    nightReading s rtn = (s, rtn) := if_neg h

theorem processing_only_below {s : NvState} (h : s.nv.bIsNVModeAuto = TRUE) {fLux : ℚ}
    (hpos : 0 ≤ fLux) (hn : correctedLux s fLux < s.nv.fNightModeThd)
    (hd : ¬ s.nv.fDayModeThd < correctedLux s fLux) :
    processing s fLux = nightReading (luxUpdate s fLux) notThing := by
  have hnd : ¬ (nightReading (luxUpdate s fLux) notThing).1.nv.fDayModeThd <
      (nightReading (luxUpdate s fLux) notThing).1.nv.fLux := by
    rw [nightReading_below hn]
    split_ifs <;> exact hd
  rw [processing, if_neg (not_not.mpr h), if_neg (not_lt.mpr hpos)]
  dsimp only
  rw [dayReading_not_above hnd]

theorem processing_below {T : Int} {s : NvState} (h : AutoInv T s) {fLux : ℚ} (hpos : 0 ≤ fLux)
    (hn : correctedLux s fLux < s.nv.fNightModeThd) :
    processing s fLux = nightReading (luxUpdate s fLux) notThing :=
  processing_only_below h.auto hpos hn (not_lt.mpr (hn.le.trans h.ordered))

theorem processing_not_below {s : NvState} (h : s.nv.bIsNVModeAuto = TRUE) {fLux : ℚ}
    (hpos : 0 ≤ fLux) (hn : ¬ correctedLux s fLux < s.nv.fNightModeThd) :
    processing s fLux = dayReading (luxUpdate s fLux) notThing := by
  rw [processing, if_neg (not_not.mpr h), if_neg (not_lt.mpr hpos)]
  dsimp only
  rw [nightReading_not_below hn]

theorem autoStep_outcome {T : Int} {s : NvState} (h : AutoInv T s) (fLux : ℚ) :
    Outcome s fLux (autoStep s fLux).nv := by
  rw [autoStep]
  rcases lt_or_ge fLux 0 with hneg | hpos
  · rw [processing, if_neg (not_not.mpr h.auto), if_pos hneg]
    exact .ignored (.inl hneg)
  have hloud : ∀ {P : Prop}, (s.nv.fNightModeThd ≤ correctedLux s fLux ∧
      correctedLux s fLux ≤ s.nv.fDayModeThd → P) → inconclusive s fLux → P :=
    fun hp hq => hp (hq.resolve_left (not_lt.mpr hpos))
  rcases lt_or_ge (correctedLux s fLux) s.nv.fNightModeThd with hn | hn
  · rw [processing_below h hpos hn, nightReading_below hn]
    split_ifs with ht
    · exact .night (hloud fun hb => absurd hn (not_lt.mpr hb.1)) ht
    · exact .nightCounted
  · rw [processing_not_below h.auto hpos (not_lt.mpr hn)]
    rcases lt_or_ge s.nv.fDayModeThd (correctedLux s fLux) with hd | hd
    · rw [dayReading_above hd]
      split_ifs with ht
      · exact .day (hloud fun hb => absurd hd (not_lt.mpr hb.2)) ht
      · exact .dayCounted
    · rw [dayReading_not_above (not_lt.mpr hd)]
      exact .between (.inr ⟨hn, hd⟩)

theorem wrapped_le (n : Nat) : (((n + 1) % 2 ^ 8 : Nat) : Int) ≤ n + 1 := by
  exact_mod_cast Nat.mod_le (n + 1) (2 ^ 8)

theorem autoStep_inv {T : Int} {s : NvState} (h : AutoInv T s) (fLux : ℚ) :
    AutoInv T (autoStep s fLux) := by
  obtain ⟨ha, ht, ho⟩ := h
  have hout := autoStep_outcome ⟨ha, ht, ho⟩ fLux
  generalize hnv : (autoStep s fLux).nv = nv at hout
  have hsame : nv.bIsNVModeAuto = s.nv.bIsNVModeAuto ∧ nv.sTriggerCounts = s.nv.sTriggerCounts ∧
      nv.fNightModeThd = s.nv.fNightModeThd ∧ nv.fDayModeThd = s.nv.fDayModeThd := by
    cases hout <;> exact ⟨rfl, rfl, rfl, rfl⟩
  subst hnv
  obtain ⟨h1, h2, h3, h4⟩ := hsame
  exact ⟨h1.trans ha, h2.trans ht, by rw [h3, h4]; exact ho⟩

theorem waited_nonneg (nv : NvDef) : 0 ≤ waited nv := by
  unfold waited
  split_ifs <;> omega

theorem le_waited_of_not_night {nv : NvDef} (h : nv.bIsNightMode ≠ TRUE) :
    (nv.u8NightModeCounts : Int) ≤ waited nv := by
  rw [waited, if_neg h]
  split_ifs
  · exact le_rfl
  · exact le_max_right _ _

theorem le_waited_of_not_day {nv : NvDef} (h : nv.bIsNightMode ≠ FALSE) :
    (nv.u8DayModeCounts : Int) ≤ waited nv := by
  rw [waited, if_neg h]
  split_ifs
  · exact le_rfl
  · exact le_max_left _ _

theorem Outcome.paid {s : NvState} {fLux : ℚ} {nv : NvDef} (h : Outcome s fLux nv) :
    (if nv.bIsNightMode ≠ s.nv.bIsNightMode then s.nv.sTriggerCounts else 0) + waited nv ≤
      waited s.nv + 1 := by
  cases h with
  | ignored _ => simp
  | between _ => simp [luxUpdate, waited]
  | nightCounted =>
    have hw := wrapped_le s.nv.u8NightModeCounts
    simp only [luxUpdate, waited, ne_eq, not_true_eq_false, if_false]
    split_ifs <;> omega
  | dayCounted =>
    have hw := wrapped_le s.nv.u8DayModeCounts
    simp only [luxUpdate, waited, ne_eq, not_true_eq_false, if_false]
    split_ifs <;> omega
  | night _ ht =>
    have hzero : waited { (luxUpdate s fLux).nv with
      u8DayModeCounts := 0, bIsNightMode := TRUE } = 0 := rfl
    rw [hzero]
    split_ifs with hs
    · have hle := le_waited_of_not_night (Ne.symm hs)
      omega
    · have hnn := waited_nonneg s.nv
      omega
  | day _ ht =>
    have hzero : waited { (luxUpdate s fLux).nv with
      u8NightModeCounts := 0, bIsNightMode := FALSE } = 0 := rfl
    rw [hzero]
    split_ifs with hs
    · have hle := le_waited_of_not_day (Ne.symm hs)
      omega
    · have hnn := waited_nonneg s.nv
      omega

theorem Outcome.unswitched {s : NvState} {fLux : ℚ} {nv : NvDef} (h : Outcome s fLux nv)
    (hq : inconclusive s fLux) : nv.bIsNightMode = s.nv.bIsNightMode := by
  cases h with
  | ignored _ => rfl
  | between _ => rfl
  | nightCounted => rfl
  | dayCounted => rfl
  | night hc _ => exact absurd hq hc
  | day hc _ => exact absurd hq hc

theorem start_inv {night day : ℚ} (h : night ≤ day) (cal offset : ℚ) (T : Int) :
    AutoInv T (start night day cal offset T) := ⟨rfl, rfl, h⟩

theorem switches_paid {T : Int} {s : NvState} (h : AutoInv T s) (readings : List ℚ) :
    T * tally autoStep switched s readings ≤ waited s.nv + readings.length := by
  have hpaid := tally_le_of_potential (P := switched) (I := AutoInv T) (T := T)
    (Φ := fun s => waited s.nv) (fun t fLux ht => ⟨autoStep_inv ht fLux, by
      have hp := (autoStep_outcome ht fLux).paid
      rw [ht.trigger] at hp
      exact hp⟩) h readings
  have hnn := waited_nonneg (exec autoStep s readings).nv
  omega

theorem mode_switches_bounded (T : Int) (hT : 1 ≤ T) (night day : ℚ) (hthd : night ≤ day)
    (cal offset : ℚ) (readings : List ℚ) :
    (tally autoStep switched (start night day cal offset T) readings : Int) ≤
      readings.length / T ∧
    Along autoStep (fun s fLux => inconclusive s fLux → ¬ switched s fLux)
      (start night day cal offset T) readings := by
  have hinv := start_inv hthd cal offset T
  constructor
  · have hpaid := switches_paid hinv readings
    have hstart : waited (start night day cal offset T).nv = 0 := rfl
    rw [hstart, zero_add] at hpaid
    exact (Int.le_ediv_iff_mul_le (by omega)).mpr (by rwa [mul_comm])
  · refine along_mono (P := fun _ _ => True) hinv (fun t fLux ht _ => ⟨fun hq hs => ?_, ?_⟩)
      (along_of_forall (fun _ _ _ => trivial) _)
    · exact hs ((autoStep_outcome ht fLux).unswitched hq)
    · exact autoStep_inv ht fLux

theorem eight_readings_switch_at_most_twice :
    tally autoStep switched (start 2 5 1 0 4) [1, 1, 3, 1, 1, 1, -1, 9] ≤ 2 := by
  have h := (mode_switches_bounded 4 (by decide) 2 5 (by norm_num) 1 0 [1, 1, 3, 1, 1, 1, -1, 9]).1
  exact_mod_cast h

end PegaNvMode
