import IrisFirmware.Misc.NvMode.Mode

namespace PegaNvMode

open PegaBoard Run

structure Driven (b : Board) (m : Nat) : Prop where
  coil : b.coil = (forceDayNightMode b m).coil
  irLed : (b.pwm pwmCh6).enable = ((forceDayNightMode b m).pwm pwmCh6).enable

def agrees (s : NvState) : Prop := Driven s.board s.nv.bIsNightMode

def Follows (s : NvState) : Op → Prop
  | .force m => (step s (.force m)).nv.bIsNightMode = m.toNat ∧ agrees (step s (.force m))
  | .processing lux => s.nv.bIsNVModeAuto ≠ TRUE → agrees (step s (.processing lux))
  | _ => True

def Op.skips (s : NvState) : Op → Prop
  | .force m => s.nv.bIsNightMode = m.toNat
  | .processing _ => s.nv.bIsNVModeAuto ≠ TRUE ∧ s.nv.bNVModeSet = TRUE
  | _ => False

def nightDue (nv : NvDef) : Prop :=
  nv.fLux < nv.fNightModeThd ∧ nv.sTriggerCounts - 1 ≤ nv.u8NightModeCounts

def dayDue (nv : NvDef) : Prop :=
  nv.fDayModeThd < nv.fLux ∧ nv.sTriggerCounts - 1 ≤ nv.u8DayModeCounts

instance (nv : NvDef) : Decidable (nightDue nv) := inferInstanceAs (Decidable (_ ∧ _))

instance (nv : NvDef) : Decidable (dayDue nv) := inferInstanceAs (Decidable (_ ∧ _))

def autoDrives (nv : NvDef) : Option Bool :=
  if nightDue nv ∧ nv.bIsNightMode ≠ TRUE then some true
  else if dayDue nv ∧ nv.bIsNightMode ≠ FALSE then some false
  else none

def Op.drives (s : NvState) : Op → Option Bool
  | .force m => if s.nv.bIsNightMode = m.toNat then none else some m
  | .processing lux =>
    if s.nv.bIsNVModeAuto ≠ TRUE then
      if s.nv.bNVModeSet = TRUE then none else some (decide (s.nv.bIsNightMode = TRUE))
    else if lux < 0 then none
    else autoDrives (luxUpdate s lux).nv
  | _ => none

def Op.writes : Op → Option Bool
  | .manualSet m => some m
  | .nightModeSet m => some m
  | _ => none

structure Sent where
  drove : Option Bool
  wrote : Option Bool
deriving DecidableEq, Repr

def nothingSent : Sent := ⟨none, none⟩

def Sent.note (h : Sent) (s : NvState) (op : Op) : Sent :=
  match op.drives s with
  | some m => ⟨some m, none⟩
  | none => { h with wrote := op.writes <|> h.wrote }

def Sent.upToDate (h : Sent) : Prop := ∃ m, h.drove = some m ∧ ∀ w, h.wrote = some w → w = m

def noted (p : NvState × Sent) (op : Op) : NvState × Sent := (step p.1 op, p.2.note p.1 op)

structure Shows (s : NvState) (h : Sent) : Prop where
  apart : s.nv.fNightModeThd ≤ s.nv.fDayModeThd
  idle : h.drove = none → s.board.coil = none
  driven : ∀ m, h.drove = some m →
    Driven s.board m.toNat ∧ s.nv.bIsNightMode = (h.wrote.getD m).toNat

def Sends (s t : NvState) : Option Bool → Option Bool → Prop
  | some m, _ => Driven t.board m.toNat ∧ t.nv.bIsNightMode = m.toNat
  | none, some m => t.board = s.board ∧ t.nv.bIsNightMode = m.toNat
  | none, none => t.board = s.board ∧ t.nv.bIsNightMode = s.nv.bIsNightMode

theorem driven_force (b : Board) (m : Nat) : Driven (forceDayNightMode b m) m :=
  ⟨by simp, by simp⟩

theorem driven_iff {b : Board} {m : Bool} (h : Driven b m.toNat) (w : Bool) :
    Driven b w.toNat ↔ w = m := by
  constructor
  · intro hw
    have hled := h.irLed.symm.trans hw.irLed
    rw [forceDayNightMode_irLed, forceDayNightMode_irLed] at hled
    revert hled
    cases m <;> cases w <;> decide
  · rintro rfl
    exact h

theorem not_driven {b : Board} (h : b.coil = none) (m : Nat) : ¬ Driven b m := by
  intro hd
  have hcoil := h.symm.trans hd.coil
  rw [forceDayNightMode_coil] at hcoil
  cases hcoil

theorem agrees_iff {s : NvState} {h : Sent} (hs : Shows s h) : agrees s ↔ h.upToDate := by
  rw [agrees, Sent.upToDate]
  cases hd : h.drove with
  | none => exact iff_of_false (not_driven (hs.idle hd) _) (by simp)
  | some m =>
    obtain ⟨hdriven, hflag⟩ := hs.driven m hd
    rw [hflag, driven_iff hdriven]
    cases h.wrote <;> simp

theorem nightModeSet_outcome (s : NvState) :
    Sends s (nightModeSet s) (if s.nv.bIsNightMode ≠ TRUE then some true else none) none := by
  by_cases h : s.nv.bIsNightMode = TRUE
  · rw [nightModeSet, if_pos h, if_neg (not_not.mpr h)]
    exact ⟨rfl, rfl⟩
  · rw [nightModeSet, if_neg h, if_pos h]
    exact ⟨driven_force s.board TRUE, rfl⟩

theorem dayModeSet_outcome (s : NvState) :
    Sends s (dayModeSet s) (if s.nv.bIsNightMode ≠ FALSE then some false else none) none := by
  by_cases h : s.nv.bIsNightMode = FALSE
  · rw [dayModeSet, if_pos h, if_neg (not_not.mpr h)]
    exact ⟨rfl, rfl⟩
  · rw [dayModeSet, if_neg h, if_pos h]
    exact ⟨driven_force s.board FALSE, rfl⟩

theorem modeManualSet_outcome (s : NvState) :
    Sends s (modeManualSet s) (if s.nv.bNVModeSet = TRUE then none
      else some (decide (s.nv.bIsNightMode = TRUE))) none := by
  rw [modeManualSet]
  split_ifs with hset hnight
  · exact ⟨rfl, rfl⟩
  · rw [decide_eq_true hnight]
    exact nightModeSet_outcome (setNightFlag s FALSE)
  · rw [decide_eq_false hnight]
    exact dayModeSet_outcome (setNightFlag s TRUE)

theorem nightReading_outcome {s : NvState} (rtn : Int) (h : nightDue s.nv) :
    Sends s (nightReading s rtn).1 (if s.nv.bIsNightMode ≠ TRUE then some true else none)
      none := by
  rw [nightReading, if_pos h.1, if_pos h.2]
  exact nightModeSet_outcome (setDayCounts s 0)

theorem nightReading_counts {s : NvState} (rtn : Int) (h : ¬ nightDue s.nv) :
    ∃ n, (nightReading s rtn).1 = setNightCounts s n := by
  rw [nightReading]
  split_ifs with hlux hdue
  · exact absurd ⟨hlux, hdue⟩ h
  · exact ⟨_, rfl⟩
  · exact ⟨s.nv.u8NightModeCounts, rfl⟩

theorem dayReading_outcome {s : NvState} (rtn : Int) :
    Sends s (dayReading s rtn).1
      (if dayDue s.nv ∧ s.nv.bIsNightMode ≠ FALSE then some false else none) none := by
  rw [dayReading]
  by_cases hlux : s.nv.fDayModeThd < s.nv.fLux
  case neg =>
    rw [if_neg hlux, if_neg fun h => hlux h.1.1]
    exact ⟨rfl, rfl⟩
  case pos =>
    rw [if_pos hlux]
    by_cases hdue : s.nv.sTriggerCounts - 1 ≤ s.nv.u8DayModeCounts
    case neg =>
      rw [if_neg hdue, if_neg fun h => hdue h.1.2]
      exact ⟨rfl, rfl⟩
    case pos =>
      rw [if_pos hdue]
      have hday := dayModeSet_outcome (setNightCounts s 0)
      by_cases hflag : s.nv.bIsNightMode = FALSE
      · rw [if_neg fun h => h.2 hflag]
        rwa [if_neg (not_not.mpr (show (setNightCounts s 0).nv.bIsNightMode = FALSE from hflag))]
          at hday
      · rw [if_pos ⟨⟨hlux, hdue⟩, hflag⟩]
        rwa [if_pos (show (setNightCounts s 0).nv.bIsNightMode ≠ FALSE from hflag)] at hday

structure SameLux (s t : NvState) : Prop where
  lux : t.nv.fLux = s.nv.fLux
  night : t.nv.fNightModeThd = s.nv.fNightModeThd
  day : t.nv.fDayModeThd = s.nv.fDayModeThd

theorem nightModeSet_lux (s : NvState) : SameLux s (nightModeSet s) := by
  rw [nightModeSet]
  split_ifs <;> exact ⟨rfl, rfl, rfl⟩

theorem dayModeSet_lux (s : NvState) : SameLux s (dayModeSet s) := by
  rw [dayModeSet]
  split_ifs <;> exact ⟨rfl, rfl, rfl⟩

theorem modeManualSet_lux (s : NvState) : SameLux s (modeManualSet s) := by
  rw [modeManualSet]
  split_ifs
  · exact ⟨rfl, rfl, rfl⟩
  · obtain ⟨hlux, hnight, hday⟩ := nightModeSet_lux (setNightFlag s FALSE)
    exact ⟨hlux, hnight, hday⟩
  · obtain ⟨hlux, hnight, hday⟩ := dayModeSet_lux (setNightFlag s TRUE)
    exact ⟨hlux, hnight, hday⟩

theorem nightReading_lux (s : NvState) (rtn : Int) : SameLux s (nightReading s rtn).1 := by
  rw [nightReading]
  split_ifs
  · obtain ⟨hlux, hnight, hday⟩ := nightModeSet_lux (setDayCounts s 0)
    exact ⟨hlux, hnight, hday⟩
  · exact ⟨rfl, rfl, rfl⟩
  · exact ⟨rfl, rfl, rfl⟩

theorem dayReading_lux (s : NvState) (rtn : Int) : SameLux s (dayReading s rtn).1 := by
  rw [dayReading]
  split_ifs
  · obtain ⟨hlux, hnight, hday⟩ := dayModeSet_lux (setNightCounts s 0)
    exact ⟨hlux, hnight, hday⟩
  · exact ⟨rfl, rfl, rfl⟩
  · exact ⟨rfl, rfl, rfl⟩

theorem readings_outcome {s : NvState} (hs : s.nv.fNightModeThd ≤ s.nv.fDayModeThd) (rtn : Int) :
    Sends s (dayReading (nightReading s rtn).1 (nightReading s rtn).2).1 (autoDrives s.nv)
      none := by
  by_cases hnight : nightDue s.nv
  case pos =>
    have hsame := nightReading_lux s rtn
    have hdark : ¬ (nightReading s rtn).1.nv.fDayModeThd < (nightReading s rtn).1.nv.fLux := by
      rw [hsame.lux, hsame.day]
      exact not_lt.mpr (hnight.1.le.trans hs)
    have hday : ¬ (dayDue s.nv ∧ s.nv.bIsNightMode ≠ FALSE) := fun h =>
      absurd h.1.1 (not_lt.mpr (hnight.1.le.trans hs))
    rw [dayReading, if_neg hdark, autoDrives, if_neg hday]
    simpa only [hnight, true_and] using nightReading_outcome rtn hnight
  case neg =>
    obtain ⟨n, hn⟩ := nightReading_counts rtn hnight
    rw [hn, autoDrives, if_neg fun h => hnight h.1]
    exact dayReading_outcome (s := setNightCounts s n) _

theorem step_thresholds (s : NvState) (op : Op) :
    (step s op).nv.fNightModeThd = s.nv.fNightModeThd ∧
      (step s op).nv.fDayModeThd = s.nv.fDayModeThd := by
  cases op with
  | manualSet m => exact ⟨rfl, rfl⟩
  | nightModeSet m => exact ⟨rfl, rfl⟩
  | controlSet b => exact ⟨rfl, rfl⟩
  | force m =>
    simp only [step, diagForceDayNightMode, setNightFlag]
    split_ifs <;> exact ⟨rfl, rfl⟩
  | processing lux =>
    simp only [step, processing]
    split_ifs
    · exact ⟨(modeManualSet_lux s).night, (modeManualSet_lux s).day⟩
    · exact ⟨rfl, rfl⟩
    · have hnight := nightReading_lux (luxUpdate s lux) notThing
      have hday := dayReading_lux (nightReading (luxUpdate s lux) notThing).1
        (nightReading (luxUpdate s lux) notThing).2
      exact ⟨hday.night.trans hnight.night, hday.day.trans hnight.day⟩

theorem step_outcome {s : NvState} (hs : s.nv.fNightModeThd ≤ s.nv.fDayModeThd) (op : Op) :
    Sends s (step s op) (op.drives s) op.writes := by
  cases op with
  | manualSet m => exact ⟨rfl, rfl⟩
  | nightModeSet m => exact ⟨rfl, rfl⟩
  | controlSet b => exact ⟨rfl, rfl⟩
  | force m =>
    simp only [step, diagForceDayNightMode, Op.drives]
    by_cases hm : s.nv.bIsNightMode = m.toNat
    · rw [if_neg (not_not.mpr hm), if_pos hm]
      exact ⟨rfl, rfl⟩
    · rw [if_pos hm, if_neg hm]
      exact ⟨driven_force s.board m.toNat, rfl⟩
  | processing lux =>
    simp only [step, processing, Op.drives]
    split_ifs with hauto hset hlux
    · have hmanual := modeManualSet_outcome s
      rwa [if_pos hset] at hmanual
    · have hmanual := modeManualSet_outcome s
      rwa [if_neg hset] at hmanual
    · exact ⟨rfl, rfl⟩
    · exact readings_outcome (s := luxUpdate s lux) hs notThing

theorem shows_step {s : NvState} {h : Sent} (hs : Shows s h) (op : Op) :
    Shows (step s op) (h.note s op) := by
  obtain ⟨hnight, hday⟩ := step_thresholds s op
  have hstep := step_outcome hs.apart op
  have hapart : (step s op).nv.fNightModeThd ≤ (step s op).nv.fDayModeThd := by
    rw [hday, hnight]
    exact hs.apart
  rw [Sent.note]
  cases hdrives : op.drives s with
  | some m =>
    rw [hdrives] at hstep
    refine ⟨hapart, fun hnone => absurd hnone (by simp), fun d hd => ?_⟩
    obtain rfl := Option.some.inj hd
    exact hstep
  | none =>
    rw [hdrives] at hstep
    cases hwrites : op.writes with
    | some w =>
      rw [hwrites] at hstep
      refine ⟨hapart, fun hnone => hstep.1 ▸ hs.idle hnone, fun d hd => ?_⟩
      exact ⟨hstep.1 ▸ (hs.driven d hd).1, hstep.2⟩
    | none =>
      rw [hwrites] at hstep
      refine ⟨hapart, fun hnone => hstep.1 ▸ hs.idle hnone, fun d hd => ?_⟩
      obtain ⟨hdriven, hflag⟩ := hs.driven d hd
      exact ⟨hstep.1 ▸ hdriven, hstep.2.trans hflag⟩

theorem modeManualSet_agrees {s : NvState} (h : s.nv.bNVModeSet ≠ TRUE) :
    agrees (modeManualSet s) := by
  have hmanual := modeManualSet_outcome s
  rw [if_neg h] at hmanual
  rw [agrees, hmanual.2]
  exact hmanual.1

theorem force_agrees {s : NvState} {m : Nat} (h : s.nv.bIsNightMode ≠ m) :
    agrees (diagForceDayNightMode s m) := by
  rw [diagForceDayNightMode]
  simp only [if_pos h]
  exact driven_force _ _

theorem force_flag (s : NvState) (m : Nat) : (diagForceDayNightMode s m).nv.bIsNightMode = m := by
  by_cases h : s.nv.bIsNightMode = m
  · simp [diagForceDayNightMode, h]
  · simp [diagForceDayNightMode, h, setNightFlag]

theorem force_skips {s : NvState} {m : Nat} (h : s.nv.bIsNightMode = m) :
    agrees (diagForceDayNightMode s m) ↔ agrees s := by
  simp [diagForceDayNightMode, h, agrees]

theorem follows_iff (s : NvState) (op : Op) : Follows s op ↔ (op.skips s → agrees s) := by
  cases op with
  | force m =>
    by_cases h : s.nv.bIsNightMode = m.toNat
    · simp only [Follows, Op.skips, step, force_flag, force_skips h, h, true_and, true_imp_iff]
    · simp only [Follows, Op.skips, step, force_flag, h, true_and, false_imp_iff, iff_true]
      exact force_agrees h
  | processing lux =>
    by_cases ha : s.nv.bIsNVModeAuto = TRUE
    · simp [Follows, Op.skips, ha]
    · have hp : step s (.processing lux) = modeManualSet s := by
        simp [step, processing, ha]
      by_cases h : s.nv.bNVModeSet = TRUE
      · have hs : modeManualSet s = s := if_pos h
        simp [Follows, Op.skips, ha, h, hp, hs]
      · simp [Follows, Op.skips, ha, h, hp, modeManualSet_agrees h]
  | manualSet m => simp [Follows, Op.skips]
  | nightModeSet m => simp [Follows, Op.skips]
  | controlSet b => simp [Follows, Op.skips]

theorem shows_start : Shows nvStart nothingSent where
  apart := by decide +kernel
  idle _ := rfl
  driven _ h := by cases h

theorem actuators_follow_iff (ops : List Op) :
    Along step Follows nvStart ops ↔
      Along noted (fun p op => op.skips p.1 → p.2.upToDate) (nvStart, nothingSent) ops := by
  have hproject : Along noted (fun p op => Follows p.1 op) (nvStart, nothingSent) ops ↔
      Along step Follows nvStart ops := along_comap Prod.fst (fun _ _ => rfl) _ ops
  rw [← hproject]
  refine along_iff (I := fun p => Shows p.1 p.2) shows_start (fun p op h => ?_)
    fun p op h _ => shows_step h op
  rw [follows_iff, agrees_iff h]

theorem night_flag_blocks_force :
    ¬ Along step Follows nvStart [.force false, .nightModeSet true, .force true] := by
  intro h
  have hcoil := h.2.2.1.2.coil
  exact absurd hcoil (by decide)

end PegaNvMode
