import IrisFirmware.Misc.NvMode.Debounce

namespace PegaNvMode

open Run

inductive AutoOp where
  | processing (fLux : ℚ)
  | controlSet
deriving DecidableEq, Repr

def AutoOp.op : AutoOp → Op
  | .processing fLux => .processing fLux
  | .controlSet => .controlSet true

def spellStep (s : NvState) (a : AutoOp) : NvState := step s a.op

def AutoOp.dark (s : NvState) : AutoOp → Prop
  | .processing fLux => 0 ≤ fLux ∧ correctedLux s fLux < s.nv.fNightModeThd
  | .controlSet => False

def AutoOp.bright (s : NvState) : AutoOp → Prop
  | .processing fLux => 0 ≤ fLux ∧ s.nv.fDayModeThd < correctedLux s fLux
  | .controlSet => False

instance (s : NvState) (a : AutoOp) : Decidable (a.dark s) := by
  cases a <;> unfold AutoOp.dark <;> infer_instance

instance (s : NvState) (a : AutoOp) : Decidable (a.bright s) := by
  cases a <;> unfold AutoOp.bright <;> infer_instance

def AutoOp.rtn (s : NvState) : AutoOp → Int
  | .processing fLux => (PegaNvMode.processing s fLux).2
  | .controlSet => notThing

def AutoOp.endsDark (s : NvState) (a : AutoOp) : Prop := a.rtn s = nvModeDay ∨ a = .controlSet

def AutoOp.endsBright (s : NvState) (a : AutoOp) : Prop :=
  a.rtn s = nvModeStateNight ∨ a = .controlSet

instance (s : NvState) (a : AutoOp) : Decidable (a.endsDark s) :=
  inferInstanceAs (Decidable (_ ∨ _))

instance (s : NvState) (a : AutoOp) : Decidable (a.endsBright s) :=
  inferInstanceAs (Decidable (_ ∨ _))

def toNight (s : NvState) (a : AutoOp) : Prop :=
  s.nv.bIsNightMode ≠ TRUE ∧ (spellStep s a).nv.bIsNightMode = TRUE

def toDay (s : NvState) (a : AutoOp) : Prop :=
  s.nv.bIsNightMode ≠ FALSE ∧ (spellStep s a).nv.bIsNightMode = FALSE

instance (s : NvState) (a : AutoOp) : Decidable (toNight s a) := inferInstanceAs (Decidable (_ ∧ _))

instance (s : NvState) (a : AutoOp) : Decidable (toDay s a) := inferInstanceAs (Decidable (_ ∧ _))

def darkSince (resets : NvState → AutoOp → Prop) [∀ s a, Decidable (resets s a)] (s : NvState)
    (as : List AutoOp) : Nat := since (fun s a => a.dark s) resets spellStep s 0 as

def brightSince (resets : NvState → AutoOp → Prop) [∀ s a, Decidable (resets s a)] (s : NvState)
    (as : List AutoOp) : Nat := since (fun s a => a.bright s) resets spellStep s 0 as

inductive Spell (s : NvState) (a : AutoOp) : Nat → Nat → Nat → Int → Prop
  | still : ¬ a.dark s → ¬ a.bright s →
      Spell s a s.nv.bIsNightMode s.nv.u8NightModeCounts s.nv.u8DayModeCounts notThing
  | darker : a.dark s → ¬ a.bright s →
      Spell s a s.nv.bIsNightMode ((s.nv.u8NightModeCounts + 1) % 2 ^ 8) s.nv.u8DayModeCounts
        notThing
  | night : a.dark s → ¬ a.bright s → s.nv.sTriggerCounts - 1 ≤ s.nv.u8NightModeCounts →
      Spell s a TRUE s.nv.u8NightModeCounts 0 nvModeStateNight
  | brighter : ¬ a.dark s → a.bright s →
      Spell s a s.nv.bIsNightMode s.nv.u8NightModeCounts ((s.nv.u8DayModeCounts + 1) % 2 ^ 8)
        notThing
  | day : ¬ a.dark s → a.bright s → s.nv.sTriggerCounts - 1 ≤ s.nv.u8DayModeCounts →
      Spell s a FALSE 0 s.nv.u8DayModeCounts nvModeDay

theorem nightReading_rtn {s : NvState} (h : s.nv.fLux < s.nv.fNightModeThd) (rtn : Int) :
    (nightReading s rtn).2 =
      if s.nv.sTriggerCounts - 1 ≤ s.nv.u8NightModeCounts then nvModeStateNight else rtn := by
  rw [nightReading, if_pos h]
  split_ifs <;> rfl

theorem dayReading_rtn {s : NvState} (h : s.nv.fDayModeThd < s.nv.fLux) (rtn : Int) :
    (dayReading s rtn).2 =
      if s.nv.sTriggerCounts - 1 ≤ s.nv.u8DayModeCounts then nvModeDay else rtn := by
  rw [dayReading, if_pos h]
  split_ifs <;> rfl

theorem not_bright_of_dark {T : Int} {s : NvState} (h : AutoInv T s) {a : AutoOp}
    (hd : a.dark s) : ¬ a.bright s := by
  cases a with
  | controlSet => exact id
  | processing fLux => exact fun hb => absurd (hd.2.trans_le h.ordered) (not_lt.mpr hb.2.le)

theorem processing_spell {T : Int} {s : NvState} (h : AutoInv T s) (fLux : ℚ) :
    Spell s (.processing fLux) (spellStep s (.processing fLux)).nv.bIsNightMode
      (spellStep s (.processing fLux)).nv.u8NightModeCounts
      (spellStep s (.processing fLux)).nv.u8DayModeCounts ((AutoOp.processing fLux).rtn s) := by
  change Spell s (.processing fLux) (processing s fLux).1.nv.bIsNightMode
    (processing s fLux).1.nv.u8NightModeCounts (processing s fLux).1.nv.u8DayModeCounts
    (processing s fLux).2
  rcases Decidable.em ((AutoOp.processing fLux).dark s) with hd | hd
  · have hb := not_bright_of_dark h hd
    rw [processing_below h hd.1 hd.2, nightReading_below hd.2, nightReading_rtn hd.2]
    split_ifs with ht
    · exact .night hd hb ht
    · exact .darker hd hb
  rcases lt_or_ge fLux 0 with hneg | hpos
  · rw [processing, if_neg (not_not.mpr h.auto), if_pos hneg]
    exact .still hd fun hb => absurd hb.1 (not_le.mpr hneg)
  rw [processing_not_below h.auto hpos fun hn => hd ⟨hpos, hn⟩]
  rcases Decidable.em ((AutoOp.processing fLux).bright s) with hb | hb
  · rw [dayReading_above hb.2, dayReading_rtn hb.2]
    split_ifs with ht
    · exact .day hd hb ht
    · exact .brighter hd hb
  · rw [dayReading_not_above fun hlt => hb ⟨hpos, hlt⟩]
    exact .still hd hb

theorem spell_inv {T : Int} {s : NvState} (h : AutoInv T s) (a : AutoOp) :
    AutoInv T (spellStep s a) := by
  cases a with
  | processing fLux => exact autoStep_inv h fLux
  | controlSet => exact ⟨rfl, h.trigger, h.ordered⟩

theorem advance_counted {counts resets : NvState → AutoOp → Prop} [∀ s a, Decidable (counts s a)]
    [∀ s a, Decidable (resets s a)] {s : NvState} {a : AutoOp} (hc : counts s a)
    (hr : ¬ resets s a) (n : Nat) : advance counts resets s a n = n + 1 := by
  rw [advance, if_neg hr, if_pos hc]

theorem advance_kept {counts resets : NvState → AutoOp → Prop} [∀ s a, Decidable (counts s a)]
    [∀ s a, Decidable (resets s a)] {s : NvState} {a : AutoOp} (hc : ¬ counts s a)
    (hr : ¬ resets s a) (n : Nat) : advance counts resets s a n = n := by
  rw [advance, if_neg hr, if_neg hc]

theorem endsDark_processing {s : NvState} {fLux : ℚ} {rtn : Int}
    (h : (AutoOp.processing fLux).rtn s = rtn) (hne : rtn ≠ nvModeDay) :
    ¬ (AutoOp.processing fLux).endsDark s := by
  rintro (hday | hset)
  · exact hne (h.symm.trans hday)
  · cases hset

theorem endsBright_processing {s : NvState} {fLux : ℚ} {rtn : Int}
    (h : (AutoOp.processing fLux).rtn s = rtn) (hne : rtn ≠ nvModeStateNight) :
    ¬ (AutoOp.processing fLux).endsBright s := by
  rintro (hnight | hset)
  · exact hne (h.symm.trans hnight)
  · cases hset

theorem night_counted {T : Int} {s : NvState} (h : AutoInv T s) (a : AutoOp) {n : Nat}
    (hn : s.nv.u8NightModeCounts ≤ n) :
    (spellStep s a).nv.u8NightModeCounts ≤
      advance (fun s a => a.dark s) (fun s a => a.endsDark s) s a n := by
  cases a with
  | controlSet => exact Nat.zero_le _
  | processing fLux =>
    have hspell := processing_spell h fLux
    generalize (spellStep s (.processing fLux)).nv.u8NightModeCounts = night at hspell ⊢
    generalize (spellStep s (.processing fLux)).nv.u8DayModeCounts = day at hspell
    generalize (spellStep s (.processing fLux)).nv.bIsNightMode = m at hspell
    generalize hrtn : (AutoOp.processing fLux).rtn s = rtn at hspell
    cases hspell with
    | still hd _ => rwa [advance_kept hd (endsDark_processing hrtn (by decide))]
    | darker hd _ =>
      rw [advance_counted hd (endsDark_processing hrtn (by decide))]
      exact (Nat.mod_le _ _).trans (Nat.add_le_add_right hn 1)
    | night hd _ _ =>
      rw [advance_counted hd (endsDark_processing hrtn (by decide))]
      exact hn.trans (Nat.le_add_right _ 1)
    | brighter hd _ => rwa [advance_kept hd (endsDark_processing hrtn (by decide))]
    | day _ _ _ => exact Nat.zero_le _

theorem day_counted {T : Int} {s : NvState} (h : AutoInv T s) (a : AutoOp) {n : Nat}
    (hn : s.nv.u8DayModeCounts ≤ n) :
    (spellStep s a).nv.u8DayModeCounts ≤
      advance (fun s a => a.bright s) (fun s a => a.endsBright s) s a n := by
  cases a with
  | controlSet => exact Nat.zero_le _
  | processing fLux =>
    have hspell := processing_spell h fLux
    generalize (spellStep s (.processing fLux)).nv.u8DayModeCounts = day at hspell ⊢
    generalize (spellStep s (.processing fLux)).nv.u8NightModeCounts = night at hspell
    generalize (spellStep s (.processing fLux)).nv.bIsNightMode = m at hspell
    generalize hrtn : (AutoOp.processing fLux).rtn s = rtn at hspell
    cases hspell with
    | still _ hb => rwa [advance_kept hb (endsBright_processing hrtn (by decide))]
    | darker _ hb => rwa [advance_kept hb (endsBright_processing hrtn (by decide))]
    | night _ _ _ => exact Nat.zero_le _
    | brighter _ hb =>
      rw [advance_counted hb (endsBright_processing hrtn (by decide))]
      exact (Nat.mod_le _ _).trans (Nat.add_le_add_right hn 1)
    | day _ hb _ =>
      rw [advance_counted hb (endsBright_processing hrtn (by decide))]
      exact hn.trans (Nat.le_add_right _ 1)

theorem toNight_counted {T : Int} {s : NvState} (h : AutoInv T s) {a : AutoOp}
    (hsw : toNight s a) :
    a.dark s ∧ ¬ a.endsDark s ∧ T - 1 ≤ s.nv.u8NightModeCounts := by
  cases a with
  | controlSet => exact absurd hsw.2 hsw.1
  | processing fLux =>
    have hspell := processing_spell h fLux
    have hmode := hsw.2
    generalize (spellStep s (.processing fLux)).nv.bIsNightMode = m at hspell hmode
    generalize (spellStep s (.processing fLux)).nv.u8NightModeCounts = night at hspell
    generalize (spellStep s (.processing fLux)).nv.u8DayModeCounts = day at hspell
    generalize hrtn : (AutoOp.processing fLux).rtn s = rtn at hspell
    cases hspell with
    | still _ _ => exact absurd hmode hsw.1
    | darker _ _ => exact absurd hmode hsw.1
    | night hd _ ht =>
      exact ⟨hd, endsDark_processing hrtn (by decide), h.trigger ▸ ht⟩
    | brighter _ _ => exact absurd hmode hsw.1
    | day _ _ _ => exact absurd hmode (by decide)

theorem toDay_counted {T : Int} {s : NvState} (h : AutoInv T s) {a : AutoOp}
    (hsw : toDay s a) :
    a.bright s ∧ ¬ a.endsBright s ∧ T - 1 ≤ s.nv.u8DayModeCounts := by
  cases a with
  | controlSet => exact absurd hsw.2 hsw.1
  | processing fLux =>
    have hspell := processing_spell h fLux
    have hmode := hsw.2
    generalize (spellStep s (.processing fLux)).nv.bIsNightMode = m at hspell hmode
    generalize (spellStep s (.processing fLux)).nv.u8NightModeCounts = night at hspell
    generalize (spellStep s (.processing fLux)).nv.u8DayModeCounts = day at hspell
    generalize hrtn : (AutoOp.processing fLux).rtn s = rtn at hspell
    cases hspell with
    | still _ _ => exact absurd hmode hsw.1
    | darker _ _ => exact absurd hmode hsw.1
    | night _ _ _ => exact absurd hmode (by decide)
    | brighter _ _ => exact absurd hmode hsw.1
    | day _ hb ht =>
      exact ⟨hb, endsBright_processing hrtn (by decide), h.trigger ▸ ht⟩

theorem switch_counted (T : Int) {night day : ℚ} (hthd : night ≤ day) (cal offset : ℚ)
    (pre : List AutoOp) (a : AutoOp) :
    let s := start night day cal offset T
    (toNight (exec spellStep s pre) a →
      T ≤ darkSince (fun s a => a.endsDark s) s (pre ++ [a])) ∧
    (toDay (exec spellStep s pre) a →
      T ≤ brightSince (fun s a => a.endsBright s) s (pre ++ [a])) := by
  intro s
  have hinv : AutoInv T s := start_inv hthd cal offset T
  constructor
  · intro hsw
    have hcount : ∀ t b n, AutoInv T t → t.nv.u8NightModeCounts ≤ n →
        AutoInv T (spellStep t b) ∧ (spellStep t b).nv.u8NightModeCounts ≤
          advance (fun s a => a.dark s) (fun s a => a.endsDark s) t b n :=
      fun t b n ht hn => ⟨spell_inv ht b, night_counted ht b hn⟩
    obtain ⟨hpre, hle⟩ := le_since (f := fun s => s.nv.u8NightModeCounts) hcount hinv
      (Nat.zero_le 0) pre
    obtain ⟨hd, hr, ht⟩ := toNight_counted hpre hsw
    rw [darkSince, since_concat, advance_counted hd hr]
    push_cast
    omega
  · intro hsw
    have hcount : ∀ t b n, AutoInv T t → t.nv.u8DayModeCounts ≤ n →
        AutoInv T (spellStep t b) ∧ (spellStep t b).nv.u8DayModeCounts ≤
          advance (fun s a => a.bright s) (fun s a => a.endsBright s) t b n :=
      fun t b n ht hn => ⟨spell_inv ht b, day_counted ht b hn⟩
    obtain ⟨hpre, hle⟩ := le_since (f := fun s => s.nv.u8DayModeCounts) hcount hinv
      (Nat.zero_le 0) pre
    obtain ⟨hb, hr, ht⟩ := toDay_counted hpre hsw
    rw [brightSince, since_concat, advance_counted hb hr]
    push_cast
    omega

theorem two_dark_readings_switch :
    (2 : Int) ≤ darkSince (fun s a => a.endsDark s) (start 2 5 1 0 2)
      ([.processing 1] ++ [.processing 1]) :=
  (switch_counted 2 (by norm_num) 1 0 [.processing 1] (.processing 1)).1 (by decide +kernel)

theorem one_dark_reading_since_bright :
    toNight (exec spellStep (start 2 5 1 0 2) [.processing 1, .processing 9]) (.processing 1) ∧
      ¬ 2 ≤ darkSince (fun s a => a.bright s) (start 2 5 1 0 2)
        ([.processing 1, .processing 9] ++ [.processing 1]) := by
  decide +kernel

end PegaNvMode
