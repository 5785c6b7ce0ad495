import IrisFirmware.Misc.LedFlash.Priority

namespace PegaLedFlash

open PegaBoard Worker Run

-- ran: a thread that the call creates gets to its first sleep before the call returns
inductive Call where
  | patternSet (ePattern : Nat) (ran : Bool)
  | stateSet (estate : Nat) (ran : Bool)
  | chanel
  | thread (id : Nat)
deriving DecidableEq, Repr

def started (ran : Bool) (s : LedFlash) : LedFlash := if ran then taskTurn s.pool.handle s else s

def callStep (s : LedFlash) : Call → LedFlash
  | .patternSet ePattern ran => started ran (patternSet s ePattern).1
  | .stateSet estate ran =>
    if accepted s estate then started ran (stateSet s estate).1 else (stateSet s estate).1
  | .chanel => chanel s
  | .thread id => taskTurn id s

def flashing (ePattern : Nat) : Prop :=
  patternFlashingRed ≤ ePattern ∧ ePattern ≤ patternFlashingWhite

instance (ePattern : Nat) : Decidable (flashing ePattern) := inferInstanceAs (Decidable (_ ∧ _))

def staticColor (ePattern : Nat) : Option (Bool × Bool × Bool) :=
  match ePattern with
  | patternColorRed => some (true, false, false)
  | patternColorGreen => some (false, true, false)
  | patternColorBlue => some (false, false, true)
  | patternColorCyan => some (false, true, true)
  | patternColorMagenta => some (true, false, true)
  | patternColorYellow => some (true, true, false)
  | patternColorWhite => some (true, true, true)
  | _ => none

def channels (s : LedFlash) : Bool × Bool × Bool :=
  (s.board.gpio ledR, s.board.gpio ledG, s.board.gpio ledB)

def Call.applies (s : LedFlash) : Call → Option (Option Nat)
  | .patternSet ePattern _ => some (some ePattern)
  | .stateSet estate _ =>
    if accepted s estate then some (some (statePattern (estate % 2 ^ 8))) else none
  | .chanel => some none
  | .thread _ => none

def Call.begins (s : LedFlash) : Call → Prop
  | .patternSet ePattern ran => ran = true ∧ flashing ePattern
  | .stateSet estate ran =>
    ran = true ∧ accepted s estate ∧ flashing (statePattern (estate % 2 ^ 8))
  | .chanel => False
  | .thread id => s.pool.threads.lookup id = some .created

instance (s : LedFlash) (c : Call) : Decidable (c.begins s) := by
  cases c with
  | patternSet ePattern ran => exact inferInstanceAs (Decidable (_ ∧ _))
  | stateSet estate ran => exact inferInstanceAs (Decidable (_ ∧ _))
  | chanel => exact isFalse id
  | thread id => exact inferInstanceAs (Decidable (_ = _))

structure Observed where
  flash : LedFlash
  applied : Option Nat
  begun : Bool

def observedInit (b : Board) : Observed := ⟨ledFlashInit b, none, false⟩

def observe (o : Observed) (c : Call) : Observed where
  flash := callStep o.flash c
  applied := (c.applies o.flash).getD o.applied
  begun := o.begun || decide (c.begins o.flash)

def flashes (applied : Option Nat) : Prop := ∃ p, applied = some p ∧ flashing p

instance (applied : Option Nat) : Decidable (flashes applied) := by
  cases applied with
  | none => exact isFalse fun ⟨_, h, _⟩ => by cases h
  | some p =>
    exact decidable_of_iff (flashing p)
      ⟨fun h => ⟨p, rfl, h⟩, fun ⟨_, he, h⟩ => Option.some.inj he ▸ h⟩

structure Coherent (o : Observed) : Prop where
  one : o.flash.pool.threads.length ≤ 1
  runs : o.flash.pool.threads ≠ [] ↔ flashes o.applied
  check : ledFlashingCheck o.flash = true ↔ flashes o.applied
  color : ∀ p c, o.applied = some p → staticColor p = some c → channels o.flash = c

def Call.fits (o : Observed) (c : Call) : Prop :=
  ∀ applied, c.applies o.flash = some applied →
    if flashes applied then o.begun = true ∨ c.begins o.flash else o.begun = false

structure Tracked (o : Observed) : Prop where
  owned : ∃ t, Owned o.flash.pool t ∧ (t ≠ none ↔ flashes o.applied)
  flag : 0 < o.flash.stLed.bIsLedFlashing ↔ o.begun = true
  color : ∀ p c, o.applied = some p → staticColor p = some c → channels o.flash = c

theorem not_flashing_of_static {p : Nat} {c : Bool × Bool × Bool} (h : staticColor p = some c) :
    ¬ flashing p := by
  rintro ⟨hlo, hhi⟩
  interval_cases p <;> cases h

theorem patternSet_pool (s : LedFlash) (p : Nat) :
    (patternSet s p).1.pool =
      if flashing p then create .created (cancel s.pool) else cancel s.pool := by
  rcases Nat.lt_or_ge p 15 with hp | hp
  · interval_cases p <;> rfl
  · obtain ⟨n, rfl⟩ := Nat.exists_eq_add_of_le' hp
    rw [if_neg fun h => absurd h.2 (by simp only [patternFlashingWhite]; omega)]
    rfl

theorem patternSet_channels (s : LedFlash) {p : Nat} {c : Bool × Bool × Bool}
    (h : staticColor p = some c) : channels (patternSet s p).1 = c := by
  have hp : p < 15 := by
    by_contra hge
    obtain ⟨n, rfl⟩ := Nat.exists_eq_add_of_le' (Nat.le_of_not_lt hge)
    cases h
  interval_cases p <;> first | (cases h; done) | (obtain rfl := Option.some.inj h; rfl)

theorem colorsOn_frame (s : LedFlash) :
    (colorsOn s).stLed = s.stLed ∧ (colorsOn s).pool = s.pool := by
  unfold colorsOn
  dsimp only
  split_ifs <;> exact ⟨rfl, rfl⟩

theorem colorsOff_frame (s : LedFlash) :
    (colorsOff s).stLed = s.stLed ∧ (colorsOff s).pool = s.pool := by
  unfold colorsOff
  dsimp only
  split_ifs <;> exact ⟨rfl, rfl⟩

theorem taskHandler_pool (phase : Phase) (s : LedFlash) :
    (taskHandler phase s).1.pool = s.pool := by
  cases phase with
  | created => exact (colorsOn_frame (taskStart s)).2
  | lit => exact (colorsOff_frame s).2
  | dark => exact (colorsOn_frame s).2

theorem taskHandler_flag (phase : Phase) (s : LedFlash) :
    0 < (taskHandler phase s).1.stLed.bIsLedFlashing ↔
      0 < s.stLed.bIsLedFlashing ∨ phase = .created := by
  cases phase with
  | created =>
    rw [taskHandler, (colorsOn_frame (taskStart s)).1]
    exact iff_of_true Nat.one_pos (.inr rfl)
  | lit =>
    rw [taskHandler, (colorsOff_frame s).1]
    simp
  | dark =>
    rw [taskHandler, (colorsOn_frame s).1]
    simp

theorem flashes_some {p : Nat} : flashes (some p) ↔ flashing p :=
  ⟨fun ⟨_, he, h⟩ => Option.some.inj he ▸ h, fun h => ⟨p, rfl, h⟩⟩

theorem not_flashes_none : ¬ flashes none := fun ⟨_, h, _⟩ => by cases h

theorem tracked_coherent_iff {o : Observed} (h : Tracked o) :
    Coherent o ↔ (o.begun = true ↔ flashes o.applied) := by
  obtain ⟨t, ho, hruns⟩ := h.owned
  have hcheck : ledFlashingCheck o.flash = true ↔ o.begun = true := by
    rw [← h.flag, ledFlashingCheck, decide_eq_true_eq]
  constructor
  · intro hc
    rw [← hcheck]
    exact hc.check
  · intro hb
    exact ⟨ho.length_le, ho.threads_ne_nil_iff.trans hruns, hcheck.trans hb, h.color⟩

theorem taskTurn_owned {s : LedFlash} {t : Option Phase} (h : Owned s.pool t) (id : Nat) :
    ∃ u, Owned (taskTurn id s).pool u ∧ (u ≠ none ↔ t ≠ none) ∧
      (0 < (taskTurn id s).stLed.bIsLedFlashing ↔
        0 < s.stLed.bIsLedFlashing ∨ s.pool.threads.lookup id = some .created) ∧
      (t = none → taskTurn id s = s) := by
  unfold taskTurn
  cases hl : s.pool.threads.lookup id with
  | none => exact ⟨t, h, Iff.rfl, by simp, fun _ => rfl⟩
  | some phase =>
    obtain ⟨rfl, rfl⟩ := h.lookup hl
    refine ⟨some (taskHandler phase s).2, ?_, by simp, ?_, fun hnone => by cases hnone⟩
    · simp only [taskHandler_pool]
      exact h.resume _
    · rw [Option.some_inj]
      exact taskHandler_flag phase s

theorem started_owned {s : LedFlash} {t : Option Phase} (h : Owned s.pool t) (ran : Bool) :
    ∃ u, Owned (started ran s).pool u ∧ (u ≠ none ↔ t ≠ none) ∧
      (0 < (started ran s).stLed.bIsLedFlashing ↔
        0 < s.stLed.bIsLedFlashing ∨ ran = true ∧ t = some .created) ∧
      (t = none → started ran s = s) := by
  cases ran with
  | false => exact ⟨t, h, Iff.rfl, by simp [started], fun _ => rfl⟩
  | true =>
    obtain ⟨u, hu, hsame, hflag, hidle⟩ := taskTurn_owned h s.pool.handle
    have hphase : s.pool.threads.lookup s.pool.handle = some .created ↔ t = some .created := by
      cases h with
      | idle _ _ ht => simp [ht]
      | running p _ _ ht => simp [ht]
    rw [hphase] at hflag
    exact ⟨u, hu, hsame, by simpa [started] using hflag, hidle⟩

theorem pattern_tracked {s : LedFlash} {t : Option Phase} (h : Owned s.pool t) {begun : Bool}
    (hflag : 0 < s.stLed.bIsLedFlashing ↔ begun = true) (p : Nat) (ran : Bool) :
    Tracked ⟨started ran (patternSet s p).1, some p,
      begun || decide (ran = true ∧ flashing p)⟩ := by
  have hnew : Owned (patternSet s p).1.pool (if flashing p then some .created else none) := by
    rw [patternSet_pool]
    split_ifs
    · exact h.cancel.create .created
    · exact h.cancel
  obtain ⟨u, hu, hsame, hraised, hidle⟩ := started_owned hnew ran
  rw [(patternSet_frame s p).2, hflag] at hraised
  refine ⟨⟨u, hu, hsame.trans ?_⟩, ?_, fun q c hq hc => ?_⟩
  · rw [flashes_some]
    simp
  · rw [hraised, Bool.or_eq_true, decide_eq_true_eq]
    simp
  · obtain rfl := Option.some.inj hq
    change channels (started ran (patternSet s p).1) = c
    rw [hidle (if_neg (not_flashing_of_static hc))]
    exact patternSet_channels s hc

theorem chanel_tracked {s : LedFlash} {t : Option Phase} (h : Owned s.pool t) {begun : Bool}
    (hflag : 0 < s.stLed.bIsLedFlashing ↔ begun = true) : Tracked ⟨chanel s, none, begun⟩ :=
  ⟨⟨none, h.cancel, iff_of_false (by simp) not_flashes_none⟩, hflag, fun _ _ hq => by cases hq⟩

theorem taskTurn_tracked {o : Observed} (h : Tracked o) (id : Nat) :
    Tracked (observe o (.thread id)) := by
  obtain ⟨⟨t, ho, hruns⟩, hflag, hcolor⟩ := h
  obtain ⟨u, hu, hsame, hraised, hidle⟩ := taskTurn_owned ho id
  refine ⟨⟨u, hu, hsame.trans hruns⟩, ?_, fun p c hp hc => ?_⟩
  · change 0 < (taskTurn id o.flash).stLed.bIsLedFlashing ↔ (o.begun || decide _) = true
    rw [hraised, hflag, Bool.or_eq_true, decide_eq_true_eq]
    rfl
  · have hnone : t = none := by
      by_contra hsome
      obtain ⟨q, hq, hf⟩ := hruns.mp hsome
      obtain rfl := Option.some.inj (hq.symm.trans hp)
      exact not_flashing_of_static hc hf
    change channels (taskTurn id o.flash) = c
    rw [hidle hnone]
    exact hcolor p c hp hc

theorem observe_tracked {o : Observed} (h : Tracked o) (c : Call) : Tracked (observe o c) := by
  obtain ⟨t, ho, _⟩ := h.owned
  cases c with
  | patternSet p ran => exact pattern_tracked ho h.flag p ran
  | stateSet estate ran =>
    by_cases ha : accepted o.flash estate
    case pos =>
      have hpattern := pattern_tracked (s := commitState o.flash estate) ho h.flag
        (statePattern (estate % 2 ^ 8)) ran
      have hobserve : observe o (.stateSet estate ran) =
          ⟨started ran (patternSet (commitState o.flash estate)
            (statePattern (estate % 2 ^ 8))).1, some (statePattern (estate % 2 ^ 8)),
            o.begun || decide (ran = true ∧ flashing (statePattern (estate % 2 ^ 8)))⟩ := by
        simp [observe, callStep, Call.applies, Call.begins, ha, stateSet_accepted ha]
      rwa [hobserve]
    case neg =>
      have hsame : observe o (.stateSet estate ran) = o := by
        simp [observe, callStep, Call.applies, Call.begins, ha, stateSet_rejected ha]
      rwa [hsame]
  | chanel =>
    have hobserve : observe o .chanel = ⟨chanel o.flash, none, o.begun⟩ :=
      congrArg (Observed.mk _ _) (Bool.or_false _)
    rw [hobserve]
    exact chanel_tracked ho h.flag
  | thread id => exact taskTurn_tracked h id

theorem begins_flashes {o : Observed} (h : Tracked o) {c : Call}
    (hkept : c.applies o.flash = none) (hb : c.begins o.flash) : flashes o.applied := by
  cases c with
  | patternSet p ran => cases hkept
  | stateSet estate ran =>
    rw [Call.applies, if_pos hb.2.1] at hkept
    cases hkept
  | chanel => exact hb.elim
  | thread id =>
    obtain ⟨t, ho, hruns⟩ := h.owned
    obtain ⟨rfl, -⟩ := ho.lookup hb
    exact hruns.mp (by simp)

theorem begins_applied {s : LedFlash} {c : Call} {applied : Option Nat}
    (happ : c.applies s = some applied) (hb : c.begins s) : flashes applied := by
  cases c with
  | patternSet p ran =>
    obtain rfl := Option.some.inj happ
    exact flashes_some.mpr hb.2
  | stateSet estate ran =>
    rw [Call.applies, if_pos hb.2.1] at happ
    obtain rfl := Option.some.inj happ
    exact flashes_some.mpr hb.2.2
  | chanel => exact hb.elim
  | thread id => cases happ

theorem coherent_iff {o : Observed} (h : Tracked o) (hb : o.begun = true ↔ flashes o.applied)
    (c : Call) : Coherent (observe o c) ↔ c.fits o := by
  rw [tracked_coherent_iff (observe_tracked h c), observe, Bool.or_eq_true, decide_eq_true_eq]
  cases happ : c.applies o.flash with
  | none =>
    refine iff_of_true ?_ fun applied hsome => absurd (happ.symm.trans hsome) (by simp)
    rw [Option.getD_none, ← hb]
    exact ⟨fun hor => hor.elim id fun hc => hb.mpr (begins_flashes h happ hc), .inl⟩
  | some applied =>
    rw [Option.getD_some, Call.fits, happ]
    simp only [Option.some.injEq, forall_eq']
    by_cases hf : flashes applied
    · rw [if_pos hf]
      exact iff_true_right hf
    · rw [if_neg hf, iff_false_right hf, not_or, Bool.not_eq_true]
      exact and_iff_left fun hc => hf (begins_applied happ hc)

theorem tracked_init (b : Board) : Tracked (observedInit b) :=
  ⟨⟨none, owned_vacant, iff_of_false (by simp) not_flashes_none⟩,
    iff_of_false (Nat.lt_irrefl 0) Bool.false_ne_true, fun _ _ h => by cases h⟩

theorem flash_thread_coherent_iff (b : Board) (calls : List Call) :
    Along observe (fun o c => Coherent (observe o c)) (observedInit b) calls ↔
      Along observe (fun o c => c.fits o) (observedInit b) calls := by
  refine along_iff (I := fun o => Tracked o ∧ (o.begun = true ↔ flashes o.applied))
    ⟨tracked_init b, iff_of_false Bool.false_ne_true not_flashes_none⟩ (fun o c h => ?_)
    fun o c h hc => ?_
  · exact coherent_iff h.1 h.2 c
  · have hnext := observe_tracked h.1 c
    exact ⟨hnext, (tracked_coherent_iff hnext).mp ((coherent_iff h.1 h.2 c).mpr hc)⟩

theorem flashing_flag_stays :
    ¬ Along observe (fun o c => Coherent (observe o c)) (observedInit boardInit)
      [.patternSet patternFlashingRed true, .chanel] := by
  intro h
  exact not_flashes_none (h.2.1.check.mp (by decide))

end PegaLedFlash
