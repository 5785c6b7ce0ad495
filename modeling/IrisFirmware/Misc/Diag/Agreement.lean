import IrisFirmware.Misc.Diag.Client
import IrisFirmware.Misc.Diag.Delivery

namespace PegaDiag

open PegaBoard PegaNvMode PegaMiscDiag Run

inductive Actuator where
  | pin (sGpioNum : Nat)
  | channel (pwm : Nat)
  | coil
  | amp
  | als
deriving DecidableEq, Repr

def Same (h h' : Misc) : Actuator → Prop
  | .pin p => h'.nv.board.gpio p = h.nv.board.gpio p
  | .channel c => h'.nv.board.pwm c = h.nv.board.pwm c
  | .coil => h'.nv.board.coil = h.nv.board.coil
  | .amp => h'.amp = h.amp
  | .als => h'.bIsALSDisable = h.bIsALSDisable

def named : Command → List Actuator
  | .icrDay => [.coil, .pin irCutIn1, .pin irCutIn2]
  | .icrNight => [.coil, .pin irCutIn1, .pin irCutIn2]
  | .irLed _ => [.channel pwmCh6]
  | .irLedSet _ => [.channel pwmCh6]
  | .spotLed _ => [.channel pwmCh7]
  | .spotLedSet _ => [.channel pwmCh7]
  | .led _ => [.pin ledR, .pin ledG, .pin ledB]
  | .ledR _ => [.pin ledR]
  | .ledG _ => [.pin ledG]
  | .ledB _ => [.pin ledB]
  | .alsOn => [.als]
  | .alsOff => [.als]
  | .audioInit => [.amp, .pin audioShutdown]
  | .audioVolume _ => [.amp]
  | _ => []

-- the channel keeps the period Pega_pwm_init gave it
def pwmPercent (ch : Nat) (v : Int) (p : Pwm) : Pwm :=
  { p with
    period := (boardInit.pwm ch).period
    dutyCycle := (boardInit.pwm ch).period / 100 * (max 1 (min v 100)).toNat }

def Means (h h' : Misc) : Command → Prop
  | .icrDay => h'.nv.board.coil = (forceDayNightMode h.nv.board FALSE).coil
  | .icrNight => h'.nv.board.coil = (forceDayNightMode h.nv.board TRUE).coil
  | .irLed on => h'.nv.board.pwm pwmCh6 = { h.nv.board.pwm pwmCh6 with enable := on }
  | .irLedSet v => h'.nv.board.pwm pwmCh6 = pwmPercent pwmCh6 v (h.nv.board.pwm pwmCh6)
  | .spotLed on => h'.nv.board.pwm pwmCh7 = { h.nv.board.pwm pwmCh7 with enable := on }
  | .spotLedSet v => h'.nv.board.pwm pwmCh7 = pwmPercent pwmCh7 v (h.nv.board.pwm pwmCh7)
  | .led on => h'.nv.board.gpio ledR = on ∧ h'.nv.board.gpio ledG = on ∧ h'.nv.board.gpio ledB = on
  | .ledR on => h'.nv.board.gpio ledR = on
  | .ledG on => h'.nv.board.gpio ledG = on
  | .ledB on => h'.nv.board.gpio ledB = on
  | _ => True

def process (d : Daemon) (c : Command × ℚ) : Daemon :=
  match encode c.1 with
  | none => d
  | some m => round (commandsProcesser d m) c.2

structure Agrees (d : Daemon) (c : Command × ℚ) : Prop where
  meaning : Means d.misc (process d c).misc c.1
  others : ∀ a, a ∉ named c.1 → Same d.misc (process d c).misc a

-- the filter polarity and the spotlight period differ between the two sides
def Command.drifts : Command → Prop
  | .icrDay => True
  | .icrNight => True
  | .spotLedSet _ => True
  | _ => False

def carry (c : Command) (fLux : ℚ) (h : Misc) : Misc :=
  match c with
  | .icrDay => h.onBoard (irCutControl · 0)
  | .icrNight => h.onBoard (irCutControl · 1)
  | .irLed on => h.onBoard (if on then irLedCtrlOn else irLedCtrlOff)
  | .irLedSet v => h.onBoard (pwmConfig · pwmCh6 pwmLedFreq (toU32 (percent v)))
  | .spotLed on => h.onBoard (if on then spotLightCtrlOn else spotLightCtrlOff)
  | .spotLedSet v => h.onBoard (pwmConfig · pwmCh7 pwmLedFreq (toU32 (percent v)))
  | .led on => h.onBoard fun b =>
      if on then ledBCtrlOn (ledGCtrlOn (ledRCtrlOn b))
      else ledBCtrlOff (ledGCtrlOff (ledRCtrlOff b))
  | .ledR on => h.onBoard (if on then ledRCtrlOn else ledRCtrlOff)
  | .ledG on => h.onBoard (if on then ledGCtrlOn else ledGCtrlOff)
  | .ledB on => h.onBoard (if on then ledBCtrlOn else ledBCtrlOff)
  | .alsValue => { h with nv := luxUpdate h.nv fLux }
  | .alsOn => alsDisableControl h 0
  | .alsOff => alsDisableControl h 1
  | .audioInit => ampInitialize h 1 12
  | .audioVolume volume => ampVolumeControl h volume
  | _ => h

theorem dispatch_encode {c : Command} {m : DiagMsg} (h : encode c = some m) (fLux : ℚ)
    (hw : Misc) : dispatch m fLux hw = carry c fLux hw := by
  cases c with
  | audioVolume volume =>
    simp only [encode, audioVolumeSet] at h
    split_ifs at h
    simp only [Option.some.injEq] at h
    subst h
    rfl
  | irLed on => cases on <;> (simp only [encode, Option.some.injEq] at h; subst h; rfl)
  | spotLed on => cases on <;> (simp only [encode, Option.some.injEq] at h; subst h; rfl)
  | led on => cases on <;> (simp only [encode, Option.some.injEq] at h; subst h; rfl)
  | ledR on => cases on <;> (simp only [encode, Option.some.injEq] at h; subst h; rfl)
  | ledG on => cases on <;> (simp only [encode, Option.some.injEq] at h; subst h; rfl)
  | ledB on => cases on <;> (simp only [encode, Option.some.injEq] at h; subst h; rfl)
  | _ =>
    simp only [encode, Option.some.injEq] at h
    subst h
    rfl

theorem toU32_percent (v : Int) : toU32 (percent v) = (max 1 (min v 100)).toNat := by
  rw [percent_eq, toU32, Int.emod_eq_of_lt] <;> omega

theorem Same.trans {h h' h'' : Misc} {a : Actuator} (h1 : Same h h' a) (h2 : Same h' h'' a) :
    Same h h'' a := by
  cases a <;> exact Eq.trans h2 h1

theorem pin_same (h : Misc) (p : Nat) (v : Int) {a : Actuator} (ha : a ≠ .pin p) :
    Same h (h.onBoard (pinOutputSet · p v)) a := by
  cases a with
  | pin q => exact pinOutputSet_gpio_other _ _ _ fun hq => ha (congrArg Actuator.pin hq)
  | _ => rfl

theorem config_same (h : Misc) (ch period duty : Nat) {a : Actuator} (ha : a ≠ .channel ch) :
    Same h (h.onBoard (pwmConfig · ch period duty)) a := by
  cases a with
  | channel c => exact pwmConfig_pwm_other _ _ (fun hc => ha (congrArg Actuator.channel hc)) _ _
  | _ => rfl

theorem control_same (h : Misc) (ch : Nat) (v : Int) {a : Actuator} (ha : a ≠ .channel ch) :
    Same h (h.onBoard (pwmControl · ch v)) a := by
  cases a with
  | channel c => exact pwmControl_pwm_other _ _ (fun hc => ha (congrArg Actuator.channel hc)) _
  | _ => rfl

theorem irCut_same (h : Misc) (bFlag : Nat) {a : Actuator} (hc : a ≠ .coil)
    (h1 : a ≠ .pin irCutIn1) (h2 : a ≠ .pin irCutIn2) :
    Same h (h.onBoard (irCutControl · bFlag)) a := by
  cases a with
  | pin q =>
    exact irCutControl_gpio_other _ _ (fun hq => h1 (congrArg Actuator.pin hq))
      (fun hq => h2 (congrArg Actuator.pin hq))
  | channel c => exact congrFun (irCutControl_pwm _ _) c
  | coil => exact absurd rfl hc
  | _ => rfl

theorem leds_same (h : Misc) (r g b : Int) {a : Actuator} (hr : a ≠ .pin ledR)
    (hg : a ≠ .pin ledG) (hb : a ≠ .pin ledB) :
    Same h (h.onBoard fun x =>
      pinOutputSet (pinOutputSet (pinOutputSet x ledR r) ledG g) ledB b) a :=
  ((pin_same h ledR r hr).trans (pin_same _ ledG g hg)).trans (pin_same _ ledB b hb)

theorem ampReset_same (h : Misc) {a : Actuator} (hp : a ≠ .pin audioShutdown) :
    Same h (h.onBoard hwAmpReset) a :=
  (pin_same h audioShutdown gpioLow hp).trans (pin_same _ audioShutdown gpioHigh hp)

theorem carry_others (c : Command) (fLux : ℚ) (h : Misc) :
    ∀ a, a ∉ named c → Same h (carry c fLux h) a := by
  intro a ha
  cases c with
  | icrDay =>
    simp only [named, List.mem_cons, List.not_mem_nil, or_false, not_or] at ha
    exact irCut_same h 0 ha.1 ha.2.1 ha.2.2
  | icrNight =>
    simp only [named, List.mem_cons, List.not_mem_nil, or_false, not_or] at ha
    exact irCut_same h 1 ha.1 ha.2.1 ha.2.2
  | irLed on => cases on <;> exact control_same h pwmCh6 _ (List.ne_of_not_mem_cons ha)
  | irLedSet v => exact config_same h pwmCh6 _ _ (List.ne_of_not_mem_cons ha)
  | spotLed on => cases on <;> exact control_same h pwmCh7 _ (List.ne_of_not_mem_cons ha)
  | spotLedSet v => exact config_same h pwmCh7 _ _ (List.ne_of_not_mem_cons ha)
  | led on =>
    simp only [named, List.mem_cons, List.not_mem_nil, or_false, not_or] at ha
    cases on <;> exact leds_same h _ _ _ ha.1 ha.2.1 ha.2.2
  | ledR on => cases on <;> exact pin_same h ledR _ (List.ne_of_not_mem_cons ha)
  | ledG on => cases on <;> exact pin_same h ledG _ (List.ne_of_not_mem_cons ha)
  | ledB on => cases on <;> exact pin_same h ledB _ (List.ne_of_not_mem_cons ha)
  | alsOn =>
    cases a with
    | als => exact absurd rfl (List.ne_of_not_mem_cons ha)
    | _ => rfl
  | alsOff =>
    cases a with
    | als => exact absurd rfl (List.ne_of_not_mem_cons ha)
    | _ => rfl
  | audioInit =>
    simp only [named, List.mem_cons, List.not_mem_nil, or_false, not_or] at ha
    cases a with
    | amp => exact absurd rfl ha.1
    | pin p => exact ampReset_same h ha.2
    | _ => rfl
  | audioVolume volume =>
    cases a with
    | amp => exact absurd rfl (List.ne_of_not_mem_cons ha)
    | _ => rfl
  | _ => cases a <;> rfl

-- Force drives the filter the other way round for both modes
theorem icr_drifts (h : Misc) (m : Nat) (hm : m ≤ 1) :
    (irCutControl h.nv.board m).coil ≠ (forceDayNightMode h.nv.board m).coil := by
  rw [irCutControl_coil, forceDayNightMode_coil]
  interval_cases m <;> decide

theorem spotLed_drifts (b : Board) (v : Int) (p : Pwm) :
    (pwmConfig b pwmCh7 pwmLedFreq (toU32 (percent v))).pwm pwmCh7 ≠ pwmPercent pwmCh7 v p := by
  intro h
  rw [pwmConfig_pwm_self] at h
  have hperiod : pwmLedFreq = (boardInit.pwm pwmCh7).period := congrArg Pwm.period h
  exact absurd hperiod (by decide)

theorem irLed_percent (b : Board) (v : Int) :
    (pwmConfig b pwmCh6 pwmLedFreq (toU32 (percent v))).pwm pwmCh6 =
      pwmPercent pwmCh6 v (b.pwm pwmCh6) := by
  have hperiod : (boardInit.pwm pwmCh6).period = pwmLedFreq := by decide
  rw [pwmConfig_pwm_self, toU32_percent, pwmPercent, hperiod, Nat.mod_eq_of_lt]
  simp only [pwmLedFreq]
  omega

theorem carry_means_iff (c : Command) (fLux : ℚ) (h : Misc) :
    Means h (carry c fLux h) c ↔ ¬ c.drifts := by
  cases c with
  | icrDay => exact iff_of_false (icr_drifts h 0 (by decide)) (not_not.mpr trivial)
  | icrNight => exact iff_of_false (icr_drifts h 1 (by decide)) (not_not.mpr trivial)
  | irLed on =>
    refine iff_of_true ?_ id
    cases on <;> exact pwmControl_pwm_self _ _ _
  | irLedSet v => exact iff_of_true (irLed_percent _ v) id
  | spotLed on =>
    refine iff_of_true ?_ id
    cases on <;> exact pwmControl_pwm_self _ _ _
  | spotLedSet v => exact iff_of_false (spotLed_drifts _ v _) (not_not.mpr trivial)
  | led on =>
    refine iff_of_true ?_ id
    cases on <;> exact ⟨rfl, rfl, rfl⟩
  | ledR on =>
    refine iff_of_true ?_ id
    cases on <;> exact pinOutputSet_gpio_self _ _ _
  | ledG on =>
    refine iff_of_true ?_ id
    cases on <;> exact pinOutputSet_gpio_self _ _ _
  | ledB on =>
    refine iff_of_true ?_ id
    cases on <;> exact pinOutputSet_gpio_self _ _ _
  | _ => exact iff_of_true trivial id

def Idle (d : Daemon) : Prop := ∃ s, Tracks d s ∧ s.slot = none

theorem idle_start : Idle daemonStart := ⟨Mailbox.empty, tracks_start, rfl⟩

theorem process_carries {d : Daemon} (h : Idle d) (c : Command × ℚ) :
    Idle (process d c) ∧
      ((process d c).misc = carry c.1 c.2 d.misc ∨ (encode c.1 = none ∧ process d c = d)) := by
  obtain ⟨s, ht, hs⟩ := h
  cases hc : encode c.1 with
  | none =>
    have hp : process d c = d := by simp [process, hc]
    rw [hp]
    exact ⟨⟨s, ht, hs⟩, .inr ⟨rfl, rfl⟩⟩
  | some m =>
    have hp : process d c = round (commandsProcesser d m) c.2 := by simp [process, hc]
    have hfull := tracks_step ht (.receive m)
    have hdone := tracks_step hfull (.round c.2)
    rw [hp]
    refine ⟨⟨_, hdone, rfl⟩, .inl ?_⟩
    have hexec := round_executes hfull (m := m) rfl c.2
    have hmisc := congrArg Daemon.misc hexec
    exact hmisc.trans (dispatch_encode hc c.2 d.misc)

theorem refused_command {c : Command} (h : encode c = none) :
    ¬ c.drifts ∧ ∀ hw, Means hw hw c := by
  cases c with
  | audioVolume volume => exact ⟨id, fun _ => trivial⟩
  | _ => simp [encode] at h

theorem agrees_iff {d : Daemon} (h : Idle d) (c : Command × ℚ) :
    Agrees d c ↔ ¬ c.1.drifts := by
  obtain ⟨_, hm | ⟨hn, hp⟩⟩ := process_carries h c
  · constructor
    · intro ha
      have hmean := ha.meaning
      rw [hm] at hmean
      exact (carry_means_iff _ _ _).mp hmean
    · intro hc
      refine ⟨?_, ?_⟩
      · rw [hm]
        exact (carry_means_iff _ _ _).mpr hc
      · rw [hm]
        exact carry_others _ _ _
  · obtain ⟨hd, hmean⟩ := refused_command hn
    refine iff_of_true ⟨?_, ?_⟩ hd
    · rw [hp]
      exact hmean _
    · rw [hp]
      intro a _
      cases a <;> rfl

end PegaDiag
