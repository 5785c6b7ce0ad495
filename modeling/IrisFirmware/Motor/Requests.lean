import IrisFirmware.Library.Latch
import IrisFirmware.Motor.Lock

namespace Motor

open Run

variable (kstrtouint : String → Except Int UInt32)

def parses (buf : String) : Bool :=
  match kstrtouint buf with
  | .ok _ => true
  | .error _ => false

def accepts (c : MotorChip) (attr : Attr) (buf : String) : Bool :=
  attr.hasStore && !c.lock && parses kstrtouint buf

def requests (c : MotorChip) : Act → Bool
  | .access (.write attr buf) => attr = .stepWork && accepts kstrtouint c attr buf
  | _ => false

def changes (c : MotorChip) : Act → Bool
  | .access (.write attr buf) => attr ≠ .stepWork && accepts kstrtouint c attr buf
  | _ => false

def requested : MotorChip → List Act → List (List Call)
  | _, [] => []
  | c, a :: acts =>
    (if requests kstrtouint c a then [motorctrlWork c.mot] else []) ++
      requested (step kstrtouint c a) acts

def RunsEachOnce (acts : List Act) : Prop :=
  ∃ n, (exec (step kstrtouint) motorProbe (acts ++ List.replicate n .work)).runs =
    requested kstrtouint motorProbe acts

structure ServedOnce : Prop where
  served : ∀ pre w mid, requests kstrtouint (exec (step kstrtouint) motorProbe pre) w →
    .work ∉ mid → ∀ c, c = exec (step kstrtouint) motorProbe (pre ++ w :: mid) →
    (step kstrtouint c .work).runs = c.runs ++ [motorctrlWork c.mot] ∧
    (step kstrtouint c .work).workMotor = false
  caused : ∀ pre a, (exec (step kstrtouint) motorProbe (pre ++ [a])).runs ≠
      (exec (step kstrtouint) motorProbe pre).runs →
    a = .work ∧ ∃ before w mid, pre = before ++ w :: mid ∧
      requests kstrtouint (exec (step kstrtouint) motorProbe before) w ∧ .work ∉ mid
  unchanged : ∀ pre w mid, requests kstrtouint (exec (step kstrtouint) motorProbe pre) w →
    Along (step kstrtouint) (fun c a => ¬ changes kstrtouint c a)
      (exec (step kstrtouint) motorProbe (pre ++ [w])) mid →
    (exec (step kstrtouint) motorProbe (pre ++ w :: mid)).mot =
      (exec (step kstrtouint) motorProbe pre).mot

theorem showLocked_chip (text : MotorControl → String) (c : MotorChip) :
    (showLocked text c).1 = c := by
  cases h : c.lock with
  | true => simp [showLocked, h]
  | false => rw [showLocked_free text h]

theorem read_chip (c : MotorChip) (attr : Attr) :
    (access kstrtouint c (.read attr)).1 = c := by
  cases attr with
  | version => rfl
  | stepWork => rfl
  | _ => exact showLocked_chip _ c

variable {kstrtouint}

theorem write_accepted {c : MotorChip} {attr : Attr} {buf : String}
    (h : accepts kstrtouint c attr buf = true) :
    ∃ val, (access kstrtouint c (.write attr buf)).1 =
      { attr.set val { c with lock := true } with lock := false } := by
  simp only [accepts, Bool.and_eq_true, Bool.not_eq_true'] at h
  obtain ⟨⟨hs, hl⟩, hp⟩ := h
  cases hk : kstrtouint buf with
  | error ret => simp [parses, hk] at hp
  | ok val =>
    exact ⟨val.toNat, by rw [write_eq_storeLocked hs, storeLocked_accepted attr.set hl hk]⟩

theorem write_refused {c : MotorChip} {attr : Attr} {buf : String}
    (h : accepts kstrtouint c attr buf = false) :
    ∃ held, (access kstrtouint c (.write attr buf)).1 = { c with lock := held } := by
  cases hs : attr.hasStore with
  | false => exact ⟨c.lock, by rw [write_without_store hs]⟩
  | true =>
    rw [write_eq_storeLocked hs]
    cases hl : c.lock with
    | true =>
      cases c
      simp only at hl
      exact ⟨true, by simp [storeLocked, hl]⟩
    | false =>
      cases hk : kstrtouint buf with
      | error ret => exact ⟨true, by rw [storeLocked_rejected attr.set hl hk]⟩
      | ok val => simp [accepts, hs, hl, parses, hk] at h

theorem set_work {attr : Attr} (h : attr ≠ .stepWork) (val : Nat) (c : MotorChip) :
    (attr.set val c).workMotor = c.workMotor := by
  cases attr with
  | stepWork => exact absurd rfl h
  | _ => rfl

theorem set_runs (attr : Attr) (val : Nat) (c : MotorChip) : (attr.set val c).runs = c.runs := by
  cases attr <;> rfl

theorem access_work (c : MotorChip) (a : Access) :
    (access kstrtouint c a).1.workMotor = (requests kstrtouint c (.access a) || c.workMotor) := by
  cases a with
  | read attr => simp [read_chip, requests]
  | write attr buf =>
    cases h : accepts kstrtouint c attr buf with
    | false =>
      obtain ⟨held, hc⟩ := write_refused h
      simp [hc, requests, h]
    | true =>
      obtain ⟨val, hc⟩ := write_accepted h
      by_cases ha : attr = .stepWork
      · subst ha
        simp [hc, requests, h, Attr.set, stepOnSet]
      · simp [hc, requests, ha, set_work ha]

theorem access_runs (c : MotorChip) (a : Access) : (access kstrtouint c a).1.runs = c.runs := by
  cases a with
  | read attr => rw [read_chip]
  | write attr buf =>
    cases h : accepts kstrtouint c attr buf with
    | false =>
      obtain ⟨held, hc⟩ := write_refused h
      rw [hc]
    | true =>
      obtain ⟨val, hc⟩ := write_accepted h
      simp [hc, set_runs]

theorem step_mot {c : MotorChip} {a : Act} (h : ¬ changes kstrtouint c a) :
    (step kstrtouint c a).mot = c.mot := by
  cases a with
  | work =>
    rw [step, runWork]
    split_ifs <;> rfl
  | access a =>
    cases a with
    | read attr => rw [step, read_chip]
    | write attr buf =>
      cases ha : accepts kstrtouint c attr buf with
      | false =>
        obtain ⟨held, hc⟩ := write_refused ha
        rw [step, hc]
      | true =>
        obtain ⟨val, hc⟩ := write_accepted ha
        have hw : attr = .stepWork := by simpa [changes, ha] using h
        subst hw
        rw [step, hc]
        rfl

theorem runWork_pending (c : MotorChip) : (runWork c).workMotor = false := by
  cases h : c.workMotor <;> simp [runWork, h]

theorem runWork_runs {c : MotorChip} (h : c.workMotor = true) :
    (runWork c).runs = c.runs ++ [motorctrlWork c.mot] := by
  simp [runWork, h]

theorem runWork_idle {c : MotorChip} (h : c.workMotor = false) : runWork c = c := by
  simp [runWork, h]

theorem work_latched (kstrtouint : String → Except Int UInt32) :
    Latch.Latched (step kstrtouint) MotorChip.workMotor (fun c a => requests kstrtouint c a)
      (fun a => a = .work) := by
  refine ⟨fun c a => ?_⟩
  cases a with
  | work => simp [step, runWork_pending]
  | access a => simp [step, access_work]

theorem requests_not_work {c : MotorChip} {a : Act} (h : requests kstrtouint c a) : a ≠ .work := by
  rintro rfl
  simp [requests] at h

theorem motion_requests_served (kstrtouint : String → Except Int UInt32) : ServedOnce kstrtouint := by
  refine ⟨?_, ?_, ?_⟩
  · rintro pre w mid hw hmid c rfl
    rw [exec_append]
    have hpend := Latch.set_stays (work_latched kstrtouint) hw (requests_not_work hw)
      (fun b hb hc => hmid (hc ▸ hb))
    exact ⟨runWork_runs hpend, runWork_pending _⟩
  · intro pre a hruns
    rw [exec_append, exec_cons, exec_nil] at hruns
    cases a with
    | access a => exact absurd (access_runs _ a) hruns
    | work =>
      refine ⟨rfl, ?_⟩
      cases hp : (exec (step kstrtouint) motorProbe pre).workMotor with
      | false => exact absurd (congrArg MotorChip.runs (runWork_idle hp)) hruns
      | true =>
        obtain ⟨before, w, mid, hsplit, hw, hmid⟩ :=
          Latch.pending_cause (work_latched kstrtouint) (s := motorProbe) rfl hp
        exact ⟨before, w, mid, hsplit, hw, fun hm => hmid _ hm rfl⟩
  · intro pre w mid hw hmid
    have hquiet : ¬ changes kstrtouint (exec (step kstrtouint) motorProbe pre) w := by
      cases w with
      | work => simp [changes]
      | access a =>
        cases a with
        | read attr => simp [changes]
        | write attr buf =>
          simp only [requests, Bool.and_eq_true, decide_eq_true_eq] at hw
          simp [changes, hw.1]
    rw [exec_append, exec_cons, exec_nil] at hmid
    rw [exec_append, exec_cons]
    have hkeep := exec_invariant (I := fun c => c.mot =
      (step kstrtouint (exec (step kstrtouint) motorProbe pre) w).mot) rfl
      (fun c a hi ha => (step_mot ha).trans hi) hmid
    exact hkeep.trans (step_mot hquiet)

theorem exec_works (c : MotorChip) (n : Nat) :
    exec (step kstrtouint) c (List.replicate (n + 1) .work) = runWork c := by
  induction n generalizing c with
  | zero => rfl
  | succ n ih =>
    rw [List.replicate_succ, exec_cons, ih]
    exact runWork_idle (runWork_pending c)

theorem requests_coalesce : ¬ ∀ acts, RunsEachOnce (fun _ => .ok 1) acts := by
  intro h
  obtain ⟨n, hn⟩ := h [.access (.write .stepWork "1"), .access (.write .stepWork "1")]
  rw [exec_append] at hn
  cases n with
  | zero => exact absurd hn (by decide)
  | succ n =>
    rw [exec_works] at hn
    exact absurd hn (by decide)

end Motor
