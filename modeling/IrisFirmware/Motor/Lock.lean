import IrisFirmware.Motor.Driver

namespace Motor

open Run

variable (kstrtouint : String → Except Int UInt32)

def Attr.hasStore : Attr → Bool
  | .version => false
  | .info => false
  | .delay => false
  | _ => true

def Attr.set : Attr → Nat → MotorChip → MotorChip
  | .motor => motorSet
  | .mode => modeSet
  | .enable => enSet
  | .dir => dirSet
  | .cycle => cycleSet
  | .speed => spSet
  | .stepWork => stepOnSet
  | _ => fun _ c => c

def Access.rejected : Access → Prop
  | .read _ => False
  | .write attr buf => attr.hasStore = true ∧ ∃ ret, kstrtouint buf = .error ret

def accessStep (c : MotorChip) (a : Access) : MotorChip := (access kstrtouint c a).1

structure Disciplined (c : MotorChip) (a : Access) : Prop where
  returns : (access kstrtouint c a).2 ≠ .blocked
  released : (accessStep kstrtouint c a).lock = false
  untouched : a.rejected kstrtouint →
    (accessStep kstrtouint c a).mot = c.mot ∧ (accessStep kstrtouint c a).workMotor = c.workMotor

theorem showLocked_free (text : MotorControl → String) {c : MotorChip} (h : c.lock = false) :
    showLocked text c = (c, .shown (text c.mot)) := by
  cases c
  simp only at h
  simp [showLocked, h]

variable {kstrtouint}

theorem storeLocked_rejected (set : Nat → MotorChip → MotorChip) {c : MotorChip}
    (h : c.lock = false) {buf : String} {ret : Int} (hr : kstrtouint buf = .error ret) :
    storeLocked kstrtouint set c buf = ({ c with lock := true }, .stored ret) := by
  simp [storeLocked, h, hr]

theorem storeLocked_accepted (set : Nat → MotorChip → MotorChip) {c : MotorChip}
    (h : c.lock = false) {buf : String} {val : UInt32} (hv : kstrtouint buf = .ok val) :
    storeLocked kstrtouint set c buf =
      ({ set val.toNat { c with lock := true } with lock := false },
        .stored buf.utf8ByteSize) := by
  simp [storeLocked, h, hv]

theorem write_eq_storeLocked {attr : Attr} (h : attr.hasStore = true) (c : MotorChip)
    (buf : String) :
    access kstrtouint c (.write attr buf) = storeLocked kstrtouint attr.set c buf := by
  cases attr with
  | version => simp [Attr.hasStore] at h
  | info => simp [Attr.hasStore] at h
  | delay => simp [Attr.hasStore] at h
  | _ => rfl

theorem write_without_store {attr : Attr} (h : attr.hasStore = false) (c : MotorChip)
    (buf : String) : access kstrtouint c (.write attr buf) = (c, .stored (-eio)) := by
  cases attr with
  | version => rfl
  | info => rfl
  | delay => rfl
  | _ => simp [Attr.hasStore] at h

theorem read_keeps (kstrtouint : String → Except Int UInt32) {c : MotorChip}
    (h : c.lock = false) (attr : Attr) :
    (access kstrtouint c (.read attr)).1 = c ∧
      (access kstrtouint c (.read attr)).2 ≠ .blocked := by
  cases attr with
  | version => exact ⟨rfl, by simp [access, motorVersion]⟩
  | stepWork => exact ⟨rfl, by simp [access]⟩
  | info => simp [access, motorInfo, showLocked_free _ h]
  | motor => simp [access, motorShow, showLocked_free _ h]
  | mode => simp [access, modeShow, showLocked_free _ h]
  | enable => simp [access, enShow, showLocked_free _ h]
  | dir => simp [access, dirShow, showLocked_free _ h]
  | cycle => simp [access, cycleShow, showLocked_free _ h]
  | delay => simp [access, delayShow, showLocked_free _ h]
  | speed => simp [access, spShow, showLocked_free _ h]

theorem access_rejected {c : MotorChip} (h : c.lock = false) {a : Access}
    (hr : a.rejected kstrtouint) :
    ∃ ret, access kstrtouint c a = ({ c with lock := true }, .stored ret) := by
  cases a with
  | read attr => exact absurd hr id
  | write attr buf =>
    obtain ⟨hs, ret, hret⟩ := hr
    exact ⟨ret, by rw [write_eq_storeLocked hs, storeLocked_rejected attr.set h hret]⟩

theorem access_served {c : MotorChip} (h : c.lock = false) {a : Access}
    (hr : ¬ a.rejected kstrtouint) :
    (access kstrtouint c a).1.lock = false ∧ (access kstrtouint c a).2 ≠ .blocked := by
  cases a with
  | read attr =>
    obtain ⟨hc, ho⟩ := read_keeps kstrtouint h attr
    exact ⟨by rw [hc, h], ho⟩
  | write attr buf =>
    cases hs : attr.hasStore with
    | false => simp [write_without_store hs, h]
    | true =>
      cases hk : kstrtouint buf with
      | error ret => exact absurd ⟨hs, ret, hk⟩ hr
      | ok val => simp [write_eq_storeLocked hs, storeLocked_accepted attr.set h hk]

theorem disciplined_iff {c : MotorChip} (h : c.lock = false) (a : Access) :
    Disciplined kstrtouint c a ↔ ¬ a.rejected kstrtouint := by
  constructor
  · intro hd hr
    obtain ⟨ret, he⟩ := access_rejected h hr
    have hlock := hd.released
    simp [accessStep, he] at hlock
  · intro hr
    obtain ⟨hl, ho⟩ := access_served h hr
    exact ⟨ho, hl, fun hc => absurd hc hr⟩

theorem lock_discipline_iff (kstrtouint : String → Except Int UInt32) (accesses : List Access) :
    Along (accessStep kstrtouint) (Disciplined kstrtouint) motorProbe accesses ↔
      ∀ a ∈ accesses, ¬ a.rejected kstrtouint := by
  have hstep : Along (accessStep kstrtouint) (Disciplined kstrtouint) motorProbe accesses ↔
      Along (accessStep kstrtouint) (fun _ a => ¬ a.rejected kstrtouint) motorProbe accesses :=
    along_iff (I := fun c => c.lock = false) rfl (fun _ a h => disciplined_iff h a)
      (fun _ _ h ha => (access_served h ha).1)
  exact hstep.trans (along_const motorProbe accesses)

theorem rejected_write_keeps_lock :
    ¬ Along (accessStep fun _ => .error (-22)) (Disciplined fun _ => .error (-22)) motorProbe
      [.write .motor "rising", .read .motor] := by
  intro h
  have hlock := h.1.released
  exact absurd hlock (by decide)

end Motor
