import IrisFirmware.Accel.EventValue

namespace Lis2dw12

open Fallible Metered

inductive Setter where
  | wakeUpThershold
  | wakeUpDuration
  | tapThreshold
  | tapQuietTime
  | tapShockTime
  | dtapDuration
deriving DecidableEq, Repr

namespace Setter

-- two of the setters take their request as a u8
def argument : Setter → Int → Int
  | tapQuietTime, v => u8 v
  | tapShockTime, v => u8 v
  | _, v => v

def run (odr : Int) : Setter → Int → E Unit
  | wakeUpThershold, v => setWakeUpThershold v
  | wakeUpDuration, v => setWakeUpDuration odr v
  | tapThreshold, v => setTapThreshold v
  | tapQuietTime, v => setTapQuietTime odr (u8 v)
  | tapShockTime, v => setTapShockTime odr (u8 v)
  | dtapDuration, v => setDtapDuration odr v

def reading (odr : Int) : Setter → E Int
  | wakeUpThershold => getXlFs
  | tapThreshold => getXlFs
  | wakeUpDuration => getDefaultXlOdr odr .WAKEUP
  | _ => getDefaultXlOdr odr .TAP

def code : Setter → Int → Int → Option Nat
  | wakeUpThershold, v, fs => wakeUpThersholdCode v fs
  | wakeUpDuration, v, rate => wakeUpDurationCode v rate
  | tapThreshold, v, fs => tapThresholdCode v fs
  | tapQuietTime, v, rate => tapQuietTimeCode (u8 v) rate
  | tapShockTime, v, rate => tapShockTimeCode (u8 v) rate
  | dtapDuration, v, rate => dtapDurationCode v rate

def registers : Setter → List (Addr × Byte)
  | wakeUpThershold => [(wakeUpThsAddr, wakeUpThsMask)]
  | wakeUpDuration => [(wakeUpDurAddr, wakeUpDurMask)]
  | tapThreshold =>
    [(tapThsXAddr, tapThsMask), (tapThsYAddr, tapThsMask), (tapThsZAddr, tapThsMask)]
  | tapQuietTime => [(intDurAddr, quietMask)]
  | tapShockTime => [(intDurAddr, shockMask)]
  | dtapDuration => [(intDurAddr, latencyMask)]

-- the documented formula is request * factor / divisor
def factor : Setter → Nat → Nat
  | wakeUpThershold, _ => 64
  | tapThreshold, _ => 32
  | _, rate => rate

def divisor : Setter → Nat → Nat
  | wakeUpThershold, fs => fs * 1000
  | tapThreshold, fs => fs * 1000
  | wakeUpDuration, _ => 32000
  | tapQuietTime, _ => 4000
  | tapShockTime, _ => 8000
  | dtapDuration, _ => 32000

def maximum : Setter → Nat
  | wakeUpThershold => 63
  | wakeUpDuration => 3
  | tapThreshold => 31
  | tapQuietTime => 3
  | tapShockTime => 3
  | dtapDuration => 15

def formula (k : Setter) (v x : Nat) : Nat := v * k.factor x / k.divisor x

def offered : Setter → Nat → Prop
  | wakeUpThershold, fs => fs ∈ [2, 4, 8, 16]
  | tapThreshold, fs => fs ∈ [2, 4, 8, 16]
  | _, _ => True

def below : Setter → Nat → Nat → Prop
  | wakeUpThershold, mg, fs => mg < 4000 * fs
  | wakeUpDuration, ms, rate => ms * rate < 8192000
  | tapThreshold, mg, fs => mg < 8000 * fs
  | tapQuietTime, ms, rate => ms < 256 ∧ 0 < rate ∧ ms * rate < 1024000
  | tapShockTime, ms, rate => ms < 256 ∧ 0 < rate ∧ ms * rate < 2048000
  | dtapDuration, ms, rate => 0 < rate ∧ ms * rate < 8192000

end Setter

def Settled (k : Setter) (s : EventHw) : Prop := ∀ r ∈ k.registers, Regmap.Agrees r.1 s.regmap

structure Saturates (k : Setter) (v x : Nat) : Prop where
  argument : k.argument v = v
  product : int32 (v * k.factor x : Nat) = (v * k.factor x : Nat)
  quotient : k.formula v x < 256
  code : k.code v x = some (min k.maximum (k.formula v x))
  field : ∀ odr s u t, Settled k s → k.reading odr s = .ok x u → k.run odr v s = .ok () t →
    ∀ r ∈ k.registers, (Register.field r.2 (ffs r.2) (t.regmap.dev r.1)).toNat =
      min k.maximum (k.formula v x)

theorem int32_iff (n : Nat) : int32 n = n ↔ n < 2 ^ 31 := by
  constructor
  · intro h
    have hlt : int32 n < (2 ^ 32 + 1) / 2 := Int.bmod_lt (by decide)
    omega
  · intro h
    exact Int.bmod_eq_of_le (by omega) (by omega)

theorem u8_iff (n : Nat) : u8 n = n ↔ n < 256 := by
  rw [u8]
  omega

theorem saturated_eq (mask : Byte) {n : Nat} (h : n < 256) :
    saturated mask n = min (mask >>> ffs mask).toNat n := by
  rw [saturated, (u8_iff n).mpr h, min_comm]

theorem divided_eq {a b : Nat} (hb : 0 < b) (ha : a < 2 ^ 31) :
    divided (int32 a) b = some ((a / b : Nat) : Int) := by
  rw [divided, if_neg (by omega), (int32_iff a).mpr ha]
  rfl

theorem tapTimeCode_eq (mask : Byte) {shortest lsb v rate : Nat} (hrate : 0 < rate)
    (hlsb : shortest < lsb) (hv : v * rate < 2 ^ 31) (hquotient : v * rate / lsb < 256) :
    tapTimeCode mask shortest lsb v rate = some (min (mask >>> ffs mask).toNat (v * rate / lsb)) := by
  have hidle : divided shortest rate = some ((shortest / rate : Nat) : Int) := by
    rw [divided, if_neg (by omega)]
    rfl
  rw [tapTimeCode, hidle, Option.bind_eq_bind, Option.bind_some]
  dsimp only
  by_cases hshort : (v : Int) ≤ (shortest / rate : Nat)
  case pos =>
    have hzero : v * rate / lsb = 0 := by
      refine Nat.div_eq_of_lt (lt_of_le_of_lt ?_ hlsb)
      exact (Nat.mul_le_mul_right rate (Int.ofNat_le.mp hshort)).trans (Nat.div_mul_le_self ..)
    rw [if_pos hshort, Option.bind_some, hzero]
    exact congrArg some (saturated_eq mask (by decide : 0 < 256))
  case neg =>
    have hdivided := divided_eq (a := v * rate) (b := lsb) (by omega) hv
    rw [if_neg hshort, ← Nat.cast_mul, hdivided, Option.bind_some]
    exact congrArg some (saturated_eq mask hquotient)

theorem thresholdCode_eq (mask : Byte) {v num den : Nat} (hden : 0 < den)
    (hproduct : v * num < 2 ^ 31) (hquotient : v * num / den < 256) :
    (divided (int32 (v * num : Nat)) den).map (saturated mask) =
      some (min (mask >>> ffs mask).toNat (v * num / den)) := by
  rw [divided_eq hden hproduct, Option.map_some, saturated_eq mask hquotient]

section exact

variable {k : Setter} {v x : Nat}

structure Exact (k : Setter) (v x : Nat) : Prop where
  argument : k.argument v = v
  product : v * k.factor x < 2 ^ 31
  quotient : k.formula v x < 256
  divides : k ≠ .wakeUpDuration → 0 < x

theorem exact_iff_below (hx : k.offered x) : Exact k v x ↔ k.below v x := by
  have harg : k.argument v = v ↔ (k = .tapQuietTime ∨ k = .tapShockTime → v < 256) := by
    cases k <;> simp [Setter.argument, u8_iff]
  have hexact : Exact k v x ↔ (k = .tapQuietTime ∨ k = .tapShockTime → v < 256) ∧
      v * k.factor x < 2 ^ 31 ∧ k.formula v x < 256 ∧ (k ≠ .wakeUpDuration → 0 < x) :=
    ⟨fun h => ⟨harg.mp h.argument, h.product, h.quotient, h.divides⟩,
      fun h => ⟨harg.mpr h.1, h.2.1, h.2.2.1, h.2.2.2⟩⟩
  rw [hexact]
  cases k <;> simp only [Setter.formula, Setter.factor, Setter.divisor, Setter.below,
    Setter.offered] at hx ⊢
  case wakeUpThershold =>
    have hfs : x = 2 ∨ x = 4 ∨ x = 8 ∨ x = 16 := by simpa using hx
    rcases hfs with rfl | rfl | rfl | rfl <;> simp <;> omega
  case tapThreshold =>
    have hfs : x = 2 ∨ x = 4 ∨ x = 8 ∨ x = 16 := by simpa using hx
    rcases hfs with rfl | rfl | rfl | rfl <;> simp <;> omega
  all_goals
    simp
    omega

theorem Exact.tapTime (h : Exact k v x) {mask : Byte} {shortest lsb : Nat}
    (hfactor : k.factor x = x) (hdivisor : k.divisor x = lsb) (hk : k ≠ .wakeUpDuration)
    (hlsb : shortest < lsb) :
    tapTimeCode mask shortest lsb v x = some (min (mask >>> ffs mask).toNat (k.formula v x)) := by
  have hproduct := h.product
  have hquotient := h.quotient
  rw [Setter.formula, hfactor, hdivisor] at *
  exact tapTimeCode_eq mask (h.divides hk) hlsb hproduct hquotient

theorem Exact.code (h : Exact k v x) : k.code v x = some (min k.maximum (k.formula v x)) := by
  have harg := h.argument
  cases k with
  | wakeUpThershold =>
    have hdivisor : 0 < x * 1000 := Nat.mul_pos (h.divides (by decide)) (by decide)
    exact thresholdCode_eq wakeUpThsMask hdivisor h.product h.quotient
  | wakeUpDuration => 
    exact thresholdCode_eq wakeUpDurMask (by decide : 0 < 32000) h.product h.quotient
  | tapThreshold =>
    have hdivisor : 0 < x * 1000 := Nat.mul_pos (h.divides (by decide)) (by decide)
    exact thresholdCode_eq tapThsMask hdivisor h.product h.quotient
  | tapQuietTime =>
    rw [Setter.argument] at harg
    rw [Setter.code, harg]
    exact h.tapTime rfl rfl (by decide) (by decide)
  | tapShockTime =>
    rw [Setter.argument] at harg
    rw [Setter.code, harg]
    exact h.tapTime rfl rfl (by decide) (by decide)
  | dtapDuration => exact h.tapTime rfl rfl (by decide) (by decide)

end exact

theorem onDevice_ok {α : Type} {x : M α} {s t : EventHw} {a : α} (h : onDevice x s = .ok a t) :
    ∃ hw, x s.toHw = .ok a hw ∧ t = { s with toHw := hw } := by
  rw [onDevice] at h
  cases hx : x s.toHw with
  | ok b hw =>
    rw [hx] at h
    obtain ⟨rfl, rfl⟩ := EStateM.Result.ok.inj h
    exact ⟨hw, rfl, rfl⟩
  | error e hw =>
    rw [hx] at h
    cases h

theorem keeps_onDevice {I : Hw → Prop} {α : Type} {x : M α} (h : Keeps I x) :
    Keeps (fun s : EventHw => I s.toHw) (onDevice x) := by
  intro s hs
  have hnext := h s.toHw hs
  rw [final] at hnext ⊢
  rw [onDevice]
  cases hx : x s.toHw <;> simpa only [hx] using hnext

section reading

variable {addr : Addr} (hv : isVolatileReg addr = false)
include hv

theorem keeps_readWithMask (a : Addr) (mask : Byte) :
    Keeps (fun hw => Regmap.Agrees addr hw.regmap) (readWithMask a mask) := by
  refine Keeps.bind (fun hw hs => ?_) fun data => .ret _
  refine (onRegmap_costs (Regmap.read_costs hw.regmap a)).final
    (R := fun hw => Regmap.Agrees addr hw.regmap) ?_ ?_
  · rintro _ _ ⟨m, rfl, -, -, hm⟩
    exact hm.agrees addr hv hs
  · rintro _ _ ⟨m, rfl, -, hm⟩
    exact hm.agrees addr hv hs

theorem keeps_getXlFs : Keeps (fun s => Regmap.Agrees addr s.regmap) getXlFs :=
  .bind (keeps_onDevice (keeps_readWithMask hv ctrl6Addr fsMask)) fun _ => .ret _

theorem keeps_getXlOdr : Keeps (fun s => Regmap.Agrees addr s.regmap) getXlOdr := by
  refine .bind (keeps_onDevice (keeps_readWithMask hv ctrl1Addr odrMask)) fun odrXl => ?_
  refine .ite (.ret _) (.get_bind fun s hs => ?_)
  cases s.odrEntry with
  | table hwId =>
    dsimp only
    cases (odrTable hwId .ACC).find? (·.val = odrXl) <;> exact hs
  | _ => exact hs

theorem keeps_reading (odr : Int) (k : Setter) :
    Keeps (fun s => Regmap.Agrees addr s.regmap) (k.reading odr) := by
  have hdefault : ∀ id, Keeps (fun s => Regmap.Agrees addr s.regmap) (getDefaultXlOdr odr id) :=
    fun id => .bind (keeps_getXlOdr hv) fun xlOdr => .get_bind fun s hs => hs
  cases k with
  | wakeUpThershold => exact keeps_getXlFs hv
  | tapThreshold => exact keeps_getXlFs hv
  | _ => exact hdefault _

end reading

theorem writeField_ok {r : Addr × Byte} {data : Byte} {s t : EventHw}
    (hv : isVolatileReg r.1 = false) (hs : Regmap.Agrees r.1 s.regmap)
    (h : onDevice (writeWithMaskLocked r.1 r.2 data) s = .ok () t) :
    t.regmap.dev r.1 = Register.put r.2 (shiftVal data r.2) (s.regmap.dev r.1) ∧
      Regmap.Moved isVolatileReg r.1 s.regmap t.regmap := by
  obtain ⟨hw, hrun, rfl⟩ := onDevice_ok h
  have hcosts : Costs hwBus _ (writeWithMaskLocked r.1 r.2 data) s.toHw _ _ :=
    onRegmap_costs (Regmap.updateBits_put hv hs r.2 (shiftVal data r.2))
  obtain ⟨-, m, rfl, hput, hmoved⟩ := hcosts.of_ok hrun
  exact ⟨hput, hmoved⟩

theorem writeFields_ok {code : Nat} {rs : List (Addr × Byte)} {s t : EventHw}
    (hv : ∀ r ∈ rs, isVolatileReg r.1 = false) (hdistinct : (rs.map Prod.fst).Nodup)
    (hs : ∀ r ∈ rs, Regmap.Agrees r.1 s.regmap) (h : writeFields code rs s = .ok () t) :
    (∀ r ∈ rs, t.regmap.dev r.1 = Register.put r.2 (shiftVal code r.2) (s.regmap.dev r.1)) ∧
      ∀ a ∉ rs.map Prod.fst, t.regmap.dev a = s.regmap.dev a := by
  induction rs generalizing s with
  | nil =>
    obtain ⟨-, rfl⟩ := EStateM.Result.ok.inj h
    exact ⟨by simp, fun _ _ => rfl⟩
  | cons r rs ih =>
    rw [List.map_cons, List.nodup_cons] at hdistinct
    rw [List.forall_mem_cons] at hv hs
    rw [writeFields] at h
    obtain ⟨_, u, hfirst, hrest⟩ := bind_ok h
    obtain ⟨hput, hmoved⟩ := writeField_ok hv.1 hs.1 hfirst
    obtain ⟨hset, hkept⟩ := ih hv.2 hdistinct.2
      (fun r' hr' => hmoved.agrees _ (hv.2 r' hr') (hs.2 r' hr')) hrest
    refine ⟨List.forall_mem_cons.mpr ⟨?_, fun r' hr' => ?_⟩, fun a ha => ?_⟩
    · rw [hkept _ hdistinct.1, hput]
    · have hne : r'.1 ≠ r.1 := fun heq => hdistinct.1 (heq ▸ List.mem_map_of_mem hr')
      rw [hset r' hr', hmoved.dev _ hne]
    · rw [List.map_cons, List.mem_cons, not_or] at ha
      rw [hkept a ha.2, hmoved.dev a ha.1]

theorem field_shiftVal (k : Setter) : ∀ r ∈ k.registers, ∀ code ≤ k.maximum,
    (Register.field r.2 (ffs r.2) (shiftVal code r.2)).toNat = code := by
  have hall : k.registers.all fun r => ∀ code ≤ k.maximum,
      (Register.field r.2 (ffs r.2) (shiftVal code r.2)).toNat = code := by
    cases k <;> decide
  exact fun r hr => of_decide_eq_true (List.all_eq_true.mp hall r hr)

theorem registers_plain (k : Setter) :
    (∀ r ∈ k.registers, isVolatileReg r.1 = false) ∧ (k.registers.map Prod.fst).Nodup := by
  have hall : k.registers.all fun r => isVolatileReg r.1 = false := by
    cases k <;> decide
  have hdistinct : (k.registers.map Prod.fst).Nodup := by
    cases k <;> decide
  exact ⟨fun r hr => of_decide_eq_true (List.all_eq_true.mp hall r hr), hdistinct⟩

theorem writeCode_field {k : Setter} {code : Nat} {s t : EventHw} (hcode : code ≤ k.maximum)
    (hs : Settled k s) (h : writeCode (some code) k.registers s = .ok () t) :
    ∀ r ∈ k.registers, (Register.field r.2 (ffs r.2) (t.regmap.dev r.1)).toNat = code := by
  obtain ⟨hv, hdistinct⟩ := registers_plain k
  intro r hr
  rw [(writeFields_ok hv hdistinct hs h).1 r hr, Register.field_put_same,
    field_shiftVal k r hr code hcode]

theorem stored_ok {r : E Int} {f : Int → E Unit} {g : EventHw → EventHw} {s u t : EventHw}
    {x : Int} (hread : r s = .ok x u) (hg : ∀ s, (g s).toHw = s.toHw)
    (h : (do let y ← r; f y; modify g) s = .ok () t) :
    ∃ w, f x u = .ok () w ∧ t.toHw = w.toHw := by
  rw [bind_run hread] at h
  obtain ⟨_, w, hx, hset⟩ := bind_ok h
  obtain ⟨-, rfl⟩ := EStateM.Result.ok.inj hset
  exact ⟨w, hx, hg w⟩

theorem run_ok {k : Setter} {odr v x : Int} {s u t : EventHw}
    (hread : k.reading odr s = .ok x u) (h : k.run odr v s = .ok () t) :
    ∃ w, writeCode (k.code v x) k.registers u = .ok () w ∧ t.toHw = w.toHw := by
  cases k <;>
  · refine stored_ok hread ?_ h
    exact fun _ => rfl

theorem fsXlG_offered (data : Byte) :
    ∃ fs ∈ [2, 4, 8, 16], fsXlG.getD (Register.field fsMask (ffs fsMask) data).toNat 0 = (fs : ℕ) := by
  have hcode : (Register.field fsMask (ffs fsMask) data).toNat ≤ 3 := by
    have hmask : (data &&& fsMask).toNat ≤ fsMask.toNat := by
      rw [BitVec.toNat_and]
      exact Nat.and_le_right
    rw [Register.field, BitVec.toNat_ushiftRight, Nat.shiftRight_eq_div_pow]
    exact (Nat.div_le_div_right hmask).trans (by decide)
  interval_cases (Register.field fsMask (ffs fsMask) data).toNat <;> decide

theorem getXlFs_offered {s t : EventHw} {x : Int} (h : getXlFs s = .ok x t) :
    ∃ fs ∈ [2, 4, 8, 16], x = (fs : ℕ) := by
  obtain ⟨fsXl, u, hread, hx⟩ := bind_ok h
  obtain ⟨hw, hread, -⟩ := onDevice_ok hread
  obtain ⟨data, hw', -, hfield⟩ := bind_ok hread
  obtain ⟨rfl, -⟩ := EStateM.Result.ok.inj hfield
  obtain ⟨rfl, -⟩ := EStateM.Result.ok.inj hx
  exact fsXlG_offered data

theorem getDefaultXlOdr_nonneg {odr : Int} {id : EventId} {s t : EventHw} {x : Int}
    (h : getDefaultXlOdr odr id s = .ok x t) : 0 ≤ x := by
  obtain ⟨xlOdr, u, -, hx⟩ := bind_ok h
  obtain ⟨rfl, -⟩ := EStateM.Result.ok.inj hx
  split_ifs <;> omega

theorem reading_offered {k : Setter} {odr x : Int} {s u : EventHw}
    (h : k.reading odr s = .ok x u) : ∃ n : Nat, x = n ∧ k.offered n := by
  have hrate : ∀ id, getDefaultXlOdr odr id s = .ok x u → ∃ n : Nat, x = n := fun id hid =>
    Int.eq_ofNat_of_zero_le (getDefaultXlOdr_nonneg hid)
  cases k with
  | wakeUpThershold =>
    obtain ⟨fs, hfs, rfl⟩ := getXlFs_offered h
    exact ⟨fs, rfl, hfs⟩
  | tapThreshold =>
    obtain ⟨fs, hfs, rfl⟩ := getXlFs_offered h
    exact ⟨fs, rfl, hfs⟩
  | _ =>
    obtain ⟨n, hn⟩ := hrate _ h
    exact ⟨n, hn, trivial⟩

theorem code_zero {k : Setter} (hk : k ≠ .wakeUpDuration) (v : Int) : k.code v 0 = none := by
  cases k with
  | wakeUpDuration => exact absurd rfl hk
  | _ => rfl

theorem saturates_iff_below {k : Setter} {v x : Nat} (hx : k.offered x) :
    Saturates k v x ↔ k.below v x := by
  rw [← exact_iff_below hx]
  constructor
  · intro h
    refine ⟨h.argument, (int32_iff _).mp h.product, h.quotient, fun hk => ?_⟩
    rcases Nat.eq_zero_or_pos x with rfl | hpos
    · cases (code_zero hk v).symm.trans h.code
    · exact hpos
  · intro h
    refine ⟨h.argument, (int32_iff _).mpr h.product, h.quotient, h.code, ?_⟩
    intro odr s u t hs hread hrun
    obtain ⟨w, hwrite, ht⟩ := run_ok hread hrun
    rw [h.code] at hwrite
    rw [ht]
    refine writeCode_field (min_le_left ..) (fun r hr => ?_) hwrite
    have hkept := keeps_reading ((registers_plain k).1 r hr) odr k s (hs r hr)
    rwa [final, hread] at hkept

theorem below_mono {k : Setter} {v w x : Nat} (hvw : v ≤ w) (h : k.below w x) : k.below v x := by
  have hproduct : v * x ≤ w * x := Nat.mul_le_mul_right x hvw
  cases k <;> simp only [Setter.below] at h ⊢ <;> omega

theorem formula_mono (k : Setter) (x : Nat) : Monotone fun v => min k.maximum (k.formula v x) :=
  fun _ _ h => min_le_min_left _ (Nat.div_le_div_right (Nat.mul_le_mul_right _ h))

theorem event_values_saturate_iff (k : Setter) :
    (∀ odr x s u, k.reading odr s = .ok x u → ∃ n : Nat, x = n ∧ k.offered n) ∧
      (∀ x : {x // k.offered x}, ∀ v, Saturates k v x ↔ k.below v x) ∧
      ∀ x : {x // k.offered x}, ∀ v w, v ≤ w → k.below w x →
        ∃ a b, k.code v x.1 = some a ∧ k.code w x.1 = some b ∧ a ≤ b := by
  refine ⟨fun odr x s u => reading_offered, fun x v => saturates_iff_below x.2,
    fun x v w hvw hw => ?_⟩
  have hv := (saturates_iff_below x.2).mpr (below_mono hvw hw)
  have hw := (saturates_iff_below x.2).mpr hw
  exact ⟨_, _, hv.code, hw.code, formula_mono k x.1 hvw⟩

theorem wake_up_threshold_wraps :
    ¬ ∀ (k : Setter) (x : {x // k.offered x}) (v : Nat), v < 2 ^ 31 → Saturates k v x := by
  intro h
  have hcode := (h .wakeUpThershold ⟨2, List.mem_cons_self⟩ 8000 (by decide)).code
  exact absurd hcode (by decide)

end Lis2dw12
