import Mathlib.Algebra.Order.Floor.Div
import IrisFirmware.Led.Patterns

namespace Ktd2058

open Script

def FitsInt (v : Int) : Prop := -2 ^ 31 ≤ v ∧ v < 2 ^ 31

structure Powers (a : Int) (b : Nat) : Prop where
  value : FitsInt (a ^ b) → ktdPow a b = a ^ b
  fits : FitsInt (a ^ b) → ∀ n ≤ b, 1 ≤ n → FitsInt (ktdPow a n)

inductive Channel where
  | red
  | grn
  | blu
deriving DecidableEq, Repr

def Channel.reg : Channel → U8
  | red => REG_IRED0
  | grn => REG_IGRN0
  | blu => REG_IBLU0

def Channel.value (ired igrn iblu : U8) : Channel → U8
  | red => ired
  | grn => igrn
  | blu => iblu

def Channel.shade (ch : Channel) : Event → Option U8
  | .write .setColor0 reg value => if reg = ch.reg then some value else none
  | _ => none

def rampSteps (c : Chip) (fade ired igrn iblu : U8) (ch : Channel) : List Nat :=
  ((((breathLogscale fade ired igrn iblu c).2.filterMap ch.shade).drop 1).take 8).map BitVec.toNat

structure Ramps (color : Nat) (steps : List Nat) : Prop where
  ceil : steps = (List.range 8).map fun i => color ⌈/⌉ 2 ^ (7 - i)
  rising : steps.Pairwise (· ≤ ·)
  last : steps.getLast? = some color

theorem foldl_mul (a c : Int) (n : Nat) :
    (List.range n).foldl (fun c _ => c * a) c = c * a ^ n := by
  induction n with
  | zero => rw [List.range_zero, List.foldl_nil, pow_zero, mul_one]
  | succ n ih =>
    rw [List.range_succ, List.foldl_append, ih, List.foldl_cons, List.foldl_nil, pow_succ, mul_assoc]

theorem ktdPow_zero (a : Int) : ktdPow a 0 = a := rfl

theorem ktdPow_succ (a : Int) (n : Nat) : ktdPow a (n + 1) = a ^ (n + 1) := by
  rw [ktdPow, Nat.add_sub_cancel, foldl_mul, pow_succ']

theorem ktdPow_iff (a : Int) (b : Nat) : ktdPow a b = a ^ b ↔ (b = 0 → a = 1) := by
  cases b with
  | zero => rw [ktdPow_zero, pow_zero, forall_prop_of_true rfl]
  | succ n => exact iff_of_true (ktdPow_succ a n) fun h => absurd h (Nat.succ_ne_zero n)

theorem fitsInt_of_natAbs {v : Int} (h : v.natAbs ≤ 2 ^ 30) : FitsInt v := by
  rw [FitsInt]
  omega

theorem fitsInt_pow {a : Int} {n b : Nat} (hb : FitsInt (a ^ b)) (hn : n ≤ b) :
    FitsInt (a ^ n) := by
  rcases Nat.eq_or_lt_of_le hn with rfl | hlt
  · exact hb
  · refine fitsInt_of_natAbs ?_
    rw [Int.natAbs_pow]
    rcases Nat.lt_or_ge a.natAbs 2 with hsmall | hlarge
    · have hone : a.natAbs ^ n ≤ 1 := pow_le_one₀ (Nat.zero_le _) (by omega)
      omega
    · have hdouble : a.natAbs ^ n * 2 ≤ a.natAbs ^ b :=
        calc a.natAbs ^ n * 2 ≤ a.natAbs ^ n * a.natAbs := Nat.mul_le_mul_left _ hlarge
          _ = a.natAbs ^ (n + 1) := (pow_succ ..).symm
          _ ≤ a.natAbs ^ b := Nat.pow_le_pow_right (by omega) hlt
      rw [← Int.natAbs_pow a b] at hdouble
      obtain ⟨hlow, hhigh⟩ := hb
      omega

theorem powers_iff (a : Int) (b : Nat) : Powers a b ↔ (b = 0 → a = 1) := by
  constructor
  · rintro ⟨hvalue, -⟩ rfl
    have hone : FitsInt (a ^ 0) := by
      rw [pow_zero]
      exact ⟨by decide, by decide⟩
    exact (ktdPow_iff a 0).mp (hvalue hone) rfl
  · intro h
    refine ⟨fun _ => (ktdPow_iff a b).mpr h, fun hb n hn hpos => ?_⟩
    have hpow : ktdPow a n = a ^ n := (ktdPow_iff a n).mpr fun hzero => absurd hzero (by omega)
    rw [hpow]
    exact fitsInt_pow hb hn

-- the exponent of the last step is 0, and the product is 2 all the same
theorem ktdPow_two (n : Nat) : ktdPow 2 n = 2 ^ max 1 n := by
  cases n with
  | zero => rfl
  | succ n => rw [ktdPow_succ, Nat.max_eq_right (Nat.le_add_left 1 n)]

theorem divRoundUp_eq (v n : Nat) : divRoundUp v (2 ^ n) = ((v ⌈/⌉ 2 ^ n : Nat) : Int) := by
  have hpos : 1 ≤ 2 ^ n := Nat.one_le_two_pow
  have hsum : (v : Int) + 2 ^ n - 1 = ((v + 2 ^ n - 1 : Nat) : Int) := by
    rw [Nat.cast_sub (hpos.trans (Nat.le_add_left ..))]
    push_cast
    rfl
  rw [divRoundUp, hsum, Nat.ceilDiv_eq_add_pred_div, Int.ofNat_tdiv]
  push_cast
  rfl

theorem ceilDiv_le_self (v : Nat) {d : Nat} (hd : 1 ≤ d) : v ⌈/⌉ d ≤ v :=
  (ceilDiv_le_iff_le_smul hd).mpr (Nat.le_mul_of_pos_left v hd)

theorem ceilDiv_anti (v : Nat) {d e : Nat} (hd : 1 ≤ d) (hde : d ≤ e) : v ⌈/⌉ e ≤ v ⌈/⌉ d := by
  refine (ceilDiv_le_iff_le_smul (hd.trans hde)).mpr ?_
  have hle : v ≤ d • (v ⌈/⌉ d) := le_smul_ceilDiv hd
  rw [smul_eq_mul] at hle ⊢
  exact hle.trans (Nat.mul_le_mul_right _ hde)

theorem ceil_rising (v : Nat) (e : Nat → Nat) (he : Antitone e) :
    ((List.range 8).map fun i => v ⌈/⌉ 2 ^ e i).Pairwise (· ≤ ·) := by
  rw [List.pairwise_map]
  refine List.pairwise_lt_range.imp fun {i j} hij => ?_
  exact ceilDiv_anti v Nat.one_le_two_pow (Nat.pow_le_pow_right (by decide) (he hij.le))

section traces

variable (ch : Channel)

theorem traces_setColor0 (ired igrn iblu : U8) :
    Traces ch.shade [ch.value ired igrn iblu] (setColor0 ired igrn iblu) := by
  cases ch <;> exact fun _ => rfl

theorem traces_other {writer : Writer} (h : writer ≠ .setColor0) (reg value : U8) :
    Traces ch.shade [] (writeReg writer reg value) := by
  intro c
  cases writer with
  | setColor0 => exact absurd rfl h
  | _ => rfl

theorem traces_msleep (ms : Int) : Traces ch.shade [] (msleep ms) := traces_emit rfl

theorem traces_modeChange (mode : Int) (fade : U8) :
    Traces ch.shade [] (modeChange mode fade) := by
  have hwrite (value : U8) : Traces ch.shade [] (writeReg .modeChange REG_CONTROL value) :=
    traces_other ch (by decide) _ _
  refine traces_reading fun c => traces_silent ?_
  rw [List.forall_mem_cons, List.forall_mem_singleton]
  refine ⟨traces_assign _, ?_⟩
  split_ifs
  · exact hwrite _
  · exact hwrite _
  · exact hwrite _
  · exact traces_seq (hwrite _) (traces_assign _)
  · exact traces_skip

theorem traces_selectColor (color : Selection) : Traces ch.shade [] (selectColor color) := by
  refine traces_silent fun p hp => ?_
  obtain ⟨i, -, rfl⟩ := List.mem_map.mp hp
  exact traces_other ch (by decide) _ _

end traces

def rampStep (value : U8) (i : Int) : U8 :=
  BitVec.ofInt 8 (divRoundUp value.toNat (ktdPow 2 (7 - i).toNat))

theorem traces_breathLogscale (fade ired igrn iblu : U8) (ch : Channel) :
    Traces ch.shade (0 :: ((upTo 0 7).map (rampStep (ch.value ired igrn iblu)) ++ [0]))
      (breathLogscale fade ired igrn iblu) := by
  have hdark : Traces ch.shade [0] (setColor0 0x00 0x00 0x00) := by
    cases ch <;> exact traces_setColor0 _ 0 0 0
  have hstep : ∀ i ∈ upTo 0 7, Traces ch.shade [rampStep (ch.value ired igrn iblu) i]
      (seq (setColor0 (rampStep ired i) (rampStep igrn i) (rampStep iblu i)) (msleep 900)) := by
    intro i _
    have hvalue : ch.value (rampStep ired i) (rampStep igrn i) (rampStep iblu i) =
        rampStep (ch.value ired igrn iblu) i := by
      cases ch <;> rfl
    have hset := traces_setColor0 ch (rampStep ired i) (rampStep igrn i) (rampStep iblu i)
    rw [hvalue] at hset
    exact traces_seq hset (traces_msleep ch 900)
  have hramp := traces_forEach hstep
  rw [← List.map_eq_flatMap] at hramp
  exact traces_steps_cons (traces_modeChange ch DEFAULT 0) <|
    traces_steps_cons hdark <| traces_steps_cons (traces_selectColor ch .color0) <|
    traces_steps_cons (traces_modeChange ch NORMAL_MODE fade) <| traces_steps_cons hramp <|
    traces_steps_cons (traces_msleep ch _) <| traces_steps_cons hdark <|
    traces_steps_cons (traces_msleep ch 900) traces_skip

theorem rampStep_toNat (value : U8) (k : Nat) :
    (rampStep value k).toNat = value.toNat ⌈/⌉ 2 ^ max 1 (7 - k) := by
  have hle := ceilDiv_le_self value.toNat (Nat.one_le_two_pow (n := max 1 (7 - k)))
  have hexp : (7 - (k : Int)).toNat = 7 - k := by omega
  rw [rampStep, hexp, ktdPow_two, divRoundUp_eq, BitVec.toNat_ofInt]
  omega

theorem rampSteps_eq (c : Chip) (fade ired igrn iblu : U8) (ch : Channel) :
    rampSteps c fade ired igrn iblu ch = (List.range 8).map fun i =>
      (ch.value ired igrn iblu).toNat ⌈/⌉ 2 ^ max 1 (7 - i) := by
  have hlen : ((upTo 0 7).map (rampStep (ch.value ired igrn iblu))).length = 8 := rfl
  rw [rampSteps, traces_breathLogscale, List.drop_one, List.tail_cons, List.take_left' hlen,
    upTo, List.map_map, List.map_map]
  refine List.map_congr_left fun k _ => ?_
  rw [Function.comp_apply, Function.comp_apply, zero_add, rampStep_toNat]

theorem rampSteps_rising (c : Chip) (fade ired igrn iblu : U8) (ch : Channel) :
    (rampSteps c fade ired igrn iblu ch).Pairwise (· ≤ ·) := by
  rw [rampSteps_eq]
  refine ceil_rising _ (fun i => max 1 (7 - i)) fun i j hij => ?_
  exact max_le_max_left 1 (Nat.sub_le_sub_left hij 7)

theorem half_iff (v : Nat) : v ⌈/⌉ 2 = v ↔ v ≤ 1 := by
  rw [Nat.ceilDiv_eq_add_pred_div]
  omega

theorem ramps_iff (c : Chip) (fade ired igrn iblu : U8) (ch : Channel) :
    Ramps (ch.value ired igrn iblu).toNat (rampSteps c fade ired igrn iblu ch) ↔
      (ch.value ired igrn iblu).toNat ≤ 1 := by
  have hlast : (rampSteps c fade ired igrn iblu ch).getLast? =
      some ((ch.value ired igrn iblu).toNat ⌈/⌉ 2) := by
    rw [rampSteps_eq]
    rfl
  rw [← half_iff]
  constructor
  · intro h
    exact Option.some.inj (hlast.symm.trans h.last)
  · intro hhalf
    refine ⟨?_, rampSteps_rising .., hlast.trans (congrArg some hhalf)⟩
    rw [rampSteps_eq]
    refine List.map_congr_left fun i hi => ?_
    have hi := List.mem_range.mp hi
    rcases Nat.lt_or_ge i 7 with hearly | hlate
    · rw [Nat.max_eq_right (by omega)]
    · obtain rfl : i = 7 := by omega
      exact hhalf.trans (ceilDiv_one _).symm

theorem log_ramp_iff (a : Int) (b : Nat) (c : Chip) (fade ired igrn iblu : U8) (ch : Channel) :
    (Powers a b ↔ (b = 0 → a = 1)) ∧
      (Ramps (ch.value ired igrn iblu).toNat (rampSteps c fade ired igrn iblu ch) ↔
        (ch.value ired igrn iblu).toNat ≤ 1) :=
  ⟨powers_iff a b, ramps_iff c fade ired igrn iblu ch⟩

-- the last step of the yellow the demo breathes is 0x60 and not 0xC0
theorem yellow_ends_at_half :
    (¬ ∀ (a : Int) (b : Nat), Powers a b) ∧
      ¬ ∀ (c : Chip) (fade ired igrn iblu : U8) (ch : Channel),
        Ramps (ch.value ired igrn iblu).toNat (rampSteps c fade ired igrn iblu ch) := by
  constructor
  · intro h
    have hpow := (h 2 0).value ⟨by decide, by decide⟩
    rw [ktdPow_zero] at hpow
    exact absurd hpow (by decide)
  · intro h
    have hramp := h (allocated (fun _ => 0) ⟨0, 0, 0⟩) 2 0xC0 0xC0 0x00 .red
    exact absurd ((ramps_iff _ 2 0xC0 0xC0 0x00 .red).mp hramp) (by decide)

end Ktd2058
