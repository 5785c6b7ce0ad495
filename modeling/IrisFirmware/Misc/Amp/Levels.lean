import IrisFirmware.Library.Run
import IrisFirmware.Misc.Amp.BulkWrite

namespace PegaAmp

open Run

inductive LevelOp where
  | mute (ok : Nat → Bool) (bMute : Nat)
  | volume (ok : Nat → Bool) (fdB : ℚ)

namespace LevelOp

def ok : LevelOp → Nat → Bool
  | mute ok _ => ok
  | volume ok _ => ok

def reg : LevelOp → Nat
  | mute .. => tasPwrCtl
  | volume .. => tasPbCfg1

def mask : LevelOp → Nat
  | mute .. => 0x03
  | volume .. => 0x3e

def lo : LevelOp → Nat
  | mute .. => 0
  | volume .. => 1

def code : LevelOp → Nat
  | mute _ bMute => if bMute ≠ 0 then 1 else 0
  | volume _ fdB => volumeCode fdB

def value : LevelOp → Nat
  | mute _ bMute => if bMute ≠ 0 then 0x01 else 0x00
  | volume _ fdB => 2 * volumeCode fdB % 2 ^ 8

end LevelOp

def levelStep (a : Amp) : LevelOp → Amp
  | .mute ok bMute => softwareMute ok bMute a
  | .volume ok fdB => volumeControl ok fdB a

def Amp.register (a : Amp) (reg : Nat) : Nat := a.chip.mem (0, 0, reg)

def answered (a : Amp) (op : LevelOp) : Prop :=
  op.ok 2 ∧ ∀ t ∈ (levelStep a op).calls.drop a.calls.length, t.ok

structure FieldOnly (a : Amp) (op : LevelOp) : Prop where
  kept : ∀ reg ∈ [tasPwrCtl, tasPbCfg1], ∀ i < 8, ¬ (reg = op.reg ∧ op.mask.testBit i) →
    ((levelStep a op).register reg).testBit i = (a.register reg).testBit i
  set : answered a op → ((levelStep a op).register op.reg &&& op.mask) >>> op.lo = op.code
  unread : op.ok 2 = false → (levelStep a op).calls = a.calls ++ selectFirst op.ok

def merged (mask value old : Nat) : Nat := (old &&& (0xff ^^^ mask)) ||| (value &&& mask)

theorem testBit_merged (mask value old : Nat) {i : Nat} (hi : i < 8) :
    (merged mask value old).testBit i =
      if mask.testBit i then value.testBit i else old.testBit i := by
  have hbyte : (0xff : Nat).testBit i = true := by
    rw [show (0xff : Nat) = 2 ^ 8 - 1 from rfl, Nat.testBit_two_pow_sub_one, decide_eq_true hi]
  rw [merged, Nat.testBit_or, Nat.testBit_and, Nat.testBit_and, Nat.testBit_xor, hbyte]
  cases mask.testBit i <;> simp

theorem merged_and_mask {mask : Nat} (hmask : mask < 2 ^ 8) (value old : Nat) :
    merged mask value old &&& mask = value &&& mask := by
  apply Nat.eq_of_testBit_eq
  intro i
  rw [Nat.testBit_and, Nat.testBit_and]
  by_cases hi : i < 8
  case pos =>
    rw [testBit_merged mask value old hi]
    cases mask.testBit i <;> simp
  case neg =>
    have hclear : mask.testBit i = false :=
      Nat.testBit_lt_two_pow (hmask.trans_le (Nat.pow_le_pow_right (by decide) (by omega)))
    simp [hclear]

theorem write_mem_ne {r reg : Nat} (h : r ≠ reg) (c : Chip) (val b p : Nat) :
    (c.write reg val).mem (b, p, r) = c.mem (b, p, r) :=
  Function.update_of_ne (by simp [h]) ..

theorem i2cWrite_register_ne {r reg : Nat} (h : r ≠ reg) (ok : Bool) (val : Nat) (a : Amp) :
    (i2cWrite ok reg val a).1.register r = a.register r := by
  cases ok with
  | false => rfl
  | true => exact write_mem_ne h ..

theorem i2cWrite_register_self {a : Amp} (hplace : a.chip.book = 0 ∧ a.chip.page = 0)
    (reg val : Nat) : (i2cWrite true reg val a).1.register reg = val := by
  change (a.chip.write reg val).mem (0, 0, reg) = val
  rw [Chip.write]
  dsimp only
  rw [hplace.1, hplace.2, Function.update_self]

theorem updateBits_cases (okRead okWrite : Bool) (reg mask value : Nat) (a : Amp) :
    let old := a.chip.mem (a.chip.book, a.chip.page, reg)
    (okRead = false ∧ (updateBits okRead okWrite reg mask value a).1 = a) ∨
      (okRead = true ∧ merged mask value old = old ∧
        (updateBits okRead okWrite reg mask value a).1 = a) ∨
      (okRead = true ∧ merged mask value old ≠ old ∧
        (updateBits okRead okWrite reg mask value a).1 =
          (i2cWrite okWrite reg (merged mask value old) a).1) := by
  intro old
  cases okRead with
  | false => exact .inl ⟨rfl, rfl⟩
  | true =>
    have hread : i2cRead true reg a = (old, SUCCEED) := rfl
    rw [updateBits, hread]
    dsimp only
    rw [if_neg (by decide), ← merged]
    by_cases hsame : merged mask value old = old
    case pos => exact .inr (.inl ⟨rfl, hsame, by rw [if_neg (not_not.mpr hsame.symm)]⟩)
    case neg =>
      refine .inr (.inr ⟨rfl, hsame, ?_⟩)
      rw [if_pos (Ne.symm hsame)]
      split_ifs <;> rfl

theorem levelStep_eq (a : Amp) (op : LevelOp) :
    levelStep a op = (updateBits (op.ok 2) (op.ok 3) op.reg op.mask op.value
      (perform (selectFirst op.ok) a)).1 := by
  cases op <;> rfl

theorem selected_register {r : Nat} (hpage : r ≠ tasPage) (hbook : r ≠ tasBook)
    (ok : Nat → Bool) (a : Amp) : (perform (selectFirst ok) a).register r = a.register r := by
  change (i2cWrite (ok 1) tasBook 0 (i2cWrite (ok 0) tasPage 0 a).1).1.register r = _
  rw [i2cWrite_register_ne hbook, i2cWrite_register_ne hpage]

theorem selected_calls (ok : Nat → Bool) (a : Amp) :
    (perform (selectFirst ok) a).calls = a.calls ++ selectFirst ok := by
  change (i2cWrite (ok 1) tasBook 0 (i2cWrite (ok 0) tasPage 0 a).1).1.calls = _
  rw [i2cWrite_calls, i2cWrite_calls, List.append_assoc]
  rfl

theorem selected_first {ok : Nat → Bool} (hpage : ok 0) (hbook : ok 1) (a : Amp) :
    (perform (selectFirst ok) a).chip.book = 0 ∧ (perform (selectFirst ok) a).chip.page = 0 := by
  change (i2cWrite (ok 1) tasBook 0 (i2cWrite (ok 0) tasPage 0 a).1).1.chip.book = 0 ∧
    (i2cWrite (ok 1) tasBook 0 (i2cWrite (ok 0) tasPage 0 a).1).1.chip.page = 0
  rw [hpage, hbook]
  exact ⟨rfl, rfl⟩

theorem levelStep_register {a : Amp} {op : LevelOp} {reg : Nat} (hpage : reg ≠ tasPage)
    (hbook : reg ≠ tasBook) :
    (levelStep a op).register reg = a.register reg ∨
      reg = op.reg ∧ (levelStep a op).register reg = merged op.mask op.value (a.register reg) := by
  have hselected := selected_register hpage hbook op.ok a
  rw [levelStep_eq]
  obtain ⟨-, hstep⟩ | ⟨-, -, hstep⟩ | ⟨-, -, hstep⟩ := updateBits_cases (op.ok 2) (op.ok 3) op.reg
    op.mask op.value (perform (selectFirst op.ok) a)
  · rw [hstep]
    exact .inl hselected
  · rw [hstep]
    exact .inl hselected
  · rw [hstep]
    by_cases hreg : reg = op.reg
    case neg => exact .inl ((i2cWrite_register_ne hreg ..).trans hselected)
    case pos =>
      subst hreg
      cases op.ok 3 with
      | false => exact .inl hselected
      | true =>
        by_cases hplace : (perform (selectFirst op.ok) a).chip.book = 0 ∧
            (perform (selectFirst op.ok) a).chip.page = 0
        case pos =>
          refine .inr ⟨rfl, ?_⟩
          rw [i2cWrite_register_self hplace, hplace.1, hplace.2, ← hselected]
          rfl
        case neg =>
          refine .inl (Eq.trans ?_ hselected)
          refine Function.update_of_ne (fun heq => hplace ?_) ..
          rw [Prod.mk.injEq, Prod.mk.injEq] at heq
          exact ⟨heq.1.symm, heq.2.1.symm⟩

theorem levelStep_kept {a : Amp} {op : LevelOp} {reg : Nat} (hpage : reg ≠ tasPage)
    (hbook : reg ≠ tasBook) {i : Nat} (hi : i < 8) (hout : ¬ (reg = op.reg ∧ op.mask.testBit i)) :
    ((levelStep a op).register reg).testBit i = (a.register reg).testBit i := by
  rcases @levelStep_register a op reg hpage hbook with h | ⟨hreg, h⟩
  · rw [h]
  · rw [h, testBit_merged _ _ _ hi, if_neg fun hm => hout ⟨hreg, hm⟩]

theorem clamped_fdB (fdB : ℚ) :
    (let fdB := if fdB < 17 / 2 then 17 / 2 else fdB
    if 22 < fdB then 22 else fdB) = max (17 / 2) (min fdB 22) := by
  dsimp only
  rcases lt_or_ge fdB (17 / 2) with hlo | hlo
  · rw [if_pos hlo, if_neg (by norm_num), min_eq_left (by linarith), max_eq_left hlo.le]
  · rw [if_neg (not_lt.mpr hlo)]
    rcases lt_or_ge 22 fdB with hhi | hhi
    · rw [if_pos hhi, min_eq_right hhi.le, max_eq_right (by norm_num)]
    · rw [if_neg (not_lt.mpr hhi), min_eq_left hhi, max_eq_right hlo]

def clamp (fdB : ℚ) : ℚ := max (17 / 2) (min fdB 22)

theorem clamp_range (fdB : ℚ) : 17 / 2 ≤ clamp fdB ∧ clamp fdB ≤ 22 :=
  ⟨le_max_left .., max_le (by norm_num) (min_le_right ..)⟩

theorem clamp_mono : Monotone clamp :=
  fun _ _ h => max_le_max_left _ (min_le_min_right _ h)

theorem volumeCode_eq (fdB : ℚ) :
    (volumeCode fdB : ℤ) = ⌊2 * (clamp fdB - 17 / 2)⌋ + 1 := by
  have hlevel : (clamp fdB - 17 / 2) / (1 / 2) + 1 = 2 * (clamp fdB - 17 / 2) + 1 := by ring
  have hpos : 0 ≤ ⌊2 * (clamp fdB - 17 / 2)⌋ :=
    Int.floor_nonneg.mpr (by linarith [(clamp_range fdB).1])
  rw [volumeCode, clamped_fdB, ← clamp, hlevel]
  change (⌊2 * (clamp fdB - 17 / 2) + 1⌋.toNat : ℤ) = _
  rw [Int.floor_add_one, Int.toNat_of_nonneg (by omega)]

theorem volumeCode_range (fdB : ℚ) : 1 ≤ volumeCode fdB ∧ volumeCode fdB ≤ 28 := by
  have hcode := volumeCode_eq fdB
  have hlow : 0 ≤ ⌊2 * (clamp fdB - 17 / 2)⌋ :=
    Int.floor_nonneg.mpr (by linarith [(clamp_range fdB).1])
  have hhigh : ⌊2 * (clamp fdB - 17 / 2)⌋ < 28 :=
    Int.floor_lt.mpr (by push_cast; linarith [(clamp_range fdB).2])
  omega

theorem volumeCode_mono : Monotone volumeCode := by
  intro x y h
  have hfloor : ⌊2 * (clamp x - 17 / 2)⌋ ≤ ⌊2 * (clamp y - 17 / 2)⌋ :=
    Int.floor_mono (by linarith [clamp_mono h])
  have hx := volumeCode_eq x
  have hy := volumeCode_eq y
  omega

theorem value_field (op : LevelOp) : (op.value &&& op.mask) >>> op.lo = op.code := by
  cases op with
  | mute ok bMute =>
    change ((if bMute ≠ 0 then 0x01 else 0x00) &&& 0x03) >>> 0 = if bMute ≠ 0 then 1 else 0
    split_ifs <;> rfl
  | volume ok fdB =>
    obtain ⟨-, hmax⟩ := volumeCode_range fdB
    change ((2 * volumeCode fdB % 2 ^ 8) &&& 0x3e) >>> 1 = volumeCode fdB
    generalize volumeCode fdB = code at hmax ⊢
    interval_cases code <;> rfl

theorem i2cWrite_succeeded {ok : Bool} {reg val : Nat} {a : Amp}
    (h : ∀ t ∈ (i2cWrite ok reg val a).1.calls.drop a.calls.length, t.ok) : ok = true := by
  rw [i2cWrite_calls, List.drop_left] at h
  exact h ⟨ok, reg, val⟩ (by simp)

theorem op_mask (op : LevelOp) : op.mask < 2 ^ 8 := by
  cases op with
  | mute => exact (by decide : 0x03 < 2 ^ 8)
  | volume => exact (by decide : 0x3e < 2 ^ 8)

theorem updateBits_field {okRead okWrite : Bool} {reg mask value : Nat} {a : Amp}
    (hplace : a.chip.book = 0 ∧ a.chip.page = 0) (hread : okRead = true)
    (hwrite : ∀ t ∈ (updateBits okRead okWrite reg mask value a).1.calls.drop a.calls.length,
      t.ok) :
    (updateBits okRead okWrite reg mask value a).1.register reg =
      merged mask value (a.register reg) := by
  have hcases := updateBits_cases okRead okWrite reg mask value a
  rw [hplace.1, hplace.2] at hcases
  rcases hcases with ⟨hno, -⟩ | ⟨-, hsame, hstep⟩ | ⟨-, -, hstep⟩
  · exact absurd (hread.symm.trans hno) (by decide)
  · rw [hstep]
    exact hsame.symm
  · rw [hstep] at hwrite ⊢
    rw [i2cWrite_succeeded hwrite, i2cWrite_register_self hplace]
    rfl

theorem levelStep_calls (a : Amp) (op : LevelOp) :
    ∃ ts, (levelStep a op).calls = a.calls ++ selectFirst op.ok ++ ts ∧
      (op.ok 2 = false → ts = []) := by
  have hselected := selected_calls op.ok a
  rw [levelStep_eq]
  obtain ⟨-, hstep⟩ | ⟨-, -, hstep⟩ | ⟨hread, -, hstep⟩ := updateBits_cases (op.ok 2) (op.ok 3)
    op.reg op.mask op.value (perform (selectFirst op.ok) a)
  · exact ⟨[], by rw [hstep, hselected, List.append_nil], fun _ => rfl⟩
  · exact ⟨[], by rw [hstep, hselected, List.append_nil], fun _ => rfl⟩
  · exact ⟨_, by rw [hstep, i2cWrite_calls, hselected],
      fun hno => absurd (hread.symm.trans hno) (by decide)⟩

theorem levelStep_field {a : Amp} {op : LevelOp} (h : answered a op) :
    ((levelStep a op).register op.reg &&& op.mask) >>> op.lo = op.code := by
  obtain ⟨hread, hwrites⟩ := h
  obtain ⟨ts, hcalls, -⟩ := levelStep_calls a op
  rw [hcalls, List.append_assoc, List.drop_left] at hwrites
  have hpage : op.ok 0 = true := hwrites ⟨op.ok 0, tasPage, 0⟩ (by simp [selectFirst])
  have hbook : op.ok 1 = true := hwrites ⟨op.ok 1, tasBook, 0⟩ (by simp [selectFirst])
  have hplace := selected_first hpage hbook a
  have hfield : (levelStep a op).register op.reg =
      merged op.mask op.value ((perform (selectFirst op.ok) a).register op.reg) := by
    rw [levelStep_eq]
    refine updateBits_field hplace hread fun t ht => hwrites t ?_
    rw [← levelStep_eq, selected_calls, hcalls, List.drop_left] at ht
    exact List.mem_append_right _ ht
  rw [hfield, merged_and_mask (op_mask op), value_field]

theorem level_only (a : Amp) (op : LevelOp) : FieldOnly a op where
  kept reg hreg i hi hout := by
    obtain rfl | rfl : reg = tasPwrCtl ∨ reg = tasPbCfg1 := by simpa using hreg
    · exact levelStep_kept (by decide) (by decide) hi hout
    · exact levelStep_kept (by decide) (by decide) hi hout
  set := levelStep_field
  unread hread := by
    obtain ⟨ts, hcalls, hnone⟩ := levelStep_calls a op
    rw [hcalls, hnone hread, List.append_nil]

theorem levels_touch_only_their_fields :
    (∀ fdB : ℚ, (volumeCode fdB : ℤ) = ⌊2 * (clamp fdB - 17 / 2)⌋ + 1) ∧
      (∀ fdB, 1 ≤ volumeCode fdB ∧ volumeCode fdB ≤ 28) ∧ Monotone volumeCode ∧
      ∀ (a : Amp) (ops : List LevelOp), Along levelStep FieldOnly a ops :=
  ⟨volumeCode_eq, volumeCode_range, volumeCode_mono,
    fun a _ => along_of_forall (fun s op _ => level_only s op) a⟩

end PegaAmp
