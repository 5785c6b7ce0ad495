import IrisFirmware.Library.Register
import IrisFirmware.Library.Run
import IrisFirmware.Led.Commands

namespace Ktd2058

open Script Register Run

inductive ControlField where
  | brightextend
  | ceTemp
  | fadeRate
deriving DecidableEq, Repr

namespace ControlField

def bits : ControlField → U8 → Nat
  | .brightextend, r => (r.extractLsb 5 5).toNat
  | .ceTemp, r => (r.extractLsb 4 3).toNat
  | .fadeRate, r => (r.extractLsb 2 0).toNat

def cached : ControlField → PlatformData → Nat
  | .brightextend => PlatformData.brightextend
  | .ceTemp => PlatformData.ceTemp
  | .fadeRate => PlatformData.fadeRate

def store : ControlField → StoreAttr
  | .brightextend => .brightextend
  | .ceTemp => .ceTemp
  | .fadeRate => .fadeRate

def display : ControlField → ShowAttr
  | .brightextend => .brightextend
  | .ceTemp => .ceTemp
  | .fadeRate => .fadeRate

def max : ControlField → Nat
  | .brightextend => 1
  | .ceTemp => 3
  | .fadeRate => 7

def lo : ControlField → Nat
  | .brightextend => 5
  | .ceTemp => 3
  | .fadeRate => 0

def mask : ControlField → U8
  | .brightextend => 0x20
  | .ceTemp => 0x18
  | .fadeRate => 0x07

def storeMask : ControlField → U8
  | .brightextend => 0x02
  | .ceTemp => 0x18
  | .fadeRate => 0x07

def set : ControlField → Nat → PlatformData → PlatformData
  | .brightextend => setBrightextend
  | .ceTemp => setCeTemp
  | .fadeRate => setFadeRate

end ControlField

def Chip.control (c : Chip) : U8 := c.readReg REG_CONTROL

inductive ControlOp where
  | modeChange (mode : Int) (fade : Fin 8)
  | store (f : ControlField) (value : UInt32) (size : Nat)
  | read (f : ControlField)

def perform : ControlOp → Driver
  | .modeChange mode fade => Ktd2058.modeChange mode (BitVec.ofNat 8 fade)
  | .store f value size => act (.store f.store (.ok value) size)
  | .read f => act (.read f.display)

def controlStep (c : Chip) (op : ControlOp) : Chip := (perform op c).1

def Coherent (c : Chip) : Prop := ∀ f : ControlField, f.bits c.control = f.cached c.pdata

structure StoresOnly (f : ControlField) (v : Nat) (c after : Chip) : Prop where
  own : f.bits after.control = v
  ownCached : f.cached after.pdata = v
  others : after.control &&& ~~~f.mask = c.control &&& ~~~f.mask
  othersCached : ∀ g, g ≠ f → g.cached after.pdata = g.cached c.pdata

def Kept (c : Chip) (op : ControlOp) : Prop :=
  Coherent (controlStep c op) ∧
  match op with
  | .modeChange _ _ => True
  | .store f value _ =>
      StoresOnly f (min value.toNat f.max) c (controlStep c op) ∧
      (perform (.read f) (controlStep c op)).2 = [.shown (hexLine (min value.toNat f.max))]
  | .read f => perform (.read f) c = (c, [.shown (hexLine (f.cached c.pdata))])

def Sound (c : Chip) : ControlOp → Prop
  | .modeChange mode fade => (0 ≤ mode ∧ mode ≤ 3) ∨ c.pdata.fadeRate = fade
  | .store .brightextend value _ =>
      c.pdata.brightextend = min value.toNat 1 ∧ c.pdata.fadeRate.testBit 1 = false
  | .store _ _ _ => True
  | .read _ => True

theorem bits_eq_field (f : ControlField) (r : U8) : f.bits r = (field f.mask f.lo r).toNat := by
  cases f with
  | brightextend => revert r; decide +kernel
  | ceTemp => revert r; decide +kernel
  | fadeRate => revert r; decide +kernel

theorem bits_le_max (f : ControlField) (r : U8) : f.bits r ≤ f.max := by
  cases f with
  | brightextend => exact Nat.le_of_lt_succ (BitVec.isLt (r.extractLsb 5 5))
  | ceTemp => exact Nat.le_of_lt_succ (BitVec.isLt (r.extractLsb 4 3))
  | fadeRate => exact Nat.le_of_lt_succ (BitVec.isLt (r.extractLsb 2 0))

theorem mask_disjoint {f g : ControlField} (h : f ≠ g) : f.mask &&& g.mask = 0#8 := by
  revert h
  cases f <;> cases g <;> decide

theorem bits_put_same (f : ControlField) {v : Nat} (hv : v ≤ f.max) (r : U8) :
    f.bits (put f.mask (BitVec.ofNat 8 (v <<< f.lo)) r) = v := by
  rw [bits_eq_field, field_put_same]
  cases f with
  | brightextend => revert v; decide
  | ceTemp => revert v; decide
  | fadeRate => revert v; decide

theorem bits_put_other {f g : ControlField} (h : f ≠ g) (v r : U8) :
    g.bits (put f.mask v r) = g.bits r := by
  rw [bits_eq_field, bits_eq_field, field_put_disjoint (mask_disjoint h)]

@[simp] theorem cached_set_same (f : ControlField) (v : Nat) (p : PlatformData) :
    f.cached (f.set v p) = v := by
  cases f <;> rfl

theorem cached_set_other {f g : ControlField} (h : g ≠ f) (v : Nat) (p : PlatformData) :
    g.cached (f.set v p) = g.cached p := by
  revert h
  cases f <;> cases g <;>
    simp [ControlField.cached, ControlField.set, setBrightextend, setCeTemp, setFadeRate]

theorem store_control (f : ControlField) (value : UInt32) (size : Nat) (c : Chip) :
    (controlStep c (.store f value size)).control =
      put f.storeMask (BitVec.ofNat 8 (min value.toNat f.max <<< f.lo)) c.control := by
  cases f with
  | brightextend => exact toNat_clamped value 1 ▸ rfl
  | ceTemp => exact toNat_clamped value 3 ▸ rfl
  | fadeRate => exact toNat_clamped value 7 ▸ rfl

theorem store_pdata (f : ControlField) (value : UInt32) (size : Nat) (c : Chip) :
    (controlStep c (.store f value size)).pdata = f.set (min value.toNat f.max) c.pdata := by
  cases f with
  | brightextend => exact toNat_clamped value 1 ▸ rfl
  | ceTemp => exact toNat_clamped value 3 ▸ rfl
  | fadeRate => exact toNat_clamped value 7 ▸ rfl

def modeBits : Int → U8
  | 1 => 0x40
  | 2 => 0x80
  | 3 => 0x07
  | _ => 0x00

def modeFade (mode : Int) (fade : Fin 8) : Fin 8 := if mode = DEFAULT then 7 else fade

theorem toNat_fade (fade : Fin 8) : (BitVec.ofNat 8 fade).toNat = fade := by
  revert fade
  decide

theorem modeChange_control {mode : Int} (hm : 0 ≤ mode ∧ mode ≤ 3) (fade : Fin 8) (c : Chip) :
    (controlStep c (.modeChange mode fade)).control =
      modeBits mode ||| controlValue c.pdata (BitVec.ofNat 8 fade) := by
  obtain rfl | rfl | rfl | rfl : mode = 0 ∨ mode = 1 ∨ mode = 2 ∨ mode = 3 := by omega
  · exact BitVec.zero_or.symm
  · rfl
  · rfl
  · rfl

theorem modeChange_pdata {mode : Int} (hm : 0 ≤ mode ∧ mode ≤ 3) (fade : Fin 8) (c : Chip) :
    (controlStep c (.modeChange mode fade)).pdata =
      ControlField.set .fadeRate (modeFade mode fade) c.pdata := by
  obtain rfl | rfl | rfl | rfl : mode = 0 ∨ mode = 1 ∨ mode = 2 ∨ mode = 3 := by omega
  · exact toNat_fade fade ▸ rfl
  · exact toNat_fade fade ▸ rfl
  · exact toNat_fade fade ▸ rfl
  · rfl

theorem modeChange_unwritten {mode : Int} (hm : ¬ (0 ≤ mode ∧ mode ≤ 3)) (fade : Fin 8)
    (c : Chip) :
    (controlStep c (.modeChange mode fade)).control = c.control ∧
      (controlStep c (.modeChange mode fade)).pdata = ControlField.set .fadeRate fade c.pdata := by
  have h0 : mode ≠ GLOBAL_OFF := by rintro rfl; exact hm (by decide)
  have h1 : mode ≠ NIGHT_MODE := by rintro rfl; exact hm (by decide)
  have h2 : mode ≠ NORMAL_MODE := by rintro rfl; exact hm (by decide)
  have h3 : mode ≠ DEFAULT := by rintro rfl; exact hm (by decide)
  have hrun : controlStep c (.modeChange mode fade) =
      { c with pdata := { c.pdata with fadeRate := (BitVec.ofNat 8 fade.val).toNat } } := by
    simp only [controlStep, perform, Ktd2058.modeChange, reading, steps, seq, h0, h1, h2, h3,
      if_false]
    rfl
  rw [hrun, toNat_fade]
  exact ⟨rfl, rfl⟩

theorem bits_packed (b : Fin 2) (t : Fin 4) (fade : Fin 8) (mode : Fin 4) (f : ControlField) :
    f.bits (modeBits mode ||| controlValue ⟨b, t, 0⟩ (BitVec.ofNat 8 fade)) =
      f.cached ⟨b, t, modeFade mode fade⟩ := by
  cases f with
  | brightextend => revert b t fade mode; decide +kernel
  | ceTemp => revert b t fade mode; decide +kernel
  | fadeRate => revert b t fade mode; decide +kernel

theorem bits_controlValue {p : PlatformData} (hb : p.brightextend ≤ 1) (ht : p.ceTemp ≤ 3)
    {mode : Int} (hm : 0 ≤ mode ∧ mode ≤ 3) (fade : Fin 8) (f : ControlField) :
    f.bits (modeBits mode ||| controlValue p (BitVec.ofNat 8 fade)) =
      f.cached (ControlField.set .fadeRate (modeFade mode fade) p) := by
  have hpack := bits_packed ⟨p.brightextend, Nat.lt_succ_of_le hb⟩
    ⟨p.ceTemp, Nat.lt_succ_of_le ht⟩ fade
  obtain rfl | rfl | rfl | rfl : mode = 0 ∨ mode = 1 ∨ mode = 2 ∨ mode = 3 := by omega
  · exact hpack 0 f
  · exact hpack 1 f
  · exact hpack 2 f
  · exact hpack 3 f

theorem coherent_bounds {c : Chip} (h : Coherent c) (f : ControlField) :
    f.cached c.pdata ≤ f.max := h f ▸ bits_le_max f c.control

theorem modeChange_settles {c : Chip} (hb : c.pdata.brightextend ≤ 1) (ht : c.pdata.ceTemp ≤ 3)
    {mode : Int} (hm : 0 ≤ mode ∧ mode ≤ 3) (fade : Fin 8) :
    Coherent (controlStep c (.modeChange mode fade)) := by
  intro f
  rw [modeChange_control hm, modeChange_pdata hm]
  exact bits_controlValue hb ht hm fade f

theorem modeChange_coherent {c : Chip} (h : Coherent c) (mode : Int) (fade : Fin 8) :
    Coherent (controlStep c (.modeChange mode fade)) ↔
      (0 ≤ mode ∧ mode ≤ 3) ∨ c.pdata.fadeRate = fade := by
  rcases Decidable.em (0 ≤ mode ∧ mode ≤ 3) with hm | hm
  · have hb := coherent_bounds h .brightextend
    have ht := coherent_bounds h .ceTemp
    exact iff_of_true (modeChange_settles hb ht hm fade) (.inl hm)
  · obtain ⟨hc, hp⟩ := modeChange_unwritten hm fade c
    simp only [hm, false_or]
    constructor
    · intro hco
      have hf := hco .fadeRate
      rw [hc, hp, h .fadeRate] at hf
      exact hf
    · intro hf g
      rw [hc, hp, h g]
      cases g with
      | brightextend => rfl
      | ceTemp => rfl
      | fadeRate => exact hf

theorem perform_read (f : ControlField) :
    perform (.read f) = restoringShow f.mask f.lo f.cached f.set := by
  cases f <;> rfl

theorem show_coherent {c : Chip} (h : Coherent c) (f : ControlField) :
    perform (.read f) c = (c, [.shown (hexLine (f.cached c.pdata))]) := by
  have hval : ((c.readReg REG_CONTROL &&& f.mask) >>> f.lo).toNat = f.cached c.pdata := by
    rw [← h f, bits_eq_field]
    rfl
  rw [perform_read]
  simp only [restoringShow, reading, guarded, seq, hval, ne_eq, not_true_eq_false, if_false]
  rfl

theorem store_own {c : Chip} (h : Coherent c) {f : ControlField} (hm : f.storeMask = f.mask)
    (value : UInt32) (size : Nat) :
    Coherent (controlStep c (.store f value size)) ∧
      StoresOnly f (min value.toNat f.max) c (controlStep c (.store f value size)) := by
  have hown : f.bits (controlStep c (.store f value size)).control = min value.toNat f.max := by
    rw [store_control, hm, bits_put_same f (min_le_right _ _)]
  have hcached : f.cached (controlStep c (.store f value size)).pdata =
      min value.toNat f.max := by
    rw [store_pdata, cached_set_same]
  have hothers : ∀ g, g ≠ f → g.cached (controlStep c (.store f value size)).pdata =
      g.cached c.pdata := fun g hg => by
    rw [store_pdata, cached_set_other hg]
  refine ⟨fun g => ?_, hown, hcached, ?_, hothers⟩
  · rcases eq_or_ne g f with rfl | hg
    · rw [hown, hcached]
    · rw [hothers g hg, store_control, hm, bits_put_other hg.symm, h g]
  · rw [store_control, hm, put_and_compl]

theorem store_own_kept {c : Chip} (h : Coherent c) {f : ControlField}
    (hm : f.storeMask = f.mask) (value : UInt32) (size : Nat) :
    Kept c (.store f value size) := by
  obtain ⟨hco, honly⟩ := store_own h hm value size
  refine ⟨hco, honly, ?_⟩
  rw [show_coherent hco, honly.ownCached]

theorem masked_brightextend (value : UInt32) (r : U8) :
    put (0x02 : U8) (BitVec.ofNat 8 (min value.toNat 1 <<< 5)) r = r &&& ~~~0x02#8 := by
  have hv : min value.toNat 1 = 0 ∨ min value.toNat 1 = 1 := by omega
  rcases hv with hv | hv <;> rw [hv] <;> revert r <;> decide +kernel

theorem cleared_bit (r : U8) :
    ControlField.bits .brightextend (r &&& ~~~0x02#8) = ControlField.bits .brightextend r ∧
    ControlField.bits .ceTemp (r &&& ~~~0x02#8) = ControlField.bits .ceTemp r ∧
    (ControlField.bits .fadeRate (r &&& ~~~0x02#8) = ControlField.bits .fadeRate r ↔
      (ControlField.bits .fadeRate r).testBit 1 = false) ∧
    ((ControlField.bits .fadeRate r).testBit 1 = false → r &&& ~~~0x02#8 = r) := by
  revert r
  decide +kernel

theorem store_brightextend_kept {c : Chip} (h : Coherent c) (value : UInt32) (size : Nat) :
    Kept c (.store .brightextend value size) ↔ Sound c (.store .brightextend value size) := by
  have hcontrol : (controlStep c (.store .brightextend value size)).control =
      c.control &&& ~~~0x02#8 := by
    rw [store_control]
    exact masked_brightextend value c.control
  have hpdata := store_pdata .brightextend value size c
  obtain ⟨hb, -, hf, hsame⟩ := cleared_bit c.control
  rw [h .fadeRate] at hf hsame
  constructor
  · rintro ⟨hco, honly, -⟩
    have hown := honly.own
    have hfade := hco .fadeRate
    rw [hcontrol, hb, h .brightextend] at hown
    rw [hcontrol, honly.othersCached .fadeRate (by decide)] at hfade
    exact ⟨hown, hf.mp hfade⟩
  · rintro ⟨hown, hbit⟩
    have hsetsame : ControlField.set .brightextend (min value.toNat 1) c.pdata = c.pdata := by
      rw [← hown]
      rfl
    have hp : (controlStep c (.store .brightextend value size)).pdata = c.pdata :=
      hpdata.trans hsetsame
    rw [hsame hbit] at hcontrol
    have hco : Coherent (controlStep c (.store .brightextend value size)) := fun g => by
      rw [hcontrol, hp, h g]
    refine ⟨hco, ⟨?_, ?_, by rw [hcontrol], fun g _ => by rw [hp]⟩, ?_⟩
    · rw [hcontrol, h .brightextend]
      exact hown
    · rw [hp]
      exact hown
    · rw [show_coherent hco, hp]
      exact congrArg (fun v => [Event.shown (hexLine v)]) hown

theorem kept_iff {c : Chip} (h : Coherent c) (op : ControlOp) : Kept c op ↔ Sound c op := by
  cases op with
  | modeChange mode fade => exact (and_iff_left trivial).trans (modeChange_coherent h mode fade)
  | store f value size =>
    cases f with
    | brightextend => exact store_brightextend_kept h value size
    | ceTemp => exact iff_of_true (store_own_kept h rfl value size) trivial
    | fadeRate => exact iff_of_true (store_own_kept h rfl value size) trivial
  | read f =>
    have hshow := show_coherent h f
    refine iff_of_true ⟨?_, hshow⟩ trivial
    rw [controlStep, hshow]
    exact h

theorem probe_coherent (regs : U8 → U8) (b : Fin 2) (t : Fin 4) (r : Fin 8) :
    Coherent (probe regs ⟨b, t, r⟩).1 :=
  modeChange_settles (c := (chipInit (allocated regs ⟨b, t, r⟩)).1)
    (Nat.le_of_lt_succ b.isLt) (Nat.le_of_lt_succ t.isLt) (by decide : (0 : Int) ≤ 0 ∧ _) 0

theorem control_coherent_iff (regs : U8 → U8) (b : Fin 2) (t : Fin 4) (r : Fin 8)
    (ops : List ControlOp) :
    Along controlStep Kept (probe regs ⟨b, t, r⟩).1 ops ↔
      Along controlStep Sound (probe regs ⟨b, t, r⟩).1 ops :=
  along_iff (probe_coherent regs b t r) (fun _ op h => kept_iff h op)
    (fun _ op h hs => ((kept_iff h op).mpr hs).1)

theorem brightextend_store_misses_bit :
    ¬ Along controlStep Kept (probe (fun _ => 0) ⟨0, 0, 0⟩).1 [.store .brightextend 1 2] := by
  rintro ⟨⟨-, honly, -⟩, -⟩
  exact absurd honly.own (by decide)

end Ktd2058
