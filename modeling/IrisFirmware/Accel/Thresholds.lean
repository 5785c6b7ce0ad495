import IrisFirmware.Accel.Saturation
import IrisFirmware.Accel.SampFreq
import IrisFirmware.Accel.SetOdr
import IrisFirmware.Library.Closest

namespace Lis2dw12

open Fallible Closest

inductive Quantized where
  | freefall
  | sixD
deriving DecidableEq, Repr

abbrev Threshold.key (entry : Threshold) : Int := entry.least

namespace Quantized

def run : Quantized → Int → E Unit
  | freefall, v => setFreefallThreshold v
  | sixD, v => set6DThreshold v

def table : Quantized → List Threshold
  | freefall => freeFallThreshold
  | sixD => sixDThresholds

def addr : Quantized → Addr
  | freefall => freeFallAddr
  | sixD => tapThsXAddr

def mask : Quantized → Byte
  | freefall => freeFallThsMask
  | sixD => sixdThsMask

def code (k : Quantized) (s : EventHw) : Byte :=
  Register.field k.mask (ffs k.mask) (s.regmap.dev k.addr)

def programmed (k : Quantized) (s : EventHw) : Option Threshold :=
  k.table.find? (·.val = k.code s)

def admits : Quantized → Int → Threshold → Bool
  | freefall, v, entry => entry.least ≤ u32 v
  | sixD, v, entry => (entry.least : Int) ≤ v

def entry (k : Quantized) (v : Int) : Option Threshold := k.table.find? (k.admits v)

def store : Quantized → Int → EventHw → EventHw
  | freefall, v, s => { s with freefallThreshold := u32 v }
  | sixD, v, s => { s with sixDThreshold := u32 v }

end Quantized

structure Quantizes (k : Quantized) (v : Int) : Prop where
  refused : ∀ s, (∃ t, k.run v s = .error (.errno .EINVAL) t) ↔ ∀ e ∈ k.table, v < e.least
  unchanged : ∀ s t, k.run v s = .error (.errno .EINVAL) t → t = s
  answered : ∀ s, Regmap.Live s.regmap → (∃ e ∈ k.table, e.least ≤ v) →
    ∃ t, k.run v s = .ok () t
  programs : ∀ s t, Regmap.Agrees k.addr s.regmap → k.run v s = .ok () t →
    ∃ e, IsClosest Threshold.key k.table v e ∧ k.code t = e.val
  monotone : ∀ w ≤ v, ∀ s t s' t', Regmap.Agrees k.addr s.regmap →
    Regmap.Agrees k.addr s'.regmap → k.run w s = .ok () t → k.run v s' = .ok () t' →
    ∀ a ∈ k.programmed t, ∀ b ∈ k.programmed t', a.least ≤ b.least

section setter

variable {k : Quantized} {v : Int} {e : Threshold}

theorem entry_mem (h : k.entry v = some e) : e ∈ k.table := List.mem_of_find?_eq_some h

theorem entry_none (h : k.entry v = none) (s : EventHw) :
    k.run v s = .error (.errno .EINVAL) s := by
  cases k with
  | freefall =>
    have hfind : freeFallThreshold.find? (·.least ≤ u32 v) = none := h
    rw [Quantized.run, setFreefallThreshold, hfind]
    rfl
  | sixD =>
    have hfind : sixDThresholds.find? (fun entry => (entry.least : Int) ≤ v) = none := h
    rw [Quantized.run, set6DThreshold, hfind]
    rfl

theorem entry_some (h : k.entry v = some e) :
    k.run v = (do
      onDevice (writeWithMaskLocked k.addr k.mask e.val)
      modify (k.store v)) := by
  cases k with
  | freefall =>
    have hfind : freeFallThreshold.find? (·.least ≤ u32 v) = some e := h
    rw [Quantized.run, setFreefallThreshold, hfind]
    rfl
  | sixD =>
    have hfind : sixDThresholds.find? (fun entry => (entry.least : Int) ≤ v) = some e := h
    rw [Quantized.run, set6DThreshold, hfind]
    rfl

theorem throws_onDevice {P : Errno → Prop} {α : Type} {x : M α} (hx : Throws P x) :
    Throws (fun fault => ∃ e, fault = .errno e ∧ P e) (onDevice x) := by
  intro s fault t h
  rw [onDevice] at h
  cases hrun : x s.toHw with
  | ok a hw =>
    rw [hrun] at h
    cases h
  | error e hw =>
    rw [hrun] at h
    obtain ⟨rfl, -⟩ := EStateM.Result.error.inj h
    exact ⟨e, rfl, hx _ e hw hrun⟩

theorem refused_iff (k : Quantized) (v : Int) (s : EventHw) :
    (∃ t, k.run v s = .error (.errno .EINVAL) t) ↔ k.entry v = none := by
  constructor
  · rintro ⟨t, h⟩
    cases hentry : k.entry v with
    | none => rfl
    | some e =>
      rw [entry_some hentry] at h
      have hwrite : Throws (· = Errno.busFault) (writeWithMaskLocked k.addr k.mask e.val) :=
        Throws.within (Regmap.throws_updateBits k.addr k.mask _)
      obtain ⟨e', he, rfl⟩ := (throws_onDevice hwrite).bind (fun _ => .modify _) s _ t h
      cases he
  · exact fun h => ⟨s, entry_none h s⟩

theorem onDevice_live {s : EventHw} {α : Type} {x : M α} {P : α → Hw → Prop}
    (h : Succeeds x s.toHw P) :
    Succeeds (onDevice x) s fun a t => ∃ hw, t = { s with toHw := hw } ∧ P a hw := by
  obtain ⟨a, hw, hrun, hp⟩ := h
  exact ⟨a, { s with toHw := hw }, by rw [onDevice, hrun], hw, rfl, hp⟩

theorem entry_answered (h : k.entry v = some e) {s : EventHw} (hl : Regmap.Live s.regmap) :
    ∃ t, k.run v s = .ok () t := by
  rw [entry_some h]
  have hwrite : Succeeds (writeWithMaskLocked k.addr k.mask e.val) s.toHw _ :=
    onRegmap_live ((Regmap.updateBits_live hl ..).mono fun _ _ hm => hm.1)
  obtain ⟨_, t, hrun, -⟩ := onDevice_live hwrite
  exact ⟨k.store v t, bind_run hrun _⟩

theorem code_written (k : Quantized) : ∀ e ∈ k.table,
    Register.field k.mask (ffs k.mask) (shiftVal e.val k.mask) = e.val := by
  cases k <;> decide

theorem addr_plain (k : Quantized) : isVolatileReg k.addr = false := by
  cases k <;> rfl

theorem entry_programs {s t : EventHw} (hs : Regmap.Agrees k.addr s.regmap)
    (h : k.run v s = .ok () t) : ∃ e, k.entry v = some e ∧ k.code t = e.val := by
  cases hentry : k.entry v with
  | none =>
    rw [entry_none hentry] at h
    cases h
  | some e =>
    rw [entry_some hentry] at h
    obtain ⟨_, u, hwrite, hstore⟩ := bind_ok h
    obtain ⟨-, rfl⟩ := EStateM.Result.ok.inj hstore
    obtain ⟨hput, -⟩ := writeField_ok (r := (k.addr, k.mask)) (addr_plain k) hs hwrite
    have hkept : (k.store v u).regmap = u.regmap := by cases k <;> rfl
    refine ⟨e, rfl, ?_⟩
    rw [Quantized.code, hkept, hput, Register.field_put_same, code_written k e (entry_mem hentry)]

theorem val_inj (k : Quantized) : ∀ a ∈ k.table, ∀ b ∈ k.table, a.val = b.val → a = b := by
  cases k <;> decide

theorem programmed_of_code {s : EventHw} (he : e ∈ k.table) (h : k.code s = e.val) :
    k.programmed s = some e := by
  cases hfind : k.programmed s with
  | none =>
    have hnone := List.find?_eq_none.mp hfind e he
    exact absurd (decide_eq_true h.symm) hnone
  | some a =>
    rw [Quantized.programmed] at hfind
    have hval : a.val = k.code s := by simpa using List.find?_some hfind
    rw [val_inj k a (List.mem_of_find?_eq_some hfind) e he (hval.trans h)]

theorem quantizes_of_closest (hnone : k.entry v = none ↔ ∀ e ∈ k.table, v < e.least)
    (hclosest : ∀ e, k.entry v = some e → IsClosest Threshold.key k.table v e)
    (hmono : ∀ w ≤ v, ∀ a b, k.entry w = some a → k.entry v = some b → a.least ≤ b.least) :
    Quantizes k v where
  refused s := (refused_iff k v s).trans hnone
  unchanged s t h := by
    rw [entry_none ((refused_iff k v s).mp ⟨t, h⟩)] at h
    exact (EStateM.Result.error.inj h).2.symm
  answered s hl := by
    rintro ⟨e, he, hle⟩
    cases hentry : k.entry v with
    | none => exact absurd hle (not_le_of_gt (hnone.mp hentry e he))
    | some e => exact entry_answered hentry hl
  programs s t hs h := by
    obtain ⟨e, hentry, hcode⟩ := entry_programs hs h
    exact ⟨e, hclosest e hentry, hcode⟩
  monotone w hw s t s' t' hs hs' hrun hrun' a ha b hb := by
    obtain ⟨a', hentry, hcode⟩ := entry_programs hs hrun
    obtain ⟨b', hentry', hcode'⟩ := entry_programs hs' hrun'
    rw [programmed_of_code (entry_mem hentry) hcode] at ha
    rw [programmed_of_code (entry_mem hentry') hcode'] at hb
    obtain rfl := Option.some.inj ha
    obtain rfl := Option.some.inj hb
    exact hmono w hw _ _ hentry hentry'

end setter

theorem sixD_descending : sixDThresholds.Pairwise fun a b => b.key ≤ a.key := by decide

theorem entry_sixD (v : Int) :
    Quantized.sixD.entry v = firstNotAbove Threshold.key sixDThresholds v := rfl

theorem sixD_quantizes (v : Int) : Quantizes .sixD v := by
  have hclosest : ∀ w e, Quantized.sixD.entry w = some e →
      IsClosest Threshold.key sixDThresholds w e :=
    fun w e h => firstNotAbove_descending sixD_descending h
  refine quantizes_of_closest ?_ (hclosest v) fun w hw a b ha hb => ?_
  · rw [entry_sixD]
    exact firstNotAbove_none
  · exact Int.ofNat_le.mp ((hclosest w a ha).mono hw (hclosest v b hb))

theorem freefall_ascending : freeFallThreshold.Pairwise fun a b => a.least < b.least := by decide

theorem entry_freefall (v : Int) :
    Quantized.freefall.entry v = if 156 ≤ u32 v then some ⟨0x00, 156⟩ else none :=
  firstNotAbove_ascending freefall_ascending

theorem lowest_closest_iff (v : Int) :
    IsClosest Threshold.key freeFallThreshold v ⟨0x00, 156⟩ ↔ 156 ≤ v ∧ v < 219 :=
  first_closest_iff (freefall_ascending.imp Int.ofNat_lt.mpr)

theorem below_freefall_iff (v : Int) : (∀ e ∈ freeFallThreshold, v < e.least) ↔ v < 156 := by
  refine ⟨fun h => h ⟨0x00, 156⟩ (by decide), fun h e he => h.trans_le ?_⟩
  have hleast : ∀ e ∈ freeFallThreshold, 156 ≤ e.least := by decide
  exact Int.ofNat_le.mpr (hleast e he)

theorem freefall_mono {v w : Int} {a b : Threshold} (ha : Quantized.freefall.entry w = some a)
    (hb : Quantized.freefall.entry v = some b) : a.least ≤ b.least := by
  rw [entry_freefall] at ha hb
  split_ifs at ha hb
  obtain rfl := Option.some.inj ha
  obtain rfl := Option.some.inj hb
  exact le_rfl

def settledHw : EventHw :=
  { probed lowRates (fun _ => 0) (fun _ => none) with
    odrEntry := .table .LIS2DW12
    sixDThreshold := 0
    freefallThreshold := 0
    wkThMg := 0
    wkDurMs := 0
    tapThreshold := 0
    tapQuietTime := 0
    tapShockTime := 0
    dtapDuration := 0 }

theorem freefall_quantizes {v : Int} (hnonneg : 0 ≤ v) (hlt : v < 219) :
    Quantizes .freefall v := by
  have hu32 : (u32 v : Int) = v := by
    rw [u32]
    omega
  refine quantizes_of_closest ?_ (fun e he => ?_) fun w _ a b => freefall_mono
  · rw [entry_freefall]
    refine Iff.trans ?_ (below_freefall_iff v).symm
    split_ifs with hadmit
    · exact iff_of_false (by simp) (by omega)
    · exact iff_of_true rfl (by omega)
  · rw [entry_freefall] at he
    split_ifs at he with hadmit
    obtain rfl := Option.some.inj he
    exact (lowest_closest_iff v).mpr ⟨by omega, hlt⟩

-- compared as a u32, a negative request is above every entry
theorem freefall_nonneg {v : Int} (hlow : -2 ^ 31 ≤ v) (h : Quantizes .freefall v) : 0 ≤ v := by
  have hrefused : Quantized.freefall.entry v = none ↔ v < 156 :=
    ((refused_iff .freefall v settledHw).symm.trans (h.refused settledHw)).trans
      (below_freefall_iff v)
  by_contra hneg
  have hnone := hrefused.mpr (by omega)
  rw [entry_freefall, u32, if_pos (by omega)] at hnone
  cases hnone

theorem freefall_lowest {v : Int} (hnonneg : 0 ≤ v) (hhigh : v < 2 ^ 31)
    (h : Quantizes .freefall v) : v < 219 := by
  by_contra hlarge
  have hentry : Quantized.freefall.entry v = some ⟨0x00, 156⟩ := by
    rw [entry_freefall, u32, if_pos (by omega)]
  have hagrees : Regmap.Agrees (Quantized.addr .freefall) settledHw.regmap :=
    ⟨rfl, by simp [settledHw, probed]⟩
  obtain ⟨t, hrun⟩ := entry_answered hentry (s := settledHw) fun _ => rfl
  obtain ⟨e, hclosest, hcode⟩ := h.programs settledHw t hagrees hrun
  obtain ⟨e', hentry', hcode'⟩ := entry_programs hagrees hrun
  obtain rfl := Option.some.inj (hentry.symm.trans hentry')
  obtain rfl := val_inj .freefall _ hclosest.mem _ (entry_mem hentry) (hcode.symm.trans hcode')
  exact hlarge ((lowest_closest_iff v).mp hclosest).2

theorem freefall_quantizes_iff (req : BitVec 32) :
    Quantizes .freefall req.toInt ↔ 0 ≤ req.toInt ∧ req.toInt < 219 := by
  constructor
  · intro h
    have hnonneg := freefall_nonneg (BitVec.le_toInt req) h
    exact ⟨hnonneg, freefall_lowest hnonneg BitVec.toInt_lt h⟩
  · rintro ⟨hnonneg, hlt⟩
    exact freefall_quantizes hnonneg hlt

theorem thresholds_quantized_iff (k : Quantized) (req : BitVec 32) :
    Quantizes k req.toInt ↔ (k = .freefall → 0 ≤ req.toInt ∧ req.toInt < 219) := by
  cases k with
  | freefall => exact (freefall_quantizes_iff req).trans ⟨fun h _ => h, fun h => h rfl⟩
  | sixD => exact iff_of_true (sixD_quantizes _) Quantized.noConfusion

-- 312 mg, the default the driver sets, is code 3 of the table
theorem default_freefall_programs_lowest :
    ¬ ∀ (k : Quantized) (req : BitVec 32), Quantizes k req.toInt := by
  intro h
  have hlow := (freefall_quantizes_iff 312).mp (h .freefall 312)
  exact absurd hlow.2 (by decide)

end Lis2dw12
