import IrisFirmware.Accel.PutBack

namespace Lis2dw12

open Fallible Metered Kernel

def samples (vals : Nat → Addr → Byte) : List (List Byte) :=
  (List.range 5).map fun n => outRegs.map (vals n)

-- the wait between the two rounds takes a reading that is not sampled
def before (s : Tested) : List (List Byte) := samples s.readings
def during (s : Tested) : List (List Byte) := samples fun n => s.readings (n + 6)

def total (offset : Nat) (data : List (List Byte)) : Int := (data.map (axis · offset)).sum

def totals (data : List (List Byte)) : Axes := ⟨total 0 data, total 2 data, total 4 data⟩

def difference (s : Tested) (offset : Nat) : Int :=
  |total offset (during s) - total offset (before s)|

def InBounds (s : Tested) (offset : Nat) : Prop :=
  selftestMin ≤ difference s offset ∧ difference s offset ≤ selftestMax

instance (s : Tested) (offset : Nat) : Decidable (InBounds s offset) :=
  inferInstanceAs (Decidable (_ ∧ _))

abbrev offsets : List Nat := [0, 2, 4]

structure Judges (s t : Tested) : Prop where
  verdict : t.stStatus = if ∀ offset ∈ offsets, InBounds s offset then .PASS else .FAIL
  exact : ∀ data ∈ [before s, during s], ∀ n ≤ 5,
    (data.take n).foldl accumulate ⟨0, 0, 0⟩ = totals (data.take n)

def Overlooks (s : Tested) : Prop :=
  InBounds s 0 ∧ (∀ offset ∈ [2, 4], selftestMin ≤ difference s offset) ∧
    ∃ offset ∈ [2, 4], selftestMax < difference s offset

instance (s : Tested) : Decidable (Overlooks s) := inferInstanceAs (Decidable (_ ∧ _ ∧ _))

theorem axis_bounded (data : List Byte) (offset : Nat) : (axis data offset).natAbs ≤ 1638 := by
  obtain ⟨sample, hsample⟩ : ∃ sample : BitVec 16, le16 (data.drop offset) = sample.toInt :=
    ⟨_, rfl⟩
  have hlow := BitVec.le_toInt sample
  have hhigh := BitVec.toInt_lt (x := sample)
  have hshifted : (sample.toInt.shiftRight 2).natAbs ≤ 8192 := by
    rw [show sample.toInt.shiftRight 2 = sample.toInt / 4 from Int.shiftRight_eq_div_pow ..]
    omega
  rw [axis, hsample, Int.natAbs_tdiv]
  exact (Nat.div_le_div_right hshifted).trans (by decide)

theorem total_bounded (offset : Nat) (data : List (List Byte)) :
    (total offset data).natAbs ≤ 1638 * data.length := by
  induction data with
  | nil => exact Nat.le_refl 0
  | cons sample data ih =>
    have hsample := axis_bounded sample offset
    have hsum : total offset (sample :: data) = axis sample offset + total offset data := by
      rw [total, List.map_cons, List.sum_cons, total]
    rw [hsum, List.length_cons]
    have htriangle := Int.natAbs_add_le (axis sample offset) (total offset data)
    omega

theorem total_exact (offset : Nat) {data : List (List Byte)} (h : data.length ≤ 5) :
    int16 (total offset data) = total offset data := by
  have hbound := total_bounded offset data
  exact Int.bmod_eq_of_le (by omega) (by omega)

theorem total_snoc (offset : Nat) (data : List (List Byte)) (sample : List Byte) :
    total offset (data ++ [sample]) = total offset data + axis sample offset := by
  simp [total]

theorem accumulate_totals {data : List (List Byte)} {sample : List Byte} (h : data.length < 5) :
    accumulate (totals data) sample = totals (data ++ [sample]) := by
  have hexact : ∀ offset, int16 (total offset data + axis sample offset) =
      total offset (data ++ [sample]) := by
    intro offset
    rw [← total_snoc]
    refine total_exact offset ?_
    rw [List.length_append, List.length_singleton]
    omega
  rw [accumulate, totals, totals]
  dsimp only
  rw [hexact, hexact, hexact]

theorem foldl_accumulate (data : List (List Byte)) (prior : List (List Byte))
    (h : (prior ++ data).length ≤ 5) :
    data.foldl accumulate (totals prior) = totals (prior ++ data) := by
  induction data generalizing prior with
  | nil => rw [List.foldl_nil, List.append_nil]
  | cons sample data ih =>
    have hlen : prior.length < 5 := by
      rw [List.length_append, List.length_cons] at h
      omega
    rw [List.append_cons] at h ⊢
    rw [List.foldl_cons, accumulate_totals hlen, ih _ h]

structure Shows (vals : Nat → Addr → Byte) (t : Tested) : Prop where
  live : Regmap.Live t.regmap
  out : ∀ reg ∈ outRegs, t.regmap.dev reg = vals 0 reg
  later : t.readings = fun n => vals (n + 1)

theorem shows_msleep {t : Tested} (h : Regmap.Live t.regmap) :
    Shows t.readings (final msleep t) := by
  refine ⟨h, fun reg hreg => ?_, rfl⟩
  have hvol : ∀ reg ∈ outRegs, isVolatileReg reg = true := by decide
  exact if_pos (hvol reg hreg)

theorem Shows.slept {vals : Nat → Addr → Byte} {t : Tested} (h : Shows vals t) :
    Shows (fun n => vals (n + 1)) (final msleep t) := by
  have hnext := shows_msleep h.live
  rwa [h.later] at hnext

theorem readAxes_shows {vals : Nat → Addr → Byte} {t : Tested} (h : Shows vals t) (n : Nat)
    (acc : Axes) : Succeeds (readAxes n acc) t fun sum u =>
      sum = ((List.range n).map fun i => outRegs.map (vals i)).foldl accumulate acc ∧
        Waited t u ∧ Shows (fun i => vals (i + n)) u := by
  induction n generalizing vals t acc with
  | zero => exact .ret ⟨rfl, waited_bus t t.regmap.bus, h⟩
  | succ n ih =>
    have hdata : outRegs.map t.regmap.dev = outRegs.map (vals 0) := List.map_congr_left h.out
    have hread : onDriver (onHw (readBytes outRegs)) t = .ok (outRegs.map (vals 0)) t := by
      rw [onDriver, within, readVolatile_run h.live (by decide), hdata]
    have hrun : readAxes (n + 1) acc t =
        readAxes n (accumulate acc (outRegs.map (vals 0))) (final msleep t) := by
      rw [readAxes, bind_run hread]
      rfl
    rw [Succeeds, hrun]
    refine (ih h.slept _).mono ?_
    rintro sum u ⟨hsum, hu, hshows⟩
    refine ⟨?_, (waited_msleep t).trans hu, ?_⟩
    · rw [hsum, List.range_succ_eq_map, List.map_cons, List.foldl_cons, List.map_map]
      rfl
    · have hindex : (fun i => vals (i + (n + 1))) = fun i => vals (i + n + 1) := rfl
      rwa [hindex]

theorem readAxes_totals {vals : Nat → Addr → Byte} {t : Tested} (h : Shows vals t) :
    Succeeds (readAxes 5 ⟨0, 0, 0⟩) t fun sum u =>
      sum = totals (samples vals) ∧ Waited t u ∧ Shows (fun i => vals (i + 5)) u := by
  refine (readAxes_shows h 5 ⟨0, 0, 0⟩).mono ?_
  rintro sum u ⟨hsum, hu⟩
  exact ⟨hsum.trans (foldl_accumulate (samples vals) [] (by simp [samples])), hu⟩

theorem keeps_onDriver {I : Tested → Prop} (h : ∀ d s, I s → I { s with toDriver := d })
    {α : Type} (x : D α) : Keeps I (onDriver x) := Keeps.within h x

theorem keeps_readings {α : Type} (readings : Nat → Addr → Byte) (x : D α) :
    Keeps (fun t => t.readings = readings) (onDriver x) := keeps_onDriver (fun _ _ h => h) x

def verdict (s : Tested) : SelftestStatus :=
  if passes (totals (before s)) (totals (during s)) then .PASS else .FAIL

theorem passes_iff (s : Tested) : passes (totals (before s)) (totals (during s)) ↔
    InBounds s 0 ∧ ∀ offset ∈ [2, 4], selftestMin ≤ difference s offset := by
  constructor
  · rintro ⟨hmin, hmax, hy, -, hz, -⟩
    exact ⟨⟨hmin, hmax⟩, List.forall_mem_cons.mpr ⟨hy, List.forall_mem_singleton.mpr hz⟩⟩
  · rintro ⟨⟨hmin, hmax⟩, hrest⟩
    obtain ⟨hy, hrest⟩ := List.forall_mem_cons.mp hrest
    have hz := List.forall_mem_singleton.mp hrest
    exact ⟨hmin, hmax, hy, hy, hz, hz⟩

theorem inBounds_iff (s : Tested) : (∀ offset ∈ offsets, InBounds s offset) ↔
    passes (totals (before s)) (totals (during s)) ∧
      ∀ offset ∈ [2, 4], difference s offset ≤ selftestMax := by
  rw [passes_iff, List.forall_mem_cons, and_assoc]
  refine and_congr_right fun _ => ⟨fun h => ?_, fun h offset hoffset => ?_⟩
  · exact ⟨fun offset hoffset => (h offset hoffset).1, fun offset hoffset => (h offset hoffset).2⟩
  · exact ⟨h.1 offset hoffset, h.2 offset hoffset⟩

theorem overlooks_iff (s : Tested) : Overlooks s ↔
    passes (totals (before s)) (totals (during s)) ∧
      ¬ ∀ offset ∈ [2, 4], difference s offset ≤ selftestMax := by
  rw [passes_iff, Overlooks, and_assoc]
  refine and_congr_right fun _ => and_congr_right fun _ => ?_
  simp only [not_forall, not_le, exists_prop]

theorem judges_iff {s t : Tested} (h : t.stStatus = verdict s) : Judges s t ↔ ¬ Overlooks s := by
  have hexact : ∀ data ∈ [before s, during s], ∀ n ≤ 5,
      (data.take n).foldl accumulate ⟨0, 0, 0⟩ = totals (data.take n) := fun data _ n hn =>
    foldl_accumulate (data.take n) [] ((List.length_take_le n data).trans hn)
  rw [overlooks_iff, not_and, not_not]
  constructor
  · intro hj hpass
    have hstatus := hj.verdict
    rw [h, verdict, if_pos hpass] at hstatus
    by_contra hfar
    rw [if_neg fun hall => hfar ((inBounds_iff s).mp hall).2] at hstatus
    cases hstatus
  · intro hnear
    refine ⟨?_, hexact⟩
    have hsame : (∀ offset ∈ offsets, InBounds s offset) ↔
        passes (totals (before s)) (totals (during s)) :=
      (inBounds_iff s).trans (and_iff_left_of_imp hnear)
    rw [h, verdict]
    simp only [hsame]

theorem positive_sign_req :
    selftestReq "positive-sign".toList 15 = some ⟨"positive-sign", 0x1⟩ := rfl

variable [Kernel]

theorem keeps_status (gain : Nat) (status : SelftestStatus) :
    Keeps (fun t => t.stStatus = status) (restore gain) :=
  .bind (keeps_onDriver (fun _ _ h => h) _) fun _ =>
    .bind (keeps_onDriver (fun _ _ h => h) _) fun _ => keeps_onDriver (fun _ _ h => h) _

theorem examine_verdict {hwId : HwId} {s : Tested} (h : Rest hwId s.toDriver)
    (hlive : Regmap.Live s.regmap) (val : Byte) :
    Succeeds (examine val) s fun _ t => t.stStatus = verdict s := by
  refine (((stage_setFs h val).succeeds hlive).and_keeps (keeps_readings s.readings _) rfl).bind ?_
  rintro _ t ⟨⟨ht, hlive⟩, hr⟩
  refine (((stage_setOdr h ht).succeeds hlive).and_keeps (keeps_readings _ _) hr).bind ?_
  rintro _ t ⟨⟨ht, hlive⟩, hr⟩
  refine .modify_bind ?_
  have hshows := shows_msleep hlive
  rw [hr] at hshows
  refine (readAxes_totals hshows).bind ?_
  rintro _ u ⟨rfl, hwaited, hshows⟩
  have hu := (ht.waited (waited_msleep t)).waited hwaited
  refine (((stage_bits hu).succeeds hshows.live).and_keeps (keeps_readings _ _)
    hshows.later).bind ?_
  rintro _ v ⟨⟨-, hlive⟩, hr⟩
  refine .modify_bind ?_
  have hshows := shows_msleep hlive
  rw [hr] at hshows
  refine (readAxes_totals hshows).bind ?_
  rintro _ w ⟨rfl, -⟩
  exact .modify rfl

theorem enableSelftest_verdict {hwId : HwId} {s : Tested} (h : Rest hwId s.toDriver)
    (hlive : Regmap.Live s.regmap) (hfree : .ACC ∉ s.buffered) {buf : List Char} {size : Nat}
    {req : SelftestReq} (hreq : selftestReq buf size = some req) :
    (final (enableSelftest buf size) s).stStatus = verdict s := by
  obtain ⟨_, t, hrun, hstatus⟩ := examine_verdict (s := resetStatus s) h hlive req.val
  rw [final, enableSelftest_run hfree hreq, bind_run hrun, ← final]
  exact keeps_status _ _ t hstatus

theorem selftest_verdict_iff {hwId : HwId} (start : Resting hwId)
    (hlive : Regmap.Live start.state.regmap) (hfree : .ACC ∉ start.state.buffered)
    {buf : List Char} {size : Nat} {req : SelftestReq} (hreq : selftestReq buf size = some req) :
    Judges start.state (final (enableSelftest buf size) start.state) ↔ ¬ Overlooks start.state :=
  judges_iff (enableSelftest_verdict start.rest hlive hfree hreq)

def tilted (x y z : Byte) : Resting .LIS2DW12 where
  state :=
    { probedDriver lowRates (fun _ => 0) (fun _ => none) (fun _ => 0) fun _ => 0 with
      regmap := ⟨fun _ => 0, fun _ => none, false, fun _ => true⟩
      stStatus := .RESET
      readings := fun n reg =>
        if n < 6 then 0
        else if reg = outXLAddr + 1 then x
        else if reg = outYLAddr + 1 then y
        else if reg = outZLAddr + 1 then z
        else 0 }
  rest :=
    { device := rfl
      ofTable := lowRates.ofTable
      required := rated_zero .LIS2DW12
      quiet := fun _ _ => ⟨rfl, by simp⟩
      level := ⟨⟨gToMS2 244, 0⟩, selected_smallest,
        (by decide : Register.field fsMask (ffs fsMask) 0 = 0)⟩ }

theorem tilted_free (x y z : Byte) : .ACC ∉ (tilted x y z).state.buffered := by
  simp [tilted, probedDriver]

omit [Kernel] in
theorem selftest_judges_within :
    letI := truncating
    Judges (tilted 8 8 8).state
        (final (enableSelftest "positive-sign".toList 15) (tilted 8 8 8).state) ↔
      ¬ Overlooks (tilted 8 8 8).state :=
  @selftest_verdict_iff truncating _ (@tilted truncating 8 8 8) (fun _ => rfl)
    (@tilted_free truncating 8 8 8) _ _ _ positive_sign_req

omit [Kernel] in
theorem far_axis_passes :
    ¬ ∀ [Kernel] (hwId : HwId) (start : Resting hwId) (buf : List Char) (size : Nat),
    Regmap.Live start.state.regmap → .ACC ∉ start.state.buffered →
    (selftestReq buf size).isSome →
      Judges start.state (final (enableSelftest buf size) start.state) := by
  intro h
  have hreq := positive_sign_req
  have hfree := @tilted_free truncating 8 127 8
  have hjudges := @h truncating .LIS2DW12 (@tilted truncating 8 127 8) "positive-sign".toList 15
    (fun _ => rfl) hfree (Option.isSome_of_mem hreq)
  have hstatus := @enableSelftest_verdict truncating _ _
    (@Resting.rest truncating _ (@tilted truncating 8 127 8)) (fun _ => rfl) hfree _ _ _ hreq
  have hover : Overlooks (@Resting.state truncating _ (@tilted truncating 8 127 8)) := by decide
  exact (judges_iff hstatus).mp hjudges hover

end Lis2dw12
