import IrisFirmware.Accel.Driver
import IrisFirmware.Library.Run

namespace Lis2dw12

open Fallible Run

def enableDivisors (hw : Hw) (sensor : SensorId) : List Nat :=
  if sensor = .TEMP then [hw.odr sensor] else []

def oneshotDivisors (hw : Hw) (sensor : SensorId) : List Nat :=
  enableDivisors hw sensor ++ [hw.odr sensor]

def fifoDivisors (hw : Hw) (sensor : SensorId) : List Nat :=
  hw.odr sensor :: enableDivisors hw sensor

structure RateUsable (hw : Hw) (sensor : SensorId) : Prop where
  positive : 0 < hw.odr sensor
  ofTable : hw.odr sensor ∈ (odrTable hw.hwId sensor).map Odr.hz
  enable : 0 ∉ enableDivisors hw sensor
  oneshot : 0 ∉ oneshotDivisors hw sensor
  fifo : 0 ∉ fifoDivisors hw sensor

def RatesUsable (d : Driver) : Prop := ∀ sensor, RateUsable d.toHw sensor

structure RateWrite where
  sensor : SensorId
  val : Int
  val2 : Int

def rateGiven (d : Driver) (op : RateWrite) : Prop :=
  op.sensor = .TEMP → .TEMP ∉ d.buffered → u16 op.val ≠ 0

theorem usable_of_positive {hw : Hw} {sensor : SensorId} (hpos : 0 < hw.odr sensor)
    (hmem : hw.odr sensor ∈ (odrTable hw.hwId sensor).map Odr.hz) : RateUsable hw sensor := by
  have hne : (0 : Nat) ≠ hw.odr sensor := hpos.ne
  have henable : 0 ∉ enableDivisors hw sensor := by
    rw [enableDivisors]
    split_ifs <;> simp [hne]
  exact ⟨hpos, hmem, henable, by simp [oneshotDivisors, henable, hne],
    by simp [fifoDivisors, henable, hne]⟩

theorem std_positive : ∀ entry ∈ stdTable, 0 < entry.odr := by decide

theorem zero_of_temp (hwId : HwId) : 0 ∈ (odrTable hwId .TEMP).map Odr.hz := by
  cases hwId <;> decide

def acceptedRate (d : Driver) (op : RateWrite) : Option Nat :=
  if op.sensor ∈ d.buffered then none
  else if op.sensor = .ACC ∧ ∀ entry ∈ stdTable, entry.odr ≠ u16 op.val then none
  else if u16 op.val ∈ (odrTable d.hwId op.sensor).map Odr.hz then some (u16 op.val)
  else none

theorem getOdrIdx_run (d : Driver) (sensor : SensorId) (odr : Nat) :
    (odr ∈ (odrTable d.hwId sensor).map Odr.hz → ∃ i, onHw (getOdrIdx sensor odr) d = .ok i d) ∧
    (odr ∉ (odrTable d.hwId sensor).map Odr.hz →
      onHw (getOdrIdx sensor odr) d = .error .EINVAL d) := by
  constructor
  · intro hmem
    obtain ⟨entry, hentry, rfl⟩ := List.mem_map.mp hmem
    have hfound : ((odrTable d.hwId sensor).findIdx? (·.hz = entry.hz)).isSome := by
      rw [List.findIdx?_isSome, List.any_eq_true]
      exact ⟨entry, hentry, by simp⟩
    obtain ⟨i, hi⟩ := Option.isSome_iff_exists.mp hfound
    have hidx : getOdrIdx sensor entry.hz d.toHw = .ok i d.toHw := by
      rw [getOdrIdx, get_bind_run, hi]
      rfl
    exact ⟨i, by rw [onHw, within, hidx]⟩
  · intro hmem
    have hnone : (odrTable d.hwId sensor).findIdx? (·.hz = odr) = none := by
      rw [List.findIdx?_eq_none_iff]
      intro entry hentry
      simp only [decide_eq_false_iff_not]
      rintro rfl
      exact hmem (List.mem_map_of_mem hentry)
    have hidx : getOdrIdx sensor odr d.toHw = .error .EINVAL d.toHw := by
      rw [getOdrIdx, get_bind_run, hnone]
      rfl
    rw [onHw, within, hidx]

theorem claim_refused {d : Driver} {sensor : SensorId} (h : sensor ∈ d.buffered) :
    claimDirectMode sensor d = .error .EBUSY d := by
  rw [claimDirectMode, get_bind_run, if_pos h]
  rfl

theorem claim_granted {d : Driver} {sensor : SensorId} (h : sensor ∉ d.buffered) :
    claimDirectMode sensor d = .ok () d := by
  rw [claimDirectMode, get_bind_run, if_neg h]
  rfl

theorem setStdLevel_run (d : Driver) (odr : Nat) :
    ((∀ entry ∈ stdTable, entry.odr ≠ odr) → setStdLevel odr d = .error .EINVAL d) ∧
    (¬ (∀ entry ∈ stdTable, entry.odr ≠ odr) →
      ∃ level, setStdLevel odr d = .ok () { d with stdLevel := level }) := by
  rw [setStdLevel]
  cases hfind : stdTable.find? (·.odr = odr) with
  | none =>
    have hnone : ∀ entry ∈ stdTable, entry.odr ≠ odr := by
      simpa using List.find?_eq_none.mp hfind
    exact ⟨fun _ => rfl, fun h => absurd hnone h⟩
  | some entry =>
    have hodr : entry.odr = odr := by simpa using List.find?_some hfind
    exact ⟨fun h => absurd hodr (h entry (List.mem_of_find?_eq_some hfind)),
      fun _ => ⟨entry.val, rfl⟩⟩

def storedOdr (d : Driver) (sensor : SensorId) : Option Nat → SensorId → Nat
  | some odr => Function.update d.odr sensor odr
  | none => d.odr

structure RateWritten (d : Driver) (op : RateWrite) (t : Driver) : Prop where
  hw : t.toHw = { d.toHw with odr := storedOdr d op.sensor (acceptedRate d op) }
  buffered : t.buffered = d.buffered

theorem storeRate_run (d : Driver) (op : RateWrite) (hbuf : op.sensor ∉ d.buffered)
    (hstd : ¬ (op.sensor = .ACC ∧ ∀ entry ∈ stdTable, entry.odr ≠ u16 op.val)) (level : Nat) :
    RateWritten d op (final (do
      let _ ← onHw (getOdrIdx op.sensor (u16 op.val))
      modify fun d => { d with odr := Function.update d.odr op.sensor (u16 op.val) })
      { d with stdLevel := level }) := by
  have hidx := getOdrIdx_run { d with stdLevel := level } op.sensor (u16 op.val)
  have haccepted : acceptedRate d op = if u16 op.val ∈ (odrTable d.hwId op.sensor).map Odr.hz
      then some (u16 op.val) else none := by
    rw [acceptedRate, if_neg hbuf, if_neg hstd]
  by_cases hmem : u16 op.val ∈ (odrTable d.hwId op.sensor).map Odr.hz
  · obtain ⟨i, hi⟩ := hidx.1 hmem
    rw [final, bind_run hi]
    refine ⟨?_, rfl⟩
    rw [haccepted, if_pos hmem]
    rfl
  · rw [final, bind_error (hidx.2 hmem)]
    refine ⟨?_, rfl⟩
    rw [haccepted, if_neg hmem]
    rfl

theorem usable_iff_positive {d : Driver}
    (hmem : ∀ id, d.odr id ∈ (odrTable d.hwId id).map Odr.hz) :
    RatesUsable d ↔ ∀ id, 0 < d.odr id :=
  ⟨fun h id => (h id).positive, fun h id => usable_of_positive (h id) (hmem id)⟩

theorem accepted_positive {d : Driver} {op : RateWrite} {odr : Nat}
    (h : acceptedRate d op = some odr) :
    odr = u16 op.val ∧ op.sensor ∉ d.buffered ∧ odr ∈ (odrTable d.hwId op.sensor).map Odr.hz ∧
      (op.sensor = .ACC → 0 < odr) := by
  rw [acceptedRate] at h
  split_ifs at h with hbuf hstd hmem
  obtain rfl := Option.some_inj.mp h
  refine ⟨rfl, hbuf, hmem, fun hacc => ?_⟩
  have hentry : ∃ entry ∈ stdTable, entry.odr = u16 op.val := by
    by_contra hnone
    exact hstd ⟨hacc, fun entry hentry heq => hnone ⟨entry, hentry, heq⟩⟩
  obtain ⟨entry, hentry, heq⟩ := hentry
  rw [← heq]
  exact std_positive entry hentry

variable [Kernel]

def rateWrite (d : Driver) (op : RateWrite) : Driver :=
  final (writeRaw op.sensor op.val op.val2 .SAMP_FREQ) d

theorem rateWrite_written (d : Driver) (op : RateWrite) : RateWritten d op (rateWrite d op) := by
  rw [rateWrite, writeRaw]
  by_cases hbuf : op.sensor ∈ d.buffered
  · rw [final, bind_error (claim_refused hbuf)]
    refine ⟨?_, rfl⟩
    rw [acceptedRate, if_pos hbuf]
    rfl
  · rw [final, bind_run (claim_granted hbuf), ← final]
    by_cases hacc : op.sensor = .ACC
    · rw [if_pos hacc]
      have hlevel := setStdLevel_run d (u16 op.val)
      by_cases hstd : ∀ entry ∈ stdTable, entry.odr ≠ u16 op.val
      · rw [final, bind_error (hlevel.1 hstd)]
        refine ⟨?_, rfl⟩
        rw [acceptedRate, if_neg hbuf, if_pos ⟨hacc, hstd⟩]
        rfl
      · obtain ⟨level, hrun⟩ := hlevel.2 hstd
        rw [final, bind_run hrun, ← final]
        exact storeRate_run d op hbuf (fun h => hstd h.2) level
    · rw [if_neg hacc]
      exact storeRate_run d op hbuf (fun h => hacc h.1) d.stdLevel

theorem rateWrite_iff {d : Driver} (h : RatesUsable d) (op : RateWrite) :
    RatesUsable (rateWrite d op) ↔ rateGiven d op := by
  have hhw := (rateWrite_written d op).hw
  have hdevice : (rateWrite d op).hwId = d.hwId := by rw [hhw]
  have hodr : (rateWrite d op).odr = storedOdr d op.sensor (acceptedRate d op) := by rw [hhw]
  cases hacc : acceptedRate d op with
  | none =>
    rw [hacc, storedOdr] at hodr
    refine iff_of_true (fun id => usable_of_positive ?_ ?_) fun htemp hbuf => ?_
    · rw [hodr]
      exact (h id).positive
    · rw [hodr, hdevice]
      exact (h id).ofTable
    · intro hzero
      rw [acceptedRate, htemp, if_neg hbuf, if_neg (by simp), hzero,
        if_pos (zero_of_temp d.hwId)] at hacc
      cases hacc
  | some odr =>
    rw [hacc, storedOdr] at hodr
    obtain ⟨rfl, hbuf, hmem, hpos⟩ := accepted_positive hacc
    have htable : ∀ id, (rateWrite d op).odr id ∈
        (odrTable (rateWrite d op).hwId id).map Odr.hz := by
      intro id
      rw [hodr, hdevice]
      by_cases hid : id = op.sensor
      · subst hid
        rwa [Function.update_self]
      · rw [Function.update_of_ne hid]
        exact (h id).ofTable
    rw [usable_iff_positive htable, hodr]
    constructor
    · intro hall _ _
      have hstored := hall op.sensor
      rw [Function.update_self] at hstored
      exact hstored.ne'
    · intro hgiven id
      by_cases hid : id = op.sensor
      · subst hid
        rw [Function.update_self]
        cases hsensor : op.sensor with
        | ACC => exact hpos hsensor
        | TEMP =>
          rw [hsensor] at hbuf
          exact Nat.pos_of_ne_zero (hgiven hsensor hbuf)
      · rw [Function.update_of_ne hid]
        exact (h id).positive

theorem rate_writes_usable_iff {hwId : HwId} (rates : Rates hwId) (dev : Addr → Byte)
    (cache : Addr → Option Byte) (clock : Nat → Int) (fifo : Nat → Sample)
    (buffered : Finset SensorId) (ops : List RateWrite) :
    let start : Driver := { probedDriver rates dev cache clock fifo with buffered := buffered }
    RatesUsable start ∧ Along rateWrite (fun d op => RatesUsable (rateWrite d op)) start ops ↔
      Along rateWrite rateGiven start ops := by
  intro start
  have hstart : RatesUsable start := fun id =>
    usable_of_positive (rates.positive id) (rates.ofTable id)
  refine (and_iff_right hstart).trans (along_iff (I := RatesUsable) hstart
    (fun d op h => rateWrite_iff h op) fun d op h hop => (rateWrite_iff h op).mpr hop)

def lowRates : Rates .LIS2DW12 where
  odr := fun _ => 12
  positive _ := Nat.zero_lt_succ 11
  ofTable := by rintro ⟨⟩ <;> decide

omit [Kernel] in
theorem temperature_rate_zero_accepted :
    ¬ ∀ [Kernel] (hwId : HwId) (rates : Rates hwId) (dev : Addr → Byte) (cache : Addr → Option Byte)
      (clock : Nat → Int) (fifo : Nat → Sample) (ops : List RateWrite),
      Along rateWrite (fun d op => RatesUsable (rateWrite d op))
        (probedDriver rates dev cache clock fifo) ops := by
  intro h
  have hzero := (@h truncating .LIS2DW12 lowRates (fun _ => 0) (fun _ => none) (fun _ => 0) (fun _ => 0)
    [⟨.TEMP, 65536, 0⟩]).1 .TEMP
  exact absurd hzero.positive (by decide)

end Lis2dw12
