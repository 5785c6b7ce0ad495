import IrisFirmware.Wifi.Reorder.Ownership

namespace RxReorder

open SeqWindow

variable {β : Type*}

def peer : Vector UInt8 6 := #v[2, 0, 0, 0, 0, 1]

def wrapRun : List (Event Nat) :=
  [.addbaRspgen ⟨4, false⟩ false ⟨true, true⟩ 4094 ⟨peer, 0, 4095⟩,
    .packet true 4095 0 peer .other 10, .packet true 1 0 peer .other 12,
    .packet true 1 0 peer .other 13, .packet true 0 0 peer .bar 14,
    .packet true 0 0 peer .other 11, .packet true 3 0 peer .other 15, .timer 0 peer]

theorem wrapRun_fits : ∀ e ∈ wrapRun, e.Fits := by
  simp [wrapRun, Event.Fits, maxTidValue]

def raised (t : RxReorderTbl β) : RxReorderTbl β :=
  if t.timerIsSet then { t with flushData := true, timerIsSet := false } else t

theorem raised_slots (t : RxReorderTbl β) : (raised t).slots = t.slots := by
  rw [raised]
  split <;> rfl

theorem flushData_get {tbls : List (RxReorderTbl β)} {tid : Nat} {ta : Vector UInt8 6}
    {t : RxReorderTbl β} (h : getRxreorderTbl tbls tid ta = some t) :
    getRxreorderTbl (flushData tbls tid ta) tid ta = some (raised t) := by
  rw [flushData, h, raised]
  simp only
  split
  · exact getRxreorderTbl_set h rfl
  · exact h

theorem flushPending_key (t : RxReorderTbl β) : key (flushPending t).1 = key t := by
  rw [flushPending]
  split
  · rw [startFlushData]
    split <;> rfl
  · rfl

variable [ULong]

theorem windows_never_overrun (es : List (Event β)) (h : ∀ e ∈ es, e.Fits) :
    ∃ q, run started es = some q ∧ (q.tbls.map key).Nodup ∧
      ∀ t ∈ q.tbls, t.startWin ≤ maxTidValue ∧ 0 < t.winSize ∧ t.winSize ≤ 1023 ∧
        t.slots[0]?.join = none ∧
        (t.winSize ≤ ULong.width → ∀ i, t.bitmap.getLsbD i = (t.slots[i]?.join).isSome) := by
  obtain ⟨q, hq, ha⟩ := run_accounted started_good h
  refine ⟨q, hq, ha.good.distinct, fun t ht => ?_⟩
  obtain ⟨⟨⟨hstart, hpos, hfits⟩, _, hmark⟩, _, hhead⟩ := ha.good.kept t ht
  exact ⟨hstart, hpos, hfits, hhead, hmark⟩

omit [ULong] in
theorem wrapRun_never_overruns :
    letI := arm32
    ∃ q, run started wrapRun = some q ∧ (q.tbls.map key).Nodup ∧
      ∀ t ∈ q.tbls, t.startWin ≤ maxTidValue ∧ 0 < t.winSize ∧ t.winSize ≤ 1023 ∧
        t.slots[0]?.join = none ∧
        (t.winSize ≤ ULong.width → ∀ i, t.bitmap.getLsbD i = (t.slots[i]?.join).isSome) :=
  @windows_never_overrun _ arm32 wrapRun wrapRun_fits

theorem every_buffer_accounted (es : List (Event β)) (h : ∀ e ∈ es, e.Fits) :
    ∃ q, run started es = some q ∧
      (q.delivered ++ q.released ++ heldAll q.tbls).Perm (given es) := by
  obtain ⟨q, hq, ha⟩ := run_accounted started_good h
  have hb := ha.balance
  simp only [started, heldAll, List.flatMap_nil, List.append_nil, List.nil_append] at hb
  exact ⟨q, hq, hb⟩

omit [ULong] in
theorem wrapRun_accounted :
    letI := arm32
    ∃ q, run started wrapRun = some q ∧
      (q.delivered ++ q.released ++ heldAll q.tbls).Perm (given wrapRun) :=
  @every_buffer_accounted _ arm32 wrapRun wrapRun_fits

omit [ULong] in
example : (@run _ arm32 started wrapRun).map (fun q => (q.delivered, q.released, heldAll q.tbls)) =
    some ([10, 11, 12], [13, 14], [15]) := by decide

theorem flushPending_raised {t : RxReorderTbl β} (h : Kept t) (hlong : t.winSize ≤ ULong.width) :
    (flushPending (raised t)).2 = held t ∧ held (flushPending (raised t)).1 = [] := by
  have hheld : held (raised t) = held t := by rw [held, raised_slots, held]
  have hp : Placed { raised t with flushData := false } := by
    have hw : (raised t).winSize = t.winSize := congrArg List.length (raised_slots t)
    refine ⟨?_, ?_, ?_⟩
    · rw [raised]
      split
      · exact h.sound.placed.start
      · exact h.sound.placed.start
    · exact hw ▸ h.sound.placed.pos
    · exact hw ▸ h.sound.placed.fits
  rw [flushPending]
  split
  · have hall := flush_all hp
    refine ⟨hall.1.trans hheld, held_replicate hall.2⟩
  · rename_i hf
    have hnil : held t = [] := by
      rcases h.awake hlong with hn | ht | hd
      · exact hn
      · rw [raised, if_pos ht] at hf
        exact absurd rfl hf
      · rw [raised] at hf
        split at hf
        · exact absurd rfl hf
        · exact absurd hd hf
    rw [hheld, hnil]
    exact ⟨rfl, rfl⟩

theorem held_until_flush (es : List (Event β)) (h : ∀ e ∈ es, e.Fits) {p : Priv β}
    (hp : run started es = some p) {tid : Nat} {ta : Vector UInt8 6} {t : RxReorderTbl β}
    (hget : getRxreorderTbl p.tbls tid ta = some t) (hlong : t.winSize ≤ ULong.width) :
    (held t ≠ [] → t.timerIsSet = true ∨ t.flushData = true) ∧
      ∃ q u, run p [.timer tid ta, .flushWork] = some q ∧
        getRxreorderTbl q.tbls tid ta = some u ∧ held u = [] ∧
        ∀ b ∈ held t, b ∈ q.delivered := by
  obtain ⟨q, hq, ha⟩ := run_accounted started_good h
  obtain rfl : q = p := Option.some.inj (hq.symm.trans hp)
  have hk := kept_of_get ha.good hget
  have hraised := flushData_get hget
  obtain ⟨hsent, hempty⟩ := flushPending_raised hk hlong
  refine ⟨fun hne => (hk.awake hlong).resolve_left hne, _, (flushPending (raised t)).1, rfl, ?_,
    hempty, fun b hb => ?_⟩
  · have hmap := getRxreorderTbl_map flushPending_key (flushData q.tbls tid ta) tid ta
    rw [hraised] at hmap
    exact hmap
  · rw [← hsent] at hb
    refine List.mem_append_right _ (List.mem_flatMap.mpr ⟨raised t, ?_, hb⟩)
    exact List.mem_of_find?_eq_some hraised

omit [ULong] in
theorem wrapRun_held_until_flush :
    letI := arm32
    ∃ p t, run started wrapRun = some p ∧ getRxreorderTbl p.tbls 0 peer = some t ∧
      held t = [15] ∧ ∃ q u, run p [.timer 0 peer, .flushWork] = some q ∧
        getRxreorderTbl q.tbls 0 peer = some u ∧ held u = [] ∧
        ∀ b ∈ held t, b ∈ q.delivered := by
  have hp : (@run _ arm32 started wrapRun).isSome = true := by decide
  have ht : ((@run _ arm32 started wrapRun).bind fun p => getRxreorderTbl p.tbls 0 peer).map
      (fun t => (t.winSize, held t)) = some (4, [15]) := by decide
  obtain ⟨p, hp⟩ := Option.isSome_iff_exists.mp hp
  rw [hp, Option.bind_some] at ht
  obtain ⟨t, hget, ht⟩ := Option.map_eq_some_iff.mp ht
  obtain ⟨hw, hheld⟩ := Prod.mk.inj ht
  refine ⟨p, t, hp, hget, hheld, ?_⟩
  exact (@held_until_flush _ arm32 wrapRun wrapRun_fits p hp 0 peer t hget (by rw [hw]; decide)).2

end RxReorder
