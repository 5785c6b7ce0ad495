import Mathlib.Data.BitVec
import Mathlib.Data.List.Basic
import Mathlib.Logic.Function.Iterate

structure Lfsr (w : Nat) where
  step : BitVec w → BitVec w
  seat : Nat → Nat
  step_xor : ∀ a b, step (a ^^^ b) = step a ^^^ step b
  step_zero : ∀ a, step a = 0#w → a = 0#w
  seat_lt : ∀ i, i < w → seat i < w
  seat_inj : ∀ i j, i < w → j < w → seat i = seat j → i = j
  seat_onto : ∀ k, k < w → ∃ i, i < w ∧ seat i = k
  step_seat : ∀ i, i + 1 < w → step (BitVec.twoPow w (seat (i + 1))) = BitVec.twoPow w (seat i)

namespace Lfsr

variable {w : Nat} (r : Lfsr w)

def steps (n : Nat) (a : BitVec w) : BitVec w := r.step^[n] a

def lit (i : Nat) (d : Bool) : BitVec w := if d then BitVec.twoPow w (r.seat i) else 0#w

def place (i : Nat) : List Bool → BitVec w
  | [] => 0#w
  | d :: ds => r.lit i d ^^^ place (i + 1) ds

def feed (a : BitVec w) (d : Bool) : BitVec w := r.step (a ^^^ r.lit 0 d)

def code (a : BitVec w) (ds : List Bool) : BitVec w := ds.foldl r.feed a

theorem steps_succ (n : Nat) (a : BitVec w) : r.steps (n + 1) a = r.steps n (r.step a) := rfl

theorem steps_xor (n : Nat) (a b : BitVec w) :
    r.steps n (a ^^^ b) = r.steps n a ^^^ r.steps n b := by
  induction n generalizing a b with
  | zero => rfl
  | succ n ih => rw [steps_succ, steps_succ, steps_succ, r.step_xor, ih]

theorem steps_zero {n : Nat} {a : BitVec w} (h : r.steps n a = 0#w) : a = 0#w := by
  induction n generalizing a with
  | zero => exact h
  | succ n ih => exact r.step_zero a (ih h)

theorem eq_of_steps {n : Nat} {a b : BitVec w} (h : r.steps n a = r.steps n b) : a = b := by
  have hxor : r.steps n (a ^^^ b) = 0#w := by
    rw [steps_xor, h, BitVec.xor_self]
  exact BitVec.xor_eq_zero_iff.mp (r.steps_zero hxor)

theorem eq_of_feed {a b : BitVec w} {d : Bool} (h : r.feed a d = r.feed b d) : a = b := by
  have hlit : a ^^^ r.lit 0 d = b ^^^ r.lit 0 d := r.eq_of_steps (n := 1) h
  exact (BitVec.xor_left_inj _).mp hlit

theorem eq_of_code {a b : BitVec w} {ds : List Bool} (h : r.code a ds = r.code b ds) : a = b := by
  induction ds generalizing a b with
  | nil => exact h
  | cons d ds ih => exact r.eq_of_feed (ih h)

theorem code_append (a : BitVec w) (ds es : List Bool) :
    r.code a (ds ++ es) = r.code (r.code a ds) es := List.foldl_append

theorem getLsbD_lit {i j : Nat} (hi : i < w) (hj : j < w) (d : Bool) :
    (r.lit i d).getLsbD (r.seat j) = (decide (i = j) && d) := by
  have hseat : r.seat i = r.seat j ↔ i = j := ⟨r.seat_inj i j hi hj, congrArg r.seat⟩
  cases d <;> simp [lit, BitVec.getLsbD_twoPow, r.seat_lt i hi, hseat]

theorem getLsbD_place {i j : Nat} {ds : List Bool} (hlen : i + ds.length ≤ w) (hj : j < w) :
    (r.place i ds).getLsbD (r.seat j) = (decide (i ≤ j) && ds[j - i]?.getD false) := by
  induction ds generalizing i with
  | nil => simp [place]
  | cons d ds ih =>
    have hi : i < w := by simp only [List.length_cons] at hlen; omega
    have hrest := ih (i := i + 1) (by simp only [List.length_cons] at hlen; omega)
    rw [place, BitVec.getLsbD_xor, getLsbD_lit r hi hj, hrest]
    rcases Nat.lt_trichotomy i j with hlt | heq | hgt
    · have hsub : j - i = j - (i + 1) + 1 := by omega
      simp [Nat.ne_of_lt hlt, Nat.succ_le_of_lt hlt, Nat.le_of_lt hlt, hsub]
    · have hpast : ¬ j + 1 ≤ j := Nat.not_succ_le_self j
      simp [heq, hpast]
    · have hnot : ¬ i ≤ j ∧ ¬ i + 1 ≤ j ∧ i ≠ j := by omega
      simp [hnot]

theorem eq_of_place {ds es : List Bool} (hlen : ds.length = es.length) (hw : ds.length ≤ w)
    (h : r.place 0 ds = r.place 0 es) : ds = es := by
  apply List.ext_getElem hlen
  intro j hj hj'
  have hbit := congrArg (BitVec.getLsbD · (r.seat j)) h
  simp only [r.getLsbD_place (i := 0) (by omega : 0 + ds.length ≤ w) (by omega : j < w),
    r.getLsbD_place (i := 0) (by omega : 0 + es.length ≤ w) (by omega : j < w)] at hbit
  simpa [List.getElem?_eq_getElem hj, List.getElem?_eq_getElem hj'] using hbit

theorem step_zero_eq : r.step 0#w = 0#w := by
  have hself := r.step_xor 0#w 0#w
  rwa [BitVec.xor_self, BitVec.xor_self] at hself

theorem step_place {i : Nat} {ds : List Bool} (hlen : i + 1 + ds.length ≤ w) :
    r.step (r.place (i + 1) ds) = r.place i ds := by
  induction ds generalizing i with
  | nil => exact r.step_zero_eq
  | cons d ds ih =>
    have hi : i + 1 < w := by simp only [List.length_cons] at hlen; omega
    have hrest := ih (i := i + 1) (by simp only [List.length_cons] at hlen; omega)
    have hlit : r.step (r.lit (i + 1) d) = r.lit i d := by
      cases d
      · exact r.step_zero_eq
      · exact r.step_seat i hi
    rw [place, r.step_xor, hlit, hrest, place]

theorem code_eq_steps {a : BitVec w} {ds : List Bool} (hlen : ds.length ≤ w) :
    r.code a ds = r.steps ds.length (a ^^^ r.place 0 ds) := by
  induction ds generalizing a with
  | nil => simp [code, place, steps]
  | cons d ds ih =>
    simp only [List.length_cons] at hlen
    have hrest : r.code a (d :: ds) = r.steps ds.length (r.feed a d ^^^ r.place 0 ds) :=
      ih (Nat.le_of_succ_le hlen)
    rw [hrest, feed, ← r.step_place (by omega), ← r.step_xor, List.length_cons, steps_succ, place,
      BitVec.xor_assoc]

theorem code_eq_zero_iff {a : BitVec w} {ds : List Bool} (hlen : ds.length ≤ w) :
    r.code a ds = 0#w ↔ a = r.place 0 ds := by
  have hzero : r.steps ds.length 0#w = 0#w := Function.iterate_fixed r.step_zero_eq _
  rw [r.code_eq_steps hlen]
  constructor
  · exact fun h => BitVec.xor_eq_zero_iff.mp (r.steps_zero h)
  · intro h
    rw [h, BitVec.xor_self, hzero]

theorem burst_detected {a : BitVec w} {pre ds es post : List Bool}
    (hlen : ds.length = es.length) (hw : ds.length ≤ w)
    (h : r.code a (pre ++ ds ++ post) = r.code a (pre ++ es ++ post)) : ds = es := by
  rw [code_append, code_append, code_append, code_append] at h
  have hmid := r.eq_of_code h
  have hw' : es.length ≤ w := hlen ▸ hw
  generalize r.code a pre = b at hmid
  rw [r.code_eq_steps hw, r.code_eq_steps hw', ← hlen] at hmid
  apply r.eq_of_place hlen hw
  exact (BitVec.xor_right_inj _).mp (r.eq_of_steps hmid)

theorem code_table {a high low : BitVec w} {ds es : List Bool} (hlen : ds.length = es.length)
    (hw : ds.length ≤ w) (hsplit : a = high ^^^ low) (hin : low ^^^ r.place 0 ds = r.place 0 es) :
    r.code a ds = r.steps ds.length high ^^^ r.code 0#w es := by
  rw [r.code_eq_steps hw, r.code_eq_steps (hlen ▸ hw), ← hlen, hsplit, BitVec.xor_assoc, hin,
    steps_xor, BitVec.zero_xor]

section shifts

def fold (shift : BitVec w → BitVec w) (out : Nat) (poly a : BitVec w) : BitVec w :=
  if a.getLsbD out then shift a ^^^ poly else shift a

def stepUp (poly a : BitVec w) : BitVec w := fold (· <<< 1) (w - 1) poly a

def stepDown (poly a : BitVec w) : BitVec w := fold (· >>> 1) 0 poly a

theorem xor_pair (a b p : BitVec w) : a ^^^ p ^^^ (b ^^^ p) = a ^^^ b := by
  rw [BitVec.xor_comm b p, BitVec.xor_assoc, ← BitVec.xor_assoc p p b, BitVec.xor_self,
    BitVec.zero_xor]

theorem fold_xor {shift : BitVec w → BitVec w}
    (hshift : ∀ a b, shift (a ^^^ b) = shift a ^^^ shift b) (out : Nat) (poly a b : BitVec w) :
    fold shift out poly (a ^^^ b) = fold shift out poly a ^^^ fold shift out poly b := by
  simp only [fold, BitVec.getLsbD_xor, hshift]
  cases a.getLsbD out <;> cases b.getLsbD out
  · simp
  · simp [BitVec.xor_assoc]
  · simp [BitVec.xor_assoc, BitVec.xor_comm poly]
  · simp [xor_pair]

theorem fold_zero {shift : BitVec w → BitVec w} {out e : Nat} {poly a : BitVec w}
    (hempty : ∀ a, (shift a).getLsbD e = false) (hpoly : poly.getLsbD e = true)
    (h : fold shift out poly a = 0#w) : a.getLsbD out = false ∧ shift a = 0#w := by
  cases hout : a.getLsbD out
  · simpa [fold, hout] using h
  · have hbit := congrArg (BitVec.getLsbD · e) h
    simp [fold, hout, hempty, hpoly] at hbit

theorem stepUp_zero {poly : BitVec w} (hpoly : poly.getLsbD 0 = true) (a : BitVec w)
    (h : stepUp poly a = 0#w) : a = 0#w := by
  obtain ⟨hout, hshift⟩ := fold_zero (e := 0) (fun a => by simp) hpoly h
  apply BitVec.eq_of_getLsbD_eq
  intro i hi
  rcases Nat.lt_or_ge (i + 1) w with hlt | hge
  · have hbit := congrArg (BitVec.getLsbD · (i + 1)) hshift
    rw [BitVec.getLsbD_zero, BitVec.getLsbD_eq_getElem hi]
    simpa [hlt] using hbit
  · have hlast : i = w - 1 := by omega
    simpa [hlast] using hout

theorem stepDown_zero {poly : BitVec w} (hpoly : poly.getLsbD (w - 1) = true) (a : BitVec w)
    (h : stepDown poly a = 0#w) : a = 0#w := by
  obtain ⟨hout, hshift⟩ := fold_zero (e := w - 1)
    (fun a => by simp [BitVec.getLsbD_of_ge a (1 + (w - 1)) (by omega)]) hpoly h
  apply BitVec.eq_of_getLsbD_eq
  intro i hi
  cases i with
  | zero => simpa using hout
  | succ i =>
    have hbit := congrArg (BitVec.getLsbD · i) hshift
    simpa [Nat.add_comm 1] using hbit

theorem stepUp_twoPow {poly : BitVec w} {i : Nat} (hi : i + 1 < w) :
    stepUp poly (BitVec.twoPow w i) = BitVec.twoPow w (i + 1) := by
  have hout : (BitVec.twoPow w i).getLsbD (w - 1) = false := by
    have hne : i ≠ w - 1 := by omega
    simp [BitVec.getLsbD_twoPow, hne]
  apply BitVec.eq_of_getLsbD_eq
  intro j hj
  simp only [stepUp, fold, hout, Bool.false_eq_true, if_false, BitVec.getLsbD_shiftLeft,
    BitVec.getLsbD_twoPow]
  grind

theorem stepDown_twoPow {poly : BitVec w} {i : Nat} (hi : i + 1 < w) :
    stepDown poly (BitVec.twoPow w (i + 1)) = BitVec.twoPow w i := by
  have hout : (BitVec.twoPow w (i + 1)).getLsbD 0 = false := by
    simp [BitVec.getLsbD_twoPow]
  apply BitVec.eq_of_getLsbD_eq
  intro j hj
  simp only [stepDown, fold, hout, Bool.false_eq_true, if_false, BitVec.getLsbD_ushiftRight,
    BitVec.getLsbD_twoPow]
  grind

def msbFirst (poly : BitVec w) (hpoly : poly.getLsbD 0 = true) : Lfsr w where
  step := stepUp poly
  seat i := w - 1 - i
  step_xor := fold_xor (fun a b => BitVec.shiftLeft_xor_distrib a b 1) _ poly
  step_zero := stepUp_zero hpoly
  seat_lt i hi := by omega
  seat_inj i j hi hj h := by omega
  seat_onto k hk := ⟨w - 1 - k, by omega, by omega⟩
  step_seat i hi := by
    have hseat : w - 1 - i = w - 1 - (i + 1) + 1 := by omega
    rw [hseat]
    exact stepUp_twoPow (by omega)

def lsbFirst (poly : BitVec w) (hpoly : poly.getLsbD (w - 1) = true) : Lfsr w where
  step := stepDown poly
  seat i := i
  step_xor := fold_xor (fun a b => BitVec.ushiftRight_xor_distrib a b 1) _ poly
  step_zero := stepDown_zero hpoly
  seat_lt _ hi := hi
  seat_inj _ _ _ _ h := h
  seat_onto k hk := ⟨k, hk, rfl⟩
  step_seat _ hi := stepDown_twoPow hi

@[simp] theorem msbFirst_step {poly : BitVec w} (hpoly : poly.getLsbD 0 = true) :
    (msbFirst poly hpoly).step = stepUp poly := rfl

@[simp] theorem lsbFirst_step {poly : BitVec w} (hpoly : poly.getLsbD (w - 1) = true) :
    (lsbFirst poly hpoly).step = stepDown poly := rfl

theorem setWidth_fold {v : Nat} (hv : v ≤ w) (poly a : BitVec w) :
    (fold (· <<< 1) (v - 1) poly a).setWidth v = stepUp (poly.setWidth v) (a.setWidth v) := by
  rcases Nat.eq_zero_or_pos v with hzero | hpos
  · subst hzero
    exact Subsingleton.elim _ _
  have hout : (a.setWidth v).getLsbD (v - 1) = a.getLsbD (v - 1) := by
    rw [BitVec.getLsbD_setWidth]
    simp [Nat.sub_lt hpos]
  simp only [stepUp, fold, hout]
  cases a.getLsbD (v - 1)
  · simp [BitVec.setWidth_shiftLeft_of_le hv]
  · simp [BitVec.setWidth_shiftLeft_of_le hv, BitVec.setWidth_xor]

theorem setWidth_folds {v : Nat} (hv : v ≤ w) (n : Nat) {poly : BitVec w} {p : BitVec v}
    (hp : poly.setWidth v = p) (hpoly : p.getLsbD 0 = true) (a : BitVec w) :
    ((fold (· <<< 1) (v - 1) poly)^[n] a).setWidth v =
      (msbFirst p hpoly).steps n (a.setWidth v) := by
  induction n generalizing a with
  | zero => rfl
  | succ n ih =>
    rw [Function.iterate_succ_apply, ih, setWidth_fold hv, steps_succ, msbFirst_step, hp]

end shifts

section bytes

def upBits (b : BitVec 8) : List Bool := (List.range 8).map fun j => b.getLsbD (7 - j)

def downBits (b : BitVec 8) : List Bool := (List.range 8).map fun j => b.getLsbD j

@[simp] theorem length_upBits (b : BitVec 8) : (upBits b).length = 8 := rfl

@[simp] theorem length_downBits (b : BitVec 8) : (downBits b).length = 8 := rfl

theorem place_upBits {poly : BitVec w} {hpoly : poly.getLsbD 0 = true} (hw : 8 ≤ w) (b : BitVec 8) :
    (msbFirst poly hpoly).place 0 (upBits b) = b.setWidth w <<< (w - 8) := by
  apply BitVec.eq_of_getLsbD_eq
  intro k hk
  obtain ⟨j, hj, rfl⟩ := (msbFirst poly hpoly).seat_onto k hk
  rw [(msbFirst poly hpoly).getLsbD_place (by simpa using hw) hj, BitVec.getLsbD_shiftLeft,
    BitVec.getLsbD_setWidth]
  rcases Nat.lt_or_ge j 8 with hlt | hge
  · have hseat : w - 1 - j - (w - 8) = 7 - j := by omega
    have hin : ¬ w - 1 - j < w - 8 := by omega
    have hpos : w - 1 - j < w := by omega
    have hwide : 7 - j < w := by omega
    simp [msbFirst, upBits, List.getElem?_range hlt, hseat, hin, hpos, hwide]
  · have hout : w - 1 - j < w - 8 := by omega
    have hnone : (List.range 8)[j]? = none := by simpa using hge
    simp [msbFirst, upBits, hout, hnone]

theorem place_downBits {poly : BitVec w} {hpoly : poly.getLsbD (w - 1) = true} (hw : 8 ≤ w)
    (b : BitVec 8) : (lsbFirst poly hpoly).place 0 (downBits b) = b.setWidth w := by
  apply BitVec.eq_of_getLsbD_eq
  intro k hk
  have hlen : 0 + (downBits b).length ≤ w := by simpa using hw
  rw [BitVec.getLsbD_setWidth]
  apply ((lsbFirst poly hpoly).getLsbD_place hlen hk).trans
  rcases Nat.lt_or_ge k 8 with hlt | hge
  · simp [downBits, List.getElem?_range hlt, hk]
  · have hnone : (List.range 8)[k]? = none := by simpa using hge
    simp [downBits, hnone, BitVec.getLsbD_of_ge b k hge]

theorem steps_shiftLeft {poly : BitVec w} {hpoly : poly.getLsbD 0 = true} {n : Nat} {a : BitVec w}
    (htop : ∀ j, j < n → a.getLsbD (w - 1 - j) = false) :
    (msbFirst poly hpoly).steps n a = a <<< n := by
  induction n generalizing a with
  | zero => simp [steps]
  | succ n ih =>
    have hstep : stepUp poly a = a <<< 1 := by
      have hout := htop 0 (Nat.succ_pos n)
      simp only [Nat.sub_zero] at hout
      simp [stepUp, fold, hout]
    have hrest : ∀ j, j < n → (a <<< 1).getLsbD (w - 1 - j) = false := by
      intro j hj
      have hbit := htop (j + 1) (by omega)
      have hseat : w - 1 - j - 1 = w - 1 - (j + 1) := by omega
      simp [hseat, hbit]
    rw [steps_succ, msbFirst_step, hstep, ih hrest, ← BitVec.shiftLeft_add, Nat.add_comm]

theorem steps_ushiftRight {poly : BitVec w} {hpoly : poly.getLsbD (w - 1) = true} {n : Nat}
    {a : BitVec w} (hlow : ∀ j, j < n → a.getLsbD j = false) :
    (lsbFirst poly hpoly).steps n a = a >>> n := by
  induction n generalizing a with
  | zero => simp [steps]
  | succ n ih =>
    have hstep : stepDown poly a = a >>> 1 := by
      simp [stepDown, fold, hlow 0 (Nat.succ_pos n)]
    have hrest : ∀ j, j < n → (a >>> 1).getLsbD j = false := by
      intro j hj
      rw [BitVec.getLsbD_ushiftRight]
      exact hlow (1 + j) (by omega)
    rw [steps_succ, lsbFirst_step, hstep, ih hrest, ← BitVec.shiftRight_add, Nat.add_comm]

def Burst (bits : BitVec 8 → List Bool) (n : Nat) (bs cs : List (BitVec 8)) : Prop :=
  ∃ pre ds es post, bs.flatMap bits = pre ++ ds ++ post ∧ cs.flatMap bits = pre ++ es ++ post ∧
    ds.length = es.length ∧ ds.length ≤ n ∧ ds ≠ es

theorem length_bits {bits : BitVec 8 → List Bool} (hbits : ∀ b, (bits b).length = 8)
    (bs : List (BitVec 8)) : (bs.flatMap bits).length = 8 * bs.length := by
  induction bs with
  | nil => rfl
  | cons b bs ih =>
    rw [List.flatMap_cons, List.length_append, hbits, ih, List.length_cons]
    omega

theorem Burst.length_eq {bits : BitVec 8 → List Bool} {n : Nat} {bs cs : List (BitVec 8)}
    (h : Burst bits n bs cs) (hbits : ∀ b, (bits b).length = 8) : bs.length = cs.length := by
  obtain ⟨pre, ds, es, post, hbs, hcs, hlen, -, -⟩ := h
  have hb := length_bits hbits bs
  have hc := length_bits hbits cs
  rw [hbs] at hb
  rw [hcs] at hc
  simp only [List.length_append] at hb hc
  omega

theorem Burst.cons {bits : BitVec 8 → List Bool} {n : Nat} {bs cs : List (BitVec 8)}
    (h : Burst bits n bs cs) (b : BitVec 8) : Burst bits n (b :: bs) (b :: cs) := by
  obtain ⟨pre, ds, es, post, hbs, hcs, hlen, hle, hne⟩ := h
  refine ⟨bits b ++ pre, ds, es, post, ?_, ?_, hlen, hle, hne⟩
  · simp [hbs]
  · simp [hcs]

theorem Burst.ne_nil {bits : BitVec 8 → List Bool} {n : Nat} {bs cs : List (BitVec 8)}
    (h : Burst bits n bs cs) : bs ≠ [] ∧ cs ≠ [] := by
  obtain ⟨pre, ds, es, post, hbs, hcs, hlen, -, hne⟩ := h
  have hempty : ds = [] ↔ es = [] := by
    rw [← List.length_eq_zero_iff, ← List.length_eq_zero_iff, hlen]
  have hsome : ds ≠ [] ∧ es ≠ [] :=
    ⟨fun hds => hne (hds.trans (hempty.mp hds).symm),
      fun hes => hne ((hempty.mpr hes).trans hes.symm)⟩
  constructor
  · rintro rfl
    simp [hsome.1] at hbs
  · rintro rfl
    simp [hsome.2] at hcs

theorem code_ne_of_burst (r : Lfsr w) {bits : BitVec 8 → List Bool} {bs cs : List (BitVec 8)}
    (h : Burst bits w bs cs) (a : BitVec w) :
    r.code a (bs.flatMap bits) ≠ r.code a (cs.flatMap bits) := by
  obtain ⟨pre, ds, es, post, hbs, hcs, hlen, hw, hne⟩ := h
  rw [hbs, hcs]
  exact fun heq => hne (r.burst_detected hlen hw heq)

def topByte (a : BitVec w) : BitVec 8 := (a >>> (w - 8)).setWidth 8

theorem getLsbD_topByte (hw : 8 ≤ w) (a : BitVec w) {k : Nat} (hk : k < w) :
    ((topByte a).setWidth w <<< (w - 8)).getLsbD k = (decide (w - 8 ≤ k) && a.getLsbD k) := by
  rcases Nat.lt_or_ge k (w - 8) with hlt | hge
  · have hnot : ¬ w - 8 ≤ k := by omega
    simp [hlt, hnot]
  · have hback : w - 8 + (k - (w - 8)) = k := by omega
    have hbyte : k - (w - 8) < 8 := by omega
    have hwide : k - (w - 8) < w := by omega
    have hnot : ¬ k < w - 8 := by omega
    simp [topByte, hge, hback, hbyte, hwide, hnot, hk]

theorem getLsbD_lowByte (a : BitVec w) {k : Nat} (hk : k < w) :
    ((a.setWidth 8).setWidth w).getLsbD k = (decide (k < 8) && a.getLsbD k) := by
  simp [hk]

theorem msbFirst_byte {poly : BitVec w} {hpoly : poly.getLsbD 0 = true} (hw : 8 ≤ w) (a : BitVec w)
    (b : BitVec 8) : (msbFirst poly hpoly).code a (upBits b) =
      a <<< 8 ^^^ (msbFirst poly hpoly).code 0#w (upBits (topByte a ^^^ b)) := by
  have hhigh : ∀ k, k < w → (a ^^^ (topByte a).setWidth w <<< (w - 8)).getLsbD k =
      (decide (k < w - 8) && a.getLsbD k) := by
    intro k hk
    rw [BitVec.getLsbD_xor, getLsbD_topByte hw a hk]
    rcases Nat.lt_or_ge k (w - 8) with hlt | hge
    · have hnot : ¬ w - 8 ≤ k := by omega
      simp [hlt, hnot]
    · have hnot : ¬ k < w - 8 := by omega
      simp [hge, hnot]
  have hsplit : a = a ^^^ (topByte a).setWidth w <<< (w - 8) ^^^
      (topByte a).setWidth w <<< (w - 8) := by
    rw [BitVec.xor_assoc, BitVec.xor_self, BitVec.xor_zero]
  have hsteps : (msbFirst poly hpoly).steps 8 (a ^^^ (topByte a).setWidth w <<< (w - 8)) =
      a <<< 8 := by
    rw [steps_shiftLeft (by intro j hj; rw [hhigh _ (by omega)]; simp; omega)]
    apply BitVec.eq_of_getLsbD_eq
    intro k hk
    simp only [BitVec.getLsbD_shiftLeft, hhigh (k - 8) (by omega)]
    have hin : k - 8 < w - 8 ∨ k < 8 := by omega
    rcases hin with hin | hin <;> simp [hin]
  have hlen : (upBits b).length = (upBits (topByte a ^^^ b)).length := rfl
  rw [(msbFirst poly hpoly).code_table hlen (by simpa using hw) hsplit
    (by rw [place_upBits hw, place_upBits hw, BitVec.setWidth_xor, BitVec.shiftLeft_xor_distrib]),
    length_upBits, hsteps]

theorem lsbFirst_byte {poly : BitVec w} {hpoly : poly.getLsbD (w - 1) = true} (hw : 8 ≤ w)
    (a : BitVec w) (b : BitVec 8) : (lsbFirst poly hpoly).code a (downBits b) =
      a >>> 8 ^^^ (lsbFirst poly hpoly).code 0#w (downBits (a.setWidth 8 ^^^ b)) := by
  have hhigh : ∀ k, k < w → (a ^^^ (a.setWidth 8).setWidth w).getLsbD k =
      (decide (8 ≤ k) && a.getLsbD k) := by
    intro k hk
    rw [BitVec.getLsbD_xor, getLsbD_lowByte a hk]
    rcases Nat.lt_or_ge k 8 with hlt | hge
    · have hnot : ¬ 8 ≤ k := by omega
      simp [hlt, hnot]
    · have hnot : ¬ k < 8 := by omega
      simp [hge, hnot]
  have hsplit : a = a ^^^ (a.setWidth 8).setWidth w ^^^ (a.setWidth 8).setWidth w := by
    rw [BitVec.xor_assoc, BitVec.xor_self, BitVec.xor_zero]
  have hsteps : (lsbFirst poly hpoly).steps 8 (a ^^^ (a.setWidth 8).setWidth w) = a >>> 8 := by
    rw [steps_ushiftRight (by intro j hj; rw [hhigh j (by omega)]; simp; omega)]
    apply BitVec.eq_of_getLsbD_eq
    intro k hk
    rw [BitVec.getLsbD_ushiftRight, BitVec.getLsbD_ushiftRight]
    rcases Nat.lt_or_ge (8 + k) w with hlt | hge
    · simp [hhigh (8 + k) hlt]
    · simp [BitVec.getLsbD_of_ge _ (8 + k) hge]
  have hlen : (downBits b).length = (downBits (a.setWidth 8 ^^^ b)).length := rfl
  rw [(lsbFirst poly hpoly).code_table hlen (by simpa using hw) hsplit
    (by rw [place_downBits hw, place_downBits hw, BitVec.setWidth_xor]),
    length_downBits, hsteps]

end bytes

end Lfsr
