import Mathlib.Tactic

namespace Register

variable {n : Nat}

def put (mask v r : BitVec n) : BitVec n := (r &&& ~~~mask) ||| (v &&& mask)

def field (mask : BitVec n) (lo : Nat) (r : BitVec n) : BitVec n := (r &&& mask) >>> lo

theorem getElem_put (mask v r : BitVec n) (i : Nat) (hi : i < n) :
    (put mask v r)[i] = if mask[i] then v[i] else r[i] := by
  cases hm : mask[i] <;> simp [put, hm]

theorem put_and_mask (mask v r : BitVec n) : put mask v r &&& mask = v &&& mask := by
  ext i hi
  cases hm : mask[i] <;> simp [getElem_put, hm]

theorem put_and_disjoint {mask m : BitVec n} (h : mask &&& m = 0#n) (v r : BitVec n) :
    put mask v r &&& m = r &&& m := by
  ext i hi
  have hbit : (mask[i] && m[i]) = false := by
    rw [← BitVec.getElem_and, h, BitVec.getElem_zero]
  cases hm : mask[i] with
  | false => simp [getElem_put, hm]
  | true =>
    have hclear : m[i] = false := by simpa [hm] using hbit
    simp [getElem_put, hm, hclear]

theorem put_and_compl (mask v r : BitVec n) : put mask v r &&& ~~~mask = r &&& ~~~mask :=
  put_and_disjoint (by simp) v r

theorem field_put_same (mask v r : BitVec n) (lo : Nat) :
    field mask lo (put mask v r) = field mask lo v := by
  rw [field, put_and_mask, field]

theorem field_put_disjoint {mask m : BitVec n} (h : mask &&& m = 0#n) (v r : BitVec n)
    (lo : Nat) : field m lo (put mask v r) = field m lo r := by
  rw [field, put_and_disjoint h, field]

end Register
