import IrisFirmware.Misc.Amp.Registers

namespace PegaAmp

def bulkCalls (ok : BulkAnswers) (book page regAddr : Nat) (regData : List Nat) (a : Amp) :
    List Transfer :=
  (if book ≠ a.curBook then [⟨ok.book, tasBook, book⟩] else []) ++
    (if page ≠ a.curPage then [⟨ok.page, tasPage, page⟩] else []) ++
    regData.mapIdx fun i d => ⟨ok.data i, (regAddr + i) % 2 ^ 8, d⟩

def upToFailure : List Transfer → List Transfer
  | [] => []
  | t :: ts => if t.ok then t :: upToFailure ts else [t]

structure WritesInOrder (calls : List Transfer) (a : Amp) (r : Amp × Int) : Prop where
  issued : r.1.calls = a.calls ++ upToFailure calls
  succeeds : r.2 = 0 ↔ ∀ t ∈ calls, t.ok
  fails : r.2 ≠ 0 → r.2 = -1

def marked (book page : Nat) (a : Amp) : Amp :=
  { a with curBook := book, curPage := if book = a.curBook then page else a.curPage }

theorem i2cWrite_ne_zero (ok : Bool) (reg val : Nat) (a : Amp) : (i2cWrite ok reg val a).2 ≠ 0 := by
  cases ok
  · exact Int.neg_ne_zero.mpr one_ne_zero
  · exact one_ne_zero

theorem i2cWrite_calls (ok : Bool) (reg val : Nat) (a : Amp) :
    (i2cWrite ok reg val a).1.calls = a.calls ++ [⟨ok, reg, val⟩] := by
  cases ok <;> rfl

-- every result of a write is unlike 0, so the first call is the last
theorem bulkWriteReg_eq (ok : BulkAnswers) (book page regAddr : Nat) (regData : List Nat)
    (a : Amp) :
    bulkWriteReg ok book page regAddr regData a =
      match bulkCalls ok book page regAddr regData a with
      | [] => (marked book page a, 0)
      | t :: _ => ((i2cWrite t.ok t.reg t.val (marked book page a)).1, -1) := by
  rw [bulkWriteReg, bulkCalls, marked, selectBook]
  by_cases hb : book = a.curBook
  case neg =>
    rw [if_pos hb, if_pos hb, if_neg hb]
    dsimp only
    rw [if_pos (i2cWrite_ne_zero _ _ _ _)]
    rfl
  case pos =>
    subst hb
    rw [if_neg (not_not.mpr rfl), if_neg (not_not.mpr rfl), if_pos rfl]
    dsimp only
    rw [if_neg (not_not.mpr rfl), selectPage]
    by_cases hp : page = a.curPage
    case neg =>
      rw [if_pos hp, if_pos hp, if_pos (i2cWrite_ne_zero _ _ _ _)]
      rfl
    case pos =>
      subst hp
      rw [if_neg (not_not.mpr rfl), if_neg (not_not.mpr rfl), if_neg (not_not.mpr rfl)]
      cases regData with
      | nil => rfl
      | cons d ds =>
        rw [writeData]
        dsimp only
        rw [if_pos (i2cWrite_ne_zero _ _ _ _), List.mapIdx_cons]
        rfl

theorem bulk_write_in_order_iff (ok : BulkAnswers) (book page regAddr : Nat)
    (regData : List Nat) (a : Amp) :
    WritesInOrder (bulkCalls ok book page regAddr regData a) a
        (bulkWriteReg ok book page regAddr regData a) ↔
      ∀ t ∈ (bulkCalls ok book page regAddr regData a).head?, t.ok = false := by
  rw [bulkWriteReg_eq]
  cases bulkCalls ok book page regAddr regData a with
  | nil => exact iff_of_true ⟨(List.append_nil _).symm, by simp, fun h => absurd rfl h⟩ (by simp)
  | cons t ts =>
    have hcalls := i2cWrite_calls t.ok t.reg t.val (marked book page a)
    cases hok : t.ok with
    | false =>
      refine iff_of_true ⟨?_, by simp [hok], fun _ => rfl⟩ (by simp [hok])
      rw [upToFailure, hok, if_neg Bool.false_ne_true]
      exact hcalls
    | true =>
      refine iff_of_false (fun h => ?_) (by simp [hok])
      have hissued := h.issued
      rw [upToFailure, hok, if_pos rfl] at hissued
      have hlast : upToFailure ts = [] := by
        have hsame := List.append_cancel_left (hcalls.symm.trans hissued)
        exact (List.cons.inj hsame).2.symm
      have hts : ts = [] := by
        cases ts with
        | nil => rfl
        | cons u us =>
          rw [upToFailure] at hlast
          split_ifs at hlast
      subst hts
      exact absurd (h.succeeds.mpr (by simp [hok])) (by simp)

def freshAmp : Amp := ampStart fun _ => 0

theorem first_success_ends_bulk_write :
    ¬ ∀ (ok : BulkAnswers) (book page regAddr : Nat) (regData : List Nat) (a : Amp),
      WritesInOrder (bulkCalls ok book page regAddr regData a) a
        (bulkWriteReg ok book page regAddr regData a) := by
  intro h
  have hdone := (h ⟨true, true, fun _ => true⟩ 0 0 8 [1, 2] freshAmp).succeeds.mpr
    (by decide)
  exact absurd hdone (by decide)

end PegaAmp
