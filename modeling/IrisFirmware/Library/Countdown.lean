import IrisFirmware.Library.Run

namespace Countdown

open Run

variable {S A B : Type*} {step : S → A → S} {I : S → Prop} {left : S → Nat} {busy : S → Bool}
  {ticks : A → Bool}

structure Counts (step : S → A → S) (I : S → Prop) (left : S → Nat) (busy : S → Bool)
    (ticks : A → Bool) : Prop where
  keeps : ∀ s a, I s → I (step s a)
  next : ∀ s a, I s → left (step s a) = left s - if ticks a then 1 else 0
  busy_iff : ∀ s, I s → (busy s = true ↔ 0 < left s)

def worked (step : S → A → S) (busy : S → Bool) (ticks : A → Bool) (output : S → B) :
    S → List A → List B
  | _, [] => []
  | s, a :: as =>
    (if ticks a && busy s then [output s] else []) ++ worked step busy ticks output (step s a) as

theorem keeps_exec (h : Counts step I left busy ticks) {s : S} (hs : I s) (as : List A) :
    I (exec step s as) := by
  induction as generalizing s with
  | nil => exact hs
  | cons a as ih => exact ih (h.keeps s a hs)

theorem left_exec (h : Counts step I left busy ticks) {s : S} (hs : I s) (as : List A) :
    left (exec step s as) = left s - as.countP ticks := by
  induction as generalizing s with
  | nil => simp
  | cons a as ih =>
    rw [exec_cons, ih (h.keeps s a hs), h.next s a hs, List.countP_cons]
    omega

theorem idle_exec (h : Counts step I left busy ticks) {s : S} (hs : I s) {as : List A}
    (hn : left s ≤ as.countP ticks) : busy (exec step s as) = false := by
  have hzero : left (exec step s as) = 0 := by
    rw [left_exec h hs]
    omega
  have hbusy := h.busy_iff _ (keeps_exec h hs as)
  rw [hzero] at hbusy
  exact Bool.eq_false_iff.mpr fun hb => Nat.lt_irrefl 0 (hbusy.mp hb)

theorem worked_eq_replicate (h : Counts step I left busy ticks) {output : S → B} {b : B}
    (hb : ∀ s, I s → busy s = true → output s = b) {s : S} (hs : I s) (as : List A) :
    worked step busy ticks output s as =
      List.replicate (min (as.countP ticks) (left s)) b := by
  induction as generalizing s with
  | nil => simp [worked]
  | cons a as ih =>
    rw [worked, ih (h.keeps s a hs), h.next s a hs, List.countP_cons]
    have hbusy := h.busy_iff s hs
    cases ht : ticks a with
    | false => simp
    | true =>
      cases hw : busy s with
      | false =>
        have hzero : left s = 0 := by
          rw [hw] at hbusy
          exact Nat.eq_zero_of_not_pos fun hpos => Bool.false_ne_true (hbusy.mpr hpos)
        simp [hzero]
      | true =>
        have hpos : 0 < left s := hbusy.mp hw
        rw [hb s hs hw]
        simp only [Bool.and_self, if_true, List.singleton_append, ← List.replicate_succ]
        congr 1
        omega

def Exactly (step : S → A → S) (busy : S → Bool) (ticks : A → Bool) (output : S → B)
    (stopped : S → Prop) (b : B) (n : Nat) (s : S) : Prop :=
  ∀ as : List A,
    worked step busy ticks output s as = List.replicate (min (as.countP ticks) n) b ∧
      (n ≤ as.countP ticks → stopped (exec step s as))

theorem exactly_iff (h : Counts step I left busy ticks) {output : S → B} {stopped : S → Prop}
    {b : B} (hb : ∀ s, I s → busy s = true → output s = b)
    (hstop : ∀ s, I s → busy s = false → stopped s) {a : A} (ha : ticks a = true) {s : S}
    (hs : I s) (n : Nat) : Exactly step busy ticks output stopped b n s ↔ left s = n := by
  constructor
  case mp =>
    intro hexact
    have hmin (k : Nat) : min k (left s) = min k n := by
      have hlen := congrArg List.length (hexact (List.replicate k a)).1
      rw [worked_eq_replicate h hb hs] at hlen
      simpa [List.countP_replicate, ha] using hlen
    have hleft := hmin (left s)
    have hn := hmin n
    omega
  case mpr =>
    rintro rfl as
    refine ⟨worked_eq_replicate h hb hs as, fun hn => ?_⟩
    exact hstop _ (keeps_exec h hs as) (idle_exec h hs hn)

end Countdown
