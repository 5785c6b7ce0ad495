import Mathlib.Tactic
import Mathlib.Data.List.ReduceOption

namespace SeqWindow

variable {α : Type*}

structure Window (α : Type*) where
  base : Nat
  cells : List (Option α)
deriving DecidableEq, Repr

def numbered : Nat → List (Option α) → List (Nat × α)
  | _, [] => []
  | b, none :: cs => numbered (b + 1) cs
  | b, some a :: cs => (b, a) :: numbered (b + 1) cs

def shifted (n : Nat) (cells : List (Option α)) : List (Option α) :=
  cells.drop n ++ List.replicate (min n cells.length) none

def lead : List (Option α) → Nat
  | some _ :: cs => lead cs + 1
  | _ => 0

def span : List (Option α) → Nat
  | [] => 0
  | none :: cs => if span cs = 0 then 0 else span cs + 1
  | some _ :: cs => span cs + 1

namespace Window

def held (w : Window α) : List (Nat × α) := numbered w.base w.cells

def advance (w : Window α) (n : Nat) : Window α × List (Nat × α) :=
  (⟨w.base + n, shifted n w.cells⟩, numbered w.base (w.cells.take n))

def drain (w : Window α) : Window α × List (Nat × α) := w.advance (lead w.cells)

def put (w : Window α) (i : Nat) (a : α) : Window α := ⟨w.base, w.cells.set i (some a)⟩

end Window

theorem numbered_append (b : Nat) (cs ds : List (Option α)) :
    numbered b (cs ++ ds) = numbered b cs ++ numbered (b + cs.length) ds := by
  induction cs generalizing b with
  | nil => rfl
  | cons c cs ih =>
    cases c with
    | none => simp only [List.cons_append, numbered, ih, List.length_cons]; congr 2; omega
    | some a => simp only [List.cons_append, numbered, ih, List.length_cons]; congr 3; omega

@[simp] theorem numbered_replicate (b n : Nat) :
    numbered b (List.replicate n (none : Option α)) = [] := by
  induction n generalizing b with
  | zero => rfl
  | succ n ih => exact ih (b + 1)

theorem numbered_bounds {b : Nat} {cs : List (Option α)} {x : Nat × α}
    (h : x ∈ numbered b cs) : b ≤ x.1 ∧ x.1 < b + cs.length := by
  induction cs generalizing b with
  | nil => cases h
  | cons c cs ih =>
    rw [List.length_cons]
    cases c with
    | none =>
      have hx := ih h
      omega
    | some a =>
      rcases List.mem_cons.mp h with rfl | h
      · exact ⟨le_rfl, by simp⟩
      · have hx := ih h
        omega

theorem numbered_pairwise (b : Nat) (cs : List (Option α)) :
    (numbered b cs).Pairwise (fun x y => x.1 < y.1) := by
  induction cs generalizing b with
  | nil => exact .nil
  | cons c cs ih =>
    cases c with
    | none => exact ih (b + 1)
    | some a =>
      refine .cons (fun y hy => ?_) (ih (b + 1))
      have hb := numbered_bounds hy
      omega

theorem numbered_snd (b : Nat) (cs : List (Option α)) :
    (numbered b cs).map Prod.snd = cs.reduceOption := by
  induction cs generalizing b with
  | nil => rfl
  | cons c cs ih =>
    cases c with
    | none => rw [numbered, ih, List.reduceOption_cons_of_none]
    | some a => rw [numbered, List.map_cons, ih, List.reduceOption_cons_of_some]

theorem mem_numbered {b n : Nat} {a : α} {cs : List (Option α)} :
    (n, a) ∈ numbered b cs ↔ b ≤ n ∧ cs[n - b]? = some (some a) := by
  induction cs generalizing b with
  | nil => simp [numbered]
  | cons c cs ih =>
    have hshift : b ≤ n ∧ n ≠ b ↔ b + 1 ≤ n := by omega
    rcases eq_or_ne n b with rfl | hne
    · have hout : (n, a) ∉ numbered (n + 1) cs := fun h => by
        have hb := numbered_bounds h
        simp only at hb
        omega
      cases c with
      | none => simp [numbered, hout]
      | some d => simp [numbered, hout, eq_comm]
    · have hcons : ∀ d : Option α, (d :: cs)[n - b]? = some (some a) ∧ b ≤ n ↔
          cs[n - (b + 1)]? = some (some a) ∧ b + 1 ≤ n := by
        intro d
        constructor
        · rintro ⟨hget, hle⟩
          have hsub : n - b = (n - (b + 1)) + 1 := by omega
          rw [hsub, List.getElem?_cons_succ] at hget
          exact ⟨hget, by omega⟩
        · rintro ⟨hget, hle⟩
          have hsub : n - b = (n - (b + 1)) + 1 := by omega
          rw [hsub, List.getElem?_cons_succ]
          exact ⟨hget, by omega⟩
      cases c with
      | none => rw [numbered, ih, and_comm, ← hcons none, and_comm]
      | some d =>
        rw [numbered, List.mem_cons, ih, and_comm, ← hcons (some d), and_comm]
        simp [hne]

@[simp] theorem shifted_length (n : Nat) (cs : List (Option α)) :
    (shifted n cs).length = cs.length := by
  simp only [shifted, List.length_append, List.length_drop, List.length_replicate]
  omega

@[simp] theorem shifted_zero (cs : List (Option α)) : shifted 0 cs = cs := by simp [shifted]

theorem shifted_of_length_le {n : Nat} {cs : List (Option α)} (h : cs.length ≤ n) :
    shifted n cs = List.replicate cs.length none := by
  simp [shifted, List.drop_eq_nil_of_le h, Nat.min_eq_right h]

theorem shifted_getElem? (n i : Nat) (cs : List (Option α)) (hi : i < cs.length) :
    (shifted n cs)[i]? = some (cs[n + i]?.join) := by
  rw [shifted]
  rcases Nat.lt_or_ge (n + i) cs.length with h | h
  · rw [List.getElem?_append_left (by rw [List.length_drop]; omega), List.getElem?_drop,
      List.getElem?_eq_getElem h]
    rfl
  · rw [List.getElem?_append_right (by rw [List.length_drop]; omega),
      List.getElem?_eq_none h, List.getElem?_replicate_of_lt]
    · rfl
    · rw [List.length_drop]
      omega

theorem shifted_join (n i : Nat) (cs : List (Option α)) :
    (shifted n cs)[i]?.join = cs[n + i]?.join := by
  rcases Nat.lt_or_ge i cs.length with h | h
  · rw [shifted_getElem? n i cs h]
    rfl
  · rw [List.getElem?_eq_none (by rwa [shifted_length]), List.getElem?_eq_none (by omega)]

theorem shifted_held (b n : Nat) (cs : List (Option α)) :
    numbered b (cs.take n) ++ numbered (b + n) (shifted n cs) = numbered b cs := by
  rcases Nat.le_total n cs.length with h | h
  · rw [shifted, numbered_append, numbered_replicate, List.append_nil]
    have hlen : (cs.take n).length = n := by rw [List.length_take]; omega
    have hsplit := numbered_append b (cs.take n) (cs.drop n)
    rw [List.take_append_drop, hlen] at hsplit
    exact hsplit.symm
  · rw [shifted_of_length_le h, numbered_replicate, List.append_nil, List.take_of_length_le h]

theorem lead_le (cs : List (Option α)) : lead cs ≤ cs.length := by
  induction cs with
  | nil => exact le_rfl
  | cons c cs ih =>
    cases c with
    | none => exact Nat.zero_le _
    | some a => simpa [lead] using ih

theorem lead_getElem? (cs : List (Option α)) : cs[lead cs]?.join = none := by
  induction cs with
  | nil => rfl
  | cons c cs ih =>
    cases c with
    | none => rfl
    | some a => simpa [lead] using ih

namespace Window

@[simp] theorem advance_base (w : Window α) (n : Nat) : (w.advance n).1.base = w.base + n := rfl

@[simp] theorem advance_length (w : Window α) (n : Nat) :
    (w.advance n).1.cells.length = w.cells.length := shifted_length n w.cells

@[simp] theorem advance_zero (w : Window α) : w.advance 0 = (w, []) := by
  simp [advance, numbered]

theorem advance_held (w : Window α) (n : Nat) :
    (w.advance n).2 ++ (w.advance n).1.held = w.held := shifted_held w.base n w.cells

theorem advance_sent {w : Window α} {n : Nat} {x : Nat × α} (h : x ∈ (w.advance n).2) :
    w.base ≤ x.1 ∧ x.1 < w.base + n := by
  have hb := numbered_bounds h
  have hlen : (w.cells.take n).length ≤ n := by
    rw [List.length_take]
    exact min_le_left _ _
  omega

theorem advance_pairwise (w : Window α) (n : Nat) :
    (w.advance n).2.Pairwise (fun x y => x.1 < y.1) := numbered_pairwise _ _

end Window

inductive Op (α : Type*) where
  | receive (s : Nat) (a : α)
  | skipTo (s : Nat)
  | flush
deriving DecidableEq, Repr

def Op.carries : Op α → List (Nat × α)
  | .receive s a => [(s, a)]
  | _ => []

namespace Window

def jump (w : Window α) (s : Nat) : Nat := s + 1 - (w.base + w.cells.length)

def receive (w : Window α) (s : Nat) (a : α) : Option (Window α × List (Nat × α)) :=
  if s < w.base then none
  else
    let r := w.advance (w.jump s)
    match r.1.cells[s - r.1.base]? with
    | some none =>
      let d := (r.1.put (s - r.1.base) a).drain
      some (d.1, r.2 ++ d.2)
    | _ => none

def skipTo (w : Window α) (s : Nat) : Option (Window α × List (Nat × α)) :=
  if s < w.base then none
  else
    let r := w.advance (s - w.base)
    some (r.1.drain.1, r.2 ++ r.1.drain.2)

def flush (w : Window α) : Window α × List (Nat × α) := w.advance (span w.cells)

def step (w : Window α) : Op α → Option (Window α × List (Nat × α))
  | .receive s a => w.receive s a
  | .skipTo s => w.skipTo s
  | .flush => some w.flush

end Window

theorem span_le (cs : List (Option α)) : span cs ≤ cs.length := by
  induction cs with
  | nil => exact le_rfl
  | cons c cs ih =>
    rw [List.length_cons]
    cases c with
    | none => rw [span]; split <;> omega
    | some a => rw [span]; omega

theorem span_concat_none (cs : List (Option α)) : span (cs ++ [none]) = span cs := by
  induction cs with
  | nil => rfl
  | cons c cs ih => cases c <;> simp only [List.cons_append, span, ih]

theorem span_concat_some (cs : List (Option α)) (a : α) :
    span (cs ++ [some a]) = cs.length + 1 := by
  induction cs with
  | nil => rfl
  | cons c cs ih => cases c <;> simp [span, ih]

theorem span_drop (cs : List (Option α)) :
    cs.drop (span cs) = List.replicate (cs.length - span cs) none := by
  induction cs with
  | nil => rfl
  | cons c cs ih =>
    cases c with
    | none =>
      rcases Nat.eq_zero_or_pos (span cs) with h0 | hpos
      · rw [h0, List.drop_zero, Nat.sub_zero] at ih
        simp only [span, h0, if_true, List.drop_zero, List.length_cons, Nat.sub_zero]
        rw [List.replicate_succ, ← ih]
      · simp only [span, Nat.pos_iff_ne_zero.mp hpos, if_false, List.drop_succ_cons,
          List.length_cons, Nat.add_sub_add_right, ih]
    | some a =>
      simp only [span, List.drop_succ_cons, List.length_cons, Nat.add_sub_add_right, ih]

theorem exists_of_lt_span {n : Nat} {cs : List (Option α)} (h : n < span cs) :
    ∃ j a, n ≤ j ∧ cs[j]? = some (some a) := by
  induction cs generalizing n with
  | nil => exact absurd h (Nat.not_lt_zero n)
  | cons c cs ih =>
    cases c with
    | none =>
      rw [span] at h
      split at h
      · exact absurd h (Nat.not_lt_zero n)
      · obtain ⟨j, a, hj, ha⟩ := ih (n := n - 1) (by omega)
        exact ⟨j + 1, a, by omega, ha⟩
    | some b =>
      rw [span] at h
      rcases Nat.eq_zero_or_pos n with rfl | hpos
      · exact ⟨0, b, le_rfl, rfl⟩
      · obtain ⟨j, a, hj, ha⟩ := ih (n := n - 1) (by omega)
        exact ⟨j + 1, a, by omega, ha⟩

theorem drop_of_span_le {n : Nat} {cs : List (Option α)} (h : span cs ≤ n) :
    cs.drop n = List.replicate (cs.length - n) none := by
  have hn : n = span cs + (n - span cs) := by omega
  rw [hn, ← List.drop_drop, span_drop, List.drop_replicate]
  congr 1
  omega

theorem shifted_of_span_le {n : Nat} {cs : List (Option α)} (h : span cs ≤ n) :
    shifted n cs = List.replicate cs.length none := by
  rw [shifted, drop_of_span_le h, List.replicate_append_replicate]
  congr 1
  omega

theorem numbered_take_of_span_le (b : Nat) {n : Nat} {cs : List (Option α)} (h : span cs ≤ n) :
    numbered b (cs.take n) = numbered b cs := by
  have hsplit := shifted_held b n cs
  rwa [shifted_of_span_le h, numbered_replicate, List.append_nil] at hsplit

namespace Window

structure InOrder (w w' : Window α) (out : List (Nat × α)) : Prop where
  sorted : out.Pairwise (fun x y => x.1 < y.1)
  above : ∀ x ∈ out, w.base ≤ x.1
  below : ∀ x ∈ out, x.1 < w'.base
  forward : w.base ≤ w'.base

theorem InOrder.trans {u v w : Window α} {xs ys : List (Nat × α)} (h : InOrder u v xs)
    (h' : InOrder v w ys) : InOrder u w (xs ++ ys) where
  sorted := List.pairwise_append.mpr ⟨h.sorted, h'.sorted, fun x hx y hy =>
    Nat.lt_of_lt_of_le (h.below x hx) (h'.above y hy)⟩
  above := by
    intro x hx
    rcases List.mem_append.mp hx with hx | hx
    · exact h.above x hx
    · exact le_trans h.forward (h'.above x hx)
  below := by
    intro x hx
    rcases List.mem_append.mp hx with hx | hx
    · exact Nat.lt_of_lt_of_le (h.below x hx) h'.forward
    · exact h'.below x hx
  forward := le_trans h.forward h'.forward

theorem InOrder.of_base {u v w : Window α} {xs : List (Nat × α)} (h : InOrder u w xs)
    (hb : u.base = v.base) : InOrder v w xs where
  sorted := h.sorted
  above := hb ▸ h.above
  below := h.below
  forward := hb ▸ h.forward

theorem advance_inOrder (w : Window α) (n : Nat) : InOrder w (w.advance n).1 (w.advance n).2 where
  sorted := advance_pairwise w n
  above := fun _ hx => (advance_sent hx).1
  below := fun _ hx => (advance_sent hx).2
  forward := Nat.le_add_right _ _

theorem receive_inOrder {w w' : Window α} {s : Nat} {a : α} {out : List (Nat × α)}
    (h : w.receive s a = some (w', out)) : InOrder w w' out := by
  rw [receive] at h
  split at h
  · cases h
  · have ha := advance_inOrder w (w.jump s)
    generalize w.advance (w.jump s) = r at h ha
    simp only at h
    split at h
    · simp only [Option.some.injEq, Prod.mk.injEq] at h
      rw [← h.1, ← h.2]
      exact ha.trans ((advance_inOrder _ _).of_base rfl)
    · cases h

theorem skipTo_inOrder {w w' : Window α} {s : Nat} {out : List (Nat × α)}
    (h : w.skipTo s = some (w', out)) : InOrder w w' out := by
  rw [skipTo] at h
  split at h
  · cases h
  · simp only [Option.some.injEq, Prod.mk.injEq] at h
    rw [← h.1, ← h.2]
    exact (advance_inOrder w _).trans (advance_inOrder _ _)

theorem step_inOrder {w w' : Window α} {e : Op α} {out : List (Nat × α)}
    (h : w.step e = some (w', out)) : InOrder w w' out := by
  cases e with
  | receive s a => exact receive_inOrder h
  | skipTo s => exact skipTo_inOrder h
  | flush =>
    simp only [step, Option.some.injEq] at h
    rw [flush] at h
    have hi := advance_inOrder w (span w.cells)
    rw [h] at hi
    exact hi

theorem advance_mem {w : Window α} {n : Nat} {x : Nat × α}
    (h : x ∈ (w.advance n).2 ∨ x ∈ (w.advance n).1.held) : x ∈ w.held := by
  rw [← advance_held w n]
  exact List.mem_append.mpr h

theorem put_mem {w : Window α} {i : Nat} {a : α} {x : Nat × α} (h : x ∈ (w.put i a).held) :
    x ∈ w.held ∨ x = (w.base + i, a) := by
  obtain ⟨n, b⟩ := x
  simp only [held, put] at h ⊢
  obtain ⟨hle, hget⟩ := mem_numbered.mp h
  rw [List.getElem?_set] at hget
  rcases eq_or_ne i (n - w.base) with hi | hi
  · rw [if_pos hi] at hget
    split at hget
    · have hb := Option.some.inj (Option.some.inj hget)
      exact .inr (Prod.ext (by simp only; omega) hb.symm)
    · cases hget
  · rw [if_neg hi] at hget
    exact .inl (mem_numbered.mpr ⟨hle, hget⟩)

theorem receive_mem {w w' : Window α} {s : Nat} {a : α} {out : List (Nat × α)}
    (h : w.receive s a = some (w', out)) {x : Nat × α} (hx : x ∈ out ∨ x ∈ w'.held) :
    x ∈ w.held ∨ x = (s, a) := by
  rw [receive] at h
  split at h
  · cases h
  · rename_i hs
    have hm := @advance_mem α w (w.jump s) x
    have hle : 0 < (w.advance (w.jump s)).1.cells.length →
        (w.advance (w.jump s)).1.base ≤ s := by
      rw [advance_base, advance_length, jump]
      omega
    generalize w.advance (w.jump s) = r at h hm hle
    simp only at h
    split at h
    · rename_i hcell
      have hbase := hle (Nat.zero_lt_of_lt (List.getElem?_eq_some_iff.mp hcell).1)
      simp only [Option.some.injEq, Prod.mk.injEq] at h
      rw [← h.1, ← h.2, List.mem_append] at hx
      have hput (hd : x ∈ ((r.1.put (s - r.1.base) a).drain).2 ∨
          x ∈ ((r.1.put (s - r.1.base) a).drain).1.held) : x ∈ w.held ∨ x = (s, a) := by
        rcases put_mem (advance_mem hd) with hr | hr
        · exact .inl (hm (.inr hr))
        · exact .inr (hr.trans (by rw [Nat.add_sub_cancel' hbase]))
      rcases hx with (hx | hx) | hx
      · exact .inl (hm (.inl hx))
      · exact hput (.inl hx)
      · exact hput (.inr hx)
    · cases h

theorem skipTo_mem {w w' : Window α} {s : Nat} {out : List (Nat × α)}
    (h : w.skipTo s = some (w', out)) {x : Nat × α} (hx : x ∈ out ∨ x ∈ w'.held) :
    x ∈ w.held := by
  rw [skipTo] at h
  split at h
  · cases h
  · simp only [Option.some.injEq, Prod.mk.injEq] at h
    rw [← h.1, ← h.2, List.mem_append] at hx
    rcases hx with (hx | hx) | hx
    · exact advance_mem (.inl hx)
    · exact advance_mem (.inr (advance_mem (.inl hx)))
    · exact advance_mem (.inr (advance_mem (.inr hx)))

theorem step_mem {w w' : Window α} {e : Op α} {out : List (Nat × α)}
    (h : w.step e = some (w', out)) {x : Nat × α} (hx : x ∈ out ∨ x ∈ w'.held) :
    x ∈ w.held ∨ x ∈ e.carries := by
  cases e with
  | receive s a =>
    rcases receive_mem h hx with hm | rfl
    · exact .inl hm
    · exact .inr (List.mem_singleton.mpr rfl)
  | skipTo s => exact .inl (skipTo_mem h hx)
  | flush =>
    simp only [step, flush, Option.some.injEq] at h
    refine .inl (advance_mem (n := span w.cells) ?_)
    rwa [h]

def after (w : Window α) (e : Op α) : Window α × List (Nat × α) := (w.step e).getD (w, [])

def runAll (w : Window α) : List (Op α) → Window α × List (Nat × α)
  | [] => (w, [])
  | e :: es => ((runAll (w.after e).1 es).1, (w.after e).2 ++ (runAll (w.after e).1 es).2)

theorem receive_length {w w' : Window α} {s : Nat} {a : α} {out : List (Nat × α)}
    (h : w.receive s a = some (w', out)) : w'.cells.length = w.cells.length := by
  rw [receive] at h
  split at h
  · cases h
  · have hlen := advance_length w (w.jump s)
    generalize w.advance (w.jump s) = r at h hlen
    simp only at h
    split at h
    · simp only [Option.some.injEq, Prod.mk.injEq] at h
      rw [← h.1, drain, advance_length, put, List.length_set, hlen]
    · cases h

theorem step_length {w w' : Window α} {e : Op α} {out : List (Nat × α)}
    (h : w.step e = some (w', out)) : w'.cells.length = w.cells.length := by
  cases e with
  | receive s a => exact receive_length h
  | skipTo s =>
    rw [step, skipTo] at h
    split at h
    · cases h
    · simp only [Option.some.injEq, Prod.mk.injEq] at h
      rw [← h.1, drain, advance_length, advance_length]
  | flush =>
    simp only [step, flush, Option.some.injEq] at h
    have hlen := advance_length w (span w.cells)
    rwa [h] at hlen

theorem after_length (w : Window α) (e : Op α) :
    (w.after e).1.cells.length = w.cells.length := by
  rw [after]
  cases h : w.step e with
  | none => rfl
  | some r => exact step_length h

theorem after_inOrder (w : Window α) (e : Op α) : InOrder w (w.after e).1 (w.after e).2 := by
  rw [after]
  cases h : w.step e with
  | none => exact ⟨.nil, fun _ hx => (by cases hx), fun _ hx => (by cases hx), le_rfl⟩
  | some r => exact step_inOrder h

theorem after_mem {w : Window α} {e : Op α} {x : Nat × α}
    (hx : x ∈ (w.after e).2 ∨ x ∈ (w.after e).1.held) : x ∈ w.held ∨ x ∈ e.carries := by
  rw [after] at hx
  cases h : w.step e with
  | none =>
    rw [h] at hx
    exact .inl (hx.resolve_left List.not_mem_nil)
  | some r =>
    rw [h] at hx
    exact step_mem h hx

theorem runAll_inOrder (w : Window α) (es : List (Op α)) :
    InOrder w (w.runAll es).1 (w.runAll es).2 := by
  induction es generalizing w with
  | nil => exact ⟨.nil, fun _ hx => (by cases hx), fun _ hx => (by cases hx), le_rfl⟩
  | cons e es ih => exact (after_inOrder w e).trans (ih _)

theorem runAll_mem {w : Window α} {es : List (Op α)} {x : Nat × α}
    (hx : x ∈ (w.runAll es).2 ∨ x ∈ (w.runAll es).1.held) :
    x ∈ w.held ∨ ∃ e ∈ es, x ∈ e.carries := by
  induction es generalizing w with
  | nil => exact .inl (hx.resolve_left List.not_mem_nil)
  | cons e es ih =>
    have hrest (h : x ∈ (w.after e).1.held ∨ ∃ e' ∈ es, x ∈ e'.carries) :
        x ∈ w.held ∨ ∃ e' ∈ e :: es, x ∈ e'.carries := by
      rcases h with h | ⟨e', he, h⟩
      · rcases after_mem (.inr h) with h | h
        · exact .inl h
        · exact .inr ⟨e, by simp, h⟩
      · exact .inr ⟨e', List.mem_cons_of_mem _ he, h⟩
    rw [runAll, List.mem_append] at hx
    rcases hx with (hx | hx) | hx
    · rcases after_mem (.inl hx) with h | h
      · exact .inl h
      · exact .inr ⟨e, by simp, h⟩
    · exact hrest (ih (.inl hx))
    · exact hrest (ih (.inr hx))

end Window

end SeqWindow
