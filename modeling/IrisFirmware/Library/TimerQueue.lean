import IrisFirmware.Library.Run

namespace TimerQueue

variable {α : Type*}

structure Entry (α : Type*) where
  key : α
  left : Int
deriving DecidableEq, Repr

abbrev Queue (α : Type*) := List (Entry α)

def keys (q : Queue α) : List α := q.map Entry.key

@[simp] theorem keys_nil : keys ([] : Queue α) = [] := rfl

@[simp] theorem keys_cons (e : Entry α) (q : Queue α) : keys (e :: q) = e.key :: keys q := rfl

@[simp] theorem keys_append (a b : Queue α) : keys (a ++ b) = keys a ++ keys b := by
  simp [keys]

def countDown (n : Int) : Int := if 0 < n then n - 1 else n

def tick : Queue α → Option α × Queue α
  | [] => (none, [])
  | e :: q =>
    if e.left = 1 then (some e.key, q)
    else ((tick q).1, ⟨e.key, countDown e.left⟩ :: (tick q).2)

theorem tick_append (a b : Queue α) :
    tick (a ++ b) = match (tick a).1 with
      | some k => (some k, (tick a).2 ++ b)
      | none => ((tick b).1, (tick a).2 ++ (tick b).2) := by
  induction a with
  | nil => simp [tick]
  | cons e a ih =>
    by_cases he : e.left = 1
    · simp [tick, he]
    · simp only [List.cons_append, tick, he, if_false, ih]
      cases (tick a).1 <;> simp

theorem tick_split (q : Queue α) :
    ((tick q).1 = none ∧ keys (tick q).2 = keys q) ∨
    ∃ x y k, keys q = x ++ k :: y ∧ (tick q).1 = some k ∧ keys (tick q).2 = x ++ y := by
  induction q with
  | nil => simp [tick]
  | cons e q ih =>
    by_cases he : e.left = 1
    · right
      exact ⟨[], keys q, e.key, by simp, by simp [tick, he], by simp [tick, he]⟩
    · rcases ih with ⟨hn, hk⟩ | ⟨x, y, k, hq, hf, hk⟩
      · left
        simp [tick, he, hn, hk]
      · right
        exact ⟨e.key :: x, y, k, by simp [hq], by simp [tick, he, hf], by simp [tick, he, hk]⟩

theorem tick_mem {q : Queue α} {k : α} (h : (tick q).1 = some k) : k ∈ keys q := by
  rcases tick_split q with ⟨hn, _⟩ | ⟨x, y, k', hq, hf, _⟩
  · simp [hn] at h
  · rw [hf] at h
    simp only [Option.some.injEq] at h
    simp [hq, h]

theorem tick_keys_sublist (q : Queue α) : (keys (tick q).2).Sublist (keys q) := by
  rcases tick_split q with ⟨_, hk⟩ | ⟨x, y, k, hq, _, hk⟩
  · rw [hk]
  · rw [hk, hq]
    exact (List.sublist_cons_self k y).append_left x

theorem tick_absent {k : α} {q : Queue α} (h : (keys q).Nodup) (hk : (tick q).1 = some k) :
    k ∉ keys (tick q).2 := by
  rcases tick_split q with ⟨hn, _⟩ | ⟨x, y, k', hq, hf, hrest⟩
  · rw [hn] at hk
    cases hk
  · obtain rfl : k' = k := Option.some_inj.mp (hf.symm.trans hk)
    rw [hq] at h
    rw [hrest]
    exact (List.nodup_middle.mp h).notMem

theorem tick_length_of_none {q : Queue α} (h : (tick q).1 = none) :
    (tick q).2.length = q.length := by
  rcases tick_split q with ⟨_, hk⟩ | ⟨x, y, k, _, hf, _⟩
  · simpa [keys] using congrArg List.length hk
  · simp [hf] at h

theorem tick_length_of_some {q : Queue α} {k : α} (h : (tick q).1 = some k) :
    (tick q).2.length + 1 = q.length := by
  rcases tick_split q with ⟨hn, _⟩ | ⟨x, y, k', hq, _, hk⟩
  · simp [hn] at h
  · have h1 := congrArg List.length hq
    have h2 := congrArg List.length hk
    simp only [keys, List.length_map, List.length_append, List.length_cons] at h1 h2
    omega

theorem tick_waiting {k : α} {n : Int} {a b : Queue α} (ha : (tick a).1 = none) :
    tick (a ++ ⟨k, n⟩ :: b) = if n = 1 then (some k, (tick a).2 ++ b)
      else ((tick b).1, (tick a).2 ++ ⟨k, countDown n⟩ :: (tick b).2) := by
  rw [tick_append, ha]
  by_cases hn : n = 1 <;> simp [tick, hn]

theorem tick_overtaken {k k' : α} {n : Int} {a b : Queue α} (ha : (tick a).1 = some k') :
    tick (a ++ ⟨k, n⟩ :: b) = (some k', (tick a).2 ++ ⟨k, n⟩ :: b) := by
  rw [tick_append, ha]

theorem exists_split {k : α} {q : Queue α} (h : k ∈ keys q) :
    ∃ a n b, q = a ++ ⟨k, n⟩ :: b := by
  obtain ⟨e, he, rfl⟩ := List.mem_map.mp h
  obtain ⟨a, b, rfl⟩ := List.append_of_mem he
  exact ⟨a, e.left, b, rfl⟩

theorem not_mem_left {k : α} {n : Int} {a b : Queue α} (h : (keys (a ++ ⟨k, n⟩ :: b)).Nodup) :
    k ∉ keys a := by
  simp only [keys_append, keys_cons, List.nodup_append] at h
  exact fun hc => h.2.2 k hc k (by simp) rfl

theorem not_mem_right {k : α} {n : Int} {a b : Queue α} (h : (keys (a ++ ⟨k, n⟩ :: b)).Nodup) :
    k ∉ keys b := by
  simp only [keys_append, keys_cons, List.nodup_append, List.nodup_cons] at h
  exact h.2.1.1

variable [DecidableEq α]

def rearm (k : α) (n : Int) (q : Queue α) : Queue α :=
  q.map fun e => if e.key = k then ⟨k, n⟩ else e

def arm (cap : Nat) (k : α) (n : Int) (q : Queue α) : Queue α :=
  if k ∈ keys q then rearm k n q
  else if q.length < cap then q ++ [⟨k, n⟩]
  else q

def drop (k : α) (q : Queue α) : Queue α := q.filter fun e => e.key ≠ k

inductive Op (α : Type*) where
  | arm (k : α) (n : Int)
  | drop (k : α)
  | clear
  | tick
  | skip
deriving DecidableEq, Repr

def step (cap : Nat) (q : Queue α) : Op α → Queue α
  | .arm k n => arm cap k n q
  | .drop k => drop k q
  | .clear => []
  | .tick => (tick q).2
  | .skip => q

def touches (k : α) : Op α → Prop
  | .arm k' _ => k' = k
  | .drop k' => k' = k
  | .clear => True
  | _ => False

def before (k : α) (q : Queue α) : Queue α := q.takeWhile fun e => e.key ≠ k

def overtaken (k : α) (q : Queue α) : Bool :=
  decide (k ∈ keys q) && (tick (before k q)).1.isSome

def ticks : List (Op α) → Nat
  | [] => 0
  | .tick :: ops => ticks ops + 1
  | _ :: ops => ticks ops

def overtakings (cap : Nat) (k : α) : Queue α → List (Op α) → Nat
  | _, [] => 0
  | q, .tick :: ops => (if overtaken k q then 1 else 0) + overtakings cap k (tick q).2 ops
  | q, op :: ops => overtakings cap k (step cap q op) ops

def firings (cap : Nat) (k : α) : Queue α → List (Op α) → List Nat
  | _, [] => []
  | q, .tick :: ops =>
    (if (tick q).1 = some k then [1] else []) ++ (firings cap k (tick q).2 ops).map (· + 1)
  | q, op :: ops => firings cap k (step cap q op) ops

theorem between_ticks (cap : Nat) {op : Op α} (hop : op ≠ .tick) (k : α) (q : Queue α)
    (ops : List (Op α)) :
    ticks (op :: ops) = ticks ops ∧
    overtakings cap k q (op :: ops) = overtakings cap k (step cap q op) ops ∧
    firings cap k q (op :: ops) = firings cap k (step cap q op) ops := by
  cases op with
  | tick => exact absurd rfl hop
  | arm k' n => exact ⟨rfl, rfl, rfl⟩
  | drop k' => exact ⟨rfl, rfl, rfl⟩
  | clear => exact ⟨rfl, rfl, rfl⟩
  | skip => exact ⟨rfl, rfl, rfl⟩

theorem keys_rearm (k : α) (n : Int) (q : Queue α) : keys (rearm k n q) = keys q := by
  simp only [keys, rearm, List.map_map]
  apply List.map_congr_left
  intro e _
  by_cases he : e.key = k <;> simp [he]

theorem keys_drop_sublist (k : α) (q : Queue α) : (keys (drop k q)).Sublist (keys q) :=
  List.filter_sublist.map _

theorem step_keys_nodup (cap : Nat) {q : Queue α} (h : (keys q).Nodup) (op : Op α) :
    (keys (step cap q op)).Nodup := by
  cases op with
  | arm k n =>
    simp only [step, arm]
    split_ifs with hk hc
    · rwa [keys_rearm]
    · rw [keys_append, List.nodup_append]
      refine ⟨h, by simp, ?_⟩
      intro u hu v hv huv
      simp only [keys_cons, keys_nil, List.mem_singleton] at hv
      exact hk (hv ▸ huv ▸ hu)
    · exact h
  | drop k => exact (keys_drop_sublist k q).nodup h
  | clear => simp [step]
  | tick => exact (tick_keys_sublist q).nodup h
  | skip => exact h

theorem mem_keys_step (cap : Nat) {k : α} {q : Queue α} {op : Op α}
    (h : k ∈ keys (step cap q op)) : k ∈ keys q ∨ ∃ n, op = .arm k n := by
  cases op with
  | arm k' n =>
    simp only [step, arm] at h
    split_ifs at h with hk hc
    · rw [keys_rearm] at h
      exact .inl h
    · simp only [keys_append, keys_cons, keys_nil, List.mem_append, List.mem_singleton] at h
      rcases h with h | rfl
      · exact .inl h
      · exact .inr ⟨n, rfl⟩
    · exact .inl h
  | drop k' => exact .inl ((keys_drop_sublist k' q).subset h)
  | clear => simp [step] at h
  | tick => exact .inl ((tick_keys_sublist q).subset h)
  | skip => exact .inl h

theorem filter_rearm {k x : α} (h : x ≠ k) (n : Int) (q : Queue α) :
    (rearm k n q).filter (fun e => e.key = x) = q.filter (fun e => e.key = x) := by
  induction q with
  | nil => rfl
  | cons e q ih =>
    by_cases he : e.key = k
    · have hx : ¬ e.key = x := fun hc => h (hc ▸ he)
      simpa [rearm, he, hx, h.symm] using ih
    · by_cases hx : e.key = x
      · simpa [rearm, he, hx, h] using ih
      · simpa [rearm, he, hx] using ih

theorem filter_step_other (cap : Nat) {x : α} {op : Op α} (hop : op ≠ .tick)
    (ht : ¬ touches x op) (q : Queue α) :
    (step cap q op).filter (fun e => e.key = x) = q.filter (fun e => e.key = x) := by
  cases op with
  | arm k n =>
    simp only [touches] at ht
    simp only [step, arm]
    split_ifs
    · exact filter_rearm (Ne.symm ht) n q
    · simp [ht]
    · rfl
  | drop k =>
    simp only [touches] at ht
    simp only [step, drop, List.filter_filter]
    apply List.filter_congr
    intro e _
    by_cases hx : e.key = x <;> simp [hx, Ne.symm ht]
  | clear => simp [touches] at ht
  | tick => exact absurd rfl hop
  | skip => rfl

theorem absent_step (cap : Nat) {k : α} {q : Queue α} (h : k ∉ keys q) {op : Op α}
    (ht : ¬ touches k op) : k ∉ keys (step cap q op) := by
  cases op with
  | arm k' n =>
    simp only [touches] at ht
    simp only [step, arm]
    split_ifs
    · rwa [keys_rearm]
    · simp [h, Ne.symm ht]
    · exact h
  | drop k' => exact fun hk => h ((keys_drop_sublist k' q).subset hk)
  | clear => simp [step]
  | tick => exact fun hk => h ((tick_keys_sublist q).subset hk)
  | skip => exact h

theorem waiting_step (cap : Nat) {k : α} {n : Int} {a b : Queue α} {op : Op α}
    (ht : ¬ touches k op) (hop : op ≠ .tick) :
    ∃ a' b', step cap (a ++ ⟨k, n⟩ :: b) op = a' ++ ⟨k, n⟩ :: b' ∧ a'.length ≤ a.length := by
  cases op with
  | arm k' m =>
    simp only [touches] at ht
    simp only [step, arm]
    split_ifs
    · exact ⟨rearm k' m a, rearm k' m b, by simp [rearm, Ne.symm ht], by simp [rearm]⟩
    · exact ⟨a, b ++ [⟨k', m⟩], by simp, le_rfl⟩
    · exact ⟨a, b, rfl, le_rfl⟩
  | drop k' =>
    simp only [touches] at ht
    exact ⟨drop k' a, drop k' b, by simp [step, drop, Ne.symm ht], List.length_filter_le _ _⟩
  | clear => simp [touches] at ht
  | tick => exact absurd rfl hop
  | skip => exact ⟨a, b, rfl, le_rfl⟩

theorem before_split {k : α} {n : Int} {a b : Queue α} (h : k ∉ keys a) :
    before k (a ++ ⟨k, n⟩ :: b) = a := by
  have ha : ∀ e ∈ a, decide (e.key ≠ k) = true := by
    intro e he
    have hm : e.key ∈ keys a := List.mem_map_of_mem he
    exact decide_eq_true fun hc => h (hc ▸ hm)
  rw [before, List.takeWhile_append_of_pos ha]
  simp

theorem overtaken_split {k : α} {n : Int} {a b : Queue α} (h : k ∉ keys a) :
    overtaken k (a ++ ⟨k, n⟩ :: b) = (tick a).1.isSome := by
  simp [overtaken, before_split h]

theorem keys_before (k : α) (q : Queue α) :
    keys (before k q) = (keys q).takeWhile fun x => x ≠ k := by
  induction q with
  | nil => rfl
  | cons e q ih =>
    by_cases he : e.key = k
    · simp [before, he]
    · have hcons : before k (e :: q) = e :: before k q := by simp [before, he]
      rw [hcons, keys_cons, ih, keys_cons, List.takeWhile_cons_of_pos (by simpa using he)]

theorem overtaken_iff {k : α} {q : Queue α} (h : (keys q).Nodup) :
    overtaken k q = true ↔ k ∈ keys q ∧ ∃ x ∈ keys (before k q), (tick q).1 = some x := by
  rw [overtaken, Bool.and_eq_true, decide_eq_true_iff]
  refine and_congr_right fun hk => ?_
  obtain ⟨a, n, b, rfl⟩ := exists_split hk
  have hka := not_mem_left h
  rw [before_split hka, Option.isSome_iff_exists]
  constructor
  · rintro ⟨x, hx⟩
    exact ⟨x, tick_mem hx, by rw [tick_overtaken hx]⟩
  · rintro ⟨x, hxa, hx⟩
    cases ha : (tick a).1 with
    | some x' => exact ⟨x', rfl⟩
    | none =>
      exfalso
      rw [tick_waiting ha] at hx
      simp only [keys_append, keys_cons, List.nodup_append] at h
      split_ifs at hx
      · simp only [Option.some.injEq] at hx
        exact h.2.2 x hxa k (by simp) hx.symm
      · exact h.2.2 x hxa x (by simp [tick_mem hx]) rfl

theorem quiet_of_absent (cap : Nat) {k : α} {ops : List (Op α)} (ho : ∀ op ∈ ops, ¬ touches k op)
    {q : Queue α} (h : k ∉ keys q) : firings cap k q ops = [] ∧ overtakings cap k q ops = 0 := by
  induction ops generalizing q with
  | nil => simp [firings, overtakings]
  | cons op ops ih =>
    have hs := absent_step cap h (ho op (by simp))
    obtain ⟨hf, hz⟩ := ih (fun o hm => ho o (by simp [hm])) hs
    by_cases hop : op = .tick
    · subst hop
      have hn : (tick q).1 ≠ some k := fun hc => h (tick_mem hc)
      rw [step] at hf hz
      simp [firings, overtakings, hn, hf, hz, overtaken, h]
    · obtain ⟨_, ho', hf'⟩ := between_ticks cap hop k q ops
      exact ⟨hf'.trans hf, ho'.trans hz⟩

theorem map_ordinal {x y : Nat} (T : Nat) (h : y = x + 1) :
    (if x ≤ T then [x] else []).map (· + 1) = if y ≤ T + 1 then [y] else [] := by
  subst h
  by_cases hx : x ≤ T <;> simp [hx]

theorem firings_eq (cap : Nat) {k : α} {ops : List (Op α)} (ho : ∀ op ∈ ops, ¬ touches k op)
    {n : Nat} (hn : 1 ≤ n) {a b : Queue α} (hd : (keys (a ++ ⟨k, (n : Int)⟩ :: b)).Nodup) :
    firings cap k (a ++ ⟨k, n⟩ :: b) ops =
      (if n + overtakings cap k (a ++ ⟨k, n⟩ :: b) ops ≤ ticks ops
        then [n + overtakings cap k (a ++ ⟨k, n⟩ :: b) ops] else []) ∧
    overtakings cap k (a ++ ⟨k, n⟩ :: b) ops ≤ a.length := by
  induction ops generalizing n a b with
  | nil => simp [firings, overtakings, ticks]; omega
  | cons op ops ih =>
    have hrest : ∀ o ∈ ops, ¬ touches k o := fun o hm => ho o (by simp [hm])
    have hnd := step_keys_nodup cap hd op
    have hka := not_mem_left hd
    by_cases hop : op = .tick
    · subst hop
      cases ha : (tick a).1 with
      | some k' =>
        have hlen := tick_length_of_some ha
        have hov : overtaken k (a ++ ⟨k, (n : Int)⟩ :: b) = true := by
          simp [overtaken_split hka, ha]
        have hk' : k' ≠ k := fun hc => hka (hc ▸ tick_mem ha)
        rw [step, tick_overtaken ha] at hnd
        obtain ⟨hf, hb⟩ := ih hrest hn hnd
        simp only [firings, overtakings, ticks, hov, tick_overtaken ha, hf, Option.some.injEq, hk',
          if_true, if_false, List.nil_append]
        exact ⟨map_ordinal _ (by omega), by omega⟩
      | none =>
        have hov (m : Int) : overtaken k (a ++ ⟨k, m⟩ :: b) = false := by
          simp [overtaken_split hka, ha]
        have hlen := tick_length_of_none ha
        by_cases h1 : n = 1
        · subst h1
          have ht := tick_waiting (k := k) (n := 1) (b := b) ha
          rw [if_pos rfl] at ht
          have habs : k ∉ keys ((tick a).2 ++ b) := by
            simp only [keys_append, List.mem_append, not_or]
            exact ⟨fun hc => hka ((tick_keys_sublist a).subset hc), not_mem_right hd⟩
          obtain ⟨hf, hz⟩ := quiet_of_absent cap hrest habs
          simp [firings, overtakings, ticks, hov, ht, hf, hz]
        · obtain ⟨m, rfl⟩ : ∃ m, n = m + 1 := ⟨n - 1, by omega⟩
          have hne : ((m + 1 : Nat) : Int) ≠ 1 := by omega
          have hcd : countDown ((m + 1 : Nat) : Int) = (m : Int) := by
            simp only [countDown]
            split_ifs <;> omega
          have ht := tick_waiting (k := k) (n := ((m + 1 : Nat) : Int)) (b := b) ha
          rw [if_neg hne, hcd] at ht
          have hkb : (tick b).1 ≠ some k := fun hc => not_mem_right hd (tick_mem hc)
          rw [step, ht] at hnd
          obtain ⟨hf, hb⟩ := ih hrest (by omega : 1 ≤ m) hnd
          simp only [firings, overtakings, ticks, hov, ht, hf, hkb, if_false, List.nil_append,
            Bool.false_eq_true, Nat.zero_add]
          exact ⟨map_ordinal _ (by omega), by omega⟩
    · obtain ⟨a', b', hq, hlen⟩ := waiting_step cap (n := (n : Int)) (a := a) (b := b)
        (ho op (by simp)) hop
      rw [hq] at hnd
      obtain ⟨hf, hb⟩ := ih hrest hn hnd
      have hb' := hb.trans hlen
      rw [← hq] at hf hb'
      obtain ⟨ht', ho', hf'⟩ := between_ticks cap hop k (a ++ ⟨k, (n : Int)⟩ :: b) ops
      rw [ht', ho', hf']
      exact ⟨hf, hb'⟩

theorem never_fires (cap : Nat) {k : α} {ops : List (Op α)} (ho : ∀ op ∈ ops, ¬ touches k op)
    {n : Int} (hn : n ≤ 0) {a b : Queue α} (hd : (keys (a ++ ⟨k, n⟩ :: b)).Nodup) :
    firings cap k (a ++ ⟨k, n⟩ :: b) ops = [] := by
  induction ops generalizing a b with
  | nil => rfl
  | cons op ops ih =>
    have hrest : ∀ o ∈ ops, ¬ touches k o := fun o hm => ho o (by simp [hm])
    have hnd := step_keys_nodup cap hd op
    by_cases hop : op = .tick
    · subst hop
      cases ha : (tick a).1 with
      | some k' =>
        have hk' : k' ≠ k := fun hc => not_mem_left hd (hc ▸ tick_mem ha)
        rw [step, tick_overtaken ha] at hnd
        simp only [firings, tick_overtaken ha, Option.some.injEq, hk', if_false, ih hrest hnd,
          List.map_nil, List.append_nil]
      | none =>
        have hcd : countDown n = n := if_neg (by omega)
        have ht := tick_waiting (k := k) (n := n) (b := b) ha
        rw [if_neg (by omega), hcd] at ht
        have hkb : (tick b).1 ≠ some k := fun hc => not_mem_right hd (tick_mem hc)
        rw [step, ht] at hnd
        simp only [firings, ht, hkb, if_false, ih hrest hnd, List.map_nil, List.append_nil]
    · obtain ⟨a', b', hq, _⟩ := waiting_step cap (n := n) (a := a) (b := b) (ho op (by simp)) hop
      rw [hq] at hnd
      rw [(between_ticks cap hop k _ ops).2.2, hq]
      exact ih hrest hnd

theorem absent_exec (cap : Nat) {k : α} {ops : List (Op α)} (ho : ∀ op ∈ ops, ¬ touches k op)
    {q : Queue α} (h : k ∉ keys q) : k ∉ keys (Run.exec (step cap) q ops) := by
  induction ops generalizing q with
  | nil => exact h
  | cons op ops ih =>
    exact ih (fun o hm => ho o (by simp [hm])) (absent_step cap h (ho op (by simp)))

theorem fired_absent (cap : Nat) {k : α} {ops : List (Op α)} (ho : ∀ op ∈ ops, ¬ touches k op)
    {q : Queue α} (h : (keys q).Nodup) (hf : firings cap k q ops ≠ []) :
    k ∉ keys (Run.exec (step cap) q ops) := by
  induction ops generalizing q with
  | nil => exact absurd rfl hf
  | cons op ops ih =>
    have hrest : ∀ o ∈ ops, ¬ touches k o := fun o hm => ho o (by simp [hm])
    have hnd := step_keys_nodup cap h op
    by_cases hop : op = .tick
    · subst hop
      by_cases hk : (tick q).1 = some k
      · exact absent_exec cap hrest (tick_absent h hk)
      · simp only [firings, if_neg hk, List.nil_append, ne_eq, List.map_eq_nil_iff] at hf
        exact ih hrest hnd hf
    · rw [(between_ticks cap hop k q ops).2.2] at hf
      exact ih hrest hnd hf

end TimerQueue
