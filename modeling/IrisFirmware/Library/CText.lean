import Mathlib.Data.List.TakeWhile
import Mathlib.Tactic

namespace CText

def cstr (buf : List Char) : List Char := buf.takeWhile (· ≠ '\x00')

def fgets : Nat → List Char → List Char × List Char × Bool
  | 0, rest => ([], rest, false)
  | _ + 1, [] => ([], [], true)
  | n + 1, c :: cs =>
    if c = '\n' then ([c], cs, false)
    else ((c :: (fgets n cs).1), (fgets n cs).2)

def strtok (s : List Char) : Option (List Char × List Char) :=
  match s.dropWhile (· = ' ') with
  | [] => none
  | c :: cs => some ((c :: cs).takeWhile (· ≠ ' '), ((c :: cs).dropWhile (· ≠ ' ')).tail)

def digitVal (c : Char) : Option Nat :=
  if '0' ≤ c ∧ c ≤ '9' then some (c.toNat - '0'.toNat)
  else if 'a' ≤ c ∧ c ≤ 'f' then some (c.toNat - 'a'.toNat + 10)
  else if 'A' ≤ c ∧ c ≤ 'F' then some (c.toNat - 'A'.toNat + 10)
  else none

def hexDigits : Nat → List Char → Nat
  | acc, [] => acc
  | acc, c :: cs =>
    match digitVal c with
    | none => acc
    | some d => hexDigits (acc * 16 + d) cs

def isSpace (c : Char) : Bool := c = ' ' || ('\t' ≤ c && c ≤ '\r')

def skipHexMark : List Char → List Char
  | '0' :: x :: d :: cs =>
    if (x = 'x' ∨ x = 'X') ∧ (digitVal d).isSome then d :: cs else '0' :: x :: d :: cs
  | s => s

def longMax : Int := 2 ^ 63 - 1

-- the base is 16
def strtol (s : List Char) : Int :=
  match s.dropWhile isSpace with
  | '-' :: cs => max (-longMax - 1) (-(hexDigits 0 (skipHexMark cs) : Int))
  | '+' :: cs => min longMax (hexDigits 0 (skipHexMark cs))
  | cs => min longMax (hexDigits 0 (skipHexMark cs))

def words (s : List Char) : List (List Char) := (s.splitOn ' ').filter (· ≠ [])

def lines (text : List Char) : List (List Char) := text.splitOn '\n'

theorem fgets_line {l : List Char} (hl : '\n' ∉ l) {n : Nat} (hn : l.length < n)
    (rest : List Char) : fgets n (l ++ '\n' :: rest) = (l ++ ['\n'], rest, false) := by
  induction l generalizing n with
  | nil =>
    obtain ⟨m, rfl⟩ := Nat.exists_eq_succ_of_ne_zero (Nat.pos_iff_ne_zero.mp hn)
    rfl
  | cons c cs ih =>
    obtain ⟨m, rfl⟩ := Nat.exists_eq_succ_of_ne_zero (Nat.ne_of_gt (Nat.zero_lt_of_lt hn))
    rw [List.mem_cons, not_or] at hl
    rw [List.cons_append, fgets, if_neg (Ne.symm hl.1), ih hl.2 (Nat.lt_of_succ_lt_succ hn)]
    rfl

theorem fgets_tail {l : List Char} (hl : '\n' ∉ l) {n : Nat} (hn : l.length < n) :
    fgets n l = (l, [], true) := by
  induction l generalizing n with
  | nil =>
    obtain ⟨m, rfl⟩ := Nat.exists_eq_succ_of_ne_zero (Nat.pos_iff_ne_zero.mp hn)
    rfl
  | cons c cs ih =>
    obtain ⟨m, rfl⟩ := Nat.exists_eq_succ_of_ne_zero (Nat.ne_of_gt (Nat.zero_lt_of_lt hn))
    rw [List.mem_cons, not_or] at hl
    rw [fgets, if_neg (Ne.symm hl.1), ih hl.2 (Nat.lt_of_succ_lt_succ hn)]

theorem fgets_shorter {n : Nat} {text : List Char} (h : (fgets (n + 1) text).2.2 = false) :
    (fgets (n + 1) text).2.1.length < text.length := by
  induction n generalizing text with
  | zero =>
    cases text with
    | nil => cases h
    | cons c cs =>
      rw [fgets]
      split_ifs <;> exact Nat.lt_succ_self _
  | succ n ih =>
    cases text with
    | nil => cases h
    | cons c cs =>
      rw [fgets] at h ⊢
      split_ifs at h ⊢ with hc
      · exact Nat.lt_succ_self _
      · exact Nat.lt_succ_of_lt (ih h)

theorem all_ne {a : Char} {s : List Char} (h : a ∉ s) : ∀ c ∈ s, decide (c ≠ a) = true :=
  fun _ hc => decide_eq_true fun he => h (he ▸ hc)

theorem cstr_of_not_mem {s : List Char} (h : '\x00' ∉ s) : cstr s = s :=
  List.takeWhile_eq_self_iff.mpr (all_ne h)

theorem lines_tail {l : List Char} (hl : '\n' ∉ l) : lines l = [l] := List.splitOn_eq_singleton hl

theorem lines_line {l : List Char} (hl : '\n' ∉ l) (rest : List Char) :
    lines (l ++ '\n' :: rest) = l :: lines rest := List.splitOn_append_cons_self_of_not_mem hl rest

theorem lines_ne_nil (text : List Char) : lines text ≠ [] := List.splitOn_ne_nil _ _

theorem line_or_tail (text : List Char) :
    '\n' ∉ text ∨ ∃ l rest, '\n' ∉ l ∧ text = l ++ '\n' :: rest := by
  rcases Decidable.em ('\n' ∈ text) with h | h
  · obtain ⟨l, rest, rfl, hl⟩ := List.eq_append_cons_of_mem h
    exact .inr ⟨l, rest, hl, rfl⟩
  · exact .inl h

theorem words_space (s : List Char) : words (' ' :: s) = words s := by
  simp [words, List.splitOn_cons_eq_if_modifyHead]

theorem words_dropWhile (s : List Char) : words (s.dropWhile (· = ' ')) = words s := by
  induction s with
  | nil => rfl
  | cons c cs ih =>
    rcases eq_or_ne c ' ' with rfl | hc
    · rw [List.dropWhile_cons_of_pos (by simp), ih, words_space]
    · rw [List.dropWhile_cons_of_neg (by simpa using hc)]

theorem words_first {w : List Char} (hw : w ≠ []) (hs : ' ' ∉ w) :
    words w = [w] ∧ ∀ rest, words (w ++ ' ' :: rest) = w :: words rest := by
  constructor
  · simp [words, List.splitOn_eq_singleton hs, hw]
  · intro rest
    simp [words, List.splitOn_append_cons_self_of_not_mem hs, hw]

theorem words_strtok (s : List Char) :
    words s = match strtok s with
      | none => []
      | some (tok, rest) => tok :: words rest := by
  rw [← words_dropWhile s, strtok]
  cases hd : s.dropWhile (· = ' ') with
  | nil => rfl
  | cons c cs =>
    have hc : c ≠ ' ' := by
      have hhead := List.head?_dropWhile_not (· = ' ') s
      rw [hd] at hhead
      simpa using hhead
    have htake : ' ' ∉ (c :: cs).takeWhile (· ≠ ' ') := fun hm => by
      simpa using List.mem_takeWhile_imp hm
    have hne : (c :: cs).takeWhile (· ≠ ' ') ≠ [] := by simp [hc]
    obtain ⟨hone, hmore⟩ := words_first hne htake
    have hsplit := List.takeWhile_append_dropWhile (p := (· ≠ ' ')) (l := c :: cs)
    cases hr : (c :: cs).dropWhile (· ≠ ' ') with
    | nil =>
      rw [hr, List.append_nil] at hsplit
      dsimp only
      rw [hr]
      exact (congrArg words hsplit).symm.trans hone
    | cons d ds =>
      have hdspace : d = ' ' := by
        have hhead := List.head?_dropWhile_not (· ≠ ' ') (c :: cs)
        rw [hr] at hhead
        simpa using hhead
      dsimp only
      rw [hr]
      rw [hr, hdspace] at hsplit
      exact (congrArg words hsplit).symm.trans (hmore ds)

end CText
