import Mathlib.Data.List.DropRight
import IrisFirmware.Library.CText

namespace CText

def lastLine (text : List Char) : List Char :=
  text.dropLast.rtakeWhile (· ≠ '\n') ++ text.getLast?.toList

def lastPiece (n : Nat) (text : List Char) : List Char :=
  (lastLine text).drop (n * (((lastLine text).length - 1) / n))

theorem fgets_append (n : Nat) (text : List Char) :
    (fgets n text).1 ++ (fgets n text).2.1 = text := by
  induction n generalizing text with
  | zero => rfl
  | succ n ih =>
    cases text with
    | nil => rfl
    | cons c cs =>
      rw [fgets]
      split_ifs
      · rfl
      · exact congrArg (c :: ·) (ih cs)

theorem fgets_piece (n : Nat) (text : List Char) :
    (fgets n text).1.length ≤ n ∧ '\n' ∉ (fgets n text).1.dropLast ∧
      ((fgets n text).2.1 = [] ∨ (fgets n text).1.getLast? = some '\n' ∨
        (fgets n text).1.length = n) := by
  induction n generalizing text with
  | zero => exact ⟨le_rfl, List.not_mem_nil, .inr (.inr rfl)⟩
  | succ n ih =>
    cases text with
    | nil => exact ⟨Nat.zero_le _, List.not_mem_nil, .inl rfl⟩
    | cons c cs =>
      rw [fgets]
      split_ifs with hc
      · exact ⟨Nat.succ_le_succ (Nat.zero_le _), List.not_mem_nil, .inr (.inl (congrArg some hc))⟩
      · obtain ⟨hlength, hfree, hend⟩ := ih cs
        refine ⟨Nat.succ_le_succ hlength, ?_, ?_⟩
        · cases hp : (fgets n cs).1 with
          | nil => exact List.not_mem_nil
          | cons d ds =>
            rw [hp] at hfree
            rw [List.dropLast_cons_cons, List.mem_cons, not_or]
            exact ⟨Ne.symm hc, hfree⟩
        · rcases hend with hrest | hnewline | hfull
          · exact .inl hrest
          · refine .inr (.inl ?_)
            rw [List.getLast?_cons, hnewline]
            rfl
          · exact .inr (.inr (congrArg (· + 1) hfull))

theorem fgets_eq_nil {n : Nat} {text : List Char} (h : (fgets (n + 1) text).1 = []) :
    text = [] := by
  cases text with
  | nil => rfl
  | cons c cs =>
    rw [fgets] at h
    split_ifs at h

theorem dropLast_getLast (text : List Char) : text.dropLast ++ text.getLast?.toList = text := by
  cases text using List.reverseRecOn with
  | nil => rfl
  | append_singleton cs c => simp

theorem rtakeWhile_free {s : List Char} (h : '\n' ∉ s) (p : List Char) :
    (p ++ s).rtakeWhile (· ≠ '\n') = p.rtakeWhile (· ≠ '\n') ++ s := by
  have hs : ∀ c ∈ s.reverse, decide (c ≠ '\n') = true := all_ne (by simpa using h)
  rw [List.rtakeWhile, List.reverse_append, List.takeWhile_append_of_pos hs, List.reverse_append,
    List.reverse_reverse, List.rtakeWhile]

theorem rtakeWhile_newline {s : List Char} (h : '\n' ∈ s) (p : List Char) :
    (p ++ s).rtakeWhile (· ≠ '\n') = s.rtakeWhile (· ≠ '\n') := by
  obtain ⟨l, rest, hs, hl⟩ := List.eq_append_cons_of_mem (List.mem_reverse.mpr h)
  have hstop : ∀ t : List Char, (l ++ '\n' :: t).takeWhile (· ≠ '\n') = l := fun t => by
    rw [List.takeWhile_append_of_pos (all_ne hl), List.takeWhile_cons_of_neg (by simp),
      List.append_nil]
  rw [List.rtakeWhile, List.rtakeWhile, List.reverse_append, hs, List.append_assoc,
    List.cons_append, hstop, hstop]

theorem lastLine_append {text : List Char} (h : text ≠ []) (p : List Char) :
    lastLine (p ++ text) =
      if '\n' ∈ text.dropLast then lastLine text else p.rtakeWhile (· ≠ '\n') ++ text := by
  rw [lastLine, lastLine, List.dropLast_append_of_ne_nil h, List.getLast?_append_of_ne_nil _ h]
  split_ifs with hnewline
  · rw [rtakeWhile_newline hnewline]
  · rw [rtakeWhile_free hnewline, List.append_assoc, dropLast_getLast]

theorem lastLine_self {text : List Char} (h : '\n' ∉ text.dropLast) : lastLine text = text := by
  have hfree := rtakeWhile_free h []
  rw [List.nil_append, List.rtakeWhile_nil, List.nil_append] at hfree
  rw [lastLine, hfree, dropLast_getLast]

theorem lastPiece_self {n : Nat} {text : List Char} (hfree : '\n' ∉ text.dropLast)
    (hlength : text.length ≤ n) : lastPiece n text = text := by
  rw [lastPiece, lastLine_self hfree]
  rcases Nat.eq_zero_or_pos text.length with hzero | hpos
  · rw [List.length_eq_zero_iff.mp hzero, List.drop_nil]
  · rw [Nat.div_eq_of_lt (by omega), Nat.mul_zero, List.drop_zero]

theorem lastPiece_length {n : Nat} (hn : 0 < n) (text : List Char) :
    (lastPiece n text).length ≤ n := by
  have hdiv := Nat.div_add_mod ((lastLine text).length - 1) n
  have hmod := Nat.mod_lt ((lastLine text).length - 1) hn
  rw [lastPiece, List.length_drop]
  omega

theorem lastPiece_append {n : Nat} (hn : 0 < n) {text p : List Char} (h : text ≠ [])
    (hfree : '\n' ∉ p.dropLast) (hend : p.getLast? = some '\n' ∨ p.length = n) :
    lastPiece n (p ++ text) = lastPiece n text := by
  by_cases hline : lastLine (p ++ text) = lastLine text
  case pos => rw [lastPiece, lastPiece, hline]
  case neg =>
    rw [lastLine_append h] at hline
    have hnone : '\n' ∉ text.dropLast := fun hin => hline (if_pos hin)
    have hlast : p.getLast? ≠ some '\n' := by
      intro hlast
      obtain ⟨l, rfl⟩ := List.getLast?_eq_some_iff.mp hlast
      rw [if_neg hnone, List.rtakeWhile_concat_neg _ _ _ (by simp), lastLine_self hnone] at hline
      exact hline rfl
    have hp : '\n' ∉ p := by
      rw [← dropLast_getLast p, List.mem_append, not_or]
      exact ⟨hfree, by simpa using hlast⟩
    have hself : p.rtakeWhile (· ≠ '\n') = p := List.rtakeWhile_eq_self_iff.mpr (all_ne hp)
    have hfull : p.length = n := hend.resolve_left hlast
    have hpos : 0 < text.length := List.length_pos_iff.mpr h
    have hpieces : (n + text.length - 1) / n = (text.length - 1) / n + 1 := by
      rw [show n + text.length - 1 = text.length - 1 + n by omega, Nat.add_div_right _ hn]
    rw [lastPiece, lastPiece, lastLine_append h, if_neg hnone, lastLine_self hnone, hself,
      List.length_append, hfull, hpieces, Nat.mul_add, Nat.mul_one, Nat.add_comm, ← hfull,
      List.drop_append]
    simp

theorem lastPiece_fgets {n : Nat} (hn : 0 < n) (text : List Char) :
    lastPiece n text =
      if (fgets n text).2.1 = [] then (fgets n text).1 else lastPiece n (fgets n text).2.1 := by
  obtain ⟨hlength, hfree, hend⟩ := fgets_piece n text
  have hsplit := fgets_append n text
  split_ifs with hrest
  · rw [hrest, List.append_nil] at hsplit
    rw [hsplit] at hlength hfree
    rw [lastPiece_self hfree hlength, hsplit]
  · rw [← lastPiece_append hn hrest hfree (hend.resolve_left hrest), hsplit]

end CText
