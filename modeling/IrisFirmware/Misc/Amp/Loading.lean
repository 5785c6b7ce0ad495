import IrisFirmware.Misc.Amp.Config

namespace PegaAmp

open CText Loop

def short (line : List Char) : Prop := line.length < audparSize - 1 ∧ '\x00' ∉ line

def shortLines (ls : List (List Char)) : Prop :=
  ∀ l ∈ ls.takeWhile (· ≠ endWord), short l

-- what is parsed when fgets meets the end: a cut last line, or the buffer of the turn before
def atEnd (stale : Option (List Char)) (tail : List Char) : Option (List Char) :=
  if tail = [] then stale.map List.dropLast else some tail.dropLast

def loadsFrom (u8Reg : Nat) (stale : Option (List Char)) : List (List Char) → Prop
  | [] => False
  | [tail] => ∃ audpar, atEnd stale tail = some audpar ∧ wellFormed audpar ∧
      (denote u8Reg audpar).2 = (denote u8Reg tail).2
  | l :: ls => l = endWord ∨
      wellFormed l ∧ loadsFrom (denote u8Reg l).1 (some (leftover l)) ls

theorem loadsFrom_cons (u8Reg : Nat) (stale : Option (List Char)) (l m : List Char)
    (ms : List (List Char)) :
    loadsFrom u8Reg stale (l :: m :: ms) ↔
      l = endWord ∨ wellFormed l ∧ loadsFrom (denote u8Reg l).1 (some (leftover l)) (m :: ms) :=
  Iff.rfl

theorem short_endWord : short endWord := by
  unfold short
  decide

theorem shortLines_cons {l : List Char} {ls : List (List Char)} (h : shortLines (l :: ls)) :
    short l ∧ (l ≠ endWord → shortLines ls) := by
  rcases eq_or_ne l endWord with rfl | hl
  · exact ⟨short_endWord, fun hne => absurd rfl hne⟩
  · have hcons : (l :: ls).takeWhile (· ≠ endWord) = l :: ls.takeWhile (· ≠ endWord) :=
      List.takeWhile_cons_of_pos (by simpa using hl)
    rw [shortLines, hcons] at h
    exact ⟨h l (by simp), fun _ m hm => h m (List.mem_cons_of_mem l hm)⟩

theorem leftover_subset (l : List Char) : ∀ c ∈ leftover l, c ∈ l := by
  intro c hc
  rcases List.mem_append.mp hc with h | h
  · exact List.takeWhile_subset _ h
  · exact List.dropWhile_subset _ (List.takeWhile_subset _ h)

theorem denote_endWord (u8Reg : Nat) : (denote u8Reg endWord).2 = [] := rfl

theorem wellFormed_endWord : wellFormed endWord := (command_isSome_iff 0 endWord).mp rfl

theorem ends_returned {s : Load} {ws : List (Nat × Nat)} {e : LoadExit}
    (h : loadStep s = .inr e) : Ends loadStep s (.returned ws) ↔ e = .returned ws := by
  rw [ends_iff, h]
  rfl

theorem ends_next {s t : Load} {e : LoadExit} (h : loadStep s = .inl t) :
    Ends loadStep s e ↔ Ends loadStep t e := by
  rw [ends_iff, h]
  rfl

section line

variable {l rest : List Char} {stale : Option (List Char)} {u8Reg : Nat}
  {ws : List (Nat × Nat)}

theorem loadStep_line (hl : '\n' ∉ l) (hs : short l) :
    loadStep ⟨l ++ '\n' :: rest, stale, u8Reg, ws⟩ =
      if l = endWord then .inr (.returned ws)
      else
        match parseRecord l u8Reg with
        | none => .inr (.nullToken ws)
        | some (reg, more) => .inl ⟨rest, some (leftover l), reg, ws ++ more⟩ := by
  have hcstr : cstr (l ++ ['\n']) = l ++ ['\n'] := cstr_of_not_mem (by simp [hs.2])
  rw [loadStep]
  simp only [fgets_line hl hs.1 rest]
  rw [if_neg (by simp)]
  simp only [hcstr, List.dropLast_concat]
  rw [if_neg (by simp)]
  rfl

theorem loadStep_end (hl : '\n' ∉ l) (hs : short l) {b : List Char}
    (hb : (if l = [] then stale else some l) = some b) (hnul : '\x00' ∉ b) (hne : b ≠ []) :
    loadStep ⟨l, stale, u8Reg, ws⟩ =
      if b.dropLast = endWord then .inr (.returned ws)
      else
        match parseRecord b.dropLast u8Reg with
        | none => .inr (.nullToken ws)
        | some (_, more) => .inr (.returned (ws ++ more)) := by
  rw [loadStep]
  simp only [fgets_tail hl hs.1, hb, cstr_of_not_mem hnul, if_neg hne]
  rfl

theorem denoted_single (u8Reg : Nat) (l : List Char) :
    denoted u8Reg [l] = (denote u8Reg l).2 := by
  rw [denoted]
  split_ifs with h
  · rw [h, denote_endWord]
  · rw [denoted, List.append_nil]

theorem end_iff (hl : '\n' ∉ l) (hs : short l) {b : List Char}
    (hb : (if l = [] then stale else some l) = some b) (hnul : '\x00' ∉ b) (hne : b ≠ []) :
    Ends loadStep ⟨l, stale, u8Reg, ws⟩ (.returned (ws ++ denoted u8Reg [l])) ↔
      wellFormed b.dropLast ∧ (denote u8Reg b.dropLast).2 = (denote u8Reg l).2 := by
  have hstep := @loadStep_end l stale u8Reg ws hl hs b hb hnul hne
  rw [denoted_single]
  rcases eq_or_ne b.dropLast endWord with he | he
  · rw [if_pos he] at hstep
    rw [ends_returned hstep, he, denote_endWord, LoadExit.returned.injEq, List.self_eq_append_right]
    exact ⟨fun h => ⟨wellFormed_endWord, h.symm⟩, fun h => h.2.symm⟩
  · rw [if_neg he] at hstep
    rcases Decidable.em (wellFormed b.dropLast) with hw | hw
    · rw [parseRecord_wellFormed hw] at hstep
      rw [ends_returned hstep]
      simp [hw]
    · rw [parseRecord_malformed hw] at hstep
      rw [ends_returned hstep]
      simp [hw]

theorem undefined_iff (hs : stale = none ∨ stale = some []) :
    ¬ Ends loadStep ⟨[], stale, u8Reg, ws⟩ (.returned (ws ++ denoted u8Reg [[]])) := by
  have hstep : loadStep ⟨[], stale, u8Reg, ws⟩ = .inr (.undefined ws) := by
    rcases hs with rfl | rfl <;> rfl
  rw [ends_returned hstep]
  simp

theorem tail_iff (hl : '\n' ∉ l) (hs : short l) (hstale : ∀ b ∈ stale, '\x00' ∉ b) :
    Ends loadStep ⟨l, stale, u8Reg, ws⟩ (.returned (ws ++ denoted u8Reg [l])) ↔
      loadsFrom u8Reg stale [l] := by
  rw [loadsFrom, atEnd]
  rcases eq_or_ne l [] with rfl | hne
  · rw [if_pos rfl]
    rcases stale with _ | _ | ⟨c, cs⟩
    · simp [undefined_iff]
    · simp [undefined_iff, wellFormed, words]
    · rw [end_iff hl hs (if_pos rfl) (hstale _ rfl) (by simp)]
      simp
  · rw [if_neg hne, end_iff hl hs (if_neg hne) hs.2 hne]
    simp

theorem line_iff {ls : List (List Char)} (hl : '\n' ∉ l) (hs : short l)
    (hrest : ∀ s reg more, (∀ b ∈ s, '\x00' ∉ b) → l ≠ endWord →
      (Ends loadStep ⟨rest, s, reg, more⟩ (.returned (more ++ denoted reg ls)) ↔
        loadsFrom reg s ls)) (hls : ls ≠ []) :
    Ends loadStep ⟨l ++ '\n' :: rest, stale, u8Reg, ws⟩
        (.returned (ws ++ denoted u8Reg (l :: ls))) ↔ loadsFrom u8Reg stale (l :: ls) := by
  obtain ⟨m, ms, rfl⟩ := List.exists_cons_of_ne_nil hls
  have hstep := @loadStep_line l rest stale u8Reg ws hl hs
  rw [denoted, loadsFrom_cons]
  rcases eq_or_ne l endWord with he | he
  · rw [if_pos he] at hstep
    rw [ends_returned hstep, if_pos he]
    simp [he]
  · rw [if_neg he] at hstep
    rw [if_neg he]
    rcases Decidable.em (wellFormed l) with hw | hw
    · rw [parseRecord_wellFormed hw] at hstep
      rw [ends_next hstep, ← List.append_assoc]
      have hnul : ∀ b ∈ some (leftover l), '\x00' ∉ b := by
        intro b hb hmem
        have hbuf : leftover l = b := Option.mem_some.mp hb
        exact hs.2 (leftover_subset l _ (hbuf ▸ hmem))
      rw [hrest _ _ _ hnul he]
      simp [he, hw]
    · rw [parseRecord_malformed hw] at hstep
      rw [ends_returned hstep]
      simp [he, hw]

end line

theorem loads_from_iff (ls : List (List Char)) {text : List Char} (ht : lines text = ls)
    (hshort : shortLines ls) {stale : Option (List Char)} (hstale : ∀ b ∈ stale, '\x00' ∉ b)
    (u8Reg : Nat) (ws : List (Nat × Nat)) :
    Ends loadStep ⟨text, stale, u8Reg, ws⟩ (.returned (ws ++ denoted u8Reg ls)) ↔
      loadsFrom u8Reg stale ls := by
  induction ls generalizing text stale u8Reg ws with
  | nil => exact absurd ht (lines_ne_nil text)
  | cons l ls ih =>
    obtain ⟨hs, hmore⟩ := shortLines_cons hshort
    rcases line_or_tail text with hn | ⟨l', rest, hl, rfl⟩
    · rw [lines_tail hn] at ht
      obtain ⟨rfl, rfl⟩ := List.cons.inj ht
      exact tail_iff hn hs hstale
    · rw [lines_line hl] at ht
      obtain ⟨rfl, hls⟩ := List.cons.inj ht
      exact line_iff hl hs (fun s reg more hst hne => ih hls (hmore hne) hst reg more)
        (hls ▸ lines_ne_nil rest)

def loadable (text : List Char) : Prop :=
  shortLines (lines text) ∧ loadsFrom 0 none (lines text)

theorem loads_iff {text : List Char} (h : shortLines (lines text)) :
    Loads text ↔ loadsFrom 0 none (lines text) := by
  have hnone : ∀ b ∈ (none : Option (List Char)), '\x00' ∉ b := fun b hb => by cases hb
  have hrun := loads_from_iff (lines text) rfl h hnone 0 []
  rwa [List.nil_append] at hrun

theorem loads_of_loadable {text : List Char} (h : loadable text) : Loads text :=
  (loads_iff h.1).mpr h.2

theorem config_loads (text : List Char) :
    (loadable text → Loads text) ∧ (shortLines (lines text) → Loads text → loadable text) :=
  ⟨loads_of_loadable, fun hs h => ⟨hs, (loads_iff hs).mp h⟩⟩

def amplifierText : List Char := "w 98 02 0f\n> 10\nd 10\nend\n".toList

theorem amplifierText_loads : Loads amplifierText := by
  have hlines : lines amplifierText = ["w 98 02 0f".toList, "> 10".toList, "d 10".toList, endWord,
      []] := by decide +kernel
  have hshort : shortLines (lines amplifierText) := by
    rw [hlines, shortLines]
    unfold short
    decide +kernel
  have hfrom : loadsFrom 0 none (lines amplifierText) := by
    rw [hlines]
    exact .inr ⟨by decide +kernel, .inr ⟨by decide +kernel, .inr ⟨by decide +kernel, .inl rfl⟩⟩⟩
  exact (config_loads amplifierText).1 ⟨hshort, hfrom⟩

example : denoted 0 (lines amplifierText) = [(2, 15), (3, 16)] := by decide +kernel

theorem blank_line_faults : ¬ Loads "w 98 00 00\n\nw 98 7f 00\nend\n".toList := by
  intro h
  have hend : run loadStep 5 (loadStart "w 98 00 00\n\nw 98 7f 00\nend\n".toList) =
      some (.nullToken [(0, 0)]) := by decide +kernel
  cases h.unique (ends_of_run hend)

end PegaAmp
