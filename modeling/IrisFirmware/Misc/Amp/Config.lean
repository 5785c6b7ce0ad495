import IrisFirmware.Library.CText
import IrisFirmware.Library.Loop

namespace PegaAmp

open CText Loop

abbrev audparSize : Nat := 60

def u8 (v : Int) : Nat := (v % 2 ^ 8).toNat

def hexByte (tok : List Char) : Nat := u8 (strtol tok)

def endWord : List Char := ['e', 'n', 'd']

structure Load where
  file : List Char
  audpar : Option (List Char)
  u8Reg : Nat
  writes : List (Nat × Nat)
deriving DecidableEq, Repr

inductive LoadExit where
  | undefined (writes : List (Nat × Nat))
  | nullToken (writes : List (Nat × Nat))
  | returned (writes : List (Nat × Nat))
deriving DecidableEq, Repr

-- strtok(NULL, delim) with no string left keeps answering NULL
def strtokNext (saved : List Char) : List Char := (strtok saved).elim [] Prod.snd

-- none where strcmp or strtol is given a NULL token
def parseRecord (audpar : List Char) (u8Reg : Nat) : Option (Nat × List (Nat × Nat)) :=
  match strtok audpar with
  | none => none
  | some (tok, saved) =>
    if tok = ['w'] then
      match strtok (strtokNext saved) with
      | none => none
      | some (reg, saved) =>
        match strtok saved with
        | none => none
        | some (val, _) => some (hexByte reg, [(hexByte reg, hexByte val)])
    else if tok = ['>'] then
      match strtok saved with
      | none => none
      | some (val, _) => some ((u8Reg + 1) % 2 ^ 8, [((u8Reg + 1) % 2 ^ 8, hexByte val)])
    else some (u8Reg, [])

-- strtok ends the buffer behind its first token
def leftover (audpar : List Char) : List Char :=
  audpar.takeWhile (· = ' ') ++ (audpar.dropWhile (· = ' ')).takeWhile (· ≠ ' ')

def loadStep (s : Load) : Load ⊕ LoadExit :=
  let r := fgets (audparSize - 1) s.file
  match if r.1 = [] then s.audpar else some r.1 with
  | none => .inr (.undefined s.writes)
  | some buf =>
    if cstr buf = [] then .inr (.undefined s.writes)
    else
      let audpar := (cstr buf).dropLast
      if audpar = endWord then .inr (.returned s.writes)
      else
        match parseRecord audpar s.u8Reg with
        | none => .inr (.nullToken s.writes)
        | some (reg, ws) =>
          if r.2.2 then .inr (.returned (s.writes ++ ws))
          else .inl ⟨r.2.1, some (leftover audpar), reg, s.writes ++ ws⟩

def loadStart (text : List Char) : Load := ⟨text, none, 0, []⟩

def command (u8Reg : Nat) : List (List Char) → Option (Nat × List (Nat × Nat))
  | [] => none
  | tok :: args =>
    if tok = ['w'] then
      match args with
      | _ :: reg :: val :: _ => some (hexByte reg, [(hexByte reg, hexByte val)])
      | _ => none
    else if tok = ['>'] then
      match args with
      | val :: _ => some ((u8Reg + 1) % 2 ^ 8, [((u8Reg + 1) % 2 ^ 8, hexByte val)])
      | [] => none
    else some (u8Reg, [])

def denote (u8Reg : Nat) (line : List Char) : Nat × List (Nat × Nat) :=
  (command u8Reg (words line)).getD (u8Reg, [])

def denoted : Nat → List (List Char) → List (Nat × Nat)
  | _, [] => []
  | u8Reg, l :: ls =>
    if l = endWord then []
    else (denote u8Reg l).2 ++ denoted (denote u8Reg l).1 ls

def Loads (text : List Char) : Prop :=
  Ends loadStep (loadStart text) (.returned (denoted 0 (lines text)))

def wellFormed (line : List Char) : Prop :=
  match words line with
  | [] => False
  | tok :: args => (tok = ['w'] → 3 ≤ args.length) ∧ (tok = ['>'] → 1 ≤ args.length)

theorem words_none {s : List Char} (h : strtok s = none) : words s = [] := by
  rw [words_strtok, h]

theorem words_some {s tok rest : List Char} (h : strtok s = some (tok, rest)) :
    words s = tok :: words rest := by
  rw [words_strtok, h]

theorem words_next (s : List Char) : words (strtokNext s) = (words s).tail := by
  rw [strtokNext]
  cases h : strtok s with
  | none =>
    rw [words_none h]
    rfl
  | some r =>
    rw [words_some h]
    rfl

theorem parseRecord_eq (line : List Char) (u8Reg : Nat) :
    parseRecord line u8Reg = command u8Reg (words line) := by
  unfold parseRecord
  cases h : strtok line with
  | none =>
    rw [words_none h]
    rfl
  | some r =>
    obtain ⟨tok, saved⟩ := r
    rw [words_some h]
    dsimp only [command]
    split_ifs with hw hn
    · have hargs := words_next saved
      cases hreg : strtok (strtokNext saved) with
      | none =>
        rw [words_none hreg] at hargs
        rcases hs : words saved with _ | ⟨dev, _ | ⟨reg, more⟩⟩
        · rfl
        · rfl
        · rw [hs] at hargs
          cases hargs
      | some r =>
        obtain ⟨reg, rest⟩ := r
        rw [words_some hreg] at hargs
        rcases hs : words saved with _ | ⟨dev, more⟩
        · rw [hs] at hargs
          cases hargs
        · rw [hs, List.tail_cons] at hargs
          subst hargs
          dsimp only
          cases hval : strtok rest with
          | none => rw [words_none hval]
          | some v => rw [words_some hval]
    · cases hval : strtok saved with
      | none => rw [words_none hval]
      | some v => rw [words_some hval]
    · rfl

theorem command_isSome_iff (u8Reg : Nat) (line : List Char) :
    (command u8Reg (words line)).isSome ↔ wellFormed line := by
  unfold wellFormed
  rcases words line with _ | ⟨tok, args⟩
  · simp [command]
  · rcases eq_or_ne tok ['w'] with rfl | hw
    · rcases args with _ | ⟨dev, _ | ⟨reg, _ | ⟨val, more⟩⟩⟩ <;> simp [command]
    · rcases eq_or_ne tok ['>'] with rfl | hn
      · rcases args with _ | ⟨val, more⟩ <;> simp [command]
      · simp [command, hw, hn]

instance (line : List Char) : Decidable (wellFormed line) :=
  decidable_of_iff _ (command_isSome_iff 0 line)

theorem parseRecord_wellFormed {line : List Char} (h : wellFormed line) (u8Reg : Nat) :
    parseRecord line u8Reg = some ((denote u8Reg line).1, (denote u8Reg line).2) := by
  obtain ⟨r, hr⟩ := Option.isSome_iff_exists.mp ((command_isSome_iff u8Reg line).mpr h)
  rw [parseRecord_eq, denote, hr]
  rfl

theorem parseRecord_malformed {line : List Char} (h : ¬ wellFormed line) (u8Reg : Nat) :
    parseRecord line u8Reg = none := by
  rw [parseRecord_eq]
  exact Option.not_isSome_iff_eq_none.mp (mt (command_isSome_iff u8Reg line).mp h)

theorem loadStep_shorter {s t : Load} (h : loadStep s = .inl t) :
    t.file.length < s.file.length := by
  unfold loadStep at h
  dsimp only at h
  split at h
  · cases h
  · split_ifs at h with _ _ heof
    · split at h
      · cases h
      · cases h
    · split at h
      · cases h
      · obtain rfl := Sum.inl.inj h
        exact fgets_shorter (Bool.eq_false_iff.mpr heof)

theorem load_ends (text : List Char) :
    (run loadStep (text.length + 1) (loadStart text)).isSome :=
  run_isSome (m := fun s => s.file.length) (fun _ _ => loadStep_shorter) (Nat.lt_succ_self _)

end PegaAmp
