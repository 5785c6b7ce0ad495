import IrisFirmware.Library.LastLine
import IrisFirmware.Library.Loop

namespace PegaDiagWifi

open CText Loop

abbrev buffSize : Nat := 100

structure Collect where
  pipe : List Char
  buff : List Char

-- fgets given pSize - 1 reads one character less
abbrev pieceSize : Nat := buffSize - 2

def collectStep (s : Collect) : Collect ⊕ List Char :=
  let r := fgets pieceSize s.pipe
  if r.1 = [] then .inr s.buff
  else .inl ⟨r.2.1, r.1 ++ '\x00' :: s.buff.drop (r.1.length + 1)⟩

def collectStart (text : List Char) : Collect := ⟨text, List.replicate buffSize '\x00'⟩

theorem collect_ends (text : List Char) :
    (run collectStep (text.length + 1) (collectStart text)).isSome := by
  refine run_isSome (m := fun s => s.pipe.length) (fun s t hs => ?_) (Nat.lt_succ_self _)
  have hsplit := congrArg List.length (fgets_append pieceSize s.pipe)
  rw [List.length_append] at hsplit
  rw [collectStep] at hs
  split_ifs at hs with hread
  obtain rfl := Sum.inl.inj hs
  have hpos : 0 < (fgets pieceSize s.pipe).1.length := List.length_pos_iff.mpr hread
  dsimp only
  omega

def stringBuffGet (output : Option (List Char)) : Int × List Char :=
  match output with
  | none => (-1, List.replicate buffSize '\x00')
  | some text =>
    (0, (run collectStep (text.length + 1) (collectStart text)).get (collect_ends text))

-- strlen(buff) - 2, a size_t
def copyLength (buff : List Char) : Nat := (((cstr buff).length - 2 : Int) % 2 ^ 64).toNat

-- the text printed, none where memcpy leaves its buffers
def wifiValueGet (cmd : String) (shell : String → Option (List Char)) : Int × Option (List Char) :=
  let (intResult, buff) := stringBuffGet (shell cmd)
  let n := copyLength buff
  if 1 + n ≤ buffSize then
    (intResult, some (cstr ((buff.drop 1).take n ++ List.replicate (buffSize - n) '\x00')))
  else (intResult, none)

def ssidCommand : String :=
  "A=`cat /config/nxp/wpa.conf | grep ssid | cut -d'=' -f2`;echo -n $A"

def passCommand : String :=
  "A=`cat /config/nxp/wpa.conf | grep psk | cut -d'=' -f2`;echo -n $A"

def wifiSsidGet (shell : String → Option (List Char)) : Int × Option (List Char) :=
  wifiValueGet ssidCommand shell

def wifiPassGet (shell : String → Option (List Char)) : Int × Option (List Char) :=
  wifiValueGet passCommand shell

def body (line : List Char) : List Char :=
  if line.getLast? = some '\n' then line.dropLast else line

structure Extracts (output : Option (List Char)) (printed : Option (List Char)) : Prop where
  enough : 2 ≤ (cstr (stringBuffGet output).2).length
  fits : copyLength (stringBuffGet output).2 ≤ buffSize
  quoted : ∀ text t, output = some text → (lastLine text).length ≤ pieceSize →
    body (lastLine text) = '"' :: t ++ ['"'] → printed = some t

def Extractable (output : Option (List Char)) : Prop :=
  ∃ text, output = some text ∧ 2 ≤ (cstr (lastPiece pieceSize text)).length ∧
    ∀ t, (lastLine text).length ≤ pieceSize → body (lastLine text) = '"' :: t ++ ['"'] →
      text.getLast? ≠ some '\n' ∧ '\x00' ∉ t

theorem cstr_terminated (s rest : List Char) : cstr (s ++ '\x00' :: rest) = cstr s := by
  induction s with
  | nil => rfl
  | cons c cs ih =>
    rw [List.cons_append, cstr, List.takeWhile_cons, cstr, List.takeWhile_cons, ← cstr, ← cstr, ih]

theorem not_mem_cstr (s : List Char) : '\x00' ∉ cstr s := fun h => by
  simpa using List.mem_takeWhile_imp h

theorem collected {s : Collect} {out : List Char} (h : Ends collectStep s out) :
    cstr out = if s.pipe = [] then cstr s.buff else cstr (lastPiece pieceSize s.pipe) := by
  induction h with
  | @exit s out hs =>
    rw [collectStep] at hs
    split_ifs at hs with hread
    rw [if_pos (fgets_eq_nil hread), Sum.inr.inj hs]
  | @next s t out hs _ ih =>
    rw [collectStep] at hs
    split_ifs at hs with hread
    obtain rfl := Sum.inl.inj hs
    have hpipe : s.pipe ≠ [] := fun hnil => hread (by rw [hnil]; rfl)
    rw [if_neg hpipe, lastPiece_fgets (by decide), ih, cstr_terminated]
    split_ifs <;> rfl

theorem stringBuffGet_text (text : List Char) :
    cstr (stringBuffGet (some text)).2 = cstr (lastPiece pieceSize text) := by
  have hout := collected (ends_of_run (Option.some_get (collect_ends text)).symm)
  rw [stringBuffGet, hout]
  split_ifs with hnil
  · rw [show text = [] from hnil]
    rfl
  · rfl

theorem stringBuffGet_length (output : Option (List Char)) :
    (cstr (stringBuffGet output).2).length ≤ pieceSize := by
  cases output with
  | none => exact Nat.zero_le _
  | some text =>
    rw [stringBuffGet_text]
    exact ((List.takeWhile_prefix _).length_le).trans (lastPiece_length (by decide) text)

theorem copyLength_eq {buff : List Char} (h : 2 ≤ (cstr buff).length)
    (hsize : (cstr buff).length ≤ 98) : copyLength buff = (cstr buff).length - 2 := by
  rw [copyLength, Int.emod_eq_of_lt (by omega) (by omega)]
  omega

theorem drop_take_cstr (buff : List Char) :
    (buff.drop 1).take ((cstr buff).length - 2) = (cstr buff).tail.dropLast := by
  obtain ⟨rest, hrest⟩ : cstr buff <+: buff := List.takeWhile_prefix _
  generalize cstr buff = text at hrest ⊢
  subst hrest
  cases text with
  | nil => rfl
  | cons c cs =>
    rw [List.cons_append, List.drop_succ_cons, List.drop_zero, List.tail_cons, List.length_cons,
      show cs.length + 1 - 2 = cs.length - 1 by omega,
      List.take_append_of_le_length (Nat.sub_le _ _), List.dropLast_eq_take]

theorem wifiValueGet_printed {cmd : String} {shell : String → Option (List Char)}
    (h : 2 ≤ (cstr (stringBuffGet (shell cmd)).2).length) :
    (wifiValueGet cmd shell).2 = some (cstr (stringBuffGet (shell cmd)).2).tail.dropLast := by
  have hsize : (cstr (stringBuffGet (shell cmd)).2).length ≤ 98 := stringBuffGet_length (shell cmd)
  have hbuff : buffSize = 100 := rfl
  have hfree : '\x00' ∉ (cstr (stringBuffGet (shell cmd)).2).tail.dropLast := fun hin =>
    not_mem_cstr _ (List.mem_of_mem_tail (List.mem_of_mem_dropLast hin))
  rw [wifiValueGet]
  dsimp only
  rw [copyLength_eq h hsize, if_pos (by omega), drop_take_cstr,
    show buffSize - ((cstr (stringBuffGet (shell cmd)).2).length - 2) =
      (buffSize - ((cstr (stringBuffGet (shell cmd)).2).length - 2) - 1) + 1 by omega,
    List.replicate_succ, cstr_terminated, cstr_of_not_mem hfree]

theorem lastPiece_fits {text : List Char} (h : (lastLine text).length ≤ pieceSize) :
    lastPiece pieceSize text = lastLine text := by
  have hpiece : 0 < pieceSize := by decide
  rcases Nat.eq_zero_or_pos (lastLine text).length with hzero | hpos
  · rw [lastPiece, List.length_eq_zero_iff.mp hzero, List.drop_nil]
  · rw [lastPiece, Nat.div_eq_of_lt (by omega), Nat.mul_zero, List.drop_zero]

theorem lastLine_getLast (text : List Char) : (lastLine text).getLast? = text.getLast? := by
  rw [lastLine]
  cases text using List.reverseRecOn with
  | nil => rfl
  | append_singleton cs c => simp

theorem quoted_printed {text t : List Char} (hfits : (lastLine text).length ≤ pieceSize)
    (hline : body (lastLine text) = '"' :: t ++ ['"']) :
    (cstr (lastPiece pieceSize text)).tail.dropLast = t ↔
      text.getLast? ≠ some '\n' ∧ '\x00' ∉ t := by
  rw [lastPiece_fits hfits]
  rw [body, lastLine_getLast] at hline
  by_cases hzero : '\x00' ∈ t
  case pos =>
    refine iff_of_false (fun ht => ?_) (fun h => h.2 hzero)
    rw [← ht] at hzero
    exact not_mem_cstr _ (List.mem_of_mem_tail (List.mem_of_mem_dropLast hzero))
  case neg =>
    have hquote : '\x00' ∉ '"' :: t ++ ['"'] := by simpa using hzero
    split_ifs at hline with hlast
    · refine iff_of_false (fun ht => ?_) (fun h => h.1 hlast)
      have hfull : lastLine text = '"' :: t ++ ['"', '\n'] := by
        rw [← dropLast_getLast (lastLine text), hline, lastLine_getLast, hlast]
        simp
      have hfree : '\x00' ∉ '"' :: t ++ ['"', '\n'] := by simpa using hzero
      rw [hfull, cstr_of_not_mem hfree] at ht
      have hlength := congrArg List.length ht
      simp at hlength
    · refine iff_of_true ?_ ⟨hlast, hzero⟩
      rw [hline, cstr_of_not_mem hquote]
      simp

theorem extracts_iff (cmd : String) (shell : String → Option (List Char)) :
    Extracts (shell cmd) (wifiValueGet cmd shell).2 ↔ Extractable (shell cmd) := by
  cases hshell : shell cmd with
  | none =>
    refine iff_of_false (fun h => ?_) (by rintro ⟨_, ⟨⟩, -⟩)
    exact absurd h.enough (by decide)
  | some text =>
    have hlength := stringBuffGet_length (shell cmd)
    have hprinted := @wifiValueGet_printed cmd shell
    rw [hshell, stringBuffGet_text] at hprinted hlength
    constructor
    · intro h
      have henough := h.enough
      rw [stringBuffGet_text] at henough
      refine ⟨text, rfl, henough, fun t hfits hline => (quoted_printed hfits hline).mp ?_⟩
      exact Option.some.inj ((hprinted henough).symm.trans (h.quoted text t rfl hfits hline))
    · rintro ⟨_, htext, henough, hquoted⟩
      obtain rfl := Option.some.inj htext
      refine ⟨by rwa [stringBuffGet_text], ?_, ?_⟩
      · rw [copyLength_eq (by rwa [stringBuffGet_text]) (by rwa [stringBuffGet_text]),
          stringBuffGet_text]
        exact (Nat.sub_le _ _).trans (hlength.trans (by decide))
      · rintro _ t htext hfits hline
        obtain rfl := Option.some.inj htext
        rw [hprinted henough, (quoted_printed hfits hline).mpr (hquoted t hfits hline)]

theorem wifi_values_extracted_iff (shell : String → Option (List Char)) :
    (Extracts (shell ssidCommand) (wifiSsidGet shell).2 ↔ Extractable (shell ssidCommand)) ∧
      (Extracts (shell passCommand) (wifiPassGet shell).2 ↔ Extractable (shell passCommand)) :=
  ⟨extracts_iff ssidCommand shell, extracts_iff passCommand shell⟩

theorem missing_file_underflows :
    ¬ ∀ shell, Extracts (shell ssidCommand) (wifiSsidGet shell).2 := by
  intro h
  have henough := (h fun _ => some []).enough
  rw [stringBuffGet_text] at henough
  exact absurd henough (by decide)

end PegaDiagWifi
