import IrisFirmware.Diag.Dispatch
import IrisFirmware.Library.CNumber
import IrisFirmware.Library.Fallible
import IrisFirmware.Misc.Diag.Client

namespace PegaDiagCommand

open Loop Fallible

structure Argv where
  tokens : List String
  beyond : Nat → Option String
  pos : Nat

def Argv.cell (argv : Argv) (i : Nat) : Option String :=
  if argv.pos + i ≤ argv.tokens.length then argv.tokens[argv.pos + i]?
  else argv.beyond (argv.pos + i)

def Argv.next (argv : Argv) : Argv := { argv with pos := argv.pos + 1 }

-- the C floats: what atof reads, what printf writes for %f, and the floats of the integers
structure CFloat (F : Type) where
  atof : List Char → F
  fixed : F → String
  ofInt : Int → F

-- calidata is a request whose two float fields are set as well
inductive Act (F : Type) where
  | read (index : Nat)
  | system (command : String)
  | request (msg : PegaMiscDiag.DiagMsg)
  | calidata (msg : PegaMiscDiag.DiagMsg) (fval1 fval2 : F)

inductive Fault where
  | nullConverted
  | cmdOverrun
deriving DecidableEq, Repr

abbrev H (F α : Type) := EStateM Fault (List (Act F)) α

abbrev cmdSize : Nat := 64

section handlers

variable {F : Type} (C : CFloat F)

def act (a : Act F) : H F Unit := modify (· ++ [a])

def arg (argv : Argv) (i : Nat) : H F (Option String) := do
  act (.read (argv.pos + i))
  return argv.cell i

def converted {α : Type} (conv : List Char → α) : Option String → H F α
  | none => throw .nullConverted
  | some token => return conv token.toList

def atoi : Option String → H F Int := converted CText.atoi

def atof : Option String → H F F := converted C.atof

-- sprintf into char cmd[64], the NUL included
def sprintf (text : String) : H F String :=
  if text.length < cmdSize then return text else throw .cmdOverrun

def system (text : String) : H F Unit := do
  let cmd ← sprintf text
  act (.system cmd)

def intOr (argv : Argv) (i : Nat) (default : Int) : H F Int := do
  match ← arg argv i with
  | none => return default
  | some _ => atoi (← arg argv i)

def motorText (number : Nat) (speed time : Int) : String :=
  "pega_misc_dbg motor " ++ toString number ++ " " ++ toString speed ++ " " ++ toString time

def motorMove (number : Nat) (argv : Argv) : H F Int := do
  let speed ← intOr argv.next 0 3
  let time ← intOr argv.next 1 1000
  system (motorText number speed time)
  return 0

def motorTest (value : Nat) (_argv : Argv) : H F Int := do
  system ("pega_misc_dbg motor 1 " ++ toString value)
  return 0

def risingMotorTest : Argv → H F Int := motorTest 1
def risingMotorForward : Argv → H F Int := motorMove 14
def risingMotorReverse : Argv → H F Int := motorMove 13
def panMotorForward : Argv → H F Int := motorMove 12
def panMotorReverse : Argv → H F Int := motorMove 11
def panMotorTest : Argv → H F Int := motorTest 0

def calidataText (values : List F) : String :=
  values.foldl (fun text value => text ++ " " ++ C.fixed value)
    "sh /etc/pega/diag/als_calidata_write.sh"

def calibrate (argv : Argv) (i : Nat) (default : F) (text : F → String) : H F F := do
  match ← arg argv i with
  | none => return default
  | some _ => do
    let value ← atof C (← arg argv i)
    system (text value)
    return value

def alsCalidata (argv : Argv) : H F Int := do
  let gain ← calibrate C argv.next 0 (C.ofInt 0) fun gain => calidataText C [gain]
  let offset ← calibrate C argv.next 1 (C.ofInt (-1000)) fun offset => calidataText C [gain, offset]
  act (.calidata (PegaDiag.request PegaMiscDiag.diagCmdIdALSControl 5) gain offset)
  return 0

def pwmValueSet (msg : Int → PegaMiscDiag.DiagMsg) (argv : Argv) : H F Int := do
  act (.request (msg (← atoi (← arg argv.next 0))))
  return 0

def irLedPwmValueSet : Argv → H F Int := pwmValueSet PegaDiag.irLedPwmValueSet
def spotLedPwmValueSet : Argv → H F Int := pwmValueSet PegaDiag.spotLedPwmValueSet

def handler : Handler → Option (Argv → H F Int)
  | .risingMotorForward => some risingMotorForward
  | .risingMotorReverse => some risingMotorReverse
  | .risingMotorTest => some risingMotorTest
  | .panMotorForward => some panMotorForward
  | .panMotorReverse => some panMotorReverse
  | .panMotorTest => some panMotorTest
  | .alsCalidata => some (alsCalidata C)
  | .irLedPwmValueSet => some irLedPwmValueSet
  | .spotLedPwmValueSet => some spotLedPwmValueSet
  | _ => none

def motorMoved (number : Nat) (given : List String) : List (Act F) :=
  [.system (motorText number ((given[0]?.map fun s => CText.atoi s.toList).getD 3)
    ((given[1]?.map fun s => CText.atoi s.toList).getD 1000))]

def calibrated (given : List String) : List (Act F) :=
  let gain := given[0]?.map fun s => C.atof s.toList
  let offset := given[1]?.map fun s => C.atof s.toList
  (gain.map fun g => .system (calidataText C [g])).toList ++
    (offset.map fun o => .system (calidataText C [gain.getD (C.ofInt 0), o])).toList ++
    [.calidata (PegaDiag.request PegaMiscDiag.diagCmdIdALSControl 5) (gain.getD (C.ofInt 0))
      (offset.getD (C.ofInt (-1000)))]

def valueSet (msg : Int → PegaMiscDiag.DiagMsg) (given : List String) : List (Act F) :=
  (given[0]?.map fun s => .request (msg (CText.atoi s.toList))).toList

def asked : Handler → List String → List (Act F)
  | .risingMotorForward, given => motorMoved 14 given
  | .risingMotorReverse, given => motorMoved 13 given
  | .panMotorForward, given => motorMoved 12 given
  | .panMotorReverse, given => motorMoved 11 given
  | .risingMotorTest, _ => [.system "pega_misc_dbg motor 1 1"]
  | .panMotorTest, _ => [.system "pega_misc_dbg motor 1 0"]
  | .alsCalidata, given => calibrated C given
  | .irLedPwmValueSet, given => valueSet PegaDiag.irLedPwmValueSet given
  | .spotLedPwmValueSet, given => valueSet PegaDiag.spotLedPwmValueSet given
  | _, _ => []

def Act.isRead : Act F → Bool
  | .read _ => true
  | _ => false

def ReadsUpTo (n : Nat) (acts : List (Act F)) : Prop := ∀ i, .read i ∈ acts → i ≤ n

def issued (acts : List (Act F)) : List (Act F) := acts.filter fun a => !a.isRead

def Handled (argv : List String) (want : List (Act F))
    (r : EStateM.Result Fault (List (Act F)) Int) : Prop :=
  ∃ acts, r = .ok 0 acts ∧ ReadsUpTo argv.length acts ∧ issued acts = want

def WithinArgv (h : Argv → H F Int) (want : List String → List (Act F))
    (argv args : List String) : Prop :=
  ∀ beyond, Handled argv (want args.tail) (h ⟨argv, beyond, argv.length - args.length⟩ [])

def isMotorTest : Handler → Bool
  | .risingMotorTest => true
  | .panMotorTest => true
  | _ => false

def fixedLength (token : String) : Nat := (C.fixed (C.atof token.toList)).length

def calidataFits (given : List String) : Prop :=
  (∀ gain ∈ given[0]?, fixedLength C gain < 24) ∧
    ∀ gain ∈ given[0]?, ∀ offset ∈ given[1]?, fixedLength C gain + fixedLength C offset < 23

instance (given : List String) : Decidable (calidataFits C given) :=
  inferInstanceAs (Decidable (_ ∧ _))

def readsOf (argv : Argv) (i : Nat) : List (Act F) :=
  .read (argv.pos + i) :: ((argv.cell i).map fun _ => .read (argv.pos + i)).toList

theorem arg_run (argv : Argv) (i : Nat) (acts : List (Act F)) :
    arg argv i acts = .ok (argv.cell i) (acts ++ [.read (argv.pos + i)]) := rfl

theorem system_run {text : String} (h : text.length < cmdSize) (acts : List (Act F)) :
    system text acts = .ok () (acts ++ [.system text]) := by
  rw [system, sprintf, if_pos h]
  rfl

theorem system_overrun {text : String} (h : ¬ text.length < cmdSize) (acts : List (Act F)) :
    system text acts = .error .cmdOverrun acts := by
  rw [system, sprintf, if_neg h]
  rfl

theorem intOr_run (argv : Argv) (i : Nat) (default : Int) (acts : List (Act F)) :
    intOr argv i default acts = .ok (((argv.cell i).map fun s => CText.atoi s.toList).getD default)
      (acts ++ readsOf argv i) := by
  rw [intOr, bind_run (arg_run argv i acts), readsOf]
  cases hcell : argv.cell i with
  | none => rfl
  | some token =>
    have hagain := arg_run argv i (acts ++ [.read (argv.pos + i)])
    rw [hcell] at hagain
    dsimp only
    rw [bind_run hagain, List.append_assoc]
    rfl

theorem atoi_bounds (s : List Char) : -2147483648 ≤ CText.atoi s ∧ CText.atoi s < 2147483648 := by
  rw [CText.atoi]
  exact ⟨Int.le_bmod (by decide), Int.bmod_lt (by decide)⟩

theorem toString_length_le {v : Int} (h : -2147483648 ≤ v ∧ v < 2147483648) :
    (toString v).length ≤ 11 := by
  cases v with
  | ofNat n =>
    have hn : n < 10 ^ 10 := by
      have hlt : (n : Int) < 2147483648 := h.2
      omega
    have hlen : (Nat.repr n).length ≤ 10 := Nat.repr_length n 10 (by decide) hn
    exact hlen.trans (by decide)
  | negSucc n =>
    have hlen : (Nat.repr (n + 1)).length ≤ 10 := Nat.repr_length (n + 1) 10 (by decide) (by omega)
    have hminus : toString (Int.negSucc n) = "-" ++ Nat.repr (n + 1) := rfl
    rw [hminus, String.length_append]
    have hone : "-".length = 1 := rfl
    omega

theorem given_bounds (default : Int) (hd : -2147483648 ≤ default ∧ default < 2147483648)
    (given : Option String) :
    -2147483648 ≤ (given.map fun s => CText.atoi s.toList).getD default ∧
      (given.map fun s => CText.atoi s.toList).getD default < 2147483648 := by
  cases given with
  | none => exact hd
  | some s => exact atoi_bounds s.toList

theorem motorText_length (number speed time : String) :
    ("pega_misc_dbg motor " ++ number ++ " " ++ speed ++ " " ++ time).length =
      22 + number.length + speed.length + time.length := by
  have hname : "pega_misc_dbg motor ".length = 20 := rfl
  have hspace : " ".length = 1 := rfl
  simp only [String.length_append, hname, hspace]
  omega

theorem motorText_fits {number : Nat} (hn : number < 100) {speed time : Int}
    (hs : -2147483648 ≤ speed ∧ speed < 2147483648)
    (ht : -2147483648 ≤ time ∧ time < 2147483648) :
    (motorText number speed time).length < cmdSize := by
  have hnumber : (toString number).length ≤ 2 := Nat.repr_length number 2 (by decide) hn
  calc (motorText number speed time).length
      = 22 + (toString number).length + (toString speed).length + (toString time).length :=
        motorText_length ..
    _ ≤ 22 + 2 + 11 + 11 := by
        gcongr
        · exact toString_length_le hs
        · exact toString_length_le ht
    _ < cmdSize := by decide

theorem motorMove_run {number : Nat} (hn : number < 100) (argv : Argv) :
    motorMove number argv [] = .ok 0 ((readsOf argv.next 0 ++ readsOf argv.next 1) ++
      [(.system (motorText number
        (((argv.next.cell 0).map fun s => CText.atoi s.toList).getD 3)
        (((argv.next.cell 1).map fun s => CText.atoi s.toList).getD 1000)) : Act F)]) := by
  have hfits := motorText_fits hn (given_bounds 3 (by decide) (argv.next.cell 0))
    (given_bounds 1000 (by decide) (argv.next.cell 1))
  rw [motorMove, bind_run (intOr_run argv.next 0 3 []), bind_run (intOr_run argv.next 1 1000 _),
    bind_run (system_run hfits _)]
  rfl

theorem calibrate_none {argv : Argv} {i : Nat} (hcell : argv.cell i = none) (default : F)
    (text : F → String) (acts : List (Act F)) :
    calibrate C argv i default text acts = .ok default (acts ++ readsOf argv i) := by
  rw [calibrate, bind_run (arg_run argv i acts), readsOf, hcell]
  rfl

theorem calibrate_some {argv : Argv} {i : Nat} {token : String} (hcell : argv.cell i = some token)
    (default : F) (text : F → String) (acts : List (Act F)) :
    calibrate C argv i default text acts =
      (system (text (C.atof token.toList)) >>= fun _ => pure (C.atof token.toList))
        (acts ++ readsOf argv i) := by
  rw [calibrate, bind_run (arg_run argv i acts), readsOf]
  have hagain := arg_run argv i (acts ++ [.read (argv.pos + i)])
  rw [hcell] at hagain ⊢
  dsimp only
  rw [bind_run hagain, List.append_assoc]
  rfl

def TextFits (cell : Option String) (text : F → String) : Prop :=
  ∀ token ∈ cell, (text (C.atof token.toList)).length < cmdSize

theorem calibrate_run {argv : Argv} {i : Nat} {text : F → String}
    (hfits : TextFits C (argv.cell i) text) (default : F) (acts : List (Act F)) :
    calibrate C argv i default text acts =
      .ok (((argv.cell i).map fun s => C.atof s.toList).getD default)
        (acts ++ (readsOf argv i ++
          (((argv.cell i).map fun s => C.atof s.toList).map fun v =>
            .system (text v)).toList)) := by
  cases hcell : argv.cell i with
  | none =>
    rw [calibrate_none C hcell]
    simp
  | some token =>
    rw [calibrate_some C hcell, bind_run (system_run (hfits token hcell) _), List.append_assoc]
    rfl

theorem calibrate_overrun {argv : Argv} {i : Nat} {text : F → String}
    (hfits : ¬ TextFits C (argv.cell i) text) (default : F) (acts : List (Act F)) :
    ∃ more, calibrate C argv i default text acts = .error .cmdOverrun more := by
  simp only [TextFits, not_forall] at hfits
  obtain ⟨token, hcell, hlong⟩ := hfits
  rw [calibrate_some C hcell, bind_error (system_overrun hlong _)]
  exact ⟨_, rfl⟩

theorem calidataText_single (value : F) :
    (calidataText C [value]).length = 40 + (C.fixed value).length := by
  have hname : "sh /etc/pega/diag/als_calidata_write.sh".length = 39 := rfl
  have hspace : " ".length = 1 := rfl
  simp only [calidataText, List.foldl_cons, List.foldl_nil, String.length_append, hname, hspace]

theorem calidataText_pair (gain offset : F) :
    (calidataText C [gain, offset]).length =
      41 + ((C.fixed gain).length + (C.fixed offset).length) := by
  have hname : "sh /etc/pega/diag/als_calidata_write.sh".length = 39 := rfl
  have hspace : " ".length = 1 := rfl
  simp only [calidataText, List.foldl_cons, List.foldl_nil, String.length_append, hname, hspace]
  omega

theorem alsCalidata_run {argv : Argv}
    (hgain : TextFits C (argv.next.cell 0) fun gain => calidataText C [gain])
    (hoffset : TextFits C (argv.next.cell 1) fun offset => calidataText C
      [((argv.next.cell 0).map fun s => C.atof s.toList).getD (C.ofInt 0), offset]) :
    let gain := (argv.next.cell 0).map fun s => C.atof s.toList
    let offset := (argv.next.cell 1).map fun s => C.atof s.toList
    alsCalidata C argv [] = .ok 0 (
      (readsOf argv.next 0 ++ (gain.map fun g => .system (calidataText C [g])).toList) ++
      (readsOf argv.next 1 ++
        (offset.map fun o => .system (calidataText C [gain.getD (C.ofInt 0), o])).toList) ++
      [.calidata (PegaDiag.request PegaMiscDiag.diagCmdIdALSControl 5) (gain.getD (C.ofInt 0))
        (offset.getD (C.ofInt (-1000)))]) := by
  intro gain offset
  rw [alsCalidata, bind_run (calibrate_run C hgain _ []), bind_run (calibrate_run C hoffset _ _)]
  rfl

theorem alsCalidata_overrun {argv : Argv}
    (hlong : ¬ (TextFits C (argv.next.cell 0) (fun gain => calidataText C [gain]) ∧
      TextFits C (argv.next.cell 1) fun offset => calidataText C
        [((argv.next.cell 0).map fun s => C.atof s.toList).getD (C.ofInt 0), offset])) :
    ∃ more, alsCalidata C argv [] = .error .cmdOverrun more := by
  rw [alsCalidata]
  by_cases hgain : TextFits C (argv.next.cell 0) fun gain => calidataText C [gain]
  case neg =>
    obtain ⟨more, hrun⟩ := calibrate_overrun C hgain (C.ofInt 0) []
    exact ⟨more, bind_error hrun _⟩
  case pos =>
    obtain ⟨more, hrun⟩ := calibrate_overrun C (fun h => hlong ⟨hgain, h⟩) (C.ofInt (-1000))
      ([] ++ (readsOf argv.next 0 ++ (((argv.next.cell 0).map fun s => C.atof s.toList).map
        fun v => Act.system (calidataText C [v])).toList))
    exact ⟨more, (bind_run (calibrate_run C hgain _ []) _).trans (bind_error hrun _)⟩

end handlers

section handled

variable {F : Type} (C : CFloat F) {before args : List String} {beyond : Nat → Option String}

def calledWith (before args : List String) (beyond : Nat → Option String) : Argv :=
  ⟨before ++ args, beyond, before.length⟩

theorem cell_next (i : Nat) (h : i < args.length) :
    (calledWith before args beyond).next.cell i = args.tail[i]? := by
  have hin : before.length + 1 + i ≤ (before ++ args).length := by
    rw [List.length_append]
    omega
  refine (if_pos hin).trans ?_
  change (before ++ args)[before.length + 1 + i]? = _
  rw [List.getElem?_append_right (by omega), List.getElem?_tail]
  congr 1
  omega

theorem cell_beyond (i : Nat) (h : args.length ≤ i + 1) :
    (calledWith before args fun _ => none).next.cell i = none := by
  rw [Argv.cell]
  split_ifs with hin
  · refine List.getElem?_eq_none ?_
    change (before ++ args).length ≤ before.length + 1 + i
    rw [List.length_append]
    omega
  · rfl

theorem readsUpTo_append {n : Nat} {acts more : List (Act F)} :
    ReadsUpTo n (acts ++ more) ↔ ReadsUpTo n acts ∧ ReadsUpTo n more := by
  simp only [ReadsUpTo, List.mem_append, or_imp, forall_and]

theorem readsUpTo_issued {n : Nat} {acts : List (Act F)} (h : issued acts = acts) :
    ReadsUpTo n acts := by
  intro i hi
  rw [← h] at hi
  cases (List.mem_filter.mp hi).2

theorem readsOf_iff (i : Nat) :
    ReadsUpTo (before ++ args).length
      (readsOf (calledWith before args beyond).next i : List (Act F)) ↔ i < args.length := by
  rw [readsOf, List.length_append]
  change (∀ j, Act.read j ∈ .read (before.length + 1 + i) :: _ → _) ↔ _
  constructor
  · intro h
    have hfirst := h _ (List.mem_cons_self ..)
    omega
  · intro h j hj
    have hsame : j = before.length + 1 + i := by
      rcases List.mem_cons.mp hj with hj | hj
      · exact Act.read.inj hj
      · obtain ⟨_, -, hj⟩ := Option.map_eq_some_iff.mp (Option.mem_toList.mp hj)
        exact (Act.read.inj hj).symm
    omega

theorem issued_append (acts more : List (Act F)) :
    issued (acts ++ more) = issued acts ++ issued more := List.filter_append ..

theorem issued_readsOf (argv : Argv) (i : Nat) :
    issued (readsOf argv i : List (Act F)) = [] := by
  rw [issued, List.filter_eq_nil_iff, readsOf]
  cases argv.cell i <;> simp [Act.isRead]

theorem handled_iff {argv : List String} {want acts : List (Act F)} :
    Handled argv want (.ok 0 acts) ↔ ReadsUpTo argv.length acts ∧ issued acts = want := by
  constructor
  · rintro ⟨_, hrun, h⟩
    cases hrun
    exact h
  · exact fun h => ⟨acts, rfl, h⟩

theorem within_iff {h : Argv → H F Int} {want : List String → List (Act F)} :
    WithinArgv h want (before ++ args) args ↔
      ∀ beyond, Handled (before ++ args) (want args.tail) (h (calledWith before args beyond) []) := by
  rw [WithinArgv, List.length_append, Nat.add_sub_cancel]
  exact Iff.rfl

theorem motorMove_within_iff {number : Nat} (hn : number < 100) :
    WithinArgv (motorMove number : Argv → H F Int) (motorMoved number) (before ++ args) args ↔
      2 ≤ args.length := by
  simp only [within_iff, motorMove_run hn, handled_iff, readsUpTo_append, readsOf_iff]
  constructor
  · intro h
    exact (h fun _ => none).1.1.2
  · intro h beyond
    refine ⟨⟨⟨Nat.lt_of_succ_lt h, h⟩, readsUpTo_issued rfl⟩, ?_⟩
    rw [issued_append, issued_append, issued_readsOf, issued_readsOf,
      cell_next 0 (Nat.lt_of_succ_lt h), cell_next 1 h]
    rfl

theorem motorTest_within {value : Nat} (hfits : ("pega_misc_dbg motor 1 " ++
      toString value).length < cmdSize) :
    WithinArgv (motorTest value : Argv → H F Int)
      (fun _ => [.system ("pega_misc_dbg motor 1 " ++ toString value)]) (before ++ args) args := by
  refine within_iff.mpr fun _ => ⟨[.system ("pega_misc_dbg motor 1 " ++ toString value)], ?_,
    readsUpTo_issued rfl, rfl⟩
  rw [motorTest, bind_run (system_run hfits [])]
  rfl

theorem textFits_gain_iff (given : List String) :
    TextFits C given[0]? (fun gain => calidataText C [gain]) ↔
      ∀ gain ∈ given[0]?, fixedLength C gain < 24 := by
  simp only [TextFits, calidataText_single, fixedLength, cmdSize]
  refine forall₂_congr fun gain _ => ?_
  omega

theorem textFits_offset_iff {given : List String} {token : String} (htoken : given[0]? = some token) :
    TextFits C given[1]? (fun offset => calidataText C
        [(given[0]?.map fun s => C.atof s.toList).getD (C.ofInt 0), offset]) ↔
      ∀ gain ∈ given[0]?, ∀ offset ∈ given[1]?,
        fixedLength C gain + fixedLength C offset < 23 := by
  simp only [TextFits, calidataText_pair, fixedLength, cmdSize, htoken, Option.mem_some_iff, forall_eq',
    Option.map_some, Option.getD_some]
  refine forall₂_congr fun offset _ => ?_
  omega

theorem not_handled_error {argv : List String} {want acts : List (Act F)} {e : Fault} :
    ¬ Handled argv want (.error e acts) := by
  rintro ⟨_, hrun, -⟩
  cases hrun

theorem alsCalidata_length (h : WithinArgv (alsCalidata C) (calibrated C) (before ++ args) args) :
    2 ≤ args.length := by
  by_contra hshort
  have hnone : ∀ i, TextFits C ((calledWith before args fun _ => none).next.cell i)
      = fun _ => True := by
    intro i
    funext text
    rw [TextFits, cell_beyond i (by omega)]
    simp
  have hrun := @alsCalidata_run F C (calledWith before args fun _ => none)
    (by rw [hnone]; trivial) (by rw [hnone]; trivial)
  have hhandled := within_iff.mp h fun _ => none
  rw [hrun, handled_iff] at hhandled
  simp only [readsUpTo_append, readsOf_iff] at hhandled
  exact hshort hhandled.1.1.2.1

theorem alsCalidata_within_iff :
    WithinArgv (alsCalidata C) (calibrated C) (before ++ args) args ↔
      2 ≤ args.length ∧ calidataFits C args.tail := by
  have hsystem : ∀ (given : Option F) (text : F → String),
      issued (given.map fun v => (Act.system (text v) : Act F)).toList =
        (given.map fun v => Act.system (text v)).toList := by
    rintro (_ | v) text <;> rfl
  refine (and_iff_right_of_imp (alsCalidata_length C)).symm.trans (and_congr_right fun h => ?_)
  have hcell0 : ∀ beyond, (calledWith before args beyond).next.cell 0 = args.tail[0]? := fun _ =>
    cell_next 0 (Nat.lt_of_succ_lt h)
  have hcell1 : ∀ beyond, (calledWith before args beyond).next.cell 1 = args.tail[1]? := fun _ =>
    cell_next 1 h
  obtain ⟨token, htoken⟩ : ∃ token, args.tail[0]? = some token :=
    ⟨_, List.getElem?_eq_getElem (by rw [List.length_tail]; omega)⟩
  rw [within_iff, calidataFits, ← textFits_gain_iff, ← textFits_offset_iff C htoken]
  constructor
  · intro hall
    by_contra hlong
    rw [← hcell0 fun _ => none, ← hcell1 fun _ => none] at hlong
    obtain ⟨more, hrun⟩ := alsCalidata_overrun C hlong
    exact not_handled_error (hrun ▸ hall fun _ => none)
  · rintro ⟨hgain, hoffset⟩ beyond
    rw [alsCalidata_run C (by rwa [hcell0]) (by rwa [hcell0, hcell1]), handled_iff]
    simp only [readsUpTo_append, readsOf_iff, issued_append, issued_readsOf, hsystem, hcell0,
      hcell1]
    exact ⟨⟨⟨⟨Nat.lt_of_succ_lt h, readsUpTo_issued (hsystem _ _)⟩, h,
      readsUpTo_issued (hsystem _ _)⟩, readsUpTo_issued rfl⟩, rfl⟩

theorem pwmValueSet_within_iff (msg : Int → PegaMiscDiag.DiagMsg) (hargs : args ≠ []) :
    WithinArgv (pwmValueSet msg : Argv → H F Int) (valueSet msg) (before ++ args) args ↔
      2 ≤ args.length := by
  have hpos := List.length_pos_iff.mpr hargs
  rw [within_iff]
  constructor
  · intro h
    obtain ⟨acts, hrun, -, hissued⟩ := h fun _ => none
    by_contra hshort
    rw [pwmValueSet, bind_run (arg_run ..), cell_beyond 0 (by omega)] at hrun
    cases hrun
  · intro h beyond
    obtain ⟨token, htoken⟩ : ∃ token, args.tail[0]? = some token :=
      ⟨_, List.getElem?_eq_getElem (by rw [List.length_tail]; omega)⟩
    have hcell : (calledWith before args beyond).next.cell 0 = some token := by
      rw [cell_next 0 hpos, htoken]
    have hrun : pwmValueSet msg (calledWith before args beyond) [] =
        .ok 0 ([.read (before.length + 1 + 0)] ++
          [(.request (msg (CText.atoi token.toList)) : Act F)]) := by
      rw [pwmValueSet, bind_run (arg_run ..), hcell]
      rfl
    rw [hrun, handled_iff, readsUpTo_append, List.length_append, valueSet, htoken]
    refine ⟨⟨fun i hi => ?_, readsUpTo_issued rfl⟩, rfl⟩
    obtain rfl := Act.read.inj (List.mem_singleton.mp hi)
    omega

theorem handler_within_iff {f : Handler} {h : Argv → H F Int} (hf : handler C f = some h)
    (hargs : args ≠ []) :
    WithinArgv h (asked C f) (before ++ args) args ↔
      isMotorTest f ∨ 2 ≤ args.length ∧ (f = .alsCalidata → calidataFits C args.tail) := by
  cases f <;> cases hf
  case risingMotorTest => exact iff_of_true (motorTest_within (by decide)) (.inl rfl)
  case panMotorTest => exact iff_of_true (motorTest_within (by decide)) (.inl rfl)
  all_goals refine Iff.trans ?_ (or_iff_right (by decide)).symm
  case alsCalidata =>
    rw [forall_prop_of_true rfl]
    exact alsCalidata_within_iff C
  all_goals refine Iff.trans ?_ (and_iff_left (by simp)).symm
  case irLedPwmValueSet => exact pwmValueSet_within_iff _ hargs
  case spotLedPwmValueSet => exact pwmValueSet_within_iff _ hargs
  all_goals exact motorMove_within_iff (by decide)

end handled

theorem walk_calls {table : Table} {argv args : List String} {f : Handler}
    (h : walk table argv = .calls f args) : args <:+ argv ∧ args ≠ [] := by
  induction argv generalizing table with
  | nil => cases h
  | cons token rest ih =>
    rw [walk] at h
    cases hn : named table token with
    | none =>
      rw [hn] at h
      cases h
    | some row =>
      rw [hn] at h
      dsimp only at h
      split at h
      · cases h
        exact ⟨List.suffix_rfl, List.cons_ne_nil _ _⟩
      · cases h
      · split_ifs at h
        obtain ⟨hsuffix, hne⟩ := ih h
        exact ⟨hsuffix.trans (List.suffix_cons token rest), hne⟩

theorem dispatched_args {func : Handler → List String → Int} {argv args : List String} {f : Handler}
    {result : Int} (hd : Ends (executeStep func) (executeStart .diagMain argv)
      (.returned [(f, args)] "" result)) : args <:+ argv ∧ args ≠ [] := by
  have hargv : argv ≠ [] := by
    rintro rfl
    cases ends_iff.mp hd
  have hsame := hd.unique (ends_walk hargv .diagMain)
  cases hw : walk .diagMain argv with
  | calls g given =>
    rw [hw] at hsame
    cases hsame
    exact walk_calls hw
  | help group =>
    rw [hw] at hsame
    cases hsame
  | unknown token =>
    rw [hw] at hsame
    cases hsame
  | document =>
    rw [hw] at hsame
    cases hsame

theorem handlers_within_argv_iff {F : Type} (C : CFloat F) (func : Handler → List String → Int)
    (argv : List String) {f : Handler} {args : List String} {result : Int} {h : Argv → H F Int}
    (hd : Ends (executeStep func) (executeStart .diagMain argv) (.returned [(f, args)] "" result))
    (hf : handler C f = some h) :
    WithinArgv h (asked C f) argv args ↔
      isMotorTest f ∨ 2 ≤ args.length ∧ (f = .alsCalidata → calidataFits C args.tail) := by
  obtain ⟨⟨before, rfl⟩, hargs⟩ := dispatched_args hd
  exact handler_within_iff C hf hargs

def plainFloat : CFloat ℚ where
  atof s := if s = "1.5".toList then 3 / 2 else 0
  fixed v := if v = 3 / 2 then "1.500000" else if v = 0 then "0.000000" else "-1000.000000"
  ofInt n := n

theorem calidata_with_gain_within :
    WithinArgv (alsCalidata plainFloat) (calibrated plainFloat) ["als", "calidata", "1.5", "0"]
      ["calidata", "1.5", "0"] := by
  have hrun : Loop.run (executeStep fun _ _ => 0) 60
      (executeStart .diagMain ["als", "calidata", "1.5", "0"]) =
        some (.returned [(.alsCalidata, ["calidata", "1.5", "0"])] "" 0) := by decide +kernel
  have hfits : calidataFits plainFloat ["1.5", "0"] := by decide +kernel
  exact (handlers_within_argv_iff plainFloat _ _ (ends_of_run hrun) rfl).mpr
    (.inr ⟨by decide, fun _ => hfits⟩)

theorem forward_alone_reads_past_null :
    ¬ ∀ (F : Type) (C : CFloat F) (func : Handler → List String → Int) (argv args : List String)
      (f : Handler) (result : Int) (h : Argv → H F Int),
      Ends (executeStep func) (executeStart .diagMain argv) (.returned [(f, args)] "" result) →
        handler C f = some h → WithinArgv h (asked C f) argv args := by
  intro hall
  have hrun : Loop.run (executeStep fun _ _ => 0) 40
      (executeStart .diagMain ["motor", "rising", "forward"]) =
        some (.returned [(.risingMotorForward, ["forward"])] "" 0) := by decide +kernel
  have hwithin : WithinArgv (motorMove 14) (motorMoved 14) (["motor", "rising"] ++ ["forward"])
      ["forward"] := hall ℚ plainFloat _ _ _ _ _ _ (ends_of_run hrun) rfl
  exact absurd ((motorMove_within_iff (by decide)).mp hwithin) (by decide)

end PegaDiagCommand
