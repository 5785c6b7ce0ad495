import IrisFirmware.Diag.Commands

namespace PegaDiagCommand

open Loop

inductive Verdict where
  | calls (f : Handler) (args : List String)
  | help (group : Table)
  | unknown (token : String)
  | document
deriving DecidableEq, Repr

def named (table : Table) (token : String) : Option CommandLine :=
  (rows table).find? fun row => row.cmd = token

def walk (table : Table) : List String → Verdict
  | [] => .unknown ""
  | token :: rest =>
    match named table token with
    | none => .unknown token
    | some row =>
      match row.func, row.eNext with
      | some f, _ => .calls f (token :: rest)
      | none, none => .document
      | none, some next => if rest = [] then .help next else walk next rest

section dispatch

variable (func : Handler → List String → Int)

def Verdict.exit : Verdict → Option Exit
  | .calls f args => some (.returned [(f, args)] "" (func f args))
  | .help group => some (.returned [] (helpInfo group) 0)
  | .unknown token => some (.returned [] (unknownCommand token) (-1))
  | .document => none

def Dispatches (argv : List String) : Prop :=
  ∃ e, Ends (executeStep func) (executeStart .diagMain argv) e ∧ e ≠ .nullTable ∧
    ∀ x, (walk .diagMain argv).exit func = some x → e = x

def arrive (found : Option CommandLine) (token : String) (rest : List String) : Walk ⊕ Exit :=
  match found with
  | none => .inr (.returned [] (unknownCommand token) (-1))
  | some row => descend func row (rest.length + 1) (token :: rest)

variable {func}

theorem scan_iff {table : Table} {token : String} {rest : List String} {e : Exit}
    (ls : List CommandLine) {i : Nat} (hd : (rows table).drop i = ls) :
    Ends (executeStep func) ⟨some table, i, rest.length + 1, token :: rest⟩ e ↔
      Follows (executeStep func)
        (arrive func (ls.find? fun row => row.cmd = token) token rest) e := by
  induction ls generalizing i with
  | nil =>
    have hnone : (rows table)[i]? = none :=
      List.getElem?_eq_none (List.drop_eq_nil_iff.mp hd)
    rw [ends_iff, executeStep]
    simp only [hnone]
    rfl
  | cons row ls ih =>
    have hrow : (rows table)[i]? = some row := by
      rw [← List.head?_drop, hd]
      rfl
    have htail : (rows table).drop (i + 1) = ls := by
      rw [← List.tail_drop, hd]
      rfl
    rw [ends_iff, executeStep]
    simp only [hrow, List.find?_cons]
    rcases eq_or_ne row.cmd token with hc | hc
    · rw [if_neg fun h => (differs_iff _ _).mp h hc, decide_eq_true hc]
      rfl
    · rw [if_pos ((differs_iff _ _).mpr hc), decide_eq_false hc]
      exact ih htail

theorem ends_walk {argv : List String} (h : argv ≠ []) (table : Table) :
    Ends (executeStep func) (executeStart table argv)
      (((walk table argv).exit func).getD .nullTable) := by
  induction argv generalizing table with
  | nil => exact absurd rfl h
  | cons token rest ih =>
    rw [executeStart, List.length_cons]
    refine (scan_iff (rows table) List.drop_zero).mpr ?_
    rw [walk, ← named]
    cases named table token with
    | none => rfl
    | some row =>
      simp only [arrive, descend]
      cases row.func with
      | some f => rfl
      | none =>
        cases row.eNext with
        | none =>
          cases rest with
          | nil => rfl
          | cons next more =>
            rw [if_neg (by simp)]
            exact .exit rfl
        | some next =>
          cases rest with
          | nil => rfl
          | cons word more =>
            rw [if_neg (by simp)]
            exact ih (by simp) next

end dispatch

theorem exit_of_ne_document (func : Handler → List String → Int) {v : Verdict}
    (h : v ≠ .document) : ∃ e, v.exit func = some e ∧ e ≠ .nullTable := by
  cases v with
  | calls f args => exact ⟨_, rfl, by simp⟩
  | help group => exact ⟨_, rfl, by simp⟩
  | unknown token => exact ⟨_, rfl, by simp⟩
  | document => exact absurd rfl h

theorem dispatches_iff_not_document (func : Handler → List String → Int) {argv : List String}
    (h : argv ≠ []) : Dispatches func argv ↔ walk .diagMain argv ≠ .document := by
  have hends : Ends (executeStep func) (executeStart .diagMain argv) _ := ends_walk h .diagMain
  constructor
  · rintro ⟨e, he, hnull, -⟩ hdoc
    rw [hdoc] at hends
    exact hnull (he.unique hends)
  · intro hdoc
    obtain ⟨e, he, hnull⟩ := exit_of_ne_document func hdoc
    rw [he] at hends
    exact ⟨e, hends, hnull, fun x hx => Option.some.inj (he.symm.trans hx)⟩

def documentation (table : Table) (token : String) : Prop :=
  ∃ row, named table token = some row ∧ row.func = none ∧ row.eNext = none

theorem walk_document_iff (table : Table) (token : String) (rest : List String) :
    walk table (token :: rest) = .document ↔
      documentation table token ∨
        ∃ row next, named table token = some row ∧ row.func = none ∧ row.eNext = some next ∧
          rest ≠ [] ∧ walk next rest = .document := by
  rw [walk]
  cases hn : named table token with
  | none => simp [documentation, hn]
  | some row =>
    obtain ⟨cmd, doc, f, next⟩ := row
    cases f with
    | some f => simp [documentation, hn]
    | none =>
      cases next with
      | none => simp [documentation, hn]
      | some next => cases rest <;> simp [documentation, hn]

def undocumented : Table → Bool
  | .diagMain => false
  | .ethernet => false
  | .motor => false
  | .motorRising => false
  | .motorPan => false
  | _ => true

theorem undocumented_all {table : Table} (h : undocumented table = true) :
    (rows table).all fun row =>
      (row.func.isSome || row.eNext.isSome) && row.eNext.all undocumented := by
  cases table <;> first | rfl | cases h

theorem undocumented_rows {table : Table} (h : undocumented table = true) {row : CommandLine}
    (hr : row ∈ rows table) :
    (row.func = none → row.eNext ≠ none) ∧
      ∀ next, row.eNext = some next → undocumented next = true := by
  obtain ⟨hsome, hnext⟩ := Bool.and_eq_true_iff.mp (List.all_eq_true.mp (undocumented_all h) row hr)
  constructor
  · intro hf he
    rw [hf, he] at hsome
    cases hsome
  · intro next he
    rwa [he] at hnext

theorem walk_undocumented {table : Table} (h : undocumented table = true)
    (argv : List String) : walk table argv ≠ .document := by
  induction argv generalizing table with
  | nil => simp [walk]
  | cons token rest ih =>
    rw [ne_eq, walk_document_iff]
    rintro (⟨row, hn, hf, he⟩ | ⟨row, next, hn, -, he, -, hw⟩)
    · exact (undocumented_rows h (List.mem_of_find?_eq_some hn)).1 hf he
    · exact ih ((undocumented_rows h (List.mem_of_find?_eq_some hn)).2 next he) hw

def docWord (token : String) : Prop := token = "command:" ∨ token = "example:"

instance (token : String) : Decidable (docWord token) := inferInstanceAs (Decidable (_ ∨ _))

def namesDocumentation : List String → Prop
  | "ethernet" :: token :: _ => docWord token
  | "motor" :: "rising" :: token :: _ => docWord token
  | "motor" :: "pan" :: token :: _ => docWord token
  | _ => False

theorem walk_leaf_document {table : Table}
    (hrows : ∀ row ∈ rows table, row.eNext = none ∧ (row.func = none → docWord row.cmd))
    (hdoc : ∀ token rest, docWord token → walk table (token :: rest) = .document)
    (argv : List String) :
    walk table argv = .document ↔ ∃ token rest, argv = token :: rest ∧ docWord token := by
  constructor
  · intro h
    cases argv with
    | nil => cases h
    | cons token rest =>
      refine ⟨token, rest, rfl, ?_⟩
      rcases (walk_document_iff table token rest).mp h with
        ⟨row, hn, hf, -⟩ | ⟨row, next, hn, -, he, -⟩
      · have hcmd : row.cmd = token := by simpa using List.find?_some hn
        exact hcmd ▸ (hrows row (List.mem_of_find?_eq_some hn)).2 hf
      · rw [(hrows row (List.mem_of_find?_eq_some hn)).1] at he
        cases he
  · rintro ⟨token, rest, rfl, h⟩
    exact hdoc token rest h

theorem walk_ethernet (argv : List String) :
    walk .ethernet argv = .document ↔ ∃ token rest, argv = token :: rest ∧ docWord token :=
  walk_leaf_document (by simp [rows, docWord])
    (by rintro token rest (rfl | rfl) <;> rfl) argv

theorem walk_motorRising (argv : List String) :
    walk .motorRising argv = .document ↔ ∃ token rest, argv = token :: rest ∧ docWord token :=
  walk_leaf_document (by simp [rows, docWord])
    (by rintro token rest (rfl | rfl) <;> rfl) argv

theorem walk_motorPan (argv : List String) :
    walk .motorPan argv = .document ↔ ∃ token rest, argv = token :: rest ∧ docWord token :=
  walk_leaf_document (by simp [rows, docWord])
    (by rintro token rest (rfl | rfl) <;> rfl) argv

theorem named_group {table : Table} {token : String} {row : CommandLine} {next : Table}
    (hn : named table token = some row) (he : row.eNext = some next) :
    ∃ r ∈ rows table, r.cmd = token ∧ r.eNext = some next :=
  ⟨row, List.mem_of_find?_eq_some hn, by simpa using List.find?_some hn, he⟩

theorem motor_groups : ∀ row ∈ rows .motor, ∀ next, row.eNext = some next →
    row.cmd = "rising" ∧ next = .motorRising ∨ row.cmd = "pan" ∧ next = .motorPan := by
  simp [rows, eq_comm]

theorem diagMain_groups : ∀ row ∈ rows .diagMain, ∀ next, row.eNext = some next →
    undocumented next = true ∨ row.cmd = "ethernet" ∧ next = .ethernet ∨
      row.cmd = "motor" ∧ next = .motor := by
  simp [rows, undocumented]

theorem walk_motor (argv : List String) :
    walk .motor argv = .document ↔ ∃ group token rest, argv = group :: token :: rest ∧
      (group = "rising" ∨ group = "pan") ∧ docWord token := by
  constructor
  · intro h
    cases argv with
    | nil => cases h
    | cons group more =>
      rcases (walk_document_iff .motor group more).mp h with
        ⟨row, hn, hf, he⟩ | ⟨row, next, hn, -, he, -, hw⟩
      · have hall : ∀ r ∈ rows .motor, r.eNext ≠ none := by simp [rows]
        exact absurd he (hall row (List.mem_of_find?_eq_some hn))
      · obtain ⟨r, hr, rfl, hnext⟩ := named_group hn he
        rcases motor_groups r hr next hnext with ⟨hc, rfl⟩ | ⟨hc, rfl⟩
        · obtain ⟨token, rest, rfl, hd⟩ := (walk_motorRising more).mp hw
          exact ⟨r.cmd, token, rest, rfl, .inl hc, hd⟩
        · obtain ⟨token, rest, rfl, hd⟩ := (walk_motorPan more).mp hw
          exact ⟨r.cmd, token, rest, rfl, .inr hc, hd⟩
  · rintro ⟨group, token, rest, rfl, rfl | rfl, hd⟩
    · exact (walk_motorRising (token :: rest)).mpr ⟨token, rest, rfl, hd⟩
    · exact (walk_motorPan (token :: rest)).mpr ⟨token, rest, rfl, hd⟩

theorem walk_diagMain (argv : List String) :
    walk .diagMain argv = .document ↔ namesDocumentation argv := by
  constructor
  · intro h
    cases argv with
    | nil => cases h
    | cons group more =>
      rcases (walk_document_iff .diagMain group more).mp h with
        ⟨row, hn, hf, he⟩ | ⟨row, next, hn, -, he, -, hw⟩
      · have hall : ∀ r ∈ rows .diagMain, r.eNext ≠ none := by simp [rows]
        exact absurd he (hall row (List.mem_of_find?_eq_some hn))
      · obtain ⟨r, hr, rfl, hnext⟩ := named_group hn he
        rcases diagMain_groups r hr next hnext with hq | ⟨hc, rfl⟩ | ⟨hc, rfl⟩
        · exact absurd hw (walk_undocumented hq more)
        · obtain ⟨token, rest, rfl, hd⟩ := (walk_ethernet more).mp hw
          rw [hc]
          exact hd
        · obtain ⟨sub, token, rest, rfl, rfl | rfl, hd⟩ := (walk_motor more).mp hw
          · rw [hc]
            exact hd
          · rw [hc]
            exact hd
  · unfold namesDocumentation
    split
    · exact fun hd => (walk_ethernet _).mpr ⟨_, _, rfl, hd⟩
    · exact fun hd => (walk_motor _).mpr ⟨_, _, _, rfl, .inl rfl, hd⟩
    · exact fun hd => (walk_motor _).mpr ⟨_, _, _, rfl, .inr rfl, hd⟩
    · exact False.elim

theorem dispatch_iff_undocumented (func : Handler → List String → Int) (argv : List String)
    (h : 1 ≤ argv.length) : Dispatches func argv ↔ ¬ namesDocumentation argv := by
  rw [dispatches_iff_not_document func (List.length_pos_iff.mp h), ne_eq, walk_diagMain]

theorem wifi_ssid_dispatched : Dispatches (fun _ _ => 0) ["wifi", "ssid", "set", "home"] :=
  (dispatch_iff_undocumented _ _ (by decide)).mpr id

theorem documentation_row_followed :
    ¬ Dispatches (fun _ _ => 0) ["motor", "rising", "command:"] := by
  rintro ⟨e, he, hnull, -⟩
  have hend : Loop.run (executeStep fun _ _ => 0)
      40 (executeStart .diagMain ["motor", "rising", "command:"]) = some .nullTable := by
    decide +kernel
  exact hnull (he.unique (ends_of_run hend))

end PegaDiagCommand
