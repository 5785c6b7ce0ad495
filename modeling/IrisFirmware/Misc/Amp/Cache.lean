import IrisFirmware.Library.Run
import IrisFirmware.Library.Sequencer
import IrisFirmware.Misc.Amp.BulkWrite
import IrisFirmware.Misc.Amp.Loading

namespace PegaAmp

open CText Loop Run Sequencer

def Coherent (a : Amp) : Prop := a.curPage = a.chip.page ∧ a.curBook = a.chip.book

instance (a : Amp) : Decidable (Coherent a) :=
  inferInstanceAs (Decidable (a.curPage = a.chip.page ∧ a.curBook = a.chip.book))

-- the data write the chip carries out: the loop ends at the first result unlike 0
def sent (ok : Nat → Bool) (regAddr : Nat) : Nat → List Nat → List (Nat × Nat)
  | _, [] => []
  | i, d :: _ => if ok i then [((regAddr + i) % 2 ^ 8, d)] else []

def requested (book page : Nat) (ws : List (Nat × Nat)) : List (Address × Nat) :=
  ws.map fun w => ((book, page, w.1), w.2)

def Lands (a : Amp) : AmpOp → Prop
  | .bulkWrite ok book page regAddr regData =>
    let b := selectBook ok.book book a
    let p := selectPage ok.page page b.1
    b.2 = 0 → p.2 = 0 →
      (bulkWriteReg ok book page regAddr regData a).1.chip.landed =
        p.1.chip.landed ++ requested book page (sent ok.data regAddr 0 regData)
  | _ => True

def carried (ts : List Transfer) : List (Nat × Nat) :=
  ts.filterMap fun t => if t.ok then some (t.reg, t.val) else none

def inPlace (book page : Nat) (w : Nat × Nat) : Prop :=
  (w.1 = tasPage → w.2 = page) ∧ (w.1 = tasBook → w.2 = book)

def Holds (s : Option Amp) (op : AmpOp) : Prop :=
  ∃ a b, s = some a ∧ ampCall a op = some b ∧ Coherent b ∧ Lands a op

def LastHolds (ok : Nat → Bool) (ws : List (Nat × Nat)) (reg sel : Nat) : Prop :=
  ∀ i v, ws[i]? = some (reg, v) → ok i = true →
    (∀ j u, i < j → ws[j]? = some (reg, u) → ok j = false) → v = sel

def zeroed (ok : Nat → Bool) (a : Amp) : Prop :=
  (ok 0 = true → a.curPage = 0) ∧ (ok 1 = true → a.curBook = 0)

def keeps (a : Amp) : AmpOp → Prop
  | .bulkWrite ok book page regAddr regData =>
    if book ≠ a.curBook then ok.book = true
    else if page ≠ a.curPage then ok.page = true
    else ∀ d ∈ regData.head?, ok.data 0 = true → inPlace book page (regAddr % 2 ^ 8, d)
  | .regWrite ok ucRegID val =>
    (if ok 2 = true ∧ ucRegID = tasPage then val = a.curPage else ok 0 = true → a.curPage = 0) ∧
      (if ok 2 = true ∧ ucRegID = tasBook then val = a.curBook else ok 1 = true → a.curBook = 0)
  | .regRead ok _ => zeroed ok a
  | .mute ok _ => zeroed ok a
  | .volume ok _ => zeroed ok a
  | .reset ok => zeroed ok a
  | .config ok text => loadable text ∧
    LastHolds ok (denoted 0 (lines text)) tasPage a.curPage ∧
    LastHolds ok (denoted 0 (lines text)) tasBook a.curBook

def Keeps (s : Option Amp) (op : AmpOp) : Prop := ∃ a, s = some a ∧ keeps a op

def AmpOp.readable : AmpOp → Prop
  | .config _ text => loadable text
  | _ => True

def Chip.writes (c : Chip) (ws : List (Nat × Nat)) : Chip :=
  ws.foldl (fun c w => c.write w.1 w.2) c

namespace Chip

theorem writes_concat (c : Chip) (ws : List (Nat × Nat)) (w : Nat × Nat) :
    c.writes (ws ++ [w]) = (c.writes ws).write w.1 w.2 := by
  rw [writes, List.foldl_append]
  rfl

theorem writes_page (c : Chip) (ws : List (Nat × Nat)) :
    (c.writes ws).page = (last ws tasPage).getD c.page := by
  induction ws using List.reverseRecOn with
  | nil => rfl
  | append_singleton ws w ih =>
    rw [writes_concat, last_concat, write]
    rcases eq_or_ne w.1 tasPage with hw | hw
    · simp [hw]
    · simp [hw, Ne.symm hw, ih]

theorem writes_book (c : Chip) (ws : List (Nat × Nat)) :
    (c.writes ws).book = (last ws tasBook).getD c.book := by
  induction ws using List.reverseRecOn with
  | nil => rfl
  | append_singleton ws w ih =>
    rw [writes_concat, last_concat, write]
    rcases eq_or_ne w.1 tasBook with hw | hw
    · simp [hw]
    · simp [hw, Ne.symm hw, ih]

theorem landed_writes (c : Chip) (ws : List (Nat × Nat)) :
    ∃ more, (c.writes ws).landed = c.landed ++ more := by
  induction ws using List.reverseRecOn with
  | nil => exact ⟨[], (List.append_nil _).symm⟩
  | append_singleton ws w ih =>
    obtain ⟨more, hmore⟩ := ih
    rw [writes_concat, write, hmore, List.append_assoc]
    exact ⟨_, rfl⟩

theorem write_selects_iff {c : Chip} {book page : Nat} (hb : c.book = book) (hp : c.page = page)
    (w : Nat × Nat) :
    ((c.write w.1 w.2).book = book ∧ (c.write w.1 w.2).page = page) ↔ inPlace book page w := by
  simp only [write, inPlace, hb, hp, ite_eq_right_iff]
  exact And.comm

theorem writes_selects_iff {c : Chip} {book page : Nat} (hb : c.book = book) (hp : c.page = page)
    (ws : List (Nat × Nat)) :
    ((c.writes ws).book = book ∧ (c.writes ws).page = page ∧
      (c.writes ws).landed = c.landed ++ requested book page ws) ↔
      ∀ w ∈ ws, inPlace book page w := by
  induction ws generalizing c with
  | nil => simp [writes, requested, hb, hp]
  | cons w ws ih =>
    have hfirst : (c.write w.1 w.2).landed = c.landed ++ requested book page [w] := by
      rw [write, hb, hp]
      rfl
    have hrest : c.landed ++ requested book page (w :: ws) =
        (c.write w.1 w.2).landed ++ requested book page ws := by
      rw [hfirst, List.append_assoc]
      rfl
    rw [List.forall_mem_cons, hrest]
    constructor
    · rintro ⟨hbook, hpage, hlanded⟩
      have hw : (c.write w.1 w.2).book = book ∧ (c.write w.1 w.2).page = page := by
        rcases ws with _ | ⟨v, ws⟩
        · exact ⟨hbook, hpage⟩
        · obtain ⟨more, hmore⟩ := landed_writes ((c.write w.1 w.2).write v.1 v.2) ws
          have hnext := hmore.symm.trans hlanded
          rw [write, List.append_assoc, List.append_cancel_left_eq, requested, List.map_cons,
            List.singleton_append, List.cons.injEq, Prod.mk.injEq, Prod.mk.injEq,
            Prod.mk.injEq] at hnext
          exact ⟨hnext.1.1.1, hnext.1.1.2.1⟩
      exact ⟨(write_selects_iff hb hp w).mp hw, (ih hw.1 hw.2).mp ⟨hbook, hpage, hlanded⟩⟩
    · rintro ⟨hw, hws⟩
      obtain ⟨hwb, hwp⟩ := (write_selects_iff hb hp w).mpr hw
      exact (ih hwb hwp).mpr hws

end Chip

theorem perform_eq (ts : List Transfer) (a : Amp) :
    perform ts a = { a with chip := a.chip.writes (carried ts), calls := a.calls ++ ts } := by
  induction ts generalizing a with
  | nil => exact congrArg (fun calls => { a with calls := calls }) (List.append_nil _).symm
  | cons t ts ih =>
    obtain ⟨ok, reg, val⟩ := t
    change perform ts (i2cWrite ok reg val a).1 = _
    rw [ih, i2cWrite_calls, List.append_assoc]
    cases ok <;> rfl

theorem coherent_perform_iff {a : Amp} (h : Coherent a) (ts : List Transfer) :
    Coherent (perform ts a) ↔ (last (carried ts) tasPage).getD a.curPage = a.curPage ∧
      (last (carried ts) tasBook).getD a.curBook = a.curBook := by
  rw [perform_eq, Coherent, Chip.writes_page, Chip.writes_book, ← h.1, ← h.2]
  exact and_congr eq_comm eq_comm

theorem carried_append (ts us : List Transfer) : carried (ts ++ us) = carried ts ++ carried us :=
  List.filterMap_append

theorem carried_single (ok : Bool) (reg val : Nat) :
    carried [⟨ok, reg, val⟩] = if ok then [(reg, val)] else [] := by
  cases ok <;> rfl

theorem last_carried_concat (ts : List Transfer) (t : Transfer) (reg : Nat) :
    last (carried (ts ++ [t])) reg =
      if t.ok = true ∧ t.reg = reg then some t.val else last (carried ts) reg := by
  rw [carried_append, carried_single]
  cases hok : t.ok with
  | false => simp
  | true => simp [last_concat, eq_comm]

theorem last_selectFirst (ok : Nat → Bool) :
    last (carried (selectFirst ok)) tasPage = (if ok 0 = true then some 0 else none) ∧
      last (carried (selectFirst ok)) tasBook = if ok 1 = true then some 0 else none := by
  have hsplit : selectFirst ok = [] ++ [⟨ok 0, tasPage, 0⟩] ++ [⟨ok 1, tasBook, 0⟩] := rfl
  rw [hsplit]
  simp only [last_carried_concat]
  constructor
  · simp [carried, last, tasPage, tasBook]
  · simp [carried, last, tasPage, tasBook]

theorem getD_zero_iff (b : Bool) (n : Nat) :
    (if b = true then some 0 else none).getD n = n ↔ (b = true → n = 0) := by
  cases b with
  | false => simp
  | true => simpa using eq_comm

theorem coherent_selectFirst_iff {a : Amp} (h : Coherent a) (ok : Nat → Bool) :
    Coherent (perform (selectFirst ok) a) ↔ zeroed ok a := by
  rw [coherent_perform_iff h, (last_selectFirst ok).1, (last_selectFirst ok).2, getD_zero_iff,
    getD_zero_iff]
  exact Iff.rfl

theorem coherent_regWrite_iff {a : Amp} (h : Coherent a) (ok : Nat → Bool) (ucRegID val : Nat) :
    Coherent (regWrite ok ucRegID val a) ↔ keeps a (.regWrite ok ucRegID val) := by
  rw [regWrite, coherent_perform_iff h, last_carried_concat, last_carried_concat,
    (last_selectFirst ok).1, (last_selectFirst ok).2, keeps]
  refine and_congr ?_ ?_
  · by_cases hw : ok 2 = true ∧ ucRegID = tasPage
    · rw [if_pos hw, if_pos hw]
      rfl
    · rw [if_neg hw, if_neg hw, getD_zero_iff]
  · by_cases hw : ok 2 = true ∧ ucRegID = tasBook
    · rw [if_pos hw, if_pos hw]
      rfl
    · rw [if_neg hw, if_neg hw, getD_zero_iff]

theorem configTransfers_concat (ok : Nat → Bool) (ws : List (Nat × Nat)) (w : Nat × Nat) :
    configTransfers ok (ws ++ [w]) = configTransfers ok ws ++ [⟨ok ws.length, w.1, w.2⟩] :=
  List.mapIdx_concat

theorem lastHolds_concat (ok : Nat → Bool) (ws : List (Nat × Nat)) (w : Nat × Nat)
    (reg sel : Nat) :
    LastHolds ok (ws ++ [w]) reg sel ↔
      if ok ws.length = true ∧ w.1 = reg then w.2 = sel else LastHolds ok ws reg sel := by
  have hlast : (ws ++ [w])[ws.length]? = some w := by simp
  have hbefore : ∀ {i : Nat} {x : Nat × Nat}, ws[i]? = some x → (ws ++ [w])[i]? = some x := by
    intro i x hx
    rw [List.getElem?_append_left (List.getElem?_eq_some_iff.mp hx).1, hx]
  have hcases : ∀ {i : Nat} {x : Nat × Nat}, (ws ++ [w])[i]? = some x →
      ws[i]? = some x ∨ i = ws.length ∧ w = x := by
    intro i x hx
    rcases Nat.lt_trichotomy i ws.length with hi | rfl | hi
    · exact .inl (by rwa [List.getElem?_append_left hi] at hx)
    · exact .inr ⟨rfl, Option.some.inj (hlast.symm.trans hx)⟩
    · rw [List.getElem?_eq_none (by simpa using hi)] at hx
      cases hx
  split_ifs with hw
  · obtain ⟨hok, rfl⟩ := hw
    constructor
    · intro h
      refine h ws.length w.2 hlast hok fun j u hj hu => ?_
      rw [List.getElem?_eq_none (by simpa using hj)] at hu
      cases hu
    · intro hsel i v hv hi hlater
      rcases hcases hv with hold | ⟨-, hwv⟩
      · have hno := hlater ws.length w.2 (List.getElem?_eq_some_iff.mp hold).1 hlast
        exact absurd hok (by simp [hno])
      · exact (congrArg Prod.snd hwv).symm.trans hsel
  · constructor
    · intro h i v hv hi hlater
      refine h i v (hbefore hv) hi fun j u hj hu => ?_
      rcases hcases hu with hold | ⟨rfl, rfl⟩
      · exact hlater j u hj hold
      · exact Bool.eq_false_iff.mpr fun hok => hw ⟨hok, rfl⟩
    · intro h i v hv hi hlater
      rcases hcases hv with hold | ⟨rfl, rfl⟩
      · exact h i v hold hi fun j u hj hu => hlater j u hj (hbefore hu)
      · exact absurd ⟨hi, rfl⟩ hw

theorem lastHolds_iff (ok : Nat → Bool) (ws : List (Nat × Nat)) (reg sel : Nat) :
    (last (carried (configTransfers ok ws)) reg).getD sel = sel ↔ LastHolds ok ws reg sel := by
  induction ws using List.reverseRecOn with
  | nil => exact iff_of_true rfl fun i v hv => by simp at hv
  | append_singleton ws w ih =>
    rw [configTransfers_concat, last_carried_concat, lastHolds_concat]
    split_ifs
    · rfl
    · exact ih

theorem configWrites_eq {text : List Char} (h : Loads text) :
    configWrites text = some (denoted 0 (lines text)) := by
  rw [configWrites]
  have hrun := ends_of_run (Option.some_get (load_ends text)).symm
  rw [← h.unique hrun]
  rfl

theorem holds_of_some {a b : Amp} {op : AmpOp} (hcall : ampCall a op = some b) :
    Holds (some a) op ↔ Coherent b ∧ Lands a op := by
  constructor
  · rintro ⟨c, d, hc, hd, h⟩
    obtain rfl := Option.some.inj hc
    obtain rfl := Option.some.inj (hcall.symm.trans hd)
    exact h
  · exact fun h => ⟨a, b, rfl, hcall, h⟩

theorem keeps_some {a : Amp} {op : AmpOp} : Keeps (some a) op ↔ keeps a op := by
  simp [Keeps]

theorem config_holds_iff {a : Amp} (h : Coherent a) (ok : Nat → Bool) {text : List Char}
    (hload : loadable text) :
    Holds (some a) (.config ok text) ↔ Keeps (some a) (.config ok text) := by
  have hcall : ampCall a (.config ok text) =
      some (perform (configTransfers ok (denoted 0 (lines text))) a) := by
    rw [ampCall, loadAudioConfigFile, configWrites_eq (loads_of_loadable hload)]
    rfl
  rw [holds_of_some hcall, keeps_some, keeps, and_iff_right hload, ← lastHolds_iff,
    ← lastHolds_iff, ← coherent_perform_iff h]
  exact and_iff_left trivial

theorem coherent_i2cWrite_iff {reg : Nat} (hpage : reg ≠ tasPage) (hbook : reg ≠ tasBook)
    (ok : Bool) (val : Nat) (a : Amp) : Coherent (i2cWrite ok reg val a).1 ↔ Coherent a := by
  cases ok with
  | false => exact Iff.rfl
  | true => simp [i2cWrite, Coherent, Chip.write, hpage, hbook]

theorem coherent_updateBits_iff {reg : Nat} (hpage : reg ≠ tasPage) (hbook : reg ≠ tasBook)
    (okRead okWrite : Bool) (mask value : Nat) (a : Amp) :
    Coherent (updateBits okRead okWrite reg mask value a).1 ↔ Coherent a := by
  unfold updateBits
  dsimp only
  split_ifs
  · exact Iff.rfl
  · exact coherent_i2cWrite_iff hpage hbook ..
  · exact coherent_i2cWrite_iff hpage hbook ..
  · exact Iff.rfl

theorem coherent_book_iff {book : Nat} {a : Amp} (h : Coherent a) (hne : book ≠ a.curBook)
    (ok : Bool) : Coherent (i2cWrite ok tasBook book { a with curBook := book }).1 ↔ ok := by
  cases ok with
  | false => exact iff_of_false (fun hc => hne (hc.2.trans h.2.symm)) (by simp)
  | true => exact iff_of_true ⟨h.1, rfl⟩ rfl

theorem coherent_page_iff {page : Nat} {a : Amp} (h : Coherent a) (hne : page ≠ a.curPage)
    (ok : Bool) : Coherent (i2cWrite ok tasPage page { a with curPage := page }).1 ↔ ok := by
  cases ok with
  | false => exact iff_of_false (fun hc => hne (hc.1.trans h.1.symm)) (by simp)
  | true => exact iff_of_true ⟨rfl, h.2⟩ rfl

theorem writeData_eq (ok : Nat → Bool) (regAddr i : Nat) (ds : List Nat) (a : Amp) :
    (writeData ok regAddr i ds a).1.chip = a.chip.writes (sent ok regAddr i ds) ∧
      (writeData ok regAddr i ds a).1.curBook = a.curBook ∧
      (writeData ok regAddr i ds a).1.curPage = a.curPage := by
  cases ds with
  | nil => exact ⟨rfl, rfl, rfl⟩
  | cons d ds =>
    rw [writeData, if_pos (i2cWrite_ne_zero _ _ _ _), sent]
    cases ok i <;> exact ⟨rfl, rfl, rfl⟩

theorem sent_iff (ok : Nat → Bool) (book page regAddr : Nat) (regData : List Nat) :
    (∀ w ∈ sent ok regAddr 0 regData, inPlace book page w) ↔
      ∀ d ∈ regData.head?, ok 0 = true → inPlace book page (regAddr % 2 ^ 8, d) := by
  cases regData with
  | nil => simp [sent]
  | cons d ds => cases h : ok 0 <;> simp [sent, h]

theorem bulkWriteReg_iff {a : Amp} (h : Coherent a) (ok : BulkAnswers)
    (book page regAddr : Nat) (regData : List Nat) :
    Coherent (bulkWriteReg ok book page regAddr regData a).1 ∧
      Lands a (.bulkWrite ok book page regAddr regData) ↔
      keeps a (.bulkWrite ok book page regAddr regData) := by
  rw [keeps, Lands, bulkWriteReg, selectBook]
  by_cases hb : book = a.curBook
  case neg =>
    rw [if_pos hb, if_pos hb, if_pos (i2cWrite_ne_zero _ _ _ _)]
    exact (and_iff_left fun hb0 => absurd hb0 (i2cWrite_ne_zero _ _ _ _)).trans
      (coherent_book_iff h hb ok.book)
  case pos =>
    rw [if_neg (not_not.mpr hb), if_neg (not_not.mpr hb), if_neg (not_not.mpr rfl), selectPage]
    by_cases hp : page = a.curPage
    case neg =>
      rw [if_pos hp, if_pos hp, if_pos (i2cWrite_ne_zero _ _ _ _)]
      exact (and_iff_left fun _ hp0 => absurd hp0 (i2cWrite_ne_zero _ _ _ _)).trans
        (coherent_page_iff h hp ok.page)
    case pos =>
      rw [if_neg (not_not.mpr hp), if_neg (not_not.mpr hp), if_neg (not_not.mpr rfl)]
      obtain ⟨hchip, hcb, hcp⟩ := writeData_eq ok.data regAddr 0 regData a
      have hiff := Chip.writes_selects_iff (h.2.symm.trans hb.symm) (h.1.symm.trans hp.symm)
        (sent ok.data regAddr 0 regData)
      rw [← sent_iff, ← hiff, Coherent, hchip, hcb, hcp, hb, hp]
      constructor
      · rintro ⟨⟨hpage, hbook⟩, hlanded⟩
        exact ⟨hbook.symm, hpage.symm, hlanded rfl rfl⟩
      · rintro ⟨hbook, hpage, hlanded⟩
        exact ⟨⟨hpage.symm, hbook.symm⟩, fun _ _ => hlanded⟩

theorem holds_iff {a : Amp} (h : Coherent a) {op : AmpOp} (hop : op.readable) :
    Holds (some a) op ↔ Keeps (some a) op := by
  cases op with
  | config ok text => exact config_holds_iff h ok hop
  | bulkWrite ok book page regAddr regData =>
    rw [holds_of_some rfl, keeps_some]
    exact bulkWriteReg_iff h ok book page regAddr regData
  | regWrite ok ucRegID val =>
    rw [holds_of_some rfl, keeps_some]
    exact (and_iff_left trivial).trans (coherent_regWrite_iff h ok ucRegID val)
  | regRead ok ucRegID =>
    rw [holds_of_some rfl, keeps_some]
    exact (and_iff_left trivial).trans (coherent_selectFirst_iff h ok)
  | mute ok bMute =>
    rw [holds_of_some rfl, keeps_some]
    exact (and_iff_left trivial).trans ((coherent_updateBits_iff (by decide : tasPwrCtl ≠ tasPage)
      (by decide) ..).trans (coherent_selectFirst_iff h ok))
  | volume ok fdB =>
    rw [holds_of_some rfl, keeps_some]
    exact (and_iff_left trivial).trans ((coherent_updateBits_iff (by decide : tasPbCfg1 ≠ tasPage)
      (by decide) ..).trans (coherent_selectFirst_iff h ok))
  | reset ok =>
    rw [holds_of_some rfl, keeps_some]
    exact (and_iff_left trivial).trans ((coherent_i2cWrite_iff
      (by decide : tasSwReset ≠ tasPage) (by decide) (ok 2) 1 _).trans
      (coherent_selectFirst_iff h ok))

theorem keeps_readable {s : Option Amp} {op : AmpOp} (h : Keeps s op) : op.readable := by
  obtain ⟨a, -, hkeeps⟩ := h
  cases op with
  | config ok text => exact hkeeps.1
  | _ => trivial

def CoherentState (s : Option Amp) : Prop := ∃ a, s = some a ∧ Coherent a

theorem readable_holds_iff {s : Option Amp} (h : CoherentState s) (op : AmpOp) :
    op.readable ∧ Holds s op ↔ Keeps s op := by
  obtain ⟨a, rfl, ha⟩ := h
  constructor
  · rintro ⟨hop, hholds⟩
    exact (holds_iff ha hop).mp hholds
  · intro hkeeps
    have hop := keeps_readable hkeeps
    exact ⟨hop, (holds_iff ha hop).mpr hkeeps⟩

theorem holds_coherent {s : Option Amp} {op : AmpOp} (h : Holds s op) :
    CoherentState (ampStep s op) := by
  obtain ⟨a, b, rfl, hcall, hcoherent, -⟩ := h
  exact ⟨b, hcall, hcoherent⟩

def everyWrite : Nat → Bool := fun _ => true

end PegaAmp
