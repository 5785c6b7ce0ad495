import IrisFirmware.Library.Metered
import IrisFirmware.Library.Register

namespace Regmap

open Fallible Metered

structure Map (A : Type) (w : Nat) where
  dev : A → BitVec w
  cache : A → Option (BitVec w)
  bypass : Bool
  bus : Nat → Bool

variable {A E : Type} {w : Nat} [DecidableEq A]

def transfer (fault : E) : EStateM E (Map A w) Unit := fun m =>
  let after := { m with bus := fun n => m.bus (n + 1) }
  if m.bus 0 then .ok () after else .error fault after

variable (vol : A → Bool) (fault : E)

def cached (m : Map A w) (reg : A) : Option (BitVec w) :=
  if m.bypass || vol reg then none else m.cache reg

def keep (reg : A) (v : Option (BitVec w)) (m : Map A w) : Map A w :=
  if m.bypass || vol reg then m else { m with cache := Function.update m.cache reg v }

def read (reg : A) : EStateM E (Map A w) (BitVec w) := do
  match cached vol (← get) reg with
  | some v => return v
  | none =>
    transfer fault
    let v := (← get).dev reg
    modify (keep vol reg (some v))
    return v

-- a write that fails drops the register from the cache
def write (reg : A) (v : BitVec w) : EStateM E (Map A w) Unit := fun m =>
  match transfer fault m with
  | .ok _ m => .ok () (keep vol reg (some v) { m with dev := Function.update m.dev reg v })
  | .error e m => .error e (keep vol reg none m)

def updateBits (reg : A) (mask v : BitVec w) : EStateM E (Map A w) Unit := do
  let orig ← read vol fault reg
  let new := Register.put mask v orig
  if new ≠ orig then write vol fault reg new

def readEach : List A → EStateM E (Map A w) (List (BitVec w))
  | [] => return []
  | reg :: regs => do
    let v ← read vol fault reg
    let vs ← readEach regs
    return v :: vs

def bulkRead (regs : List A) : EStateM E (Map A w) (List (BitVec w)) := do
  if regs.all vol then
    transfer fault
    return regs.map (← get).dev
  else readEach vol fault regs

def bypassed {α : Type} (x : EStateM E (Map A w) α) : EStateM E (Map A w) α := fun m =>
  match x { m with bypass := true } with
  | .ok a m => .ok a { m with bypass := false }
  | .error e m => .error e { m with bypass := false }

def syncReg (reg : A) : EStateM E (Map A w) Unit := do
  match cached vol { (← get) with bypass := false } reg with
  | some v => bypassed (write vol fault reg v)
  | none => return

def sync : List A → EStateM E (Map A w) Unit
  | [] => return
  | reg :: regs => do
    syncReg vol fault reg
    sync regs

def Live (m : Map A w) : Prop := ∀ n, m.bus n

variable {vol fault} {m : Map A w}

omit [DecidableEq A] in
theorem transfer_live (h : Live m) : transfer fault m = .ok () m := by
  have hbus : (fun n => m.bus (n + 1)) = m.bus := funext fun n => (h _).trans (h _).symm
  rw [transfer, hbus, if_pos (h 0)]

@[simp] theorem keep_dev (reg : A) (v : Option (BitVec w)) (m : Map A w) :
    (keep vol reg v m).dev = m.dev := by
  rw [keep]
  split_ifs <;> rfl

@[simp] theorem keep_bus (reg : A) (v : Option (BitVec w)) (m : Map A w) :
    (keep vol reg v m).bus = m.bus := by
  rw [keep]
  split_ifs <;> rfl

theorem live_keep (h : Live m) (reg : A) (v : Option (BitVec w)) : Live (keep vol reg v m) := by
  intro n
  rw [keep_bus]
  exact h n

theorem read_live (h : Live m) (reg : A) :
    Succeeds (read vol fault reg) m fun _ t => Live t ∧ t.dev = m.dev := by
  refine Succeeds.get_bind ?_
  cases cached vol m reg with
  | some v => exact .ret ⟨h, rfl⟩
  | none =>
    refine ⟨m.dev reg, keep vol reg (some (m.dev reg)) m, ?_, live_keep h _ _, keep_dev ..⟩
    dsimp only
    rw [bind_run (transfer_live h)]
    rfl

theorem readEach_live (h : Live m) (regs : List A) :
    Succeeds (readEach vol fault regs) m fun _ t => Live t ∧ t.dev = m.dev := by
  induction regs generalizing m with
  | nil => exact .ret ⟨h, rfl⟩
  | cons reg regs ih =>
    refine (read_live h reg).bind ?_
    rintro v t ⟨ht, hdev⟩
    refine (ih ht).bind ?_
    rintro vs u ⟨hu, hudev⟩
    exact .ret ⟨hu, hudev.trans hdev⟩

theorem bulkRead_volatile (h : Live m) {regs : List A} (hregs : regs.all vol) :
    bulkRead vol fault regs m = .ok (regs.map m.dev) m := by
  rw [bulkRead, if_pos hregs, bind_run (transfer_live h)]
  rfl

theorem bulkRead_live (h : Live m) (regs : List A) :
    Succeeds (bulkRead vol fault regs) m fun _ t => Live t ∧ t.dev = m.dev := by
  by_cases hregs : regs.all vol
  · exact ⟨regs.map m.dev, m, bulkRead_volatile h hregs, h, rfl⟩
  · rw [bulkRead, if_neg hregs]
    exact readEach_live h regs

theorem write_live (h : Live m) (reg : A) (v : BitVec w) :
    Succeeds (write vol fault reg v) m fun _ t => Live t ∧ t.dev = Function.update m.dev reg v := by
  have hdone : Live { m with dev := Function.update m.dev reg v } := h
  exact ⟨(), keep vol reg (some v) { m with dev := Function.update m.dev reg v },
    by rw [write, transfer_live h], live_keep hdone _ _, keep_dev ..⟩

theorem updateBits_live (h : Live m) (reg : A) (mask v : BitVec w) :
    Succeeds (updateBits vol fault reg mask v) m fun _ t =>
      Live t ∧ ∀ r ≠ reg, t.dev r = m.dev r := by
  refine Succeeds.bind (read_live h reg) ?_
  rintro orig t ⟨ht, hdev⟩
  dsimp only
  split_ifs with hnew
  · refine (write_live ht reg _).mono ?_
    rintro _ u ⟨hu, hudev⟩
    refine ⟨hu, fun r hr => ?_⟩
    rw [hudev, Function.update_of_ne hr, hdev]
  · exact .ret ⟨ht, fun r _ => congrFun hdev r⟩

section throws

omit [DecidableEq A] in
theorem throws_transfer : Throws (· = fault) (transfer fault : EStateM E (Map A w) Unit) := by
  intro m e t h
  rw [transfer] at h
  split_ifs at h
  obtain ⟨rfl, -⟩ := EStateM.Result.error.inj h
  rfl

theorem throws_read (reg : A) : Throws (· = fault) (read vol fault reg : EStateM E (Map A w) _) := by
  refine .get_bind fun m => ?_
  cases cached vol m reg with
  | some v => exact .ret v
  | none => exact throws_transfer.bind fun _ => .get_bind fun t => .bind (.modify _) fun _ => .ret _

theorem throws_write (reg : A) (v : BitVec w) : Throws (· = fault) (write vol fault reg v) := by
  intro m e t h
  rw [write] at h
  cases hrun : transfer fault m with
  | ok _ u =>
    rw [hrun] at h
    cases h
  | error e' u =>
    rw [hrun] at h
    obtain ⟨rfl, -⟩ := EStateM.Result.error.inj h
    exact throws_transfer m e' u hrun

theorem throws_updateBits (reg : A) (mask v : BitVec w) :
    Throws (· = fault) (updateBits vol fault reg mask v) :=
  (throws_read reg).bind fun _ => .ite (throws_write reg _) (.ret ())

end throws

def Agrees (reg : A) (m : Map A w) : Prop := m.bypass = false ∧ ∀ v ∈ m.cache reg, m.dev reg = v

structure Moved (vol : A → Bool) (reg : A) (m t : Map A w) : Prop where
  dev : ∀ r ≠ reg, t.dev r = m.dev r
  cached : ∀ r ≠ reg, cached vol t r = cached vol m r
  agrees : ∀ r, vol r = false → Agrees r m → Agrees r t

section costs

omit [DecidableEq A] in
theorem Moved.trans {reg : A} {m t u : Map A w} (h : Moved vol reg m t)
    (h' : Moved vol reg t u) : Moved vol reg m u :=
  ⟨fun r hr => (h'.dev r hr).trans (h.dev r hr),
    fun r hr => (h'.cached r hr).trans (h.cached r hr),
    fun r hv ha => h'.agrees r hv (h.agrees r hv ha)⟩

omit [DecidableEq A] in
theorem moved_refl (reg : A) (m : Map A w) : Moved vol reg m m :=
  ⟨fun _ _ => rfl, fun _ _ => rfl, fun _ _ h => h⟩

omit [DecidableEq A] in
theorem moved_bus (reg : A) (m : Map A w) (bus : Nat → Bool) :
    Moved vol reg m { m with bus := bus } :=
  ⟨fun _ _ => rfl, fun _ _ => rfl, fun _ _ h => h⟩

theorem cached_keep {reg r : A} (hr : r ≠ reg) (v : Option (BitVec w)) (m : Map A w) :
    cached vol (keep vol reg v m) r = cached vol m r := by
  rw [keep]
  split_ifs
  · rfl
  · simp [cached, Function.update_of_ne hr]

theorem agrees_keep {reg : A} {v : Option (BitVec w)} (hv : ∀ x ∈ v, m.dev reg = x) {r : A}
    (ha : Agrees r m) : Agrees r (keep vol reg v m) := by
  rw [keep]
  split_ifs
  · exact ha
  · refine ⟨ha.1, fun x hx => ?_⟩
    dsimp only at hx ⊢
    by_cases hreg : r = reg
    · subst hreg
      rw [Function.update_self] at hx
      exact hv x hx
    · rw [Function.update_of_ne hreg] at hx
      exact ha.2 x hx

theorem moved_keep (reg : A) (v : Option (BitVec w)) (hv : ∀ x ∈ v, m.dev reg = x) :
    Moved vol reg m (keep vol reg v m) :=
  ⟨fun r _ => congrFun (keep_dev reg v m) r, fun _ hr => cached_keep hr v m,
    fun _ _ ha => agrees_keep hv ha⟩

omit [DecidableEq A] in
theorem transfer_costs (m : Map A w) :
    Costs Map.bus 1 (transfer fault) m (fun _ t => t = { m with bus := fun n => m.bus (n + 1) })
      fun _ t => t = { m with bus := fun n => m.bus (n + 1) } := by
  constructor
  · intro hall
    exact ⟨(), _, by rw [transfer, if_pos (hall 0 Nat.zero_lt_one)], rfl, rfl⟩
  · intro n hn _ hno
    obtain rfl := Nat.lt_one_iff.mp hn
    exact ⟨fault, _, by rw [transfer, if_neg (by simp [hno])], rfl⟩

def readTransfers (vol : A → Bool) (m : Map A w) (reg : A) : Nat :=
  if (cached vol m reg).isNone then 1 else 0

def readValue (vol : A → Bool) (m : Map A w) (reg : A) : BitVec w :=
  (cached vol m reg).getD (m.dev reg)

theorem read_costs (m : Map A w) (reg : A) :
    Costs Map.bus (readTransfers vol m reg) (read vol fault reg) m
      (fun v t => v = readValue vol m reg ∧ t.dev = m.dev ∧ Moved vol reg m t)
      fun _ t => t.dev = m.dev ∧ Moved vol reg m t := by
  refine .get_bind ?_
  unfold readTransfers readValue
  cases cached vol m reg with
  | some v => exact .ret ⟨rfl, rfl, moved_refl reg m⟩
  | none =>
    refine Costs.bind (k := 0) (F := fun _ t => t.dev = m.dev ∧ Moved vol reg m t)
      ((transfer_costs m).mono (fun _ _ h => h) ?_) ?_
    · rintro n _ - rfl
      exact ⟨rfl, moved_bus reg m _⟩
    · rintro _ _ rfl
      refine .get_bind (.modify_bind (keep_bus ..) (.ret ⟨rfl, keep_dev .., ?_⟩))
      exact (moved_bus reg m _).trans (moved_keep _ _ (by simp))

theorem write_costs (m : Map A w) (reg : A) (v : BitVec w) :
    Costs Map.bus 1 (write vol fault reg v) m
      (fun _ t => t.dev reg = v ∧ Moved vol reg m t)
      fun _ t => t.dev = m.dev ∧ Moved vol reg m t := by
  have htransfer : Costs Map.bus 1 (transfer fault) m _ _ := transfer_costs m
  constructor
  · intro hall
    obtain ⟨_, _, hrun, hbus, rfl⟩ := htransfer.answered hall
    let done : Map A w :=
      { m with dev := Function.update m.dev reg v, bus := fun n => m.bus (n + 1) }
    have hdone : done.dev reg = v := Function.update_self ..
    refine ⟨(), keep vol reg (some v) done, by rw [write, hrun], (keep_bus ..).trans hbus, ?_, ?_⟩
    · rw [keep_dev, hdone]
    · refine ⟨fun r hr => ?_, fun r hr => cached_keep hr _ _, fun r hr ha => ?_⟩
      · rw [keep_dev]
        exact Function.update_of_ne hr ..
      · by_cases hreg : r = reg
        · subst hreg
          rw [keep, if_neg (by simp [done, hr, ha.1])]
          refine ⟨ha.1, fun x hx => ?_⟩
          dsimp only at hx ⊢
          rw [Function.update_self] at hx
          exact hdone.trans (Option.some_inj.mp hx)
        · have hsame : done.dev r = m.dev r := Function.update_of_ne hreg ..
          refine agrees_keep (by simp [hdone]) ⟨ha.1, fun x hx => ?_⟩
          exact hsame.trans (ha.2 x hx)
  · intro n hn hbefore hno
    obtain ⟨e, _, hrun, rfl⟩ := htransfer.refused n hn hbefore hno
    exact ⟨e, keep vol reg none { m with bus := fun n => m.bus (n + 1) }, by rw [write, hrun],
      keep_dev .., (moved_bus reg m _).trans (moved_keep reg none (by simp))⟩

def updateTransfers (vol : A → Bool) (m : Map A w) (reg : A) (mask v : BitVec w) : Nat :=
  readTransfers vol m reg +
    if Register.put mask v (readValue vol m reg) ≠ readValue vol m reg then 1 else 0

theorem updateBits_costs (m : Map A w) (reg : A) (mask v : BitVec w) :
    Costs Map.bus (updateTransfers vol m reg mask v) (updateBits vol fault reg mask v) m
      (fun _ t => Moved vol reg m t) fun _ t => Moved vol reg m t := by
  unfold updateTransfers updateBits
  refine Costs.bind ((read_costs m reg).mono (fun _ _ h => h) fun _ _ _ h => h.2) ?_
  rintro _ t ⟨rfl, -, ht⟩
  dsimp only
  split_ifs
  · exact (write_costs t reg _).mono (fun _ _ h => ht.trans h.2) fun _ _ _ h => ht.trans h.2
  · exact .ret ht

theorem bypassed_write_costs (m : Map A w) (reg : A) (v : BitVec w) :
    Costs Map.bus 1 (bypassed (write vol fault reg v)) m
      (fun _ t => t = { m with
        dev := Function.update m.dev reg v, bus := fun n => m.bus (n + 1), bypass := false })
      fun _ t => t = { m with bus := fun n => m.bus (n + 1), bypass := false } := by
  have htransfer : Costs Map.bus 1 (transfer fault) { m with bypass := true } _ _ :=
    transfer_costs { m with bypass := true }
  constructor
  · intro hall
    obtain ⟨_, _, hrun, hbus, rfl⟩ := htransfer.answered hall
    exact ⟨(), { m with dev := Function.update m.dev reg v, bus := _, bypass := false },
      by rw [bypassed, write, hrun]; rfl, hbus, rfl⟩
  · intro n hn hbefore hno
    obtain ⟨e, _, hrun, rfl⟩ := htransfer.refused n hn hbefore hno
    exact ⟨e, { m with bus := _, bypass := false }, by rw [bypassed, write, hrun]; rfl, rfl⟩

theorem bulkRead_costs (m : Map A w) {regs : List A} (hregs : regs.all vol) :
    Costs Map.bus 1 (bulkRead vol fault regs) m
      (fun _ t => t = { m with bus := fun n => m.bus (n + 1) })
      fun _ t => t = { m with bus := fun n => m.bus (n + 1) } := by
  rw [bulkRead, if_pos hregs]
  refine Costs.bind (k := 0) ((transfer_costs m).mono (fun _ _ h => h) fun _ _ _ h => h) ?_
  rintro _ _ rfl
  exact .get_bind (.ret rfl)

omit [DecidableEq A] in
theorem readValue_agrees {reg : A} (hv : vol reg = false) (ha : Agrees reg m) :
    readValue vol m reg = m.dev reg := by
  rw [readValue, cached, if_neg (by simp [hv, ha.1])]
  cases hc : m.cache reg with
  | none => rfl
  | some x => exact (ha.2 x hc).symm

theorem updateBits_put {reg : A} (hv : vol reg = false) (ha : Agrees reg m)
    (mask v : BitVec w) :
    Costs Map.bus (updateTransfers vol m reg mask v) (updateBits vol fault reg mask v) m
      (fun _ t => t.dev reg = Register.put mask v (m.dev reg) ∧ Moved vol reg m t)
      fun _ t => t.dev = m.dev ∧ Moved vol reg m t := by
  unfold updateTransfers updateBits
  refine Costs.bind ((read_costs m reg).mono (fun _ _ h => h) fun _ _ _ h => h) ?_
  rintro _ t ⟨rfl, hdev, ht⟩
  rw [readValue_agrees hv ha]
  dsimp only
  split_ifs with hnew
  · exact (write_costs t reg _).mono (fun _ _ h => ⟨h.1, ht.trans h.2⟩)
      fun _ _ _ h => ⟨h.1.trans hdev, ht.trans h.2⟩
  · exact .ret ⟨by rw [hdev, not_not.mp hnew], ht⟩

theorem updateBits_agrees (h : Live m) {reg : A} (hv : vol reg = false) (ha : Agrees reg m)
    (mask v : BitVec w) :
    Succeeds (updateBits vol fault reg mask v) m fun _ t =>
      Live t ∧ t.dev reg = Register.put mask v (m.dev reg) ∧ Moved vol reg m t := by
  refine ((updateBits_put hv ha mask v).succeeds h).mono ?_
  rintro _ t ⟨hput, hlive⟩
  exact ⟨hlive, hput⟩

end costs

section through

theorem keep_bypass (h : m.bypass = true) (reg : A) (v : Option (BitVec w)) :
    keep vol reg v m = m := by
  rw [keep, if_pos (by simp [h])]

theorem read_bypass (h : Live m) (hb : m.bypass = true) (reg : A) :
    read vol fault reg m = .ok (m.dev reg) m := by
  rw [read, get_bind_run, cached, if_pos (by simp [hb])]
  dsimp only
  rw [bind_run (transfer_live h)]
  change EStateM.Result.ok (m.dev reg) (keep vol reg (some (m.dev reg)) m) = _
  rw [keep_bypass hb]

theorem write_bypass (h : Live m) (hb : m.bypass = true) (reg : A) (v : BitVec w) :
    write vol fault reg v m = .ok () { m with dev := Function.update m.dev reg v } := by
  have hdone : { m with dev := Function.update m.dev reg v }.bypass = true := hb
  rw [write, transfer_live h]
  exact congrArg (EStateM.Result.ok ()) (keep_bypass hdone reg (some v))

theorem updateBits_bypass (h : Live m) (hb : m.bypass = true) (reg : A) (mask v : BitVec w) :
    updateBits vol fault reg mask v m = .ok ()
      { m with dev := Function.update m.dev reg (Register.put mask v (m.dev reg)) } := by
  rw [updateBits, bind_run (read_bypass h hb reg)]
  by_cases hnew : Register.put mask v (m.dev reg) ≠ m.dev reg
  · rw [if_pos hnew]
    exact write_bypass h hb reg _
  · rw [if_neg hnew, not_not.mp hnew, Function.update_eq_self]
    rfl

theorem bypassed_write_live (h : Live m) (reg : A) (v : BitVec w) :
    bypassed (write vol fault reg v) m =
      .ok () { m with dev := Function.update m.dev reg v, bypass := false } := by
  have hlive : Live { m with bypass := true } := h
  rw [bypassed, write_bypass hlive rfl]

theorem syncReg_live (h : Live m) (reg : A) :
    Succeeds (syncReg vol fault reg) m fun _ t =>
      Live t ∧ ∀ r, Agrees r m → Agrees r t ∧ t.dev r = m.dev r := by
  refine .get_bind ?_
  cases hv : cached vol { m with bypass := false } reg with
  | none => exact .ret ⟨h, fun r ha => ⟨ha, rfl⟩⟩
  | some v =>
    refine ⟨(), _, bypassed_write_live h reg v, h, fun r ha => ?_⟩
    have hsame : Function.update m.dev reg v r = m.dev r := by
      by_cases hr : r = reg
      · subst hr
        have hcached : m.cache r = some v := by
          rw [cached] at hv
          split_ifs at hv
          exact hv
        rw [Function.update_self, ha.2 v hcached]
      · exact Function.update_of_ne hr ..
    exact ⟨⟨rfl, fun x hx => hsame.trans (ha.2 x hx)⟩, hsame⟩

theorem sync_live (h : Live m) (regs : List A) :
    Succeeds (sync vol fault regs) m fun _ t =>
      Live t ∧ ∀ r, Agrees r m → Agrees r t ∧ t.dev r = m.dev r := by
  induction regs generalizing m with
  | nil => exact .ret ⟨h, fun r ha => ⟨ha, rfl⟩⟩
  | cons reg regs ih =>
    refine (syncReg_live h reg).bind ?_
    rintro _ t ⟨ht, hkept⟩
    refine (ih ht).mono ?_
    rintro _ u ⟨hu, hkept'⟩
    refine ⟨hu, fun r ha => ?_⟩
    obtain ⟨hat, hdev⟩ := hkept r ha
    obtain ⟨hau, hdev'⟩ := hkept' r hat
    exact ⟨hau, hdev'.trans hdev⟩

end through

end Regmap
