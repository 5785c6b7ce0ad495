import IrisFirmware.Library.Regmap

namespace Regmap

open Fallible

variable {A E : Type} {w : Nat} [DecidableEq A] {vol : A → Bool} {fault : E} {m : Map A w}

section keeps

variable {J : Map A w → Prop}

theorem keeps_updateBits {reg : A} (hread : Keeps J (read vol fault reg))
    (hwrite : ∀ v, Keeps J (write vol fault reg v)) (mask v : BitVec w) :
    Keeps J (updateBits vol fault reg mask v) :=
  .bind hread fun _ => .ite (hwrite _) (.ret ())

theorem keeps_readEach (hread : ∀ reg, Keeps J (read vol fault reg)) (regs : List A) :
    Keeps J (readEach vol fault regs) := by
  induction regs with
  | nil => exact .ret []
  | cons reg regs ih => exact .bind (hread reg) fun v => .bind ih fun vs => .ret (v :: vs)

theorem keeps_bulkRead (hread : ∀ reg, Keeps J (read vol fault reg))
    (htransfer : Keeps J (transfer fault)) (regs : List A) :
    Keeps J (bulkRead vol fault regs) :=
  .ite (.bind htransfer fun _ => .get_bind fun _ h => h) (keeps_readEach hread regs)

end keeps

structure Intact (R : A → Prop) (v : A → BitVec w) (bypass : Bool) (m : Map A w) : Prop where
  bypass : m.bypass = bypass
  dev : ∀ r, R r → m.dev r = v r
  cache : ∀ r, R r → ∀ x ∈ m.cache r, x = v r

variable {R : A → Prop} {v : A → BitVec w} {bypass : Bool}

omit [DecidableEq A] in
theorem intact_of_agrees (hm : m.bypass = false) (h : ∀ r, R r → Agrees r m) :
    Intact R m.dev false m :=
  ⟨hm, fun _ _ => rfl, fun r hr x hx => ((h r hr).2 x hx).symm⟩

omit [DecidableEq A] in
theorem Intact.agrees (h : Intact R v false m) {r : A} (hr : R r) : Agrees r m :=
  ⟨h.bypass, fun x hx => (h.dev r hr).trans (h.cache r hr x hx).symm⟩

theorem intact_keep (h : Intact R v bypass m) {reg : A} {x : Option (BitVec w)}
    (hx : R reg → ∀ y ∈ x, y = v reg) : Intact R v bypass (keep vol reg x m) := by
  rw [keep]
  split_ifs
  · exact h
  · refine ⟨h.bypass, h.dev, fun r hr y hy => ?_⟩
    dsimp only at hy
    by_cases hreg : r = reg
    · subst hreg
      rw [Function.update_self] at hy
      exact hx hr y hy
    · rw [Function.update_of_ne hreg] at hy
      exact h.cache r hr y hy

omit [DecidableEq A] in
theorem intact_transfer : Keeps (Intact R v bypass) (transfer fault) := by
  intro m h
  rw [final, transfer]
  split_ifs <;> exact ⟨h.bypass, h.dev, h.cache⟩

theorem intact_read (reg : A) : Keeps (Intact R v bypass) (read vol fault reg) := by
  refine .get_bind fun m h => ?_
  cases cached vol m reg with
  | some x => exact h
  | none =>
    refine (intact_transfer.bind fun _ => .get_bind fun t ht => ?_) m h
    refine intact_keep ht fun hr y hy => ?_
    obtain rfl := Option.some_inj.mp hy
    exact ht.dev reg hr

theorem intact_write {reg : A} {x : BitVec w} (hx : R reg → x = v reg) :
    Keeps (Intact R v bypass) (write vol fault reg x) := by
  intro m h
  have hafter : Intact R v bypass (final (transfer (E := E) fault) m) := intact_transfer m h
  rw [final] at hafter ⊢
  rw [write]
  cases htransfer : transfer fault m with
  | error e t =>
    rw [htransfer] at hafter
    exact intact_keep hafter (by simp)
  | ok _ t =>
    rw [htransfer] at hafter
    have hdev : ∀ r, R r → Function.update t.dev reg x r = v r := by
      intro r hr
      by_cases hreg : r = reg
      · subst hreg
        exact (Function.update_self ..).trans (hx hr)
      · exact (Function.update_of_ne hreg ..).trans (hafter.dev r hr)
    have hwritten : Intact R v bypass { t with dev := Function.update t.dev reg x } :=
      ⟨hafter.bypass, hdev, hafter.cache⟩
    refine intact_keep hwritten fun hr y hy => ?_
    obtain rfl := Option.some_inj.mp hy
    exact hx hr

theorem intact_updateBits {reg : A} (hreg : ¬ R reg) (mask x : BitVec w) :
    Keeps (Intact R v bypass) (updateBits vol fault reg mask x) :=
  keeps_updateBits (intact_read reg) (fun _ => intact_write fun hr => absurd hr hreg) mask x

omit [DecidableEq A] in
theorem intact_bypassed {α : Type} {x : EStateM E (Map A w) α} (hx : Keeps (Intact R v true) x) :
    Keeps (Intact R v false) (bypassed x) := by
  intro m h
  have hafter := hx { m with bypass := true } ⟨rfl, h.dev, h.cache⟩
  rw [final] at hafter ⊢
  rw [bypassed]
  cases hrun : x { m with bypass := true } with
  | ok a t =>
    rw [hrun] at hafter
    exact ⟨rfl, hafter.dev, hafter.cache⟩
  | error e t =>
    rw [hrun] at hafter
    exact ⟨rfl, hafter.dev, hafter.cache⟩

theorem intact_sync (regs : List A) : Keeps (Intact R v false) (sync vol fault regs) := by
  induction regs with
  | nil => exact .ret ()
  | cons reg regs ih =>
    refine .bind (.get_bind fun m h => ?_) fun _ => ih
    cases hx : cached vol { m with bypass := false } reg with
    | none => exact h
    | some x =>
      have hcache : x ∈ m.cache reg := by
        rw [cached] at hx
        split_ifs at hx
        exact hx
      exact intact_bypassed (intact_write fun hr => h.cache reg hr x hcache) m h

end Regmap
