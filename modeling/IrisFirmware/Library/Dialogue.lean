import IrisFirmware.Library.Attempt
import Mathlib.Data.List.Infix

namespace Dialogue

open Attempt

variable {α : Type*}

inductive Turn (α : Type*) where
  | asker
  | asked (a : α)
  | answerer
  | answered (a : α)
deriving DecidableEq, Repr

structure State (α : Type*) where
  turn : Turn α
  gaveDown : List α
  gotDown : List α
  gaveUp : List α
  gotUp : List α
deriving DecidableEq, Repr

inductive Op (α : Type*) where
  | ask (a : α)
  | hear
  | answer (a : α)
  | take
deriving DecidableEq, Repr

def started : State α := ⟨.asker, [], [], [], []⟩

def step (more : α → Bool) (s : State α) : Op α → Option (State α)
  | .ask a =>
    match s.turn with
    | .asker => some { s with turn := .asked a, gaveDown := s.gaveDown ++ [a] }
    | _ => none
  | .hear =>
    match s.turn with
    | .asked a =>
      some { s with turn := if more a then .asker else .answerer, gotDown := s.gotDown ++ [a] }
    | _ => none
  | .answer a =>
    match s.turn with
    | .answerer => some { s with turn := .answered a, gaveUp := s.gaveUp ++ [a] }
    | _ => none
  | .take =>
    match s.turn with
    | .answered a =>
      some { s with turn := if more a then .answerer else .asker, gotUp := s.gotUp ++ [a] }
    | _ => none

def Turn.down : Turn α → List α
  | .asked a => [a]
  | _ => []

def Turn.up : Turn α → List α
  | .answered a => [a]
  | _ => []

def whole (more : α → Bool) (as : List α) : Nat := as.countP (fun a => !more a)

def Turn.isAnswerers : Turn α → Nat
  | .answerer | .answered _ => 1
  | _ => 0

structure Synced (more : α → Bool) (s : State α) : Prop where
  down : s.gaveDown = s.gotDown ++ s.turn.down
  up : s.gaveUp = s.gotUp ++ s.turn.up
  turns : whole more s.gotDown = whole more s.gotUp + s.turn.isAnswerers

variable {more : α → Bool}

theorem whole_append (as bs : List α) : whole more (as ++ bs) = whole more as + whole more bs :=
  List.countP_append

theorem whole_more {a : α} (h : more a = true) : whole more [a] = 0 := by
  rw [whole, List.countP_singleton, h]
  rfl

theorem whole_last {a : α} (h : more a = false) : whole more [a] = 1 := by
  rw [whole, List.countP_singleton, h]
  rfl

theorem started_synced : Synced more (started : State α) := ⟨rfl, rfl, rfl⟩

theorem step_synced {s t : State α} (hs : Synced more s) {e : Op α}
    (h : step more s e = some t) : Synced more t := by
  obtain ⟨hdown, hup, hturns⟩ := hs
  obtain ⟨turn, gd, td, gu, tu⟩ := s
  cases e with
  | ask a =>
    cases turn with
    | asker =>
      rw [← Option.some.inj h]
      exact ⟨by simpa [Turn.down] using hdown, hup, hturns⟩
    | asked _ => cases h
    | answerer => cases h
    | answered _ => cases h
  | hear =>
    cases turn with
    | asker => cases h
    | asked a =>
      rw [← Option.some.inj h]
      simp only [Turn.down, Turn.up, Turn.isAnswerers] at hdown hup hturns
      cases hm : more a with
      | true => exact ⟨by simpa [Turn.down] using hdown, hup,
          by simpa [Turn.isAnswerers, whole_append, whole_more hm] using hturns⟩
      | false => exact ⟨by simpa [Turn.down] using hdown, hup,
          by simpa [Turn.isAnswerers, whole_append, whole_last hm] using hturns⟩
    | answerer => cases h
    | answered _ => cases h
  | answer a =>
    cases turn with
    | asker => cases h
    | asked _ => cases h
    | answerer =>
      rw [← Option.some.inj h]
      exact ⟨hdown, by simpa [Turn.up] using hup, hturns⟩
    | answered _ => cases h
  | take =>
    cases turn with
    | asker => cases h
    | asked _ => cases h
    | answerer => cases h
    | answered a =>
      rw [← Option.some.inj h]
      simp only [Turn.down, Turn.up, Turn.isAnswerers] at hdown hup hturns
      cases hm : more a with
      | true => exact ⟨hdown, by simpa [Turn.up] using hup,
          by simpa [Turn.isAnswerers, whole_append, whole_more hm] using hturns⟩
      | false => exact ⟨hdown, by simpa [Turn.up] using hup,
          by simpa [Turn.isAnswerers, whole_append, whole_last hm] using hturns⟩

theorem run_synced {s t : State α} (hs : Synced more s) {es : List (Op α)}
    (h : run (step more) s es = some t) : Synced more t :=
  run_invariant (fun _ _ _ hI hstep => step_synced hI hstep) hs h

theorem Turn.down_short (t : Turn α) : t.down.length ≤ 1 := by
  cases t <;> simp [Turn.down]

theorem Turn.up_short (t : Turn α) : t.up.length ≤ 1 := by
  cases t <;> simp [Turn.up]

theorem Turn.isAnswerers_le (t : Turn α) : t.isAnswerers ≤ 1 := by
  cases t <;> simp [Turn.isAnswerers]

end Dialogue
