import IrisFirmware.Library.Needle
import IrisFirmware.Library.Run

namespace PegaBleUart

open Needle Run

abbrev uartBufferMaxLen : Nat := 64

def wifiAck : List UInt8 := [0xab, 0x01, 0x88, 0xc0, 0x9f]

-- waiting are the bytes the port holds and nobody has read
structure Uart where
  buffer : List UInt8
  dataReceive : Bool
  waiting : List UInt8
deriving DecidableEq, Repr

def uartStart : Uart := ⟨List.replicate uartBufferMaxLen 0, false, []⟩

-- arrives i comes in before poll i, and the last of them between the last poll and the timeout
structure Call where
  intTimeoutMs : Int
  arrives : Nat → List UInt8
  gets : Nat
  behind : List UInt8

namespace Call

def polls (c : Call) : Nat := (c.intTimeoutMs.tdiv 10 - 1).toNat

def since (c : Call) (i : Nat) : List UInt8 :=
  (List.range' i (c.polls + 1 - i)).flatMap c.arrives

def window (c : Call) : List UInt8 := c.since 0

end Call

def hear (bytes : List UInt8) (u : Uart) : Uart :=
  { u with dataReceive := u.dataReceive || !bytes.isEmpty, waiting := u.waiting ++ bytes }

def receiveBuffer (gets : Nat) (later : List UInt8) (u : Uart) : Uart :=
  let bytes := u.waiting ++ later
  let got := bytes.take (min gets uartBufferMaxLen)
  ⟨got ++ u.buffer.drop got.length, !later.isEmpty, bytes.drop got.length⟩

def wait (c : Call) : Nat → Uart → Uart
  | 0, u => hear (c.arrives c.polls) u
  | n + 1, u =>
    let u := hear (c.arrives (c.polls - (n + 1))) u
    if u.dataReceive then receiveBuffer c.gets (c.since (c.polls - n)) u else wait c n u

def checkReceiveDone (memory : List UInt8) : Bool := (search 0 wifiAck memory).isSome

def bringUpReady (c : Call) (u : Uart) : Uart × Nat :=
  let u := wait c c.polls u
  (u, if checkReceiveDone (u.buffer ++ c.behind) then 1 else 0)

inductive UartOp where
  | arrive (bytes : List UInt8)
  | signal
  | init
  | bringUp (c : Call)

def uartStep (u : Uart) : UartOp → Uart
  | .arrive bytes => hear bytes u
  | .signal => { u with dataReceive := true }
  | .init => { u with waiting := [] }
  | .bringUp c => (bringUpReady c u).1

def Detects (u : Uart) : UartOp → Prop
  | .bringUp c => (bringUpReady c u).2 = 1 ↔ wifiAck <:+: c.window
  | _ => True

def noticed (u : Uart) (c : Call) : Prop :=
  0 < c.polls ∧ u.dataReceive ∨ ∃ i < c.polls, c.arrives i ≠ []

instance (u : Uart) (c : Call) : Decidable (noticed u c) :=
  inferInstanceAs (Decidable (0 < c.polls ∧ u.dataReceive ∨ ∃ i < c.polls, c.arrives i ≠ []))

def handed (u : Uart) (c : Call) : List UInt8 :=
  if noticed u c then (u.waiting ++ c.window).take (min c.gets uartBufferMaxLen) else []

def kept (u : Uart) (c : Call) : List UInt8 := u.buffer.drop (handed u c).length ++ c.behind

def readWhole (u : Uart) (c : Call) : Prop := wifiAck <:+: upTo 0 (handed u c)

def completedByKept (u : Uart) (c : Call) : Prop :=
  0 ∉ handed u c ∧ (wifiAck <:+: upTo 0 (kept u c) ∨
    ∃ l₁ l₂, l₁ ≠ [] ∧ l₂ ≠ [] ∧ wifiAck = l₁ ++ l₂ ∧ l₁ <:+ handed u c ∧ l₂ <+: upTo 0 (kept u c))

def Readable (u : Uart) : UartOp → Prop
  | .bringUp c =>
    if wifiAck <:+: c.window then readWhole u c ∨ completedByKept u c
    else ¬ readWhole u c ∧ ¬ completedByKept u c
  | _ => True

theorem since_succ {c : Call} {i : Nat} (hi : i ≤ c.polls) :
    c.since i = c.arrives i ++ c.since (i + 1) := by
  rw [Call.since, Call.since, show c.polls + 1 - i = (c.polls + 1 - (i + 1)) + 1 by omega,
    List.range'_succ, List.flatMap_cons]

theorem wait_buffer (c : Call) {n : Nat} (hn : n ≤ c.polls) (u : Uart) :
    (wait c n u).buffer =
      let got := if 0 < n ∧ u.dataReceive ∨ ∃ i < c.polls, c.polls - n ≤ i ∧ c.arrives i ≠ [] then
        (u.waiting ++ c.since (c.polls - n)).take (min c.gets uartBufferMaxLen) else []
      got ++ u.buffer.drop got.length := by
  induction n generalizing u with
  | zero =>
    rw [if_neg (by omega)]
    rfl
  | succ n ih =>
    have hslot := since_succ (c := c) (i := c.polls - (n + 1)) (by omega)
    rw [show c.polls - (n + 1) + 1 = c.polls - n by omega] at hslot
    rw [wait]
    dsimp only
    by_cases hflag : (hear (c.arrives (c.polls - (n + 1))) u).dataReceive
    case pos =>
      rw [if_pos hflag]
      have hnoticed : 0 < n + 1 ∧ u.dataReceive ∨
          ∃ i < c.polls, c.polls - (n + 1) ≤ i ∧ c.arrives i ≠ [] := by
        rcases Bool.or_eq_true_iff.mp hflag with hold | hnew
        · exact .inl ⟨Nat.succ_pos n, hold⟩
        · exact .inr ⟨_, by omega, le_rfl, by simpa using hnew⟩
      rw [if_pos hnoticed, hslot, ← List.append_assoc]
      rfl
    case neg =>
      obtain ⟨hold, hnew⟩ := Bool.or_eq_false_iff.mp (Bool.eq_false_iff.mpr hflag)
      have hsilent : c.arrives (c.polls - (n + 1)) = [] := by simpa using hnew
      have hsame : hear (c.arrives (c.polls - (n + 1))) u = u := by
        rw [hsilent, hear, List.append_nil, List.isEmpty_nil, Bool.not_true, Bool.or_false]
      have hskip : (∃ i < c.polls, c.polls - (n + 1) ≤ i ∧ c.arrives i ≠ []) ↔
          ∃ i < c.polls, c.polls - n ≤ i ∧ c.arrives i ≠ [] := by
        refine exists_congr fun i => and_congr_right fun _ => ⟨fun ⟨hle, hi⟩ => ⟨?_, hi⟩,
          fun ⟨hle, hi⟩ => ⟨by omega, hi⟩⟩
        rcases eq_or_ne i (c.polls - (n + 1)) with rfl | hne
        · exact absurd hsilent hi
        · omega
      rw [if_neg hflag, hsame, ih (by omega), hslot, hsilent, List.nil_append]
      simp only [hold, hskip, Bool.false_eq_true, and_false]

theorem bringUp_buffer (c : Call) (u : Uart) :
    (wait c c.polls u).buffer ++ c.behind = handed u c ++ kept u c := by
  have hread := wait_buffer c le_rfl u
  rw [Nat.sub_self] at hread
  simp only [Nat.zero_le, true_and] at hread
  rw [hread, List.append_assoc]
  rfl

theorem bringUpReady_iff (c : Call) (u : Uart) :
    (bringUpReady c u).2 = 1 ↔ readWhole u c ∨ completedByKept u c := by
  have hack : 0 ∉ wifiAck ∧ wifiAck ≠ [] := by decide
  have hfound : (search 0 wifiAck (handed u c ++ kept u c)).isSome ↔
      wifiAck <:+: upTo 0 (handed u c ++ kept u c) := isSome_search hack.1 hack.2
  rw [infix_upTo_append] at hfound
  refine Iff.trans ?_ hfound
  rw [bringUpReady]
  dsimp only
  rw [checkReceiveDone, bringUp_buffer]
  split_ifs with h <;> simp [h]

theorem detects_iff_readable (u : Uart) (ops : List UartOp) :
    Along uartStep Detects u ops ↔ Along uartStep Readable u ops := by
  refine along_congr (fun u op => ?_) u ops
  cases op with
  | bringUp c =>
    rw [Detects, Readable, bringUpReady_iff]
    split_ifs with harrives
    · exact iff_true_right harrives
    · rw [iff_false_right harrives, not_or]
  | _ => exact Iff.rfl

theorem stale_acknowledgement_counts :
    ¬ ∀ ops : List UartOp, Along uartStep Detects uartStart ops := by
  intro h
  have hstale := (h [.bringUp ⟨30, fun i => if i = 0 then wifiAck else [], 64, []⟩,
    .bringUp ⟨30, fun _ => [], 0, []⟩]).2.1
  exact absurd (hstale.mp (by decide)) (by decide)

end PegaBleUart
