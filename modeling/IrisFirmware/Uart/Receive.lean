import IrisFirmware.Library.Needle
import IrisFirmware.Library.Run

namespace PegaUart

open Needle Run

abbrev uartBufferMaxLen : Nat := 128

def receiveDoneString : List UInt8 := [0x73, 0x61]

structure Chunk where
  bytes : List UInt8
  fits : bytes.length ≤ uartBufferMaxLen

-- memory runs from the first byte of m_u8ReceiveDataBuffer on and past its end; written are the
-- indices written so far, and received the bytes handed over since the length was set to 0
structure Uart where
  memory : List UInt8
  length : Nat
  dataReceive : Bool
  written : List Nat
  received : List UInt8

def uartStart (behind : List UInt8) : Uart :=
  ⟨List.replicate uartBufferMaxLen 0 ++ behind, 0, false, [], []⟩

structure Turn where
  signal : Bool
  read : Option Chunk

def Turn.bytes (t : Turn) : List UInt8 := (t.read.map Chunk.bytes).getD []

def store : List UInt8 → Nat → Uart → Uart
  | [], _, u => u
  | b :: bs, i, u => store bs (i + 1) { u with memory := u.memory.set i b, written := u.written ++ [i] }

def receiveHandler (u : Uart) (t : Turn) : Uart :=
  if u.dataReceive || t.signal then
    let u := { u with dataReceive := false }
    match t.read with
    | none => u
    | some chunk =>
      let u := store chunk.bytes u.length u
      { u with length := u.length + chunk.bytes.length, received := u.received ++ chunk.bytes }
  else u

def checkReceiveDone (u : Uart) : Bool :=
  match search 0 receiveDoneString u.memory with
  | some start => start < u.length
  | none => false

def waitLoop : List Turn → Uart → Uart
  | [], u => u
  | t :: ts, u =>
    let u := receiveHandler u t
    if checkReceiveDone u then u else waitLoop ts u

inductive UartOp where
  | waitAndSave (intTimeoutMs : Int) (turn : Nat → Turn)
  | lengthSetZero

def turns (intTimeoutMs : Int) (turn : Nat → Turn) : List Turn :=
  (List.range (intTimeoutMs.tdiv 10).toNat).map turn

def uartStep (u : Uart) : UartOp → Uart
  | .waitAndSave intTimeoutMs turn => waitLoop (turns intTimeoutMs turn) u
  | .lengthSetZero => { u with length := 0, received := [] }

def made : List Turn → Uart → List Turn
  | [], _ => []
  | t :: ts, u => t :: if checkReceiveDone (receiveHandler u t) then [] else made ts (receiveHandler u t)

structure Lossless (u : Uart) : Prop where
  bounded : u.length ≤ uartBufferMaxLen
  inside : ∀ i ∈ u.written, i < uartBufferMaxLen
  bytes : u.memory.take u.length = u.received.take uartBufferMaxLen

def Accumulates (u : Uart) : UartOp → Prop
  | .waitAndSave intTimeoutMs turn =>
    Along receiveHandler (fun u t => Lossless (receiveHandler u t)) u
      (made (turns intTimeoutMs turn) u)
  | .lengthSetZero => Lossless (uartStep u .lengthSetZero)

def leavesRoom (u : Uart) (t : Turn) : Prop :=
  u.dataReceive || t.signal → u.length + t.bytes.length ≤ uartBufferMaxLen

def Fits (u : Uart) : UartOp → Prop
  | .waitAndSave intTimeoutMs turn =>
    Along receiveHandler leavesRoom u (made (turns intTimeoutMs turn) u)
  | .lengthSetZero => True

theorem waitLoop_eq_exec (ts : List Turn) (u : Uart) :
    waitLoop ts u = exec receiveHandler u (made ts u) := by
  induction ts generalizing u with
  | nil => rfl
  | cons t ts ih =>
    rw [waitLoop, made, exec_cons]
    split_ifs with hdone
    · rfl
    · exact ih _

structure Within (u : Uart) : Prop where
  room : uartBufferMaxLen ≤ u.memory.length
  bounded : u.length ≤ uartBufferMaxLen
  inside : ∀ i ∈ u.written, i < uartBufferMaxLen
  bytes : u.memory.take u.length = u.received

theorem Within.lossless {u : Uart} (h : Within u) : Lossless u where
  bounded := h.bounded
  inside := h.inside
  bytes := by
    rw [← h.bytes, List.take_take, min_eq_right h.bounded]

theorem start_within (behind : List UInt8) : Within (uartStart behind) where
  room := by simp [uartStart]
  bounded := Nat.zero_le _
  inside := by simp [uartStart]
  bytes := rfl

theorem store_written (bs : List UInt8) (i : Nat) (u : Uart) :
    (store bs i u).written = u.written ++ List.range' i bs.length := by
  induction bs generalizing i u with
  | nil => exact (List.append_nil _).symm
  | cons b bs ih =>
    rw [store, ih, List.append_assoc, List.length_cons, List.range'_succ]
    rfl

theorem store_length (bs : List UInt8) (i : Nat) (u : Uart) :
    (store bs i u).length = u.length ∧ (store bs i u).received = u.received ∧
      (store bs i u).memory.length = u.memory.length := by
  induction bs generalizing i u with
  | nil => exact ⟨rfl, rfl, rfl⟩
  | cons b bs ih =>
    obtain ⟨hlength, hreceived, hmemory⟩ := ih (i + 1)
      { u with memory := u.memory.set i b, written := u.written ++ [i] }
    exact ⟨hlength, hreceived, hmemory.trans List.length_set⟩

theorem store_take {bs : List UInt8} {i : Nat} {u : Uart}
    (h : i + bs.length ≤ u.memory.length) :
    (store bs i u).memory.take (i + bs.length) = u.memory.take i ++ bs := by
  induction bs generalizing i u with
  | nil => exact (List.append_nil _).symm
  | cons b bs ih =>
    rw [List.length_cons] at h
    have hrest := ih (i := i + 1)
      (u := { u with memory := u.memory.set i b, written := u.written ++ [i] })
      (by rw [List.length_set]; omega)
    rw [List.length_cons, show i + (bs.length + 1) = i + 1 + bs.length by omega, store, hrest,
      List.take_succ_eq_append_getElem (by rw [List.length_set]; omega), List.getElem_set_self,
      List.take_set_of_le le_rfl, List.append_assoc]
    rfl

theorem receiveHandler_eq (u : Uart) (t : Turn) :
    receiveHandler u t =
      if u.dataReceive || t.signal then
        { store t.bytes u.length { u with dataReceive := false } with
          length := u.length + t.bytes.length, received := u.received ++ t.bytes }
      else u := by
  rw [receiveHandler, Turn.bytes]
  cases t.read with
  | none => simp [store]
  | some chunk =>
    obtain ⟨hlength, hreceived, -⟩ := store_length chunk.bytes u.length { u with dataReceive := false }
    simp only [hlength, hreceived, Option.map_some, Option.getD_some]

theorem receiveHandler_length {u : Uart} {t : Turn} (hflag : u.dataReceive || t.signal) :
    (receiveHandler u t).length = u.length + t.bytes.length := by
  rw [receiveHandler_eq, if_pos hflag]

theorem handler_within {u : Uart} {t : Turn} (h : Within u) (hroom : leavesRoom u t) :
    Within (receiveHandler u t) := by
  rw [receiveHandler_eq]
  split_ifs with hflag
  case neg => exact h
  case pos =>
    have hfits := hroom hflag
    obtain ⟨-, -, hmemory⟩ := store_length t.bytes u.length { u with dataReceive := false }
    refine ⟨hmemory ▸ h.room, hfits, ?_, ?_⟩
    · rw [store_written]
      intro i hi
      rcases List.mem_append.mp hi with hold | hnew
      · exact h.inside i hold
      · have hlast := (List.mem_range'_1.mp hnew).2
        omega
    · rw [← h.bytes]
      exact store_take (hfits.trans h.room)

theorem leavesRoom_of_lossless {u : Uart} {t : Turn} (hafter : Lossless (receiveHandler u t)) :
    leavesRoom u t := by
  intro hflag
  rw [← receiveHandler_length hflag]
  exact hafter.bounded

theorem lossless_iff_leavesRoom {u : Uart} (h : Within u) (t : Turn) :
    Lossless (receiveHandler u t) ↔ leavesRoom u t :=
  ⟨leavesRoom_of_lossless, fun hroom => (handler_within h hroom).lossless⟩

theorem step_within {u : Uart} {op : UartOp} (h : Within u) (hfits : Fits u op) :
    Within (uartStep u op) := by
  cases op with
  | waitAndSave intTimeoutMs turn =>
    rw [uartStep, waitLoop_eq_exec]
    exact exec_invariant h (fun _ _ => handler_within) hfits
  | lengthSetZero => exact ⟨h.room, Nat.zero_le _, h.inside, rfl⟩

theorem accumulates_iff_fits {u : Uart} (h : Within u) (op : UartOp) :
    Accumulates u op ↔ Fits u op := by
  cases op with
  | waitAndSave intTimeoutMs turn =>
    exact along_iff h (fun _ t hu => lossless_iff_leavesRoom hu t) (fun _ _ => handler_within)
  | lengthSetZero =>
    have hnext : Within (uartStep u .lengthSetZero) := step_within h trivial
    exact iff_true_intro hnext.lossless

theorem accumulation_lossless_iff (behind : List UInt8) (ops : List UartOp) :
    Along uartStep Accumulates (uartStart behind) ops ↔ Along uartStep Fits (uartStart behind) ops :=
  along_iff (start_within behind) (fun _ op hu => accumulates_iff_fits hu op)
    (fun _ _ => step_within)

def fullChunk : Chunk := ⟨List.replicate uartBufferMaxLen 0x2e, by simp⟩

theorem waitLoop_singleton (t : Turn) (u : Uart) : waitLoop [t] u = receiveHandler u t := by
  rw [waitLoop]
  exact ite_self _

theorem second_full_chunk_overruns :
    ¬ ∀ (behind : List UInt8) (ops : List UartOp),
      Along uartStep Accumulates (uartStart behind) ops := by
  intro h
  let full : Turn := ⟨true, some fullChunk⟩
  have hsecond := (h [] [.waitAndSave 10 fun _ => full, .waitAndSave 10 fun _ => full]).2.1.1
  have hlength : (receiveHandler (waitLoop [full] (uartStart [])) full).length = 0 + 128 + 128 := by
    rw [receiveHandler_length (Bool.or_true _), waitLoop_singleton,
      receiveHandler_length (Bool.or_true _)]
    rfl
  exact absurd (hlength ▸ hsecond.bounded) (by decide)

end PegaUart
