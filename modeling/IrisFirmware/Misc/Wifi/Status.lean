import IrisFirmware.Misc.LedFlash.Priority

namespace PegaMiscWifi

open PegaBoard PegaLedFlash Run

inductive WifiIf where
  | none
  | mlan0
  | mlan1
deriving DecidableEq, Repr

structure Misc where
  bIsWiFiDisable : Nat
  bIsWiFiFwReady : Nat
  bIsWiFiFwError : Nat
  eWifi1If : WifiIf
  eWifi2If : WifiIf
deriving DecidableEq, Repr

structure MiscState where
  misc : Misc
  led : LedFlash

structure NetIf where
  exist : WifiIf → Bool
  sd0 : WifiIf → Bool
  sd1 : WifiIf → Bool

def interfaceExist (net : NetIf) (ifname : WifiIf) : Int := if net.exist ifname then 0 else -1

def pickIf (sd : WifiIf → Bool) : WifiIf :=
  if sd .mlan0 then .mlan0 else if sd .mlan1 then .mlan1 else .none

def updateWifiInterface (net : NetIf) (m : Misc) : Misc :=
  { m with eWifi1If := pickIf net.sd0, eWifi2If := pickIf net.sd1 }

def ledStateSet (estate : Nat) (s : MiscState) : MiscState :=
  { s with led := (stateSet s.led estate).1 }

def wifiReadyCheck (net : NetIf) (s : MiscState) : MiscState :=
  if 0 < s.misc.bIsWiFiDisable ∨ 0 < s.misc.bIsWiFiFwReady then s
  else if -1 < interfaceExist net .mlan0 then
    if -1 < interfaceExist net .mlan1 then
      ledStateSet stateWifiReady
        { s with misc := updateWifiInterface net { s.misc with bIsWiFiFwReady := 1 } }
    else s
  else s

def wifiInterfaceCheck (net : NetIf) (s : MiscState) : MiscState :=
  if 0 < s.misc.bIsWiFiDisable ∨ s.misc.bIsWiFiFwReady = 0 then s
  else if interfaceExist net .mlan0 < 0 then
    if interfaceExist net .mlan1 < 0 then
      ledStateSet stateWifiOff { s with misc := { s.misc with bIsWiFiFwReady := 0 } }
    else s
  else s

def wifiFwError (s : MiscState) : MiscState :=
  ledStateSet stateWifiFwError { s with misc := { s.misc with bIsWiFiFwError := 0 } }

-- the script that a successful load starts changes the interfaces only
def wifiLoadFirmwareEnable (bIsReady : Int) (s : MiscState) : MiscState :=
  if 0 < bIsReady then s else wifiFwError s

def startUp (b : Board) : MiscState :=
  ledStateSet stateSystemStartUp
    ⟨⟨0, 0, 0, .none, .none⟩, handlerStart (ledFlashInit b)⟩

inductive Event where
  | readyCheck (net : NetIf)
  | interfaceCheck (net : NetIf)
  | load (bIsReady : Int)
  | flashThread (id : Nat)

def eventStep (s : MiscState) : Event → MiscState
  | .readyCheck net => wifiReadyCheck net s
  | .interfaceCheck net => wifiInterfaceCheck net s
  | .load bIsReady => wifiLoadFirmwareEnable bIsReady s
  | .flashThread id => { s with led := taskTurn id s.led }

structure Watched where
  state : MiscState
  lastLoadFailed : Bool

def Event.failed (e : Event) : Prop :=
  match e with
  | .load bIsReady => bIsReady ≤ 0
  | _ => False

def watch (w : Watched) (e : Event) : Watched where
  state := eventStep w.state e
  lastLoadFailed :=
    match e with
    | .load bIsReady => decide (bIsReady ≤ 0)
    | _ => w.lastLoadFailed

def watchStart (b : Board) : Watched := ⟨startUp b, false⟩

structure Agrees (w : Watched) : Prop where
  ready : w.state.misc.bIsWiFiFwReady = 1 ↔ w.state.led.eLedState = stateWifiReady
  error : w.state.misc.bIsWiFiFwError = 1 ↔ w.lastLoadFailed = true

structure Calm (w : Watched) : Prop where
  enabled : w.state.misc.bIsWiFiDisable = 0
  noError : w.state.misc.bIsWiFiFwError = 0
  noFailure : w.lastLoadFailed = false
  shown : w.state.misc.bIsWiFiFwReady = 1 ∧ w.state.led.eLedState = stateWifiReady ∨
    w.state.misc.bIsWiFiFwReady = 0 ∧
      (w.state.led.eLedState = stateSystemStartUp ∨ w.state.led.eLedState = stateWifiOff)

theorem calm_agrees {w : Watched} (h : Calm w) : Agrees w := by
  obtain ⟨_, herr, hfail, ⟨hr, hl⟩ | ⟨hr, hl⟩⟩ := h
  · exact ⟨iff_of_true hr hl, by rw [herr, hfail]; decide⟩
  · refine ⟨iff_of_false (by rw [hr]; decide) ?_, by rw [herr, hfail]; decide⟩
    rcases hl with hl | hl <;> rw [hl] <;> decide

theorem calm_start (b : Board) : Calm (watchStart b) := by
  refine ⟨rfl, rfl, rfl, .inr ⟨rfl, .inl ?_⟩⟩
  have hfirst : accepted (handlerStart (ledFlashInit b)) stateSystemStartUp :=
    ⟨(by decide : stateNone ≠ stateSystemStartUp), by decide,
      (by decide : statePriorityGet stateNone ≤ statePriorityGet stateSystemStartUp)⟩
  exact accepted_eLedState hfirst

theorem calm_ready {w : Watched} (h : Calm w) (net : NetIf) :
    Calm ⟨wifiReadyCheck net w.state, w.lastLoadFailed⟩ := by
  rw [wifiReadyCheck]
  split_ifs with hskip h0 h1
  · exact h
  · obtain ⟨hen, herr, hfail, ⟨hr, hl⟩ | ⟨hr, hl⟩⟩ := h
    · exact absurd (.inr (hr ▸ Nat.one_pos)) hskip
    · refine ⟨hen, herr, hfail, .inl ⟨rfl, accepted_eLedState ?_⟩⟩
      rcases hl with hl | hl <;> exact ⟨by rw [hl]; decide, by decide, by rw [hl]; decide⟩
  · exact h
  · exact h

theorem calm_interface {w : Watched} (h : Calm w) (net : NetIf) :
    Calm ⟨wifiInterfaceCheck net w.state, w.lastLoadFailed⟩ := by
  rw [wifiInterfaceCheck]
  split_ifs with hskip h0 h1
  · exact h
  · obtain ⟨hen, herr, hfail, ⟨hr, hl⟩ | ⟨hr, hl⟩⟩ := h
    · refine ⟨hen, herr, hfail, .inr ⟨rfl, .inr (accepted_eLedState ?_)⟩⟩
      exact ⟨by rw [hl]; decide, by decide, by rw [hl]; decide⟩
    · exact absurd (.inr hr) hskip
  · exact h
  · exact h

theorem calm_watch {w : Watched} (h : Calm w) {e : Event} (he : ¬ e.failed) :
    Calm (watch w e) := by
  cases e with
  | readyCheck net => exact calm_ready h net
  | interfaceCheck net => exact calm_interface h net
  | load bIsReady =>
    have hok : 0 < bIsReady := not_le.mp he
    have hstep : eventStep w.state (.load bIsReady) = w.state := if_pos hok
    refine ⟨?_, ?_, decide_eq_false (not_le.mpr hok), ?_⟩
    · rw [watch, hstep]
      exact h.enabled
    · rw [watch, hstep]
      exact h.noError
    · rw [watch, hstep]
      exact h.shown
  | flashThread id =>
    refine ⟨h.enabled, h.noError, h.noFailure, ?_⟩
    have hshown := h.shown
    rw [← taskTurn_eLedState w.state.led id] at hshown
    exact hshown

theorem failed_load_hidden {w : Watched} {e : Event} (he : e.failed) : ¬ Agrees (watch w e) := by
  cases e with
  | load bIsReady =>
    intro h
    have hstep : eventStep w.state (.load bIsReady) = wifiFwError w.state :=
      if_neg (not_lt.mpr he)
    have herr := h.error.mpr (decide_eq_true he)
    rw [watch, hstep] at herr
    cases herr
  | readyCheck net => exact absurd he id
  | interfaceCheck net => exact absurd he id
  | flashThread id => exact absurd he fun hf => hf

theorem wifi_status_agrees_iff (b : Board) (events : List Event) :
    Along watch (fun w e => Agrees (watch w e)) (watchStart b) events ↔
      ∀ e ∈ events, ¬ e.failed := by
  have hevents : Along watch (fun _ e => ¬ Event.failed e) (watchStart b) events ↔
      ∀ e ∈ events, ¬ e.failed := along_const (watchStart b) events
  rw [← hevents]
  refine along_iff (calm_start b) (fun w e h => ?_) (fun w e h he => calm_watch h he)
  exact ⟨fun ha hf => failed_load_hidden hf ha, fun he => calm_agrees (calm_watch h he)⟩

theorem failed_load_unseen :
    ¬ Along watch (fun w e => Agrees (watch w e)) (watchStart boardInit)
      [.readyCheck ⟨fun _ => true, fun _ => true, fun _ => true⟩, .load 0] := by
  intro h
  have hready := h.2.1.ready.mp (by decide)
  exact absurd hready (by decide)

end PegaMiscWifi
