import IrisFirmware.Misc.NvMode.Mode
import IrisFirmware.Misc.Schedule.Runs

namespace PegaMiscDiag

open PegaBoard PegaNvMode PegaSchedule

abbrev diagCmdIdICRControl : Int := 2
abbrev diagCmdIdIRLedControl : Int := 3
abbrev diagCmdIdIRLedPWMControl : Int := 4
abbrev diagCmdIdSpotLightLedControl : Int := 5
abbrev diagCmdIdSpotLightLedPWMControl : Int := 6
abbrev diagCmdIdLedControl : Int := 7
abbrev diagCmdIdALSControl : Int := 8
abbrev diagCmdIdAudioControl : Int := 10
abbrev diagCmdIdButtonControl : Int := 11
abbrev diagCmdIdWifiControl : Int := 14
abbrev diagCmdIdOut2TelnetPegaMisc : Int := 16

structure DiagMsg where
  eCmdId : Int
  value1 : Int
  value2 : Int
  value3 : Int
  fval1 : ℚ
  fval2 : ℚ
deriving DecidableEq, Repr

-- wCmdCnt is a plain char, unsigned on the ARM target
structure DiagCmd where
  eCmdId : Int
  value1 : Int
  value2 : Int
  value3 : Int
  fval1 : ℚ
  fval2 : ℚ
  wCmdCnt : Nat
deriving DecidableEq, Repr

def DiagCmd.fields (c : DiagCmd) : DiagMsg :=
  ⟨c.eCmdId, c.value1, c.value2, c.value3, c.fval1, c.fval2⟩

inductive AmpCall where
  | start (bIsNewCfg : Int) (fdB : ℚ)
  | volumeControl (fdB : ℚ)
deriving DecidableEq, Repr

structure Misc where
  nv : NvState
  bIsALSDisable : Nat
  amp : List AmpCall

def Misc.onBoard (h : Misc) (f : Board → Board) : Misc :=
  { h with nv := { h.nv with board := f h.nv.board } }

def alsDisableControl (h : Misc) (bIsDisable : Nat) : Misc :=
  { h with bIsALSDisable := if 0 < bIsDisable then 1 else 0 }

def ampInitialize (h : Misc) (bIsNewCfg : Int) (fdB : ℚ) : Misc :=
  { h.onBoard hwAmpReset with amp := h.amp ++ [.start bIsNewCfg fdB] }

def ampVolumeControl (h : Misc) (fdB : ℚ) : Misc :=
  { h with amp := h.amp ++ [.volumeControl fdB] }

def ledControl (c : DiagMsg) (h : Misc) : Misc :=
  if c.value1 = 1 then h.onBoard (if 0 < c.value2 then ledRCtrlOn else ledRCtrlOff)
  else if c.value1 = 2 then h.onBoard (if 0 < c.value2 then ledGCtrlOn else ledGCtrlOff)
  else if c.value1 = 3 then h.onBoard (if 0 < c.value2 then ledBCtrlOn else ledBCtrlOff)
  else if c.value1 = 4 then h.onBoard fun b => ledBCtrlOn (ledGCtrlOn (ledRCtrlOn b))
  else if c.value1 = 5 then h.onBoard fun b => ledBCtrlOff (ledGCtrlOff (ledRCtrlOff b))
  else h

-- the day, night and calibration cases only answer the client
def alsControl (c : DiagMsg) (fLux : ℚ) (h : Misc) : Misc :=
  if c.value1 = 4 then { h with nv := (diagLuxGet h.nv fLux).2 }
  else if c.value1 = 6 then alsDisableControl h 0
  else if c.value1 = 7 then alsDisableControl h 1
  else h

def audioControl (c : DiagMsg) (h : Misc) : Misc :=
  if c.value1 = 1 then ampInitialize h 1 12
  else if c.value1 = 2 then ampVolumeControl h c.fval1
  else h

-- the switch of Pega_diag_msgq_Cmd_Execution; button and wifi only answer the client
def dispatch (c : DiagMsg) (fLux : ℚ) (h : Misc) : Misc :=
  if c.eCmdId = diagCmdIdICRControl then h.onBoard (irCutControl · (toU8 c.value1))
  else if c.eCmdId = diagCmdIdIRLedControl then
    h.onBoard (if 0 < c.value1 then irLedCtrlOn else irLedCtrlOff)
  else if c.eCmdId = diagCmdIdIRLedPWMControl then
    h.onBoard (pwmConfig · pwmCh6 pwmLedFreq (toU32 c.value1))
  else if c.eCmdId = diagCmdIdSpotLightLedControl then
    h.onBoard (if 0 < c.value1 then spotLightCtrlOn else spotLightCtrlOff)
  else if c.eCmdId = diagCmdIdSpotLightLedPWMControl then
    h.onBoard (pwmConfig · pwmCh7 pwmLedFreq (toU32 c.value1))
  else if c.eCmdId = diagCmdIdLedControl then ledControl c h
  else if c.eCmdId = diagCmdIdALSControl then alsControl c fLux h
  else if c.eCmdId = diagCmdIdAudioControl then audioControl c h
  else h

structure Daemon where
  sched : Sched
  stDiagCmd : DiagCmd
  misc : Misc
  executed : List DiagMsg

def commandsProcesser (d : Daemon) (m : DiagMsg) : Daemon :=
  { d with
    stDiagCmd := ⟨m.eCmdId, m.value1, m.value2, m.value3, m.fval1, m.fval2,
      (d.stDiagCmd.wCmdCnt + 1) % 2 ^ 8⟩
    sched := (eventPush d.sched schEVTSystemDiagCmdExecution sch100ms).1 }

def cmdExecution (d : Daemon) (fLux : ℚ) : Daemon :=
  { d with
    misc := dispatch d.stDiagCmd.fields fLux d.misc
    executed := d.executed ++ [d.stDiagCmd.fields]
    stDiagCmd := { d.stDiagCmd with
      wCmdCnt := if 0 < d.stDiagCmd.wCmdCnt then d.stDiagCmd.wCmdCnt - 1
        else d.stDiagCmd.wCmdCnt } }

def round (d : Daemon) (fLux : ℚ) : Daemon :=
  let r := eventProcessing d.sched
  let served := { d with sched := r.2 }
  match r.1 with
  | .diagMsgqCmdExecution => cmdExecution served fLux
  | _ => served

inductive Act where
  | receive (m : DiagMsg)
  | round (fLux : ℚ)
deriving DecidableEq, Repr

def step (d : Daemon) : Act → Daemon
  | .receive m => commandsProcesser d m
  | .round fLux => round d fLux

def miscInit : Misc := ampInitialize ⟨nvStart, 1, []⟩ 1 10

def daemonStart : Daemon := ⟨handlerStart, ⟨0, 0, 0, 0, 0, 0, 0⟩, miscInit, []⟩

end PegaMiscDiag
