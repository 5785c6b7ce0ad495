import IrisFirmware.Misc.Diag.Daemon

namespace PegaDiag

open PegaMiscDiag

-- m_stDiagMsg is cleared when the client starts
def request (eCmdId value1 : Int) : DiagMsg := ⟨eCmdId, value1, 0, 0, 0, 0⟩

def ledRequest (value1 value2 : Int) : DiagMsg :=
  { request diagCmdIdLedControl value1 with value2 := value2 }

def percent (v : Int) : Int :=
  let v := if v ≤ 0 then 1 else v
  if 100 < v then 100 else v

def icrDayModeSet : DiagMsg := request diagCmdIdICRControl 0
def icrNightModeSet : DiagMsg := request diagCmdIdICRControl 1
def irLedOn : DiagMsg := request diagCmdIdIRLedControl 1
def irLedOff : DiagMsg := request diagCmdIdIRLedControl 0
def irLedPwmValueSet (v : Int) : DiagMsg := request diagCmdIdIRLedPWMControl (percent v)
def spotLedOn : DiagMsg := request diagCmdIdSpotLightLedControl 1
def spotLedOff : DiagMsg := request diagCmdIdSpotLightLedControl 0
def spotLedPwmValueSet (v : Int) : DiagMsg := request diagCmdIdSpotLightLedPWMControl (percent v)
def ledAllOn : DiagMsg := request diagCmdIdLedControl 4
def ledAllOff : DiagMsg := request diagCmdIdLedControl 5
def ledROn : DiagMsg := ledRequest 1 1
def ledROff : DiagMsg := ledRequest 1 0
def ledGOn : DiagMsg := ledRequest 2 1
def ledGOff : DiagMsg := ledRequest 2 0
def ledBOn : DiagMsg := ledRequest 3 1
def ledBOff : DiagMsg := ledRequest 3 0
def alsIdGet : DiagMsg := request diagCmdIdALSControl 1
def alsDayModeSet : DiagMsg := request diagCmdIdALSControl 2
def alsNightModeSet : DiagMsg := request diagCmdIdALSControl 3
def alsValueGet : DiagMsg := request diagCmdIdALSControl 4

def alsCalidata (gain offset : Option ℚ) : DiagMsg :=
  { request diagCmdIdALSControl 5 with fval1 := gain.getD 0, fval2 := offset.getD (-1000) }

def alsOn : DiagMsg := request diagCmdIdALSControl 6
def alsOff : DiagMsg := request diagCmdIdALSControl 7
def alsCalidataGet : DiagMsg := request diagCmdIdALSControl 8
def audioInit : DiagMsg := request diagCmdIdAudioControl 1

-- a volume outside 8.5 .. 22 is refused without a request
def audioVolumeSet (volume : ℚ) : Option DiagMsg :=
  if volume < 17 / 2 ∨ 22 < volume then none
  else some { request diagCmdIdAudioControl 2 with fval1 := volume }

def buttonDetectionGet : DiagMsg := request diagCmdIdButtonControl 1
def wifiInterfaceGet : DiagMsg := request diagCmdIdWifiControl 1
def printConsole : DiagMsg := request diagCmdIdOut2TelnetPegaMisc 0xFF
def printTelnet (index : Int) : DiagMsg := request diagCmdIdOut2TelnetPegaMisc index

inductive Command where
  | icrDay
  | icrNight
  | irLed (on : Bool)
  | irLedSet (v : Int)
  | spotLed (on : Bool)
  | spotLedSet (v : Int)
  | led (on : Bool)
  | ledR (on : Bool)
  | ledG (on : Bool)
  | ledB (on : Bool)
  | alsId
  | alsDay
  | alsNight
  | alsValue
  | alsCalidata (gain offset : Option ℚ)
  | alsOn
  | alsOff
  | alsGain
  | audioInit
  | audioVolume (volume : ℚ)
  | buttonGet
  | wifiInterface
  | printConsole
  | printTelnet (index : Int)
deriving DecidableEq, Repr

def encode : Command → Option DiagMsg
  | .icrDay => some icrDayModeSet
  | .icrNight => some icrNightModeSet
  | .irLed on => some (if on then irLedOn else irLedOff)
  | .irLedSet v => some (irLedPwmValueSet v)
  | .spotLed on => some (if on then spotLedOn else spotLedOff)
  | .spotLedSet v => some (spotLedPwmValueSet v)
  | .led on => some (if on then ledAllOn else ledAllOff)
  | .ledR on => some (if on then ledROn else ledROff)
  | .ledG on => some (if on then ledGOn else ledGOff)
  | .ledB on => some (if on then ledBOn else ledBOff)
  | .alsId => some alsIdGet
  | .alsDay => some alsDayModeSet
  | .alsNight => some alsNightModeSet
  | .alsValue => some alsValueGet
  | .alsCalidata gain offset => some (alsCalidata gain offset)
  | .alsOn => some alsOn
  | .alsOff => some alsOff
  | .alsGain => some alsCalidataGet
  | .audioInit => some audioInit
  | .audioVolume volume => audioVolumeSet volume
  | .buttonGet => some buttonDetectionGet
  | .wifiInterface => some wifiInterfaceGet
  | .printConsole => some printConsole
  | .printTelnet index => some (printTelnet index)

theorem percent_eq (v : Int) : percent v = max 1 (min v 100) := by
  simp only [percent]
  split_ifs <;> omega

end PegaDiag
