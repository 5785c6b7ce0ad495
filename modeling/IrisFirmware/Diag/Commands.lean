import IrisFirmware.Library.Loop

namespace PegaDiagCommand

inductive Handler where
  | ispFwVersionGet
  | wifiVersionGet
  | icrDayModeSet
  | icrNightModeSet
  | irLedOn
  | irLedOff
  | irLedPwmValueSet
  | spotLedOn
  | spotLedOff
  | spotLedPwmValueSet
  | ledAllOn
  | ledAllOff
  | ledROn
  | ledROff
  | ledGOn
  | ledGOff
  | ledBOn
  | ledBOff
  | alsIdGet
  | alsDayModeSet
  | alsNightModeSet
  | alsValueGet
  | alsCalidata
  | alsOn
  | alsOff
  | alsCalidataGet
  | audioInit
  | audioRecordFile
  | audioPlayFile
  | audioVolumeSet
  | printConsole
  | printTelnet
  | buttonDetectionGet
  | wifiOn
  | wifiOff
  | wifiMfg
  | wifiConnect
  | wifiStatus
  | wifiRssiGet
  | wifiMacGet
  | wifiInterfaceGet
  | bleOn
  | bleOff
  | bleScan
  | ethernetOn
  | ringLedControl
  | accControl
  | nfcControl
  | streamingOn
  | mfgbridgeTest
  | wifiSsidGet
  | wifiSsidSet
  | wifiPassGet
  | wifiPassSet
  | wifiIpAddrGet
  | wifiIpAddrSet
  | wifiIpMaskGet
  | wifiIpMaskSet
  | risingMotorForward
  | risingMotorReverse
  | risingMotorTest
  | panMotorForward
  | panMotorReverse
  | panMotorTest
deriving DecidableEq, Repr

inductive Table where
  | diagMain
  | version
  | icr
  | irLed
  | spotLed
  | led
  | ledR
  | ledG
  | ledB
  | als
  | audio
  | out2Telnet
  | button
  | wifi
  | ble
  | ethernet
  | ringLED
  | acc
  | nfc
  | motor
  | streaming
  | mfgbridge
  | wifiSsid
  | wifiPassword
  | wifiIPAddr
  | wifiIPMask
  | ringLEDConfig
  | motorRising
  | motorPan
deriving DecidableEq, Repr

structure CommandLine where
  cmd : String
  doc : String
  func : Option Handler
  eNext : Option Table
deriving DecidableEq, Repr

-- the rows of a table up to the one whose cmd is NULL
def rows : Table → List CommandLine
  | .diagMain =>
    [⟨"ver", "version command", none, some .version⟩,
      ⟨"icr", "icr command", none, some .icr⟩,
      ⟨"irled", "irled command", none, some .irLed⟩,
      ⟨"spotled", "spotled command", none, some .spotLed⟩,
      ⟨"led", "led command", none, some .led⟩,
      ⟨"led_r", "led red command", none, some .ledR⟩,
      ⟨"led_g", "led green command", none, some .ledG⟩,
      ⟨"led_b", "led blue command", none, some .ledB⟩,
      ⟨"als", "als command", none, some .als⟩,
      ⟨"audio", "audio command", none, some .audio⟩,
      ⟨"print", "print to telnet", none, some .out2Telnet⟩,
      ⟨"button", "button command", none, some .button⟩,
      ⟨"wifi", "wifi command", none, some .wifi⟩,
      ⟨"ble", "ble command", none, some .ble⟩,
      ⟨"ethernet", "ethernet command", none, some .ethernet⟩,
      ⟨"ringled", "ringled commad", none, some .ringLED⟩,
      ⟨"acc", "acc commad", none, some .acc⟩,
      ⟨"nfc", "nfc commad", none, some .nfc⟩,
      ⟨"motor", "motor commad", none, some .motor⟩,
      ⟨"streaming", "streaming commad", none, some .streaming⟩,
      ⟨"mfgbridge", "mfgbridge commad", none, some .mfgbridge⟩]
  | .version =>
    [⟨"sw", "sw version", some .ispFwVersionGet, none⟩,
      ⟨"wifi", "wifi version", some .wifiVersionGet, none⟩]
  | .icr =>
    [⟨"day", "icr day mode set", some .icrDayModeSet, none⟩,
      ⟨"night", "icr night mode set", some .icrNightModeSet, none⟩]
  | .irLed =>
    [⟨"on", "ir on", some .irLedOn, none⟩,
      ⟨"off", "ir off", some .irLedOff, none⟩,
      ⟨"set", "ir pwm set", some .irLedPwmValueSet, none⟩]
  | .spotLed =>
    [⟨"on", "spot on", some .spotLedOn, none⟩,
      ⟨"off", "spot off", some .spotLedOff, none⟩,
      ⟨"set", "spot pwm set", some .spotLedPwmValueSet, none⟩]
  | .led =>
    [⟨"on", "Led_All on", some .ledAllOn, none⟩,
      ⟨"off", "Led_All off", some .ledAllOff, none⟩]
  | .ledR =>
    [⟨"on", "Led_R on", some .ledROn, none⟩,
      ⟨"off", "Led_R off", some .ledROff, none⟩]
  | .ledG =>
    [⟨"on", "Led_G on", some .ledGOn, none⟩,
      ⟨"off", "Led_G off", some .ledGOff, none⟩]
  | .ledB =>
    [⟨"on", "Led_B on", some .ledBOn, none⟩,
      ⟨"off", "Led_B off", some .ledBOff, none⟩]
  | .als =>
    [⟨"id", "als id", some .alsIdGet, none⟩,
      ⟨"day", "als day mode", some .alsDayModeSet, none⟩,
      ⟨"night", "als night mode", some .alsNightModeSet, none⟩,
      ⟨"value", "als value", some .alsValueGet, none⟩,
      ⟨"calidata", "als calidata", some .alsCalidata, none⟩,
      ⟨"on", "als enable", some .alsOn, none⟩,
      ⟨"off", "als disable", some .alsOff, none⟩,
      ⟨"gain", "als gain get", some .alsCalidataGet, none⟩]
  | .audio =>
    [⟨"init", "init amplifier", some .audioInit, none⟩,
      ⟨"record", "record audio file", some .audioRecordFile, none⟩,
      ⟨"play", "play audio file", some .audioPlayFile, none⟩,
      ⟨"volume xx", "audio volume Set (xx:0~15)", some .audioVolumeSet, none⟩]
  | .out2Telnet =>
    [⟨"console", "print to console", some .printConsole, none⟩,
      ⟨"telnet", "print to telnet", some .printTelnet, none⟩]
  | .button =>
    [⟨"get", "button status get", some .buttonDetectionGet, none⟩]
  | .wifi =>
    [⟨"on", "wifi on", some .wifiOn, none⟩,
      ⟨"off", "wifi off", some .wifiOff, none⟩,
      ⟨"mfg", "wifi mfg fw on", some .wifiMfg, none⟩,
      ⟨"connect", "wifi connect ssid password", some .wifiConnect, none⟩,
      ⟨"status", "wifi connection status", some .wifiStatus, none⟩,
      ⟨"rssi", "wifi rssi", some .wifiRssiGet, none⟩,
      ⟨"mac", "wifi mac address", some .wifiMacGet, none⟩,
      ⟨"interface", "wifi interface", some .wifiInterfaceGet, none⟩,
      ⟨"ssid", "wifi ssid command", none, some .wifiSsid⟩,
      ⟨"password", "wifi password", none, some .wifiPassword⟩,
      ⟨"ip_addr", "wifi ip address", none, some .wifiIPAddr⟩,
      ⟨"ip_mask", "wifi ip mask", none, some .wifiIPMask⟩]
  | .ble =>
    [⟨"on", "ble on", some .bleOn, none⟩,
      ⟨"off", "ble off", some .bleOff, none⟩,
      ⟨"scan", "ble scan", some .bleScan, none⟩]
  | .ethernet =>
    [⟨"command:", "[interface:eth0/eth1/ethx] [ip:192.168.xx.xx]", none, none⟩,
      ⟨"example:", "diag ethernet on eth0 192.168.0.5", none, none⟩,
      ⟨"on", "ethernet enable", some .ethernetOn, none⟩]
  | .ringLED =>
    [⟨"config", "RingLED Config", none, some .ringLEDConfig⟩,
      ⟨"on_breath", "White light Breathing on", some .ringLedControl, none⟩,
      ⟨"off_breath", "White light Breathing off", some .ringLedControl, none⟩,
      ⟨"breathing", "breathing", some .ringLedControl, none⟩,
      ⟨"br2colors", "br2colors", some .ringLedControl, none⟩,
      ⟨"br_demo", "br_demo", some .ringLedControl, none⟩,
      ⟨"flower", "flower", some .ringLedControl, none⟩,
      ⟨"chase", "chase", some .ringLedControl, none⟩,
      ⟨"chase_demo", "chasing_demo", some .ringLedControl, none⟩,
      ⟨"racing", "racing", some .ringLedControl, none⟩,
      ⟨"brlogscale", "breathing logscale", some .ringLedControl, none⟩,
      ⟨"br_logscale_demo", "breathing logscale demo", some .ringLedControl, none⟩]
  | .acc =>
    [⟨"acc_raw", "Read 3 Axis raw data", some .accControl, none⟩,
      ⟨"acc_scale", "Read 3 Axis scale", some .accControl, none⟩,
      ⟨"int_6D_on", "enable 6D event", some .accControl, none⟩,
      ⟨"int_6D_off", "disable 6D event", some .accControl, none⟩,
      ⟨"int_freefall_on", "enable freefall event", some .accControl, none⟩,
      ⟨"int_freefall_off", "disable freefall event", some .accControl, none⟩,
      ⟨"int_wake_on", "enable wakeup event", some .accControl, none⟩,
      ⟨"int_wake_off", "disable wakeup event", some .accControl, none⟩]
  | .nfc =>
    [⟨"i2c_check", "Dump Register", some .nfcControl, none⟩,
      ⟨"scan", "SampleCode Demo", some .nfcControl, none⟩]
  | .motor =>
    [⟨"rising", "rising motor", none, some .motorRising⟩,
      ⟨"pan", "pan motor", none, some .motorPan⟩]
  | .streaming =>
    [⟨"on", "RTSP streaming output", some .streamingOn, none⟩]
  | .mfgbridge =>
    [⟨"test", "Labtool mfgbridge test", some .mfgbridgeTest, none⟩]
  | .wifiSsid =>
    [⟨"get", "wifi ssid get", some .wifiSsidGet, none⟩,
      ⟨"set", "wifi ssid set", some .wifiSsidSet, none⟩]
  | .wifiPassword =>
    [⟨"get", "wifi password get", some .wifiPassGet, none⟩,
      ⟨"set", "wifi password set", some .wifiPassSet, none⟩]
  | .wifiIPAddr =>
    [⟨"get", "wifi ip_addr get", some .wifiIpAddrGet, none⟩,
      ⟨"set", "wifi ip_addr set", some .wifiIpAddrSet, none⟩]
  | .wifiIPMask =>
    [⟨"get", "wifi ip_mask get", some .wifiIpMaskGet, none⟩,
      ⟨"set", "wifi ip_mask set", some .wifiIpMaskSet, none⟩]
  | .ringLEDConfig =>
    [⟨"mode_on", "Mode on", some .ringLedControl, none⟩,
      ⟨"mode_off", "Mode off", some .ringLedControl, none⟩,
      ⟨"mode_default", "Default", some .ringLedControl, none⟩,
      ⟨"mode_night", "Mode night", some .ringLedControl, none⟩,
      ⟨"be_on", "Brightextend on", some .ringLedControl, none⟩,
      ⟨"be_off", "brightextend off", some .ringLedControl, none⟩,
      ⟨"ce_set", "CoolExtend set", some .ringLedControl, none⟩,
      ⟨"ce_get", "CoolExtend get", some .ringLedControl, none⟩,
      ⟨"fr_set", "Fade Rate set", some .ringLedControl, none⟩,
      ⟨"fr_get", "Fade Rate get", some .ringLedControl, none⟩]
  | .motorRising =>
    [⟨"command:", "forward [speed:1~4] [time:100ms~]", none, none⟩,
      ⟨"example:", "forward 4 1000", none, none⟩,
      ⟨"forward", "move forward", some .risingMotorForward, none⟩,
      ⟨"command:", "reverse [speed:1~4] [time:100ms~]", none, none⟩,
      ⟨"example:", "reverse 4 1000", none, none⟩,
      ⟨"reverse", "move reverse", some .risingMotorReverse, none⟩,
      ⟨"test", "rising motor self-test", some .risingMotorTest, none⟩]
  | .motorPan =>
    [⟨"command:", "forward [speed:1~4] [time:100ms~]", none, none⟩,
      ⟨"example:", "forward 4 1000", none, none⟩,
      ⟨"forward", "move forward", some .panMotorForward, none⟩,
      ⟨"command:", "reverse [speed:1~4] [time:100ms~]", none, none⟩,
      ⟨"example:", "reverse 4 1000", none, none⟩,
      ⟨"reverse", "move reverse", some .panMotorReverse, none⟩,
      ⟨"test", "pan motor self-test", some .panMotorTest, none⟩]

def strlen (s : String) : Nat := s.toList.length

def strncmp (s1 s2 : String) (n : Nat) : Bool := s1.toList.take n != s2.toList.take n

structure Walk where
  eCommand : Option Table
  intIndex : Nat
  argc : Nat
  argv : List String
deriving DecidableEq, Repr

inductive Exit where
  | nullTable
  | nullToken
  | returned (calls : List (Handler × List String)) (printed : String) (intResult : Int)
deriving DecidableEq, Repr

def unknownCommand (token : String) : String := "Unknown command - \"" ++ token ++ "\"\n"

def helpLine (row : CommandLine) : String :=
  "".pushn ' ' (16 - strlen row.cmd) ++ row.cmd ++ " \t " ++ row.doc ++ "\n"

def helpInfo (table : Table) : String :=
  "\nHelp info:\n" ++ "-----------------------------------\n" ++
    String.join ((rows table).map helpLine) ++ "-----------------------------------\n"

def differs (cmd token : String) : Bool :=
  strncmp cmd token (strlen cmd) || strlen cmd != strlen token

section executeCommand

variable (func : Handler → List String → Int)

def descend (row : CommandLine) (argc : Nat) (argv : List String) : Walk ⊕ Exit :=
  match row.func with
  | some f => .inr (.returned [(f, argv)] "" (func f argv))
  | none =>
    if argc = 1 then
      match row.eNext with
      | none => .inr .nullTable
      | some next => .inr (.returned [] (helpInfo next) 0)
    else .inl ⟨row.eNext, 0, argc - 1, argv.tail⟩

-- one turn of the while loop, with the code behind the loop where it leaves
def executeStep (w : Walk) : Walk ⊕ Exit :=
  match w.eCommand with
  | none => .inr .nullTable
  | some table =>
    match w.argv with
    | [] => .inr .nullToken
    | token :: _ =>
      match (rows table)[w.intIndex]? with
      | none => .inr (.returned [] (unknownCommand token) (-1))
      | some row =>
        if differs row.cmd token then .inl { w with intIndex := w.intIndex + 1 }
        else descend func row w.argc w.argv

end executeCommand

def executeStart (eDiagCommand : Table) (argv : List String) : Walk :=
  ⟨some eDiagCommand, 0, argv.length, argv⟩

theorem differs_iff (cmd token : String) : differs cmd token = true ↔ cmd ≠ token := by
  rw [differs, strncmp, strlen, strlen, Bool.or_eq_true, bne_iff_ne, bne_iff_ne, ← not_and_or,
    not_iff_not]
  constructor
  · rintro ⟨htake, hlen⟩
    rw [List.take_length, hlen, List.take_length] at htake
    exact String.toList_inj.mp htake
  · rintro rfl
    exact ⟨rfl, rfl⟩

example : executeStep (fun _ _ => 0) (executeStart .motorRising ["test"]) =
    .inl ⟨some .motorRising, 1, 1, ["test"]⟩ := by decide

end PegaDiagCommand
