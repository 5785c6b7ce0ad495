import IrisFirmware.Wifi.Reorder.Runs
import IrisFirmware.Nfc.IsoDep.Delivery
import IrisFirmware.Nfc.IsoDep.Retries
import IrisFirmware.Nfc.IsoDep.Transport
import IrisFirmware.Wifi.Amsdu
import IrisFirmware.FwLoader.Commands
import IrisFirmware.FwLoader.Image
import IrisFirmware.Nfc.Iso15693
import IrisFirmware.Motor.Requests
import IrisFirmware.Library.Run
import IrisFirmware.Misc.Diag.Delivery
import IrisFirmware.Misc.Diag.Agreement
import IrisFirmware.Misc.NvMode.Debounce
import IrisFirmware.Misc.NvMode.Actuators
import IrisFirmware.Misc.Schedule.Firing
import IrisFirmware.Led.Control
import IrisFirmware.Led.RegisterMap
import IrisFirmware.Led.Breathing
import IrisFirmware.Led.LogRamp
import IrisFirmware.Misc.NvMode.Spells
import IrisFirmware.Motor.Stepper
import IrisFirmware.Misc.LedFlash.Thread
import IrisFirmware.Misc.Wifi.Status
import IrisFirmware.Misc.BleUart
import IrisFirmware.Uart.Receive
import IrisFirmware.Accel.Whoami
import IrisFirmware.Accel.Thresholds
import IrisFirmware.Accel.Verdict
import IrisFirmware.Diag.Dispatch
import IrisFirmware.Misc.Amp.Loading
import IrisFirmware.Misc.Amp.Cache
import IrisFirmware.Misc.Amp.Levels
import IrisFirmware.Accel.OutputRate
import IrisFirmware.Accel.EventConfig
import IrisFirmware.Accel.Driver
import IrisFirmware.Accel.SampFreq
import IrisFirmware.Accel.Timestamps
import IrisFirmware.Accel.SleepCycle
import IrisFirmware.Accel.SleepRuns
import IrisFirmware.Misc.Motor.Debug
import IrisFirmware.Misc.NvMode.Responsive
import IrisFirmware.Misc.Schedule.Promise
import IrisFirmware.Led.Chasing
import IrisFirmware.Led.RingStatus
import IrisFirmware.Diag.Arguments
import IrisFirmware.Diag.WifiConfig
