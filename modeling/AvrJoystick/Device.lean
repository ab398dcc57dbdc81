import AvrJoystick.Runs
import AvrJoystick.Board
import AvrJoystick.Report
import AvrJoystick.Endpoint

/-!
# The joystick device

The firmware as a step system: the application of `joystick.c` and the HID
class driver it is linked with.  `Device` holds every variable the two of them
keep between calls, together with the interrupt endpoint.  An `Event` is one
thing that can happen: a USB event handler runs, the main loop calls
`HID_Device_USBTask`, a control request is dispatched, the host collects a
packet, an input pin changes.  Each takes effect as one step, in any order.

What the outside can see is returned as a list of observations, so that the
device itself keeps no history.  `Observed` collects them along a run.
-/

namespace AvrJoystick

/-- `HIDInterfaceInfo->State`. -/
structure HIDDeviceState where
  usingReportProtocol : Bool := false
  prevFrameNum : UInt16 := 0
  idleCount : UInt16 := 0
  idleMSRemaining : UInt16 := 0
  deriving DecidableEq, Repr

/-- Everything the firmware keeps between two calls. -/
structure Device where
  ports : Ports
  mask : UInt8 := 0xFF
  saved : UInt8 := 0
  usbDeviceState : USBDeviceState := .unattached
  hid : HIDDeviceState := {}
  prevReportINBuffer : ReportBuffer := .zeroed
  endpoint : INEndpoint := {}
  deriving DecidableEq

/-- What can be seen from outside: an interface configuration, a report handed
to the interrupt endpoint, a packet released there, a report created for a
GET_REPORT, a packet released on the control endpoint. -/
inductive Observation
  | configuration
  | inReport (report : List UInt8)
  | inPacket (packet : List UInt8)
  | controlReport (report : List UInt8)
  | controlPacket (packet : List UInt8)
  deriving DecidableEq, Repr

/-- The results of `CALLBACK_HID_Device_CreateHIDReport`. -/
structure CreatedReport where
  forceSend : Bool
  reportID : UInt8
  reportData : USBJoystickReportData
  reportSize : UInt16

/-- `CALLBACK_HID_Device_CreateHIDReport`: three members are written, the
others stay as the caller left them. -/
def callbackHIDDeviceCreateHIDReport (d : Device) (reportID _reportType : UInt8)
    (reportData : USBJoystickReportData) : CreatedReport where
  forceSend := false
  reportID := reportID
  reportData :=
    { reportData with
      button := d.ports.pinB.toUInt32
      x := d.mask.toInt8
      y := d.saved.toInt8 }
  reportSize := UInt16.ofNat sizeofUSBJoystickReportData

/-- The arguments of `CALLBACK_HID_Device_ProcessHIDReport`.  `reportData` is
memory from the passed pointer on, without an end. -/
structure ReceivedReport where
  reportID : UInt8
  reportType : UInt8
  reportData : Nat → UInt8
  reportSize : UInt16

/-- `CALLBACK_HID_Device_ProcessHIDReport`. -/
def callbackHIDDeviceProcessHIDReport (d : Device) (r : ReceivedReport) :
    Device :=
  { d with
    saved := r.reportData 1
    ports := { d.ports with portD := r.reportData 1 } }

/-- `USB_Request_Header_t`. -/
structure USBRequestHeader where
  bmRequestType : UInt8
  bRequest : UInt8
  wValue : UInt16
  wIndex : UInt16
  wLength : UInt16
  deriving DecidableEq, Repr

/-- A control transfer as the driver meets it: the request header, the state
of the SETUP flag, what the endpoint loops will read, and what the memory of
the stack happens to hold from the report buffer's address on. -/
structure ControlTransfer where
  header : USBRequestHeader
  setupReceived : Bool := true
  polls : List EndpointPoll
  stack : Nat → UInt8

/-- `HID_ClassRequests_t`. -/
inductive HIDClassRequest
  | getReport
  | getIdle
  | getProtocol
  | setReport
  | setIdle
  | setProtocol
  deriving DecidableEq, Repr

def hidClassRequest (bRequest : UInt8) : Option HIDClassRequest :=
  match bRequest.toNat with
  | 0x01 => some .getReport
  | 0x02 => some .getIdle
  | 0x03 => some .getProtocol
  | 0x09 => some .setReport
  | 0x0A => some .setIdle
  | 0x0B => some .setProtocol
  | _ => none

/-- `REQDIR_DEVICETOHOST | REQTYPE_CLASS | REQREC_INTERFACE`. -/
def deviceToHostClassInterface : UInt8 := 0xA1

/-- `REQDIR_HOSTTODEVICE | REQTYPE_CLASS | REQREC_INTERFACE`. -/
def hostToDeviceClassInterface : UInt8 := 0x21

/-- The request type each class request has to carry. -/
def HIDClassRequest.requestType : HIDClassRequest → UInt8
  | .getReport | .getIdle | .getProtocol => deviceToHostClassInterface
  | .setReport | .setIdle | .setProtocol => hostToDeviceClassInterface

namespace ControlTransfer

/-- The report ID a report request names. -/
def reportID (t : ControlTransfer) : UInt8 := t.header.wValue.toUInt8

/-- The report type it names, counted from zero. -/
def reportType (t : ControlTransfer) : UInt8 :=
  (t.header.wValue >>> 8).toUInt8 - 1

/-- Bytes the report ID takes up at the front of the data stage. -/
def idBytes (t : ControlTransfer) : Nat := if t.reportID = 0 then 0 else 1

/-- The data stage of a SET_REPORT. -/
def dataStage (t : ControlTransfer) : ControlRead :=
  endpointReadControlStreamLE t.polls t.header.wLength.toNat

/-- The array `ReportData` after the data stage.  It starts out with whatever
the stack held, and reading past its end reads on in the stack. -/
def memory (t : ControlTransfer) (i : Nat) : UInt8 :=
  t.dataStage.received.getD i (t.stack i)

/-- What the driver passes to the application once the data stage of a
SET_REPORT has ended, for whatever reason. -/
def receivedReport (t : ControlTransfer) : Option ReceivedReport :=
  t.dataStage.outcome.map (fun _ =>
    { reportID := t.reportID
      reportType := t.reportType
      reportData := fun i => t.memory (i + t.idBytes)
      reportSize := t.header.wLength - UInt16.ofNat t.idBytes })

/-- The request the driver acts on: the SETUP flag is set, the request is for
this interface, and it has the type its number calls for. -/
def accepted (t : ControlTransfer) : Option HIDClassRequest :=
  if t.setupReceived = false then none
  else if t.header.wIndex ≠ interfaceIDJoystick.toUInt16 then none
  else
    (hidClassRequest t.header.bRequest).filter
      (fun r => t.header.bmRequestType == r.requestType)

end ControlTransfer

/-- The GET_REPORT branch.  The comparison buffer is overwritten, whatever
kind of report was asked for and however much of it the host will take. -/
def getReport (d : Device) (t : ControlTransfer) : Device × List Observation :=
  let created :=
    callbackHIDDeviceCreateHIDReport d t.reportID t.reportType .cleared
  let data := created.reportData.toBuffer
  let bank := if created.reportID = 0 then [] else [created.reportID]
  let sent := endpointWriteControlStreamLE bank
    (data.bytes.take created.reportSize.toNat) t.header.wLength.toNat t.polls
  ({ d with prevReportINBuffer := data },
    .controlReport data.bytes :: sent.packets.map .controlPacket)

/-- The SET_REPORT branch.  The error code of the data stage is ignored. -/
def setReport (d : Device) (t : ControlTransfer) : Device :=
  match t.receivedReport with
  | none => d
  | some r => callbackHIDDeviceProcessHIDReport d r

/-- The GET_PROTOCOL and GET_IDLE branches: one byte in reply, once the bank
is free. -/
def replyByte (t : ControlTransfer) (reply : UInt8) : List Observation :=
  if t.polls.any (·.inReady) then [.controlPacket [reply]] else []

/-- The SET_PROTOCOL branch. -/
def setProtocol (d : Device) (t : ControlTransfer) : Device :=
  if statusStageCleared false t.polls then
    { d with
      hid := { d.hid with
        usingReportProtocol := decide (t.header.wValue &&& 0xFF ≠ 0x00) } }
  else d

/-- The SET_IDLE branch: the rate comes in units of four milliseconds. -/
def setIdle (d : Device) (t : ControlTransfer) : Device :=
  if statusStageCleared false t.polls then
    { d with
      hid := { d.hid with idleCount := (t.header.wValue &&& 0xFF00) >>> 6 } }
  else d

/-- `HID_Device_ProcessControlRequest`. -/
def hidDeviceProcessControlRequest (d : Device) (t : ControlTransfer) :
    Device × List Observation :=
  match t.accepted with
  | none => (d, [])
  | some .getReport => getReport d t
  | some .setReport => (setReport d t, [])
  | some .getProtocol => (d, replyByte t d.hid.usingReportProtocol.toUInt8)
  | some .setProtocol => (setProtocol d t, [])
  | some .setIdle => (setIdle d t, [])
  | some .getIdle => (d, replyByte t (d.hid.idleCount >>> 2).toUInt8)

/-- One call of `HID_Device_USBTask`: the frame number read at its start and
at its end, and the results of the waits for the endpoint bank. -/
structure TaskCall where
  frameNumber : UInt16
  lastFrameNumber : UInt16
  waits : List ReadyWait := []

/-- `HID_REPORT_ITEM_In`. -/
def hidReportItemIn : UInt8 := 0

/-- `IdlePeriodElapsed` of `HID_Device_USBTask`. -/
def Device.idlePeriodElapsed (d : Device) : Bool :=
  decide (d.hid.idleCount ≠ 0) && decide (d.hid.idleMSRemaining = 0)

/-- `HID_Device_USBTask`. -/
def hidDeviceUSBTask (d : Device) (t : TaskCall) : Device × List Observation :=
  if d.usbDeviceState ≠ .configured then (d, [])
  -- USB_Options has no USB_DEVICE_OPT_LOWSPEED
  else if d.hid.prevFrameNum = t.frameNumber then (d, [])
  else if d.endpoint.isReadWriteAllowed = false then (d, [])
  else
    let created := callbackHIDDeviceCreateHIDReport d 0 hidReportItemIn .cleared
    let data := created.reportData.toBuffer
    let size := created.reportSize.toNat
    let statesChanged :=
      decide (data.bytes.take size ≠ d.prevReportINBuffer.bytes.take size)
    if created.reportSize ≠ 0 ∧
        (created.forceSend || statesChanged || d.idlePeriodElapsed) = true then
      let ep :=
        if created.reportID = 0 then d.endpoint
        else { d.endpoint with bank := d.endpoint.bank ++ [created.reportID] }
      let sent := endpointWriteStreamLE ep (data.bytes.take size) t.waits
      ({ d with
          prevReportINBuffer := data
          endpoint := sent.endpoint.clearIN
          hid := { d.hid with
            idleMSRemaining := d.hid.idleCount
            prevFrameNum := t.lastFrameNumber } },
        .inReport (data.bytes.take size) ::
          (sent.packets ++ [sent.endpoint.bank]).map .inPacket)
    else
      ({ d with
          prevReportINBuffer := data
          hid := { d.hid with prevFrameNum := t.lastFrameNumber } }, [])

/-- `HID_Device_MillisecondElapsed`. -/
def hidDeviceMillisecondElapsed (d : Device) : Device :=
  if d.hid.idleMSRemaining ≠ 0 then
    { d with
      hid := { d.hid with idleMSRemaining := d.hid.idleMSRemaining - 1 } }
  else d

/-- `HID_Device_ConfigureEndpoints`: the driver state is reset, the comparison
buffer is not.  Whether the endpoint memory could be allocated is up to the
controller. -/
def hidDeviceConfigureEndpoints (d : Device) (configOk : Bool) : Device :=
  { d with
    hid :=
      { usingReportProtocol := true
        prevFrameNum := 0
        idleCount := 500
        idleMSRemaining := 0 }
    endpoint := { isConfigured := configOk } }

/-- `LEDs_SetAllLEDs` on the device's ports. -/
def Device.setAllLEDs (d : Device) (ledMask : UInt8) : Device :=
  { d with ports := ledsSetAllLEDs ledMask d.ports }

/-- `EVENT_USB_Device_Connect`. -/
def eventUSBDeviceConnect (d : Device) : Device :=
  d.setAllLEDs ledMaskUSBEnumerating

/-- `EVENT_USB_Device_Disconnect`. -/
def eventUSBDeviceDisconnect (d : Device) : Device :=
  d.setAllLEDs ledMaskUSBNotReady

/-- `EVENT_USB_Device_ConfigurationChanged`. -/
def eventUSBDeviceConfigurationChanged (d : Device) (configOk : Bool) : Device :=
  (hidDeviceConfigureEndpoints d configOk).setAllLEDs
    (if configOk then ledMaskUSBReady else ledMaskUSBError)

/-- `EVENT_USB_Device_ControlRequest`. -/
def eventUSBDeviceControlRequest (d : Device) (t : ControlTransfer) :
    Device × List Observation :=
  hidDeviceProcessControlRequest d t

/-- `EVENT_USB_Device_StartOfFrame`. -/
def eventUSBDeviceStartOfFrame (d : Device) : Device :=
  hidDeviceMillisecondElapsed d

/-- The program's variables as the C start-up code leaves them, on ports in an
arbitrary state. -/
def afterReset (ports : Ports) : Device := { ports := ports }

/-- `SetupHardware`.  `Joystick_Init` of this board is empty. -/
def setupHardware (d : Device) : Device :=
  { d with
    ports := buttonsInit (ledsInit d.ports)
    usbDeviceState := .unattached }

/-- `main` up to its loop. -/
def mainBeforeLoop (ports : Ports) : Device :=
  (setupHardware (afterReset ports)).setAllLEDs ledMaskUSBNotReady

/-- One thing that can happen to the running device.  `stateChange` stands for
the library's own bookkeeping of the bus (addressing, suspend, wake-up), which
may set `USB_DeviceState` to anything at any time; `busReset` disables the
interrupt endpoint; `endpointHalt` is the standard halt feature on it;
`inToken` is the host collecting the packet in its bank. -/
inductive Event
  | connect
  | disconnect
  | stateChange (state : USBDeviceState)
  | busReset
  | endpointHalt (halted : Bool)
  | configurationChanged (configOk : Bool)
  | controlRequest (transfer : ControlTransfer)
  | startOfFrame
  | usbTask (call : TaskCall)
  | inToken
  | pinB (level : UInt8)

/-- One step of the device, with what can be seen of it. -/
def Device.step (d : Device) : Event → Device × List Observation
  | .connect =>
      (eventUSBDeviceConnect { d with usbDeviceState := .powered }, [])
  | .disconnect =>
      (eventUSBDeviceDisconnect { d with usbDeviceState := .unattached }, [])
  | .stateChange state => ({ d with usbDeviceState := state }, [])
  | .busReset => ({ d with usbDeviceState := .default, endpoint := {} }, [])
  | .endpointHalt true =>
      ({ d with endpoint := { d.endpoint with isStalled := true } }, [])
  | .endpointHalt false =>
      ({ d with
          endpoint :=
            { d.endpoint with isStalled := false, busy := false, bank := [] } },
        [])
  | .configurationChanged configOk =>
      (eventUSBDeviceConfigurationChanged d configOk, [.configuration])
  | .controlRequest t => eventUSBDeviceControlRequest d t
  | .startOfFrame => (eventUSBDeviceStartOfFrame d, [])
  | .usbTask t => hidDeviceUSBTask d t
  | .inToken => ({ d with endpoint := { d.endpoint with busy := false } }, [])
  | .pinB level => ({ d with ports := { d.ports with pinB := level } }, [])

/-- A device together with all that has been seen of it, oldest first. -/
structure Observed where
  device : Device
  log : List Observation := []

def Observed.step (o : Observed) (e : Event) : Observed :=
  ⟨(o.device.step e).1, o.log ++ (o.device.step e).2⟩

/-- The device on entry to the main loop, with nothing seen of it yet. -/
def started (ports : Ports) : Observed := ⟨mainBeforeLoop ports, []⟩

end AvrJoystick
