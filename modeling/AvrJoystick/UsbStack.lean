import AvrJoystick.Firmware

/-!
# Control requests, the class driver's task and the interrupt handler

The part of the firmware that runs in the main loop, as programs that can be
interrupted anywhere, and the handler `USB_GEN_vect` that interrupts them.

`Signal` is everything that can happen around the main program: the handler is
entered, or the controller changes something by itself.  The controller may
raise and lower the flags of an endpoint, fill its bank, advance the frame
number, raise interrupts and take them back as it pleases; nothing is assumed about the host.
-/

namespace AvrJoystick

open Interleave

/-- How the first loop of a control stream is left: at its end, or by a
`return` out of the function. -/
inductive StreamExit
  | finished
  | returned (error : ControlStreamError)
  deriving DecidableEq

namespace Firmware

/-- The checks of `USB_DeviceState` in the control streams. -/
def busError : USBDeviceState → Option ControlStreamError
  | .unattached => some .deviceDisconnected
  | .suspended => some .busSuspended
  | _ => none

/-- `while (!flag)` with the checks at the end of a control stream.  Those of a
write look out for a SETUP packet as well. -/
def awaitControlEnd (flag : FwProg Bool) (abortable : Bool) : FwProg ControlStreamError :=
  .untilSome do
    if ← flag then pure (some .noError)
    else do
      let error := busError (← deviceState)
      if error.isSome then pure error
      else if abortable then do
        if ← endpointIsSETUPReceived then pure (some .hostAborted) else pure none
      else pure none

/-- What is done after the first loop of a control stream. -/
def StreamExit.andThen (exit : StreamExit) (next : FwProg ControlStreamError) :
    FwProg ControlStreamError :=
  match exit with
  | .finished => next
  | .returned error => pure error

/-- The inner loop of a control write: the bytes left over, and the number of
bytes in the bank. -/
def fillControlBank : Nat → List UInt8 → FwProg (List UInt8 × Nat)
  | bytesInEndpoint, [] => pure ([], bytesInEndpoint)
  | bytesInEndpoint, b :: data =>
      if bytesInEndpoint < fixedControlEndpointSize then do
        endpointWrite8 .control b
        fillControlBank (bytesInEndpoint + 1) data
      else pure (b :: data, bytesInEndpoint)

/-- One round of a control write for the data left and `LastPacketFull`. -/
def writeControlRound (w : List UInt8 × Bool) :
    FwProg ((List UInt8 × Bool) ⊕ StreamExit) :=
  if w.1 = [] ∧ w.2 = false then pure (.inr .finished)
  else do
    let error := busError (← deviceState)
    if error.isSome then pure (.inr (.returned (error.getD .noError)))
    else do
      if ← endpointIsSETUPReceived then pure (.inr (.returned .hostAborted))
      else do
        if ← endpointIsOUTReceived then pure (.inr .finished)
        else do
          if ← endpointIsINReady then do
            let bytesInEndpoint ← endpointBytesInEndpoint
            let filled ← fillControlBank bytesInEndpoint w.1
            endpointClearIN
            pure (.inl (filled.1, filled.2 == fixedControlEndpointSize))
          else pure (.inl w)

/-- The length that is sent; nothing to send releases the bank at once. -/
def controlData (buffer : List UInt8) (wLength : Nat) : FwProg (List UInt8) :=
  if wLength < buffer.length then pure (buffer.take wLength)
  else if buffer = [] then do
    endpointClearIN
    pure []
  else pure buffer

/-- `Endpoint_Write_Control_Stream_LE` and `Endpoint_Write_Control_PStream_LE`,
for the data at the given address. -/
def endpointWriteControlStreamLE (buffer : List UInt8) : FwProg ControlStreamError := do
  let wLength ← Prog.read fun s => s.usbControlRequest.wLength.toNat
  let data ← controlData buffer wLength
  let exit ← Prog.iterate (data, false) writeControlRound
  StreamExit.andThen exit (awaitControlEnd endpointIsOUTReceived true)

/-- The inner loop of a control read, for the bytes stored and the length left. -/
def takeBankRound (r : List UInt8 × Nat) :
    FwProg ((List UInt8 × Nat) ⊕ (List UInt8 × Nat)) :=
  if r.2 = 0 then pure (.inr r)
  else do
    if (← endpointBytesInEndpoint) = 0 then pure (.inr r)
    else do
      let b ← endpointRead8
      pure (.inl (r.1 ++ [b], r.2 - 1))

/-- One round of a control read, for the bytes stored and the length left. -/
def readControlRound (r : List UInt8 × Nat) :
    FwProg ((List UInt8 × Nat) ⊕ (List UInt8 × StreamExit)) :=
  if r.2 = 0 then pure (.inr (r.1, .finished))
  else do
    let error := busError (← deviceState)
    if error.isSome then pure (.inr (r.1, .returned (error.getD .noError)))
    else do
      if ← endpointIsSETUPReceived then pure (.inr (r.1, .returned .hostAborted))
      else do
        if ← endpointIsOUTReceived then do
          let taken ← Prog.iterate r takeBankRound
          endpointClearOUT
          pure (.inl taken)
        else pure (.inl r)

/-- Nothing to store takes a packet all the same. -/
def clearUnwantedOUT (length : Nat) : FwProg Unit :=
  if length = 0 then endpointClearOUT else pure ()

/-- `Endpoint_Read_Control_Stream_LE`: the bytes stored, in order, and the error
code. -/
def endpointReadControlStreamLE (length : Nat) : FwProg (List UInt8 × ControlStreamError) := do
  clearUnwantedOUT length
  let read ← Prog.iterate (([] : List UInt8), length) readControlRound
  let error ← StreamExit.andThen read.2 (awaitControlEnd endpointIsINReady false)
  pure (read.1, error)

/-- The variables the callbacks and the class driver look at. -/
def toDevice (s : Firmware) : Device where
  ports := s.ports
  mask := s.mask
  saved := s.saved
  usbDeviceState := s.usbDeviceState
  hid := s.hid
  prevReportINBuffer := s.prevReportINBuffer

/-- `while (!(Endpoint_IsINReady()));` -/
def spinUntilINReady : FwProg Unit :=
  .untilSome do
    if ← endpointIsINReady then pure (some ()) else pure none

/-- `memcpy` to the buffer of the previous report. -/
def storePrevReport (data : ReportBuffer) : FwProg Unit :=
  .modify fun s => { s with prevReportINBuffer := data }

/-- `CALLBACK_HID_Device_ProcessHIDReport`. -/
def processHIDReport (r : ReceivedReport) : FwProg Unit :=
  .modify fun s =>
    let d := callbackHIDDeviceProcessHIDReport s.toDevice r
    { s with saved := d.saved, ports := d.ports }

/-- The GET_REPORT branch. -/
def getReport (header : USBRequestHeader) : FwProg Unit := do
  let created ← Prog.read fun s => callbackHIDDeviceCreateHIDReport s.toDevice
    header.wValue.toUInt8 ((header.wValue >>> 8).toUInt8 - 1) .cleared
  storePrevReport created.reportData.toBuffer
  endpointSelectEndpoint endpointControlEP
  endpointClearSETUP
  if created.reportID ≠ 0 then endpointWrite8 .control created.reportID else pure ()
  let _ ← endpointWriteControlStreamLE
    (created.reportData.toBuffer.bytes.take created.reportSize.toNat)
  endpointClearOUT

/-- What the SET_REPORT branch hands to the application.  The array keeps what
the stack held where the data stage wrote nothing. -/
def receivedReport (header : USBRequestHeader) (stack : Nat → UInt8)
    (received : List UInt8) : ReceivedReport :=
  let reportID := header.wValue.toUInt8
  let idBytes := if reportID = 0 then 0 else 1
  { reportID := reportID
    reportType := (header.wValue >>> 8).toUInt8 - 1
    reportData := fun i => received.getD (i + idBytes) (stack (i + idBytes))
    reportSize := header.wLength - UInt16.ofNat idBytes }

/-- The SET_REPORT branch.  The error code of the data stage is ignored. -/
def setReport (header : USBRequestHeader) : FwProg Unit := do
  let stack ← Prog.read fun s => s.stack
  endpointClearSETUP
  let read ← endpointReadControlStreamLE header.wLength.toNat
  endpointClearIN
  processHIDReport (receivedReport header stack read.1)

/-- The GET_PROTOCOL and GET_IDLE branches. -/
def replyByte (reply : Firmware → UInt8) : FwProg Unit := do
  endpointClearSETUP
  spinUntilINReady
  let data ← Prog.read reply
  endpointWrite8 .control data
  endpointClearIN
  endpointClearStatusStage

def setUsingReportProtocol (flag : Bool) : FwProg Unit :=
  .modify fun s => { s with hid := { s.hid with usingReportProtocol := flag } }

def setIdleCount (count : UInt16) : FwProg Unit :=
  .modify fun s => { s with hid := { s.hid with idleCount := count } }

/-- The `switch` of `HID_Device_ProcessControlRequest`. -/
def classRequest (header : USBRequestHeader) : HIDClassRequest → FwProg Unit
  | .getReport => getReport header
  | .setReport => setReport header
  | .getProtocol => replyByte fun s => s.hid.usingReportProtocol.toUInt8
  | .setProtocol => do
      endpointClearSETUP
      endpointClearStatusStage
      setUsingReportProtocol (decide (header.wValue &&& 0xFF ≠ 0x00))
  | .setIdle => do
      endpointClearSETUP
      endpointClearStatusStage
      setIdleCount ((header.wValue &&& 0xFF00) >>> 6)
  | .getIdle => replyByte fun s => (s.hid.idleCount >>> 2).toUInt8

/-- The request a header makes of the class driver, if its type is right. -/
def classRequestOf (header : USBRequestHeader) : Option HIDClassRequest :=
  if header.wIndex ≠ interfaceIDJoystick.toUInt16 then none
  else
    (hidClassRequest header.bRequest).filter
      (fun r => header.bmRequestType == r.requestType)

/-- `HID_Device_ProcessControlRequest`, the body of
`EVENT_USB_Device_ControlRequest`. -/
def hidDeviceProcessControlRequest : FwProg Unit := do
  if ← endpointIsSETUPReceived then do
    let header ← Prog.read fun s => s.usbControlRequest
    (classRequestOf header).elim (pure ()) (classRequest header)
  else pure ()

/-- `Joystick_HID_Interface.Config.ReportINEndpoint`, with the type that
`HID_Device_ConfigureEndpoints` stores in it. -/
def reportINEndpoint : USBEndpointTable where
  address := joystickINEPAddr
  size := UInt16.ofNat joystickINEPSize
  type := epTypeInterrupt
  banks := 1

/-- `memset` of `HIDInterfaceInfo->State`. -/
def clearHIDState : FwProg Unit := .modify fun s => { s with hid := {} }

/-- `HID_Device_ConfigureEndpoints`. -/
def hidDeviceConfigureEndpoints : FwProg Bool := do
  clearHIDState
  setUsingReportProtocol true
  setIdleCount 500
  endpointConfigureEndpointTable [reportINEndpoint]

def loadUDIEN : FwProg Unit := .modify fun s => { s with udienCopy := some s.udien }

def storeUDIENWithSOFE : FwProg Unit :=
  .modify fun s =>
    { s with udien := { s.udienCopy.getD s.udien with sof := true }, udienCopy := none }

/-- `USB_Device_EnableSOFEvents`: `UDIEN |= (1 << SOFE)`. -/
def usbDeviceEnableSOFEvents : FwProg Unit := do
  loadUDIEN
  storeUDIENWithSOFE

def setAllLEDs (ledMask : UInt8) : FwProg Unit :=
  .modify fun s => { s with ports := ledsSetAllLEDs ledMask s.ports }

/-- `EVENT_USB_Device_ConfigurationChanged`. -/
def eventUSBDeviceConfigurationChanged : FwProg Unit := do
  let configSuccess ← hidDeviceConfigureEndpoints
  usbDeviceEnableSOFEvents
  setAllLEDs (if configSuccess then ledMaskUSBReady else ledMaskUSBError)

end Firmware

/-- `1 << ADDEN`. -/
def addenBit : UInt8 := 0x80

/-- `REQDIR_DEVICETOHOST | REQTYPE_STANDARD | REQREC_DEVICE`. -/
def deviceToHostDevice : UInt8 := 0x80
/-- `REQDIR_DEVICETOHOST | REQTYPE_STANDARD | REQREC_INTERFACE`. -/
def deviceToHostInterface : UInt8 := 0x81
/-- `REQDIR_DEVICETOHOST | REQTYPE_STANDARD | REQREC_ENDPOINT`. -/
def deviceToHostEndpoint : UInt8 := 0x82
/-- `REQDIR_HOSTTODEVICE | REQTYPE_STANDARD | REQREC_DEVICE`. -/
def hostToDeviceDevice : UInt8 := 0x00
/-- `REQDIR_HOSTTODEVICE | REQTYPE_STANDARD | REQREC_ENDPOINT`. -/
def hostToDeviceEndpoint : UInt8 := 0x02

/-- `CONTROL_REQTYPE_RECIPIENT`. -/
def controlReqTypeRecipient : UInt8 := 0x1F
def reqRecDevice : UInt8 := 0
def reqRecEndpoint : UInt8 := 2

def reqGetStatus : UInt8 := 0
def reqClearFeature : UInt8 := 1
def reqSetFeature : UInt8 := 3
def reqSetAddress : UInt8 := 5
def reqGetDescriptor : UInt8 := 6
def reqGetConfiguration : UInt8 := 8
def reqSetConfiguration : UInt8 := 9

def featureSelEndpointHalt : UInt8 := 0
def featureSelDeviceRemoteWakeup : UInt8 := 1

namespace Firmware

/-- `USB_Device_IsAddressSet`. -/
def isAddressSet (s : Firmware) : Bool := decide (s.udaddr &&& addenBit ≠ 0)

def setDeviceState (state : USBDeviceState) : FwProg Unit :=
  .modify fun s => { s with usbDeviceState := state }

/-- `USB_Device_SetDeviceAddress`. -/
def usbDeviceSetDeviceAddress (address : UInt8) : FwProg Unit :=
  .modify fun s => { s with udaddr := (s.udaddr &&& addenBit) ||| (address &&& 0x7F) }

/-- `USB_Device_EnableDeviceAddress`. -/
def usbDeviceEnableDeviceAddress : FwProg Unit :=
  .modify fun s => { s with udaddr := s.udaddr ||| addenBit }

/-- `USB_Device_SetAddress`. -/
def usbDeviceSetAddress : FwProg Unit := do
  let address ← Prog.read fun s => s.usbControlRequest.wValue.toUInt8 &&& 0x7F
  usbDeviceSetDeviceAddress address
  endpointClearSETUP
  endpointClearStatusStage
  spinUntilINReady
  usbDeviceEnableDeviceAddress
  setDeviceState (if address ≠ 0 then .addressed else .default)

def setConfigurationNumber (number : UInt8) : FwProg Unit :=
  .modify fun s => { s with usbDeviceConfigurationNumber := number }

/-- The assignment to `USB_DeviceState` in `USB_Device_SetConfiguration`.  An
addressed device stays in the configured state even without a configuration. -/
def configuredState : FwProg Unit := do
  let number ← Prog.read fun s => s.usbDeviceConfigurationNumber
  if number ≠ 0 then setDeviceState .configured
  else do
    let addressSet ← Prog.read isAddressSet
    setDeviceState (if addressSet then .configured else .powered)

/-- `USB_Device_SetConfiguration`. -/
def usbDeviceSetConfiguration : FwProg Unit := do
  let number ← Prog.read fun s => s.usbControlRequest.wValue.toUInt8
  if fixedNumConfigurations < number then pure ()
  else do
    endpointClearSETUP
    setConfigurationNumber number
    endpointClearStatusStage
    configuredState
    eventUSBDeviceConfigurationChanged

/-- `USB_Device_GetConfiguration`. -/
def usbDeviceGetConfiguration : FwProg Unit := do
  endpointClearSETUP
  let number ← Prog.read fun s => s.usbDeviceConfigurationNumber
  endpointWrite8 .control number
  endpointClearIN
  endpointClearStatusStage

/-- The data stage of a GET_DESCRIPTOR. -/
def sendDescriptor (descriptor : List UInt8) : FwProg Unit := do
  endpointClearSETUP
  let _ ← endpointWriteControlStreamLE descriptor
  endpointClearOUT

/-- `USB_Device_GetDescriptor`. -/
def usbDeviceGetDescriptor : FwProg Unit := do
  let header ← Prog.read fun s => s.usbControlRequest
  if header.wValue = (dtypeString.toUInt16 <<< 8) ||| useInternalSerial then do
    let descriptor ← Prog.read fun s => internalSerialDescriptor s.signature
    sendDescriptor descriptor
  else if callbackUSBGetDescriptor header.wValue header.wIndex.toUInt8 = [] then pure ()
  else sendDescriptor (callbackUSBGetDescriptor header.wValue header.wIndex.toUInt8)

/-- `FEATURE_SELFPOWERED_ENABLED` and `FEATURE_REMOTE_WAKEUP_ENABLED`, as far
as they are set. -/
def deviceStatus (s : Firmware) : UInt16 :=
  (if s.usbDeviceCurrentlySelfPowered then 1 else 0) |||
    (if s.usbDeviceRemoteWakeupEnabled then 2 else 0)

/-- The end of `USB_Device_GetStatus`. -/
def replyStatus (currentStatus : UInt16) : FwProg Unit := do
  endpointClearSETUP
  endpointWrite16LE .control currentStatus
  endpointClearIN
  endpointClearStatusStage

/-- The status of an endpoint: whether it is stalled. -/
def endpointStatus (index : UInt8) : FwProg UInt16 := do
  endpointSelectEndpoint index
  let stalled ← endpointIsStalled
  endpointSelectEndpoint endpointControlEP
  pure (if stalled then 1 else 0)

/-- `USB_Device_GetStatus`. -/
def usbDeviceGetStatus : FwProg Unit := do
  let header ← Prog.read fun s => s.usbControlRequest
  if header.bmRequestType = deviceToHostDevice then do
    let status ← Prog.read deviceStatus
    replyStatus status
  else if header.bmRequestType = deviceToHostEndpoint then do
    let status ← endpointStatus (header.wIndex.toUInt8 &&& endpointEPNumMask)
    replyStatus status
  else pure ()

def setRemoteWakeupEnabled (flag : Bool) : FwProg Unit :=
  .modify fun s => { s with usbDeviceRemoteWakeupEnabled := flag }

/-- The halt feature of an endpoint.  Resetting the data toggle leaves no
trace in this model. -/
def haltFeature (set : Bool) (index : UInt8) : FwProg Unit := do
  endpointSelectEndpoint index
  if ← endpointIsEnabled then
    if set then endpointStallTransaction
    else do
      endpointClearStall
      endpointResetEndpoint index
  else pure ()

/-- The end of `USB_Device_ClearSetFeature`. -/
def acceptFeature : FwProg Unit := do
  endpointSelectEndpoint endpointControlEP
  endpointClearSETUP
  endpointClearStatusStage

/-- The branch for `FEATURE_SEL_EndpointHalt`. -/
def acceptHaltFeature (set : Bool) (index : UInt8) : FwProg Unit := do
  haltFeature set index
  acceptFeature

/-- `USB_Device_ClearSetFeature`.  A feature of an endpoint other than its halt
feature is accepted and ignored. -/
def usbDeviceClearSetFeature : FwProg Unit := do
  let header ← Prog.read fun s => s.usbControlRequest
  if header.bmRequestType &&& controlReqTypeRecipient = reqRecDevice then
    if header.wValue.toUInt8 = featureSelDeviceRemoteWakeup then do
      setRemoteWakeupEnabled (decide (header.bRequest = reqSetFeature))
      acceptFeature
    else pure ()
  else if header.bmRequestType &&& controlReqTypeRecipient = reqRecEndpoint then
    if header.wValue.toUInt8 = featureSelEndpointHalt then
      if header.wIndex.toUInt8 &&& endpointEPNumMask = endpointControlEP then pure ()
      else
        acceptHaltFeature (decide (header.bRequest = reqSetFeature))
          (header.wIndex.toUInt8 &&& endpointEPNumMask)
    else acceptFeature
  else pure ()

def setControlRequest (header : USBRequestHeader) : FwProg Unit :=
  .modify fun s => { s with usbControlRequest := header }

/-- Two bytes of the header. -/
def readWord : FwProg UInt16 := do
  let low ← endpointRead8
  let high ← endpointRead8
  pure (low.toUInt16 ||| (high.toUInt16 <<< 8))

/-- The request header in the bank of the control endpoint. -/
def readRequestHeader : FwProg Unit := do
  let bmRequestType ← endpointRead8
  let bRequest ← endpointRead8
  let wValue ← readWord
  let wIndex ← readWord
  let wLength ← readWord
  setControlRequest ⟨bmRequestType, bRequest, wValue, wIndex, wLength⟩

/-- The `switch` of `USB_Device_ProcessControlRequest`. -/
def standardRequest (header : USBRequestHeader) : FwProg Unit :=
  if header.bRequest = reqGetStatus then
    if header.bmRequestType = deviceToHostDevice ∨
        header.bmRequestType = deviceToHostEndpoint then usbDeviceGetStatus
    else pure ()
  else if header.bRequest = reqClearFeature ∨ header.bRequest = reqSetFeature then
    if header.bmRequestType = hostToDeviceDevice ∨
        header.bmRequestType = hostToDeviceEndpoint then usbDeviceClearSetFeature
    else pure ()
  else if header.bRequest = reqSetAddress then
    if header.bmRequestType = hostToDeviceDevice then usbDeviceSetAddress else pure ()
  else if header.bRequest = reqGetDescriptor then
    if header.bmRequestType = deviceToHostDevice ∨
        header.bmRequestType = deviceToHostInterface then usbDeviceGetDescriptor
    else pure ()
  else if header.bRequest = reqGetConfiguration then
    if header.bmRequestType = deviceToHostDevice then usbDeviceGetConfiguration else pure ()
  else if header.bRequest = reqSetConfiguration then
    if header.bmRequestType = hostToDeviceDevice then usbDeviceSetConfiguration else pure ()
  else pure ()

/-- What nobody has answered is stalled. -/
def stallUnanswered : FwProg Unit := do
  if ← endpointIsSETUPReceived then do
    endpointClearSETUP
    endpointStallTransaction
  else pure ()

/-- `USB_Device_ProcessControlRequest`.  The application's event handler has
the first say. -/
def usbDeviceProcessControlRequest : FwProg Unit := do
  readRequestHeader
  hidDeviceProcessControlRequest
  if ← endpointIsSETUPReceived then do
    let header ← Prog.read fun s => s.usbControlRequest
    standardRequest header
  else pure ()
  stallUnanswered

/-- `USB_USBTask`, which is `USB_DeviceTask` here. -/
def usbUSBTask : FwProg Unit := do
  if (← deviceState) = .unattached then pure ()
  else do
    let prevEndpoint ← endpointGetCurrentEndpoint
    endpointSelectEndpoint endpointControlEP
    if ← endpointIsSETUPReceived then usbDeviceProcessControlRequest else pure ()
    endpointSelectEndpoint prevEndpoint

/-- One round of the loop of `Endpoint_Write_Stream_LE`, for the data left.
With interrupts off for the control endpoint, a busy bank gives control
requests a chance to be served. -/
def writeStreamRound : List UInt8 → FwProg (List UInt8 ⊕ ReadyWait)
  | [] => pure (.inr .noError)
  | b :: data => do
      if ← endpointIsReadWriteAllowed then do
        endpointWrite8 .report b
        pure (.inl data)
      else do
        endpointClearIN
        usbUSBTask
        let error ← endpointWaitUntilReady
        if error ≠ .noError then pure (.inr error) else pure (.inl (b :: data))

/-- `Endpoint_Write_Stream_LE`, without a place to resume from. -/
def endpointWriteStreamLE (data : List UInt8) : FwProg ReadyWait := do
  let error ← endpointWaitUntilReady
  if error ≠ .noError then pure error else .iterate data writeStreamRound

def reloadIdleMSRemaining : FwProg Unit :=
  .modify fun s => { s with hid := { s.hid with idleMSRemaining := s.hid.idleCount } }

def storePrevFrameNum : FwProg Unit :=
  .modify fun s => { s with hid := { s.hid with prevFrameNum := s.udfnum } }

/-- The part of `HID_Device_USBTask` that hands a report to the endpoint. -/
def sendReport (reportID : UInt8) (data : List UInt8) : FwProg Unit := do
  reloadIdleMSRemaining
  endpointSelectEndpoint joystickINEPAddr
  if reportID ≠ 0 then endpointWrite8 .report reportID else pure ()
  let _ ← endpointWriteStreamLE data
  endpointClearIN

/-- The part of `HID_Device_USBTask` for a free endpoint bank. -/
def createAndSendReport : FwProg Unit := do
  let created ← Prog.read fun s =>
    callbackHIDDeviceCreateHIDReport s.toDevice 0 hidReportItemIn .cleared
  let idlePeriodElapsed ← Prog.read fun s => s.toDevice.idlePeriodElapsed
  let statesChanged ← Prog.read fun s =>
    decide (created.reportData.toBuffer.bytes.take created.reportSize.toNat ≠
      s.prevReportINBuffer.bytes.take created.reportSize.toNat)
  storePrevReport created.reportData.toBuffer
  if created.reportSize ≠ 0 ∧
      (created.forceSend || statesChanged || idlePeriodElapsed) = true then
    sendReport created.reportID
      (created.reportData.toBuffer.bytes.take created.reportSize.toNat)
  else pure ()
  storePrevFrameNum

/-- `HID_Device_USBTask`. -/
def hidDeviceUSBTask : FwProg Unit := do
  if (← deviceState) ≠ .configured then pure ()
  else do
    let sameFrame ← Prog.read fun s => decide (s.hid.prevFrameNum = s.udfnum)
    if sameFrame then pure ()
    else do
      endpointSelectEndpoint joystickINEPAddr
      if ← endpointIsReadWriteAllowed then createAndSendReport else pure ()

/-- The loop of `main`. -/
def mainLoop : FwProg Empty :=
  .forever do
    hidDeviceUSBTask
    usbUSBTask

/-- `EVENT_USB_Device_StartOfFrame`. -/
def eventUSBDeviceStartOfFrame (s : Firmware) : Firmware :=
  { s with hid := (hidDeviceMillisecondElapsed s.toDevice).hid }

def serveStartOfFrame (s : Firmware) : Firmware :=
  if s.udint.sof && s.udien.sof then
    eventUSBDeviceStartOfFrame { s with udint := { s.udint with sof := false } }
  else s

def serveVBUS (s : Firmware) : Firmware :=
  if s.vbusti && s.vbuste then
    if s.vbus then
      { s with
        vbusti := false, plle := true, usbDeviceState := .powered
        ports := ledsSetAllLEDs ledMaskUSBEnumerating s.ports }
    else
      { s with
        vbusti := false, plle := false, usbDeviceState := .unattached
        ports := ledsSetAllLEDs ledMaskUSBNotReady s.ports }
  else s

/-- The suspend flag is left as it is; only its interrupt is turned off. -/
def serveSuspend (s : Firmware) : Firmware :=
  if s.udint.susp && s.udien.susp then
    { s with
      udien := { s.udien with susp := false, wakeup := true }
      frzclk := true, plle := false, usbDeviceState := .suspended }
  else s

def serveWakeUp (s : Firmware) : Firmware :=
  if s.udint.wakeup && s.udien.wakeup then
    { s with
      plle := true, frzclk := false
      udint := { s.udint with wakeup := false }
      udien := { s.udien with wakeup := false, susp := true }
      usbDeviceState :=
        if s.usbDeviceConfigurationNumber ≠ 0 then .configured
        else if s.isAddressSet then .addressed
        else .powered }
  else s

/-- `Endpoint_ConfigureEndpoint` for the control endpoint, called where nothing
interrupts it and its result is ignored. -/
def configureControlEndpoint (s : Firmware) : Firmware :=
  ((endpointConfigureEndpoint endpointControlEP epTypeControl
    (UInt16.ofNat fixedControlEndpointSize) 1).uninterrupted s).elim s (·.2)

def serveEndOfReset (s : Firmware) : Firmware :=
  if s.udint.eorst && s.udien.eorst then
    configureControlEndpoint
      { s with
        usbDeviceState := .default, usbDeviceConfigurationNumber := 0
        udint := { s.udint with eorst := false, susp := false }
        udien := { s.udien with susp := false, wakeup := true }
        resets := s.resets + 1 }
  else s

/-- `USB_GEN_vect`.  Waiting for the PLL takes no time here.  The handler is one
action, also towards the controller: a flag that is raised between the two halves
of a statement such as `UDINT &= ~(1 << SOFI)`, and that the write would clear
again, is left out of account. -/
def usbGenVect (s : Firmware) : Firmware :=
  s.serveStartOfFrame.serveVBUS.serveSuspend.serveWakeUp.serveEndOfReset

end Firmware

/-- What the controller sets on its own account in an endpoint. -/
structure EndpointFlags where
  stallrq : Bool := false
  rxstpi : Bool := false
  rxouti : Bool := false
  txini : Bool := false
  rwal : Bool := false
  bank : List UInt8 := []

/-- One thing that happens around the main program.  A reset of the bus clears
the address and disables every endpoint but the control endpoint. -/
inductive Signal
  | interrupt
  | endpoint (n : UInt8) (flags : EndpointFlags)
  | memory (fits : UInt8 → Bool)
  | frame (number : UInt16)
  | flags (udint : DeviceInterrupts)
  | vbus (level : Bool)
  | busReset
  | pinB (level : UInt8)
  | stack (content : Nat → UInt8)

namespace Firmware

/-- What the handler does to the device when it is called, apart from serving a
reset. -/
def served (s : Firmware) : List Outside :=
  (if s.udint.sof && s.udien.sof then [.startOfFrame] else []) ++
  (if s.vbusti && s.vbuste then [if s.vbus then .connect else .disconnect] else []) ++
  (if s.udint.susp && s.udien.susp then [.stateChange .suspended] else []) ++
  -- suspending turns the wake-up interrupt on
  (if s.udint.wakeup && (s.udien.wakeup || (s.udint.susp && s.udien.susp)) then
    [.stateChange
      (if s.usbDeviceConfigurationNumber ≠ 0 then .configured
      else if s.isAddressSet then .addressed
      else .powered)]
  else [])

def signal (s : Firmware) : Signal → Firmware
  | .interrupt => { s.usbGenVect with happened := s.happened ++ s.served }
  | .endpoint n f =>
      { s.setEndpoint n fun r =>
          { r with
            stallrq := f.stallrq, rxstpi := f.rxstpi, rxouti := f.rxouti
            txini := f.txini, rwal := f.rwal, bank := f.bank } with
        arrived :=
          if f.rxouti = true ∧ (s.endpoints n).rxouti = false then s.arrived ++ [(n, f.bank)]
          else s.arrived
        happened :=
          if n = reportEP ∧ f.txini = true ∧ (s.endpoints n).txini = false then
            s.happened ++ [.inToken]
          else s.happened }
  | .memory fits => { s with fits := fits }
  | .frame number => { s with udfnum := number, happened := s.happened ++ [.frame number] }
  | .flags udint => { s with udint := udint }
  | .vbus level => { s with vbus := level, vbusti := true }
  | .busReset =>
      { s with
        udaddr := 0
        udint := { s.udint with eorst := true }
        endpoints := fun n =>
          if n = endpointControlEP then s.endpoints n
          else { (s.endpoints n).flushed with epen := false, cfgok := false, stallrq := false } }
  | .pinB level =>
      { s with
        ports := { s.ports with pinB := level }, happened := s.happened ++ [.pinB level] }
  | .stack content => { s with stack := content }

/-- `USB_Init` on a controller in any state: all interrupts off and cleared,
the controller reset, then `USB_Init_Device`. -/
def usbInit (s : Firmware) : Firmware :=
  let configured := configureControlEndpoint
    { s with
      uenum := 0, endpoints := fun _ => {}, allocated := [], udaddr := 0
      udien := {}, udint := {}, vbusti := false, plle := false, frzclk := false
      usbDeviceState := .unattached, usbDeviceConfigurationNumber := 0
      usbDeviceRemoteWakeupEnabled := false, usbDeviceCurrentlySelfPowered := false
      vbuste := true }
  { configured with
    udint := { configured.udint with susp := false }
    udien := { configured.udien with susp := true, eorst := true } }

/-- The firmware when `main` enters its loop: the variables are as the C
start-up code leaves them, everything around them is arbitrary. -/
def beforeMainLoop (ports : Ports) (fits : UInt8 → Bool) (signature : UInt8 → UInt8)
    (stack : Nat → UInt8) (vbus : Bool) : Firmware :=
  let s := usbInit
    { ports := buttonsInit (ledsInit ports)
      fits := fits, signature := signature, stack := stack, vbus := vbus }
  { s with ports := ledsSetAllLEDs ledMaskUSBNotReady s.ports }

/-- The firmware after some turns of the main loop and its surroundings. -/
def after (s : Firmware) (turns : List (Turn Signal)) : Firmware :=
  (execute signal mainLoop s turns).state

end Firmware

end AvrJoystick
