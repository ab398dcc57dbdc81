import AvrJoystick.Interleave
import AvrJoystick.Surroundings
import AvrJoystick.DeviceDescriptors

/-!
# The firmware and the USB controller

The firmware once more, this time at the grain at which an interrupt can get
in between: every access to a register of the USB controller, and every access
to a variable that the interrupt handler shares with the main program, is an
action of its own.  `Firmware` holds those registers and variables.  The
functions of the USB library are programs over it, statement by statement.

A register of an endpoint is reached through the endpoint selected in `UENUM`,
whatever that is at the moment of the access.  `UENUM` keeps three bits, enough
for the seven endpoints of the controller; numbers from eight on select the
endpoint that their last three bits name.  Number seven is taken to have
registers of its own, which nothing ever configures.

Where a statement reads a register, changes the value and writes it back, an
interrupt can come in between.  This is modelled for `UDIEN |= ...`, where the
value held in between is `udienCopy`.  The other such statements are taken as
one action each: those on `UECONX`, `UECFG1X`, `UEINTX` and `UDADDR`, the two
reads of `Endpoint_GetCurrentEndpoint`, the two writes of
`Endpoint_ResetEndpoint`, and every access to a variable of two bytes.
-/

namespace AvrJoystick

open Interleave

/-- The registers behind `UENUM`: the configuration of one endpoint, its flags
and the bank the firmware reads or fills. -/
structure EndpointRegs where
  uecfg0x : UInt8 := 0
  uecfg1x : UInt8 := 0
  ueienx : UInt8 := 0
  epen : Bool := false
  stallrq : Bool := false
  cfgok : Bool := false
  rxstpi : Bool := false
  rxouti : Bool := false
  txini : Bool := false
  rwal : Bool := false
  bank : List UInt8 := []
  deriving DecidableEq

/-- One bit for each interrupt of the device controller, as in `UDIEN` and
`UDINT`. -/
structure DeviceInterrupts where
  sof : Bool := false
  susp : Bool := false
  wakeup : Bool := false
  eorst : Bool := false
  deriving DecidableEq

/-- Which part of the program wrote a byte to an endpoint. -/
inductive Writer
  | control
  | report
  deriving DecidableEq

/-- A byte written to the data register, with the endpoint selected then. -/
structure WrittenByte where
  writer : Writer
  endpoint : UInt8
  data : UInt8
  deriving DecidableEq

/-- Registers and variables, and what can be seen of them from outside:
`written` lists the bytes written to endpoint banks, `released` the packets
handed over with the endpoint they were on, `arrived` the OUT packets with the
endpoint they came in on, `happened` what the surroundings have done to the
device, and `resets` counts the end-of-reset interrupts served.  `allocated`
lists the endpoints that have a bank in the controller's memory, in the order in
which the banks were reserved.
`stack` is what the memory below the stack pointer happens to hold, `fits`
whether the controller can reserve the bank of an endpoint. -/
structure Firmware where
  uenum : UInt8 := 0
  endpoints : UInt8 → EndpointRegs := fun _ => {}
  fits : UInt8 → Bool := fun _ => true
  allocated : List UInt8 := []
  udaddr : UInt8 := 0
  udfnum : UInt16 := 0
  udien : DeviceInterrupts := {}
  udint : DeviceInterrupts := {}
  vbuste : Bool := false
  vbusti : Bool := false
  vbus : Bool := false
  plle : Bool := false
  frzclk : Bool := false
  signature : UInt8 → UInt8 := fun _ => 0
  stack : Nat → UInt8 := fun _ => 0
  udienCopy : Option DeviceInterrupts := none
  usbDeviceState : USBDeviceState := .unattached
  usbDeviceConfigurationNumber : UInt8 := 0
  usbDeviceRemoteWakeupEnabled : Bool := false
  usbDeviceCurrentlySelfPowered : Bool := false
  usbControlRequest : USBRequestHeader := ⟨0, 0, 0, 0, 0⟩
  ports : Ports
  mask : UInt8 := 0xFF
  saved : UInt8 := 0
  hid : HIDDeviceState := {}
  prevReportINBuffer : ReportBuffer := .zeroed
  written : List WrittenByte := []
  released : List (UInt8 × List UInt8) := []
  arrived : List (UInt8 × List UInt8) := []
  happened : List Outside := []
  resets : Nat := 0

/-- A program of the firmware. -/
abbrev FwProg (α : Type) := Prog Firmware α

def endpointEPNumMask : UInt8 := 0x0F

/-- The endpoint number in an address. -/
def epNumber (address : UInt8) : UInt8 := address &&& endpointEPNumMask

/-- What `UENUM` keeps of an endpoint number. -/
def uenumOf (address : UInt8) : UInt8 := epNumber address &&& 0x07

/-- `ENDPOINT_TOTAL_ENDPOINTS`. -/
def endpointTotalEndpoints : UInt8 := 7

/-- `1 << EPDIR`. -/
def epdirBit : UInt8 := 1
/-- `1 << ALLOC`. -/
def allocBit : UInt8 := 2
/-- `1 << EPBK0`. -/
def epbk0Bit : UInt8 := 4

/-- `Endpoint_GetEndpointDirection() == ENDPOINT_DIR_IN`. -/
def EndpointRegs.isIn (r : EndpointRegs) : Bool := decide (r.uecfg0x &&& epdirBit ≠ 0)

/-- Nothing in the bank and no flag raised. -/
def EndpointRegs.flushed (r : EndpointRegs) : EndpointRegs :=
  { r with rxstpi := false, rxouti := false, txini := false, rwal := false, bank := [] }

namespace Firmware

/-- The registers of the selected endpoint. -/
def selected (s : Firmware) : EndpointRegs := s.endpoints s.uenum

/-- Access to one endpoint's registers. -/
def setEndpoint (s : Firmware) (n : UInt8) (f : EndpointRegs → EndpointRegs) : Firmware :=
  { s with endpoints := fun m => if m = n then f (s.endpoints m) else s.endpoints m }

/-- An access to the selected endpoint's registers. -/
def onSelected (f : EndpointRegs → EndpointRegs) : FwProg Unit :=
  .modify fun s => s.setEndpoint s.uenum f

def endpointSelectEndpoint (address : UInt8) : FwProg Unit :=
  .modify fun s => { s with uenum := uenumOf address }

abbrev endpointDirectionIsIn : FwProg Bool := .read fun s => s.selected.isIn

abbrev endpointGetCurrentEndpoint : FwProg UInt8 :=
  .read fun s =>
    (s.uenum &&& endpointEPNumMask) ||| (if s.selected.isIn then endpointDirIn else 0)

/-- `Endpoint_ResetEndpoint`.  `UERST` has a bit for each endpoint and none for
higher numbers. -/
def endpointResetEndpoint (address : UInt8) : FwProg Unit :=
  .modify fun s =>
    if epNumber address < endpointTotalEndpoints then s.setEndpoint (epNumber address) .flushed
    else s

abbrev endpointEnableEndpoint : FwProg Unit := onSelected fun r => { r with epen := true }

abbrev endpointDisableEndpoint : FwProg Unit :=
  onSelected fun r => { r.flushed with epen := false }

abbrev endpointIsEnabled : FwProg Bool := .read fun s => s.selected.epen

abbrev endpointIsReadWriteAllowed : FwProg Bool := .read fun s => s.selected.rwal

abbrev endpointIsConfigured : FwProg Bool := .read fun s => s.selected.cfgok

abbrev endpointIsINReady : FwProg Bool := .read fun s => s.selected.txini

abbrev endpointIsOUTReceived : FwProg Bool := .read fun s => s.selected.rxouti

abbrev endpointIsSETUPReceived : FwProg Bool := .read fun s => s.selected.rxstpi

abbrev endpointIsStalled : FwProg Bool := .read fun s => s.selected.stallrq

abbrev endpointBytesInEndpoint : FwProg Nat := .read fun s => s.selected.bank.length

def endpointClearSETUP : FwProg Unit :=
  onSelected fun r => { r with rxstpi := false, bank := [] }

/-- The packet in the bank is handed over to the controller. -/
def endpointClearIN : FwProg Unit :=
  .modify fun s =>
    { s.setEndpoint s.uenum fun r => { r with txini := false, rwal := false, bank := [] } with
      released := s.released ++ [(s.uenum, s.selected.bank)] }

def endpointClearOUT : FwProg Unit :=
  onSelected fun r => { r with rxouti := false, bank := [] }

def endpointStallTransaction : FwProg Unit := onSelected fun r => { r with stallrq := true }

def endpointClearStall : FwProg Unit := onSelected fun r => { r with stallrq := false }

/-- Reading the data register takes the next byte out of the bank. -/
def endpointRead8 : FwProg UInt8 :=
  .atomic fun s =>
    (s.selected.bank.headD 0, s.setEndpoint s.uenum fun r => { r with bank := r.bank.tail })

/-- `Endpoint_Write_8`; `writer` is only noted down. -/
def endpointWrite8 (writer : Writer) (data : UInt8) : FwProg Unit :=
  .modify fun s =>
    { s.setEndpoint s.uenum fun r => { r with bank := r.bank ++ [data] } with
      written := s.written ++ [⟨writer, s.uenum, data⟩] }

def endpointWrite16LE (writer : Writer) (data : UInt16) : FwProg Unit := do
  endpointWrite8 writer (data &&& 0xFF).toUInt8
  endpointWrite8 writer (data >>> 8).toUInt8

end Firmware

/-- The loop of `Endpoint_BytesToEPSizeMask`, for a number of rounds.  Once the
doubled size has run out of its sixteen bits the loop never ends. -/
def epSizeMaskLoop (bytes : UInt16) : Nat → UInt8 → UInt16 → Option UInt8
  | 0, _, _ => none
  | rounds + 1, maskVal, checkBytes =>
      if checkBytes < bytes then epSizeMaskLoop bytes rounds (maskVal + 1) (checkBytes <<< 1)
      else some (maskVal <<< 4)

/-- `Endpoint_BytesToEPSizeMask`. -/
def endpointBytesToEPSizeMask (bytes : UInt16) : Option UInt8 :=
  epSizeMaskLoop bytes 17 0 8

/-- The endpoint of the joystick reports. -/
def reportEP : UInt8 := epNumber joystickINEPAddr

/-- The values of `EPNum` in the loop of `Endpoint_ConfigureEndpoint_Prv`. -/
def endpointsFrom (number : UInt8) : List UInt8 :=
  (List.range (endpointTotalEndpoints.toNat - number.toNat)).map
    (fun i => number + UInt8.ofNat i)

/-- What is to be written to the configuration registers of an endpoint. -/
structure EndpointConfig where
  uecfg0x : UInt8
  uecfg1x : UInt8
  ueienx : UInt8
  deriving DecidableEq

def EndpointRegs.config (r : EndpointRegs) : EndpointConfig :=
  ⟨r.uecfg0x, r.uecfg1x, r.ueienx⟩

/-- `USB_Endpoint_Table_t`. -/
structure USBEndpointTable where
  address : UInt8
  size : UInt16
  type : UInt8
  banks : UInt8
  deriving DecidableEq

namespace Firmware

/-- The banks reserved from now on. -/
def setAllocated (s : Firmware) (allocated : List UInt8) : Firmware :=
  { s with allocated := allocated }

/-- `UECFG1X &= ~(1 << ALLOC)` gives up the bank. -/
def clearALLOC : FwProg Unit :=
  .modify fun s =>
    (s.setEndpoint s.uenum fun r =>
      { r with uecfg1x := r.uecfg1x &&& ~~~allocBit, cfgok := false }).setAllocated
        (s.allocated.filter (· != s.uenum))

/-- Writing `UECFG1X` with `ALLOC` set reserves a bank, if there is room for it. -/
def writeUECFG1X (value : UInt8) : FwProg Unit :=
  .modify fun s =>
    (s.setEndpoint s.uenum fun r =>
      { r with
        uecfg1x := value
        cfgok := decide (value &&& allocBit ≠ 0) && s.fits s.uenum }).setAllocated
          (s.allocated.filter (· != s.uenum) ++
            (if value &&& allocBit ≠ 0 ∧ s.fits s.uenum = true then [s.uenum] else []))

/-- The body of the loop once the values to write are known. -/
def rewriteConfig (c : EndpointConfig) : FwProg Bool := do
  endpointDisableEndpoint
  clearALLOC
  endpointEnableEndpoint
  onSelected fun r => { r with uecfg0x := c.uecfg0x }
  writeUECFG1X c.uecfg1x
  onSelected fun r => { r with ueienx := c.ueienx }
  endpointIsConfigured

/-- The values to write: those of the call, or what the registers hold. -/
def loopValues (number uecfg0xData uecfg1xData epNum : UInt8) : FwProg EndpointConfig :=
  if epNum = number then pure ⟨uecfg0xData, uecfg1xData, 0⟩
  else .read fun s => s.selected.config

/-- The loop of `Endpoint_ConfigureEndpoint_Prv`. -/
def configureLoop (number uecfg0xData uecfg1xData : UInt8) : List UInt8 → FwProg Bool
  | [] => do
      endpointSelectEndpoint number
      pure true
  | epNum :: rest => do
      endpointSelectEndpoint epNum
      let c ← loopValues number uecfg0xData uecfg1xData epNum
      if c.uecfg1x &&& allocBit = 0 then configureLoop number uecfg0xData uecfg1xData rest
      else do
        if ← rewriteConfig c then configureLoop number uecfg0xData uecfg1xData rest
        else pure false

/-- `Endpoint_ConfigureEndpoint_Prv`: an endpoint and all those after it, since
their banks follow each other in the controller's memory. -/
def endpointConfigureEndpointPrv (number uecfg0xData uecfg1xData : UInt8) : FwProg Bool :=
  configureLoop number uecfg0xData uecfg1xData (endpointsFrom number)

/-- `Endpoint_ConfigureEndpoint`. -/
def endpointConfigureEndpoint (address type : UInt8) (size : UInt16) (banks : UInt8) :
    FwProg Bool :=
  if endpointTotalEndpoints ≤ epNumber address then pure false
  else
    match endpointBytesToEPSizeMask size with
    | none => .untilSome (pure none)
    | some sizeMask =>
        endpointConfigureEndpointPrv (epNumber address)
          ((type <<< 6) ||| (if address &&& endpointDirIn ≠ 0 then epdirBit else 0))
          (allocBit ||| (if 1 < banks then epbk0Bit else 0) ||| sizeMask)

/-- `Endpoint_ConfigureEndpointTable`. -/
def endpointConfigureEndpointTable : List USBEndpointTable → FwProg Bool
  | [] => pure true
  | e :: table =>
      if e.address = 0 then endpointConfigureEndpointTable table
      else do
        if ← endpointConfigureEndpoint e.address e.type e.size e.banks then
          endpointConfigureEndpointTable table
        else pure false

end Firmware

/-- `REQDIR_DEVICETOHOST`. -/
def reqDirDeviceToHost : UInt8 := 0x80

/-- `USB_STREAM_TIMEOUT_MS`. -/
def usbStreamTimeoutMS : UInt8 := 100

/-- The variables of the loop of `Endpoint_WaitUntilReady`. -/
structure WaitState where
  timeoutMSRem : UInt8
  previousFrameNumber : UInt16
  deriving DecidableEq

namespace Firmware

/-- A read of `USB_DeviceState`. -/
abbrev deviceState : FwProg USBDeviceState := .read fun s => s.usbDeviceState

/-- `while (!flag) if (USB_DeviceState == DEVICE_STATE_Unattached) return;`:
whether the flag was seen. -/
def awaitUnlessUnattached (flag : FwProg Bool) : FwProg Bool :=
  .untilSome do
    if ← flag then pure (some true)
    else do
      if (← deviceState) = .unattached then pure (some false) else pure none

/-- `Endpoint_ClearStatusStage`. -/
def endpointClearStatusStage : FwProg Unit := do
  let bmRequestType ← Prog.read fun s => s.usbControlRequest.bmRequestType
  if bmRequestType &&& reqDirDeviceToHost ≠ 0 then do
    if ← awaitUnlessUnattached endpointIsOUTReceived then endpointClearOUT else pure ()
  else do
    if ← awaitUnlessUnattached endpointIsINReady then endpointClearIN else pure ()

/-- The flag `Endpoint_WaitUntilReady` waits for. -/
def endpointIsReady : FwProg Bool := do
  if ← endpointDirectionIsIn then endpointIsINReady else endpointIsOUTReceived

/-- The end of a round in `Endpoint_WaitUntilReady`: a new frame uses up one
millisecond of the timeout.  The counter is compared before it is decremented. -/
def waitFrame (w : WaitState) (frame : UInt16) : WaitState ⊕ ReadyWait :=
  if frame ≠ w.previousFrameNumber then
    if w.timeoutMSRem = 0 then .inr .timeout
    else .inl ⟨w.timeoutMSRem - 1, frame⟩
  else .inl w

/-- One round of the loop of `Endpoint_WaitUntilReady`. -/
def waitRound (w : WaitState) : FwProg (WaitState ⊕ ReadyWait) := do
  if ← endpointIsReady then pure (.inr .noError)
  else do
    let state ← deviceState
    if state = .unattached then pure (.inr .deviceDisconnected)
    else if state = .suspended then pure (.inr .busSuspended)
    else do
      if ← endpointIsStalled then pure (.inr .endpointStalled)
      else do
        let frame ← Prog.read fun s => s.udfnum
        pure (waitFrame w frame)

/-- `Endpoint_WaitUntilReady`. -/
def endpointWaitUntilReady : FwProg ReadyWait := do
  let frame ← Prog.read fun s => s.udfnum
  .iterate (⟨usbStreamTimeoutMS, frame⟩ : WaitState) waitRound

end Firmware

end AvrJoystick
