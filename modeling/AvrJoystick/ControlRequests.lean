import AvrJoystick.MainActions

/-!
# What a control request does

A control request passes through many hands: the class driver looks at it
first, then the standard requests, and what nobody has answered is stalled.
Each of them decides for itself, from the same header, and says that it has
answered by clearing the flag for the SETUP packet.

Here the requests are first given in the abstract: what a header asks for, if
anything (`requestIn`), and what that changes (`Request.effect`).  The main
result, `request_answered_or_stalled`, says that the firmware refines this.  A
call of `USB_USBTask` that finds a SETUP packet takes it away, stalls the
requests that ask for nothing, and changes exactly what the others ask for,
whatever the timing of the host.

One request that is answered stalls the control endpoint all the same: a halt of
endpoint 8.  The test against halting the control endpoint lets it pass, and
`UENUM` keeps three bits of the 8.

This is about one request that runs to its end and is left to run: during the
call no further SETUP packet arrives, and the interrupt handler leaves the state
of the device alone.
-/

namespace AvrJoystick

open Interleave Relation

/-- What a host can ask of the device. -/
inductive Request
  | getReport
  | setReport
  | getProtocol
  | setProtocol (report : Bool)
  | getIdle
  | setIdle (duration : UInt8)
  | getStatus
  | setRemoteWakeup (flag : Bool)
  | setEndpointFeature
  | haltControl
  | setAddress (address : UInt8)
  | getDescriptor
  | getConfiguration
  | setConfiguration (number : UInt8)
  deriving DecidableEq, Repr

/-- What requests can change. -/
structure Bus where
  state : USBDeviceState
  configuration : UInt8
  udaddr : UInt8
  remoteWakeup : Bool
  usingReportProtocol : Bool
  idleCount : UInt16
  deriving DecidableEq, Repr

/-- The device has its address. -/
def Bus.isAddressSet (b : Bus) : Bool := decide (b.udaddr &&& addenBit ≠ 0)

/-- What a request changes.  Giving up the configuration does not take an
addressed device out of the configured state. -/
def Request.effect : Request → Bus → Bus
  | .setProtocol report, b => { b with usingReportProtocol := report }
  | .setIdle duration, b => { b with idleCount := 4 * duration.toUInt16 }
  | .setRemoteWakeup flag, b => { b with remoteWakeup := flag }
  | .setAddress address, b =>
      { b with
        udaddr := address ||| addenBit
        state := if address ≠ 0 then .addressed else .default }
  | .setConfiguration number, b =>
      { b with
        configuration := number, usingReportProtocol := true, idleCount := 500
        state := if number ≠ 0 ∨ b.isAddressSet = true then .configured else .powered }
  | _, b => b

/-- The answer to a request leaves the control endpoint stalled. -/
def Request.stalls : Request → Bool
  | .haltControl => true
  | _ => false

/-- The device has the descriptor: of the device, of the configuration, the HID
and the report descriptor, and the strings 0 to 2 and 0xDC, the serial number. -/
def hasDescriptor (h : USBRequestHeader) : Bool :=
  let type := (h.wValue >>> 8).toUInt8
  let number := h.wValue.toUInt8
  type == 0x01 || type == 0x02 || type == 0x21 || type == 0x22 ||
    (type == 0x03 && (number == 0 || number == 1 || number == 2 || number == 0xDC))

/-- What a header asks of the class driver, for the joystick's interface. -/
def classRequestIn (h : USBRequestHeader) : Option Request :=
  if h.bmRequestType = 0xA1 ∧ h.wIndex = 0 then
    if h.bRequest = 0x01 then some .getReport
    else if h.bRequest = 0x02 then some .getIdle
    else if h.bRequest = 0x03 then some .getProtocol
    else none
  else if h.bmRequestType = 0x21 ∧ h.wIndex = 0 then
    if h.bRequest = 0x09 then some .setReport
    else if h.bRequest = 0x0A then some (.setIdle (h.wValue >>> 8).toUInt8)
    else if h.bRequest = 0x0B then some (.setProtocol (decide (h.wValue.toUInt8 ≠ 0)))
    else none
  else none

/-- What a header asks of the standard requests, by the recipient it names. -/
def standardRequestIn (h : USBRequestHeader) : Option Request :=
  let low := h.wValue.toUInt8
  let endpoint := h.wIndex.toUInt8 &&& 0x0F
  -- the device
  if h.bmRequestType = 0x80 then
    if h.bRequest = 0 then some .getStatus
    else if h.bRequest = 6 ∧ hasDescriptor h = true then some .getDescriptor
    else if h.bRequest = 8 then some .getConfiguration
    else none
  else if h.bmRequestType = 0x00 then
    if (h.bRequest = 1 ∨ h.bRequest = 3) ∧ low = 1 then
      some (.setRemoteWakeup (decide (h.bRequest = 3)))
    else if h.bRequest = 5 then some (.setAddress (low &&& 0x7F))
    else if h.bRequest = 9 ∧ low ≤ 1 then some (.setConfiguration low)
    else none
  -- an interface
  else if h.bmRequestType = 0x81 then
    if h.bRequest = 6 ∧ hasDescriptor h = true then some .getDescriptor else none
  -- an endpoint
  else if h.bmRequestType = 0x82 then
    if h.bRequest = 0 then some .getStatus else none
  else if h.bmRequestType = 0x02 ∧ (h.bRequest = 1 ∨ h.bRequest = 3) then
    if low = 0 ∧ endpoint = 0 then none
    else if h.bRequest = 3 ∧ low = 0 ∧ endpoint = 8 then some .haltControl
    else some .setEndpointFeature
  else none

/-- What a header asks for. -/
def requestIn (h : USBRequestHeader) : Option Request :=
  (classRequestIn h).or (standardRequestIn h)

/-- The SETUP packet of a header. -/
def USBRequestHeader.bytes (h : USBRequestHeader) : List UInt8 :=
  [h.bmRequestType, h.bRequest] ++ littleEndian h.wValue ++ littleEndian h.wIndex ++
    littleEndian h.wLength

section Headers

variable {h : USBRequestHeader}

/-- The numbers of the class requests. -/
theorem hidClassRequest_eq_some_iff (bRequest : UInt8) (r : HIDClassRequest) :
    hidClassRequest bRequest = some r ↔ bRequest = match r with
      | .getReport => 0x01
      | .getIdle => 0x02
      | .getProtocol => 0x03
      | .setReport => 0x09
      | .setIdle => 0x0A
      | .setProtocol => 0x0B := by
  cases r <;>
    exact uint8_forall (P := fun b => hidClassRequest b = some _ ↔ b = _) (by decide +kernel) _

/-- When the class driver takes a header for the request `r`. -/
theorem classRequestOf_eq_some_iff (r : HIDClassRequest) :
    Firmware.classRequestOf h = some r ↔
      h.wIndex = 0 ∧ hidClassRequest h.bRequest = some r ∧ h.bmRequestType = r.requestType := by
  unfold Firmware.classRequestOf
  by_cases hindex : h.wIndex = interfaceIDJoystick.toUInt16
  · rw [if_neg (not_not.mpr hindex), Option.filter_eq_some_iff, beq_iff_eq]
    exact (and_iff_right hindex).symm
  · rw [if_pos hindex]
    exact iff_of_false nofun fun hall => hindex hall.1

/-- A class request with its arguments. -/
def HIDClassRequest.asked (h : USBRequestHeader) : HIDClassRequest → Request
  | .getReport => .getReport
  | .setReport => .setReport
  | .getProtocol => .getProtocol
  | .setProtocol => .setProtocol (decide (h.wValue.toUInt8 ≠ 0))
  | .getIdle => .getIdle
  | .setIdle => .setIdle (h.wValue >>> 8).toUInt8

/-- The class driver knows exactly these requests. -/
theorem classRequestIn_eq :
    classRequestIn h = (Firmware.classRequestOf h).map (HIDClassRequest.asked h) := by
  cases hclass : Firmware.classRequestOf h with
  | some r =>
      obtain ⟨hindex, hrequest, htype⟩ := (classRequestOf_eq_some_iff r).mp hclass
      rw [hidClassRequest_eq_some_iff] at hrequest
      cases r <;> simp [classRequestIn, HIDClassRequest.asked, hindex, hrequest, htype,
        HIDClassRequest.requestType, deviceToHostClassInterface, hostToDeviceClassInterface]
  | none =>
      have hnot (r : HIDClassRequest) : ¬ (h.wIndex = 0 ∧ hidClassRequest h.bRequest = some r ∧
          h.bmRequestType = r.requestType) := by
        rw [← classRequestOf_eq_some_iff, hclass]
        nofun
      simp only [hidClassRequest_eq_some_iff] at hnot
      have hreport : ¬ (_ ∧ _ ∧ _ = (0xA1 : UInt8)) := hnot .getReport
      have hidle : ¬ (_ ∧ _ ∧ _ = (0xA1 : UInt8)) := hnot .getIdle
      have hprotocol : ¬ (_ ∧ _ ∧ _ = (0xA1 : UInt8)) := hnot .getProtocol
      have hsetReport : ¬ (_ ∧ _ ∧ _ = (0x21 : UInt8)) := hnot .setReport
      have hsetIdle : ¬ (_ ∧ _ ∧ _ = (0x21 : UInt8)) := hnot .setIdle
      have hsetProtocol : ¬ (_ ∧ _ ∧ _ = (0x21 : UInt8)) := hnot .setProtocol
      clear hnot
      unfold classRequestIn
      grind

theorem requestIn_class {r : HIDClassRequest} (hr : Firmware.classRequestOf h = some r) :
    requestIn h = some (r.asked h) := by
  rw [requestIn, classRequestIn_eq, hr]
  rfl

theorem requestIn_standard (hr : Firmware.classRequestOf h = none) :
    requestIn h = standardRequestIn h := by
  rw [requestIn, classRequestIn_eq, hr]
  rfl

/-- Who may ask for a status. -/
theorem standardRequestIn_getStatus (hrequest : h.bRequest = reqGetStatus) :
    standardRequestIn h =
      if h.bmRequestType = deviceToHostDevice ∨ h.bmRequestType = deviceToHostEndpoint then
        some .getStatus
      else none := by
  unfold standardRequestIn reqGetStatus deviceToHostDevice deviceToHostEndpoint at *
  grind

/-- The features that can be set and cleared. -/
theorem standardRequestIn_feature
    (hrequest : h.bRequest = reqClearFeature ∨ h.bRequest = reqSetFeature) :
    standardRequestIn h =
      if h.bmRequestType = hostToDeviceDevice then
        if h.wValue.toUInt8 = featureSelDeviceRemoteWakeup then
          some (.setRemoteWakeup (decide (h.bRequest = reqSetFeature)))
        else none
      else if h.bmRequestType = hostToDeviceEndpoint then
        if h.wValue.toUInt8 = featureSelEndpointHalt ∧
            h.wIndex.toUInt8 &&& endpointEPNumMask = endpointControlEP then none
        else if h.bRequest = reqSetFeature ∧ h.wValue.toUInt8 = featureSelEndpointHalt ∧
            h.wIndex.toUInt8 &&& endpointEPNumMask = 8 then some .haltControl
        else some .setEndpointFeature
      else none := by
  unfold standardRequestIn reqClearFeature reqSetFeature hostToDeviceDevice hostToDeviceEndpoint
    featureSelDeviceRemoteWakeup featureSelEndpointHalt endpointEPNumMask endpointControlEP at *
  grind

/-- The address is set for the device. -/
theorem standardRequestIn_setAddress (hrequest : h.bRequest = reqSetAddress) :
    standardRequestIn h =
      if h.bmRequestType = hostToDeviceDevice then
        some (.setAddress (h.wValue.toUInt8 &&& 0x7F))
      else none := by
  unfold standardRequestIn reqSetAddress hostToDeviceDevice at *
  grind

/-- Descriptors are those of the device or of an interface. -/
theorem standardRequestIn_getDescriptor (hrequest : h.bRequest = reqGetDescriptor) :
    standardRequestIn h =
      if h.bmRequestType = deviceToHostDevice ∨ h.bmRequestType = deviceToHostInterface then
        if hasDescriptor h = true then some .getDescriptor else none
      else none := by
  unfold standardRequestIn reqGetDescriptor deviceToHostDevice deviceToHostInterface at *
  grind

/-- The configuration number is that of the device. -/
theorem standardRequestIn_getConfiguration (hrequest : h.bRequest = reqGetConfiguration) :
    standardRequestIn h =
      if h.bmRequestType = deviceToHostDevice then some .getConfiguration else none := by
  unfold standardRequestIn reqGetConfiguration deviceToHostDevice at *
  grind

/-- The configurations that can be set. -/
theorem standardRequestIn_setConfiguration (hrequest : h.bRequest = reqSetConfiguration) :
    standardRequestIn h =
      if h.bmRequestType = hostToDeviceDevice then
        if h.wValue.toUInt8 ≤ fixedNumConfigurations then
          some (.setConfiguration h.wValue.toUInt8)
        else none
      else none := by
  unfold standardRequestIn reqSetConfiguration hostToDeviceDevice fixedNumConfigurations at *
  grind

/-- No other number is that of a standard request. -/
theorem standardRequestIn_other (hstatus : h.bRequest ≠ reqGetStatus)
    (hfeature : ¬ (h.bRequest = reqClearFeature ∨ h.bRequest = reqSetFeature))
    (haddress : h.bRequest ≠ reqSetAddress) (hdescriptor : h.bRequest ≠ reqGetDescriptor)
    (hget : h.bRequest ≠ reqGetConfiguration) (hset : h.bRequest ≠ reqSetConfiguration) :
    standardRequestIn h = none := by
  unfold standardRequestIn reqGetStatus reqClearFeature reqSetFeature reqSetAddress
    reqGetDescriptor reqGetConfiguration reqSetConfiguration at *
  grind

/-- A word is made up of its bytes. -/
theorem littleEndian_word (w : UInt16) :
    w.toUInt8.toUInt16 ||| ((w >>> 8).toUInt8.toUInt16 <<< 8) = w := by
  have hlt := w.toNat_lt
  have hlow : w.toNat % 256 < 2 ^ 8 := Nat.mod_lt _ (by decide)
  apply UInt16.toNat_inj.mp
  rw [UInt16.toNat_or, UInt16.toNat_shiftLeft, UInt8.toNat_toUInt16, UInt8.toNat_toUInt16,
    UInt16.toNat_toUInt8, UInt16.toNat_toUInt8, UInt16.toNat_shiftRight]
  show w.toNat % 256 ||| (w.toNat >>> 8 % 256) <<< 8 % 65536 = w.toNat
  have hhigh : (w.toNat >>> 8 % 256) <<< 8 % 65536 = (w.toNat / 256) <<< 8 := by
    rw [Nat.shiftRight_eq_div_pow, Nat.shiftLeft_eq, Nat.shiftLeft_eq]
    omega
  rw [hhigh, Nat.or_comm, ← Nat.shiftLeft_add_eq_or_of_lt hlow, Nat.shiftLeft_eq]
  omega

/-- The mask in the callback leaves the low byte. -/
theorem and_lowByte (w : UInt16) : (w &&& 0xFF).toUInt8 = w.toUInt8 := by
  apply UInt8.toNat_inj.mp
  rw [UInt16.toNat_toUInt8, UInt16.toNat_toUInt8, UInt16.toNat_and]
  show (w.toNat &&& 2 ^ 8 - 1) % 2 ^ 8 = w.toNat % 2 ^ 8
  rw [Nat.and_two_pow_sub_one_eq_mod, Nat.mod_mod]

/-- The device has what its callback finds, and its serial number. -/
theorem hasDescriptor_iff :
    hasDescriptor h = true ↔ h.wValue = (dtypeString.toUInt16 <<< 8) ||| useInternalSerial ∨
      callbackUSBGetDescriptor h.wValue h.wIndex.toUInt8 ≠ [] := by
  have hserial : h.wValue = (dtypeString.toUInt16 <<< 8) ||| useInternalSerial ↔
      (h.wValue >>> 8).toUInt8 = 0x03 ∧ h.wValue.toUInt8 = 0xDC := by
    constructor
    · intro hvalue
      rw [hvalue]
      decide
    · rintro ⟨hhigh, hlow⟩
      rw [← littleEndian_word h.wValue, hhigh, hlow]
      decide
  rw [hserial]
  unfold hasDescriptor callbackUSBGetDescriptor
  rw [and_lowByte]
  generalize (h.wValue >>> 8).toUInt8 = type
  generalize h.wValue.toUInt8 = number
  have hdevice : deviceDescriptor ≠ [] := by decide
  have hconfiguration : configurationDescriptor ≠ [] := by decide
  have hlanguage : languageString ≠ [] := by decide
  have hmanufacturer : manufacturerString ≠ [] := by decide
  have hproduct : productString ≠ [] := by decide
  have hhid : hidJoystickHID ≠ [] := by decide
  have hreport : joystickReport ≠ [] := by decide
  unfold dtypeDevice dtypeConfiguration dtypeString hidDtypeHID hidDtypeReport stringIDLanguage
    stringIDManufacturer stringIDProduct
  grind

/-- The endpoint numbers that `UENUM` takes for that of the control endpoint. -/
theorem uenumOf_eq_control_iff {index : UInt8} (hindex : epNumber index ≠ endpointControlEP) :
    uenumOf index = endpointControlEP ↔ index &&& endpointEPNumMask = 8 := by
  revert hindex
  exact uint8_forall (P := fun index => epNumber index ≠ endpointControlEP →
    (uenumOf index = endpointControlEP ↔ index &&& endpointEPNumMask = 8)) (by decide +kernel) _

end Headers

namespace Firmware

/-- What requests can change, in the firmware. -/
def bus (s : Firmware) : Bus where
  state := s.usbDeviceState
  configuration := s.usbDeviceConfigurationNumber
  udaddr := s.udaddr
  remoteWakeup := s.usbDeviceRemoteWakeupEnabled
  usingReportProtocol := s.hid.usingReportProtocol
  idleCount := s.hid.idleCount

/-- What serving a request depends on: the selection, the control endpoint, the
header and what requests change. -/
structure ControlView where
  uenum : UInt8
  enabled : Bool
  setup : Bool
  stalled : Bool
  bank : List UInt8
  request : USBRequestHeader
  bus : Bus

/-- What serving a request sees of the firmware. -/
def controlView (s : Firmware) : ControlView where
  uenum := s.uenum
  enabled := (s.endpoints endpointControlEP).epen
  setup := (s.endpoints endpointControlEP).rxstpi
  stalled := (s.endpoints endpointControlEP).stallrq
  bank := (s.endpoints endpointControlEP).bank
  request := s.usbControlRequest
  bus := s.bus

/-- The request is left to run. -/
structure Undisturbed (v v' : ControlView) : Prop where
  uenum : v'.uenum = v.uenum
  setup : v'.setup = v.setup
  stalled : v'.stalled = v.stalled
  enabled : v.setup = true → v'.enabled = v.enabled
  bank : v.setup = true → v'.bank = v.bank
  request : v'.request = v.request
  bus : v'.bus = v.bus

/-- The contract of a request that is left to run. -/
def serving : Contract Firmware ControlView where
  view := controlView
  rely := Undisturbed
  guarantee _ _ := True

/-- A packet is waiting, whatever endpoint is selected. -/
structure Waiting (packet : List UInt8) (b : Bus) (v : ControlView) : Prop where
  enabled : v.enabled = true
  setup : v.setup = true
  stalled : v.stalled = false
  bank : v.bank = packet
  bus : v.bus = b

/-- The packet is in the bank of the selected control endpoint. -/
structure Received (packet : List UInt8) (b : Bus) (v : ControlView) : Prop
    extends Waiting packet b v where
  uenum : v.uenum = endpointControlEP

/-- The header has been read, nobody has answered, and endpoint `u` is selected. -/
structure Pending (u : UInt8) (stall : Bool) (h : USBRequestHeader) (b : Bus)
    (v : ControlView) : Prop where
  uenum : v.uenum = u
  enabled : v.enabled = true
  setup : v.setup = true
  stalled : v.stalled = stall
  request : v.request = h
  bus : v.bus = b

/-- The request has been answered; `place` is the endpoint selected, if known. -/
structure Answered (place : Option UInt8) (stall : Bool) (b : Bus) (v : ControlView) : Prop where
  uenum : ∀ u, place = some u → v.uenum = u
  setup : v.setup = false
  stalled : v.stalled = stall
  bus : v.bus = b

/-- The request has been stalled. -/
structure Refused (b : Bus) (v : ControlView) : Prop where
  setup : v.setup = false
  stalled : v.stalled = true
  bus : v.bus = b

section Serving

variable {u : UInt8} {h : USBRequestHeader} {b : Bus} {place : Option UInt8} {packet : List UInt8}
variable {P : ControlView → Prop} {stall : Bool}

/-- A waiting packet goes on waiting. -/
theorem Waiting.moved {v v' : ControlView} (hv : Waiting packet b v) (hmove : Undisturbed v v') :
    Waiting packet b v' where
  enabled := (hmove.enabled hv.setup).trans hv.enabled
  setup := hmove.setup.trans hv.setup
  stalled := hmove.stalled.trans hv.stalled
  bank := (hmove.bank hv.setup).trans hv.bank
  bus := hmove.bus.trans hv.bus

instance : Stable serving (Waiting packet b) := ⟨fun _ _ hv hmove => hv.moved hmove⟩

instance : Stable serving (Received packet b) where
  stable _ _ hv hmove :=
    { hv.toWaiting.moved hmove with uenum := hmove.uenum.trans hv.uenum }

instance : Stable serving (Pending u stall h b) where
  stable _ _ hv hmove :=
    { uenum := hmove.uenum.trans hv.uenum, setup := hmove.setup.trans hv.setup
      enabled := (hmove.enabled hv.setup).trans hv.enabled
      stalled := hmove.stalled.trans hv.stalled
      request := hmove.request.trans hv.request, bus := hmove.bus.trans hv.bus }

instance : Stable serving (Answered place stall b) where
  stable _ _ hv hmove :=
    { uenum := fun u hu => hmove.uenum.trans (hv.uenum u hu)
      setup := hmove.setup.trans hv.setup, stalled := hmove.stalled.trans hv.stalled
      bus := hmove.bus.trans hv.bus }

instance : Stable serving (Refused b) where
  stable _ _ hv hmove :=
    { setup := hmove.setup.trans hv.setup, stalled := hmove.stalled.trans hv.stalled
      bus := hmove.bus.trans hv.bus }

/-- Actions that nothing of this depends on. -/
theorem serving_allows_of_view {E : Firmware → Firmware → Prop}
    (hE : ∀ s s', E s s' → s'.controlView = s.controlView) : Allows serving P E where
  allows s s' hP hstep := ⟨trivial, show P s'.controlView from (hE s s' hstep).symm ▸ hP⟩

instance : Allows serving P Unchanged := serving_allows_of_view fun _ _ hstep => hstep ▸ rfl

instance : Allows serving P AppStep :=
  serving_allows_of_view fun _ _ hstep => by cases hstep <;> rfl

instance : Allows serving P MaskStep :=
  serving_allows_of_view fun _ _ hstep => by cases hstep <;> rfl

instance : Allows serving (Pending endpointControlEP stall h b) (Selects endpointControlEP) where
  allows s s' hP hstep := by
    subst hstep
    exact ⟨trivial, { hP with uenum := rfl }⟩

instance : Allows serving (Answered (some endpointControlEP) stall b)
    (Selects endpointControlEP) where
  allows s s' hP hstep := by
    subst hstep
    exact ⟨trivial, { hP with uenum := fun _ hu => Option.some.inj hu }⟩

instance (address : UInt8) : Allows serving (Answered none stall b) (Selects address) where
  allows s s' hP hstep := by
    subst hstep
    exact ⟨trivial, { hP with uenum := nofun }⟩

instance (address : UInt8) : Allows serving (Refused b) (Selects address) where
  allows s s' hP hstep := by
    subst hstep
    exact ⟨trivial, { hP with }⟩

/-- Quiet registers raise neither the flag nor a stall. -/
theorem Answered.of_quiet {s s' : Firmware} (hP : Answered place stall b s.controlView)
    (hquiet : EndpointQuiet (s.endpoints endpointControlEP) (s'.endpoints endpointControlEP))
    (huenum : s'.uenum = s.uenum) (hbus : s'.bus = s.bus)
    (hstalled : (s'.endpoints endpointControlEP).stallrq = stall) :
    Answered place stall b s'.controlView where
  uenum u hu := huenum.trans (hP.uenum u hu)
  setup := Bool.eq_false_iff.mpr fun hset => Bool.eq_false_iff.mp hP.setup (hquiet.setup hset)
  stalled := hstalled
  bus := hbus.trans hP.bus

instance : Allows serving (Answered place false b) Registers where
  allows s s' hP hstep := by
    have hquiet := hstep.quiet endpointControlEP
    have hstalled : (s'.endpoints endpointControlEP).stallrq = false :=
      Bool.eq_false_iff.mpr fun hset => Bool.eq_false_iff.mp hP.stalled (hquiet.stall hset)
    refine ⟨trivial, hP.of_quiet hquiet ?_ ?_ hstalled⟩
    · rw [hstep.rest]
    · rw [hstep.rest]
      rfl

instance : Allows serving (Answered place true b) Access where
  allows s s' hP hstep := by
    obtain ⟨f, packets, rfl, hf⟩ := hstep
    refine ⟨trivial, hP.of_quiet (setEndpoint_quiet s _ (fun r => (hf r).1) _) rfl rfl ?_⟩
    -- an access leaves the stall request as it is
    have hstalled : (s.endpoints endpointControlEP).stallrq = true := hP.stalled
    show (if endpointControlEP = s.uenum then f (s.endpoints endpointControlEP)
      else s.endpoints endpointControlEP).stallrq = true
    split
    · rw [(hf _).2, hstalled]
    · exact hstalled

instance (writer : Writer) : Allows serving (Answered place false b) (Writes writer) where
  allows s s' hP hstep := by
    obtain ⟨data, rfl⟩ := hstep
    have hquiet := setEndpoint_quiet s s.uenum (f := fun r => { r with bank := r.bank ++ [data] })
      (fun _ => ⟨id, id, id⟩) endpointControlEP
    refine ⟨trivial, hP.of_quiet hquiet rfl rfl ?_⟩
    exact Bool.eq_false_iff.mpr fun hset => Bool.eq_false_iff.mp hP.stalled (hquiet.stall hset)

end Serving

section Requests

variable {u : UInt8} {h : USBRequestHeader} {b : Bus} {place : Option UInt8} {stall : Bool}

/-- The selected endpoint is the control endpoint. -/
theorem selected_control {s : Firmware} (hs : s.uenum = endpointControlEP) :
    s.selected = s.endpoints endpointControlEP := by
  rw [selected, hs]

/-- Reading changes nothing. -/
theorem serving_read (s : Firmware) : serving.guarantee s s := trivial

/-- A pending request can be told by its flag. -/
theorem setupReceived_pending {s : Firmware}
    (hs : Pending endpointControlEP stall h b s.controlView) : s.selected.rxstpi = true := by
  rw [selected_control hs.uenum]
  exact hs.setup

/-- Clearing the flag answers the request. -/
theorem clearSETUP_leads :
    endpointClearSETUP.Leads serving (Pending endpointControlEP stall h b)
      (Answered (some endpointControlEP) stall b) := by
  refine .of_modify ?_
  intro s hs
  have huenum : s.uenum = endpointControlEP := hs.uenum
  refine ⟨trivial, fun _ hu => hs.uenum.trans (Option.some.inj hu), ?_, ?_, hs.bus⟩
  · simp [serving, controlView, setEndpoint, huenum]
  · simpa [serving, controlView, setEndpoint, huenum] using hs.stalled

/-- The usual answer: the flag is cleared, and what follows changes nothing that
matters here. -/
theorem clearSETUP_then {p : FwProg Unit}
    [Keeps serving (Answered (some endpointControlEP) stall b) p] :
    (do
      endpointClearSETUP
      p).Leads serving (Pending endpointControlEP stall h b)
        (Answered (some endpointControlEP) stall b) := by
  refine .bind clearSETUP_leads ?_
  intro _
  exact .of_keeps

/-- A variable of the device is set. -/
theorem answered_modify {g : Firmware → Firmware} (f : Bus → Bus)
    (hg : ∀ s, (g s).controlView = { s.controlView with bus := f s.bus }) :
    (Prog.modify g).Leads serving (Answered place stall b) (Answered place stall (f b)) := by
  refine .of_modify ?_
  intro s hs
  have hbus : s.bus = b := hs.bus
  refine ⟨trivial, ?_⟩
  show Answered place stall (f b) (g s).controlView
  rw [hg, hbus]
  exact { hs with bus := rfl }

/-- SET_PROTOCOL looks at the low byte of `wValue`. -/
theorem lowByte_eq_zero_iff (w : UInt16) : w &&& 0xFF = 0x00 ↔ w.toUInt8 = 0 := by
  rw [← UInt16.toNat_inj, ← UInt8.toNat_inj, UInt16.toNat_and, UInt16.toNat_toUInt8]
  show w.toNat &&& 2 ^ 8 - 1 = 0 ↔ w.toNat % 256 = 0
  rw [Nat.and_two_pow_sub_one_eq_mod]

/-- SET_IDLE takes the high byte of `wValue` in units of 4 ms. -/
theorem idleCount_eq (w : UInt16) :
    (w &&& 0xFF00) >>> 6 = (4 : UInt16) * (w >>> 8).toUInt8.toUInt16 := by
  have hlt := w.toNat_lt
  apply UInt16.toNat_inj.mp
  rw [idleCount_toNat, UInt16.toNat_mul, UInt8.toNat_toUInt16, UInt16.toNat_toUInt8,
    UInt16.toNat_shiftRight]
  show _ = 4 * (w.toNat >>> 8 % 256) % 65536
  rw [Nat.shiftRight_eq_div_pow]
  omega

/-- The class driver answers each of its requests with the effect it asks for. -/
theorem classRequest_leads (r : HIDClassRequest) :
    (classRequest h r).Leads serving (Pending endpointControlEP false h b)
      (Answered (some endpointControlEP) false ((r.asked h).effect b)) := by
  cases r with
  | getReport =>
      -- the report is made up and remembered while the request is pending
      refine .bind .of_keeps ?_
      intro report
      refine .bind .of_keeps ?_
      intro _
      refine .bind .of_keeps ?_
      intro _
      exact clearSETUP_then
  | setReport =>
      refine .bind .of_keeps ?_
      intro reportType
      exact clearSETUP_then
  | getProtocol => exact clearSETUP_then
  | getIdle => exact clearSETUP_then
  | setProtocol =>
      have heffect : ((HIDClassRequest.asked h .setProtocol).effect b) =
          { b with usingReportProtocol := decide (h.wValue &&& 0xFF ≠ 0x00) } := by
        simp only [ne_eq, lowByte_eq_zero_iff]
        rfl
      rw [heffect]
      refine .bind clearSETUP_leads ?_
      intro _
      refine .bind .of_keeps ?_
      intro _
      exact answered_modify (fun b => { b with usingReportProtocol := _ }) fun _ => rfl
  | setIdle =>
      have heffect : ((HIDClassRequest.asked h .setIdle).effect b) =
          { b with idleCount := (h.wValue &&& 0xFF00) >>> 6 } := by
        rw [idleCount_eq]
        rfl
      rw [heffect]
      refine .bind clearSETUP_leads ?_
      intro _
      refine .bind .of_keeps ?_
      intro _
      exact answered_modify (fun b => { b with idleCount := _ }) fun _ => rfl

/-- A request for the class driver is answered there. -/
theorem hidDeviceProcessControlRequest_answers {r : HIDClassRequest}
    (hr : classRequestOf h = some r) :
    hidDeviceProcessControlRequest.Leads serving (Pending endpointControlEP false h b)
      (Answered (some endpointControlEP) false ((r.asked h).effect b)) := by
  refine .read_bind serving_read ?_
  intro s hs
  rw [setupReceived_pending hs]
  refine .read_bind serving_read ?_
  intro s hs
  have hrequest : s.usbControlRequest = h := hs.request
  rw [hrequest, hr]
  exact classRequest_leads r

/-- The class driver passes over all other requests. -/
theorem hidDeviceProcessControlRequest_passes (hr : classRequestOf h = none) :
    hidDeviceProcessControlRequest.Leads serving (Pending endpointControlEP false h b)
      (Pending endpointControlEP false h b) := by
  refine .read_bind serving_read ?_
  intro s hs
  rw [setupReceived_pending hs]
  refine .read_bind serving_read ?_
  intro s hs
  have hrequest : s.usbControlRequest = h := hs.request
  rw [hrequest, hr, Option.elim_none]
  exact .of_keeps

/-- Wherever the selection is. -/
theorem Answered.anywhere {v : ControlView} (hv : Answered place stall b v) :
    Answered none stall b v := { hv with uenum := nofun }

/-- A selection while the request is pending. -/
theorem select_pending (address : UInt8) :
    (endpointSelectEndpoint address).Leads serving (Pending u stall h b)
      (Pending (uenumOf address) stall h b) := by
  refine .of_modify ?_
  intro s hs
  exact ⟨trivial, { hs with uenum := rfl }⟩

/-- The status of an endpoint is looked up under another selection. -/
theorem endpointStatus_leads (index : UInt8) :
    (endpointStatus index).Leads serving (Pending endpointControlEP false h b)
      (Pending endpointControlEP false h b) := by
  refine .bind (select_pending index) ?_
  intro _
  refine .bind .of_keeps ?_
  intro stalled
  refine .bind (select_pending endpointControlEP) ?_
  intro _
  exact .of_keeps

/-- GET_STATUS, for a recipient that has one. -/
theorem usbDeviceGetStatus_leads
    (htype : h.bmRequestType = deviceToHostDevice ∨ h.bmRequestType = deviceToHostEndpoint) :
    usbDeviceGetStatus.Leads serving (Pending endpointControlEP false h b)
      (Answered (some endpointControlEP) false b) := by
  refine .read_bind serving_read ?_
  intro s hs
  have hrequest : s.usbControlRequest = h := hs.request
  rw [hrequest]
  rcases htype with htype | htype
  · rw [if_pos htype]
    refine .bind .of_keeps ?_
    intro status
    exact clearSETUP_then
  · rw [if_neg (by rw [htype]; decide), if_pos htype]
    refine .bind (endpointStatus_leads _) ?_
    intro status
    exact clearSETUP_then

/-- The end of SET_FEATURE and CLEAR_FEATURE. -/
theorem acceptFeature_leads :
    acceptFeature.Leads serving (Pending u stall h b)
      (Answered (some endpointControlEP) stall b) := by
  refine .bind (select_pending endpointControlEP) ?_
  intro _
  cases stall
  · exact clearSETUP_then
  · exact clearSETUP_then

/-- Another endpoint's registers are no business of the control endpoint. -/
theorem controlView_setEndpoint {n : UInt8} (hn : n ≠ endpointControlEP)
    (f : EndpointRegs → EndpointRegs) (s : Firmware) :
    (s.setEndpoint n f).controlView = s.controlView := by
  simp only [controlView, setEndpoint, if_neg hn.symm]
  rfl

/-- The stall request of the control endpoint is set. -/
theorem controlView_stall {s : Firmware} (hs : s.uenum = endpointControlEP) (flag : Bool) :
    (s.setEndpoint s.uenum fun r => { r with stallrq := flag }).controlView =
      { s.controlView with stalled := flag } := by
  simp only [controlView, setEndpoint, hs, if_true]
  rfl

/-- A stall request of the selected endpoint while the request is pending. -/
theorem stallrq_pending (flag : Bool) :
    (onSelected fun r => { r with stallrq := flag }).Leads serving (Pending u false h b)
      (Pending u (flag && decide (u = endpointControlEP)) h b) := by
  refine .of_modify ?_
  intro s hs
  have huenum : s.uenum = u := hs.uenum
  refine ⟨trivial, ?_⟩
  show Pending u _ h b (s.setEndpoint s.uenum _).controlView
  by_cases hu : u = endpointControlEP
  · rw [controlView_stall (huenum.trans hu)]
    exact { hs with stalled := by simp [hu] }
  · rw [controlView_setEndpoint (huenum ▸ hu)]
    rw [decide_eq_false hu, Bool.and_false]
    exact hs

/-- `Endpoint_ResetEndpoint` of any but the control endpoint. -/
theorem resetEndpoint_pending {index : UInt8} (hindex : epNumber index ≠ endpointControlEP) :
    (endpointResetEndpoint index).Leads serving (Pending u stall h b) (Pending u stall h b) := by
  refine .of_modify ?_
  intro s hs
  refine ⟨trivial, ?_⟩
  show Pending u stall h b (if epNumber index < endpointTotalEndpoints then _ else s).controlView
  split
  · rw [controlView_setEndpoint hindex]
    exact hs
  · exact hs

/-- The halt feature stalls the control endpoint only under a number that `UENUM`
takes for its own. -/
theorem haltFeature_leads (set : Bool) {index : UInt8}
    (hindex : epNumber index ≠ endpointControlEP) :
    (haltFeature set index).Leads serving (Pending u false h b)
      (Pending (uenumOf index) (set && decide (uenumOf index = endpointControlEP)) h b) := by
  refine .bind (select_pending index) ?_
  intro _
  by_cases hcontrol : uenumOf index = endpointControlEP
  · -- the control endpoint is enabled while a request is pending
    refine .read_bind serving_read ?_
    intro s hs
    have henabled : s.selected.epen = true := by
      rw [selected_control (hs.uenum.trans hcontrol)]
      exact hs.enabled
    rw [henabled, if_pos rfl]
    cases set with
    | true => exact stallrq_pending true
    | false =>
        refine .bind (stallrq_pending false) ?_
        intro _
        exact resetEndpoint_pending hindex
  · rw [decide_eq_false hcontrol, Bool.and_false]
    have hstall (flag : Bool) : (onSelected fun r => { r with stallrq := flag }).Leads serving
        (Pending (uenumOf index) false h b) (Pending (uenumOf index) false h b) := by
      have hpending := stallrq_pending (u := uenumOf index) (h := h) (b := b) flag
      rwa [decide_eq_false hcontrol, Bool.and_false] at hpending
    refine .bind .of_keeps ?_
    intro enabled
    refine .ite ?_ .of_keeps
    refine .ite (hstall true) ?_
    refine .bind (hstall false) ?_
    intro _
    exact resetEndpoint_pending hindex

/-- What has become of a request: answered with its effect, or still pending. -/
def Outcome (h : USBRequestHeader) (b : Bus) : Option Request → ControlView → Prop
  | some r => Answered none r.stalls (r.effect b)
  | none => Pending endpointControlEP false h b

/-- An answer with the right effect. -/
theorem leads_outcome {α : Type} {p : FwProg α} (r : Request)
    (hp : p.Leads serving (Pending endpointControlEP false h b)
      (Answered place r.stalls (r.effect b))) :
    p.Leads serving (Pending endpointControlEP false h b) (Outcome h b (some r)) :=
  .mono (fun _ hv => hv) (fun _ hv => hv.anywhere) hp

/-- No answer. -/
theorem pass_leads :
    (pure () : FwProg Unit).Leads serving (Pending endpointControlEP false h b)
      (Outcome h b none) :=
  .of_keeps

/-- The mask is applied twice. -/
theorem epNumber_and (address : UInt8) :
    epNumber (address &&& endpointEPNumMask) = epNumber address := by
  unfold epNumber
  rw [UInt8.and_assoc]
  rfl

/-- SET_FEATURE and CLEAR_FEATURE of the device. -/
theorem deviceFeature_leads (flag : Bool) :
    (do
      setRemoteWakeupEnabled flag
      acceptFeature).Leads serving (Pending endpointControlEP false h b)
        (Answered (some endpointControlEP) false { b with remoteWakeup := flag }) := by
  have hset : (setRemoteWakeupEnabled flag).Leads serving (Pending endpointControlEP false h b)
      (Pending endpointControlEP false h { b with remoteWakeup := flag }) := by
    refine .of_modify ?_
    intro s hs
    exact ⟨trivial, { hs with bus := by rw [← hs.bus]; rfl }⟩
  refine .bind hset ?_
  intro _
  exact acceptFeature_leads

/-- SET_FEATURE and CLEAR_FEATURE of an endpoint. -/
theorem acceptHaltFeature_leads (set : Bool) {index : UInt8}
    (hindex : epNumber index ≠ endpointControlEP) :
    (acceptHaltFeature set index).Leads serving (Pending endpointControlEP false h b)
      (Answered (some endpointControlEP)
        (set && decide (index &&& endpointEPNumMask = 8)) b) := by
  rw [← decide_eq_decide.mpr (uenumOf_eq_control_iff hindex)]
  refine .bind (haltFeature_leads set hindex) ?_
  intro _
  exact acceptFeature_leads

/-- SET_FEATURE and CLEAR_FEATURE. -/
theorem usbDeviceClearSetFeature_leads
    (hfeature : h.bRequest = reqClearFeature ∨ h.bRequest = reqSetFeature)
    (htype : h.bmRequestType = hostToDeviceDevice ∨ h.bmRequestType = hostToDeviceEndpoint) :
    usbDeviceClearSetFeature.Leads serving (Pending endpointControlEP false h b)
      (Outcome h b (standardRequestIn h)) := by
  refine .read_bind serving_read ?_
  intro s hs
  have hrequest : s.usbControlRequest = h := hs.request
  rw [hrequest, standardRequestIn_feature hfeature]
  rcases htype with htype | htype
  · rw [if_pos htype, if_pos (by rw [htype]; decide)]
    split
    · exact leads_outcome (.setRemoteWakeup _) (deviceFeature_leads _)
    · exact pass_leads
  · have hdevice : h.bmRequestType ≠ hostToDeviceDevice := by rw [htype]; decide
    have hrecipient : h.bmRequestType &&& controlReqTypeRecipient ≠ reqRecDevice := by
      rw [htype]
      decide
    have hendpoint : h.bmRequestType &&& controlReqTypeRecipient = reqRecEndpoint := by
      rw [htype]
      decide
    rw [if_neg hdevice, if_pos htype, if_neg hrecipient, if_pos hendpoint]
    by_cases hhalt : h.wValue.toUInt8 = featureSelEndpointHalt
    · rw [if_pos hhalt]
      by_cases hindex : h.wIndex.toUInt8 &&& endpointEPNumMask = endpointControlEP
      · rw [if_pos hindex, if_pos ⟨hhalt, hindex⟩]
        exact pass_leads
      · rw [if_neg hindex, if_neg (fun hboth => hindex hboth.2)]
        have hother : epNumber (h.wIndex.toUInt8 &&& endpointEPNumMask) ≠ endpointControlEP := by
          rwa [epNumber_and]
        have haccept := acceptHaltFeature_leads (h := h) (b := b)
          (decide (h.bRequest = reqSetFeature)) hother
        rw [show (h.wIndex.toUInt8 &&& endpointEPNumMask) &&& endpointEPNumMask = _ from
          epNumber_and _] at haccept
        split
        case isTrue hcontrol =>
          have hboth : (decide (h.bRequest = reqSetFeature) &&
              decide (epNumber h.wIndex.toUInt8 = 8)) = true := by
            rw [← Bool.decide_and]
            exact decide_eq_true ⟨hcontrol.1, hcontrol.2.2⟩
          rw [hboth] at haccept
          exact leads_outcome .haltControl haccept
        case isFalse hother =>
          have hnot : (decide (h.bRequest = reqSetFeature) &&
              decide (epNumber h.wIndex.toUInt8 = 8)) = false := by
            rw [← Bool.decide_and]
            exact decide_eq_false fun hboth => hother ⟨hboth.1, hhalt, hboth.2⟩
          rw [hnot] at haccept
          exact leads_outcome .setEndpointFeature haccept
    · rw [if_neg hhalt, if_neg (fun hboth => hhalt hboth.1),
        if_neg (fun hall => hhalt hall.2.1)]
      exact leads_outcome .setEndpointFeature acceptFeature_leads

/-- The address that is there when it has been set and enabled. -/
theorem setAddress_udaddr (x address : UInt8) :
    ((x &&& addenBit) ||| address) ||| addenBit = address ||| addenBit := by
  apply UInt8.toBitVec_inj.mp
  ext i hi
  simp only [UInt8.toBitVec_or, UInt8.toBitVec_and, BitVec.getElem_or, BitVec.getElem_and]
  cases x.toBitVec[i] <;> cases address.toBitVec[i] <;> cases addenBit.toBitVec[i] <;> rfl

/-- SET_ADDRESS. -/
theorem usbDeviceSetAddress_leads :
    usbDeviceSetAddress.Leads serving (Pending endpointControlEP false h b)
      (Answered (some endpointControlEP) false
        ((Request.setAddress (h.wValue.toUInt8 &&& 0x7F)).effect b)) := by
  refine .read_bind serving_read ?_
  intro s hs
  have hrequest : s.usbControlRequest = h := hs.request
  rw [hrequest]
  have hmask : (h.wValue.toUInt8 &&& 0x7F) &&& 0x7F = h.wValue.toUInt8 &&& 0x7F := by
    rw [UInt8.and_assoc]
    rfl
  generalize h.wValue.toUInt8 &&& 0x7F = address at hmask
  have heffect : (Request.setAddress address).effect b =
      { b with
        udaddr := ((b.udaddr &&& addenBit) ||| (address &&& 0x7F)) ||| addenBit
        state := if address ≠ 0 then .addressed else .default } := by
    rw [hmask, setAddress_udaddr]
    rfl
  have hset : (usbDeviceSetDeviceAddress address).Leads serving
      (Pending endpointControlEP false h b) (Pending endpointControlEP false h
        { b with udaddr := (b.udaddr &&& addenBit) ||| (address &&& 0x7F) }) := by
    refine .of_modify ?_
    intro s hs
    exact ⟨trivial, { hs with bus := by rw [← hs.bus]; rfl }⟩
  rw [heffect]
  -- the address is enabled after the status stage only
  refine .bind hset ?_
  intro _
  refine .bind clearSETUP_leads ?_
  intro _
  refine .bind .of_keeps ?_
  intro _
  refine .bind .of_keeps ?_
  intro _
  refine .bind
    (answered_modify (fun b => { b with udaddr := b.udaddr ||| addenBit }) fun _ => rfl) ?_
  intro _
  exact answered_modify
    (fun b => { b with state := if address ≠ 0 then .addressed else .default }) fun _ => rfl

/-- GET_DESCRIPTOR. -/
theorem usbDeviceGetDescriptor_leads :
    usbDeviceGetDescriptor.Leads serving (Pending endpointControlEP false h b)
      (Outcome h b (if hasDescriptor h = true then some .getDescriptor else none)) := by
  refine .read_bind serving_read ?_
  intro s hs
  have hrequest : s.usbControlRequest = h := hs.request
  rw [hrequest]
  have hsend (descriptor : List UInt8) : (sendDescriptor descriptor).Leads serving
      (Pending endpointControlEP false h b) (Answered (some endpointControlEP) false b) :=
    clearSETUP_then
  by_cases hserial : h.wValue = (dtypeString.toUInt16 <<< 8) ||| useInternalSerial
  · rw [if_pos hserial, if_pos (hasDescriptor_iff.mpr (Or.inl hserial))]
    exact leads_outcome .getDescriptor (.bind .of_keeps hsend)
  · rw [if_neg hserial]
    by_cases hnone : callbackUSBGetDescriptor h.wValue h.wIndex.toUInt8 = []
    · have hmissing : ¬ hasDescriptor h = true := by
        rw [hasDescriptor_iff]
        exact fun hhas => hhas.elim hserial (fun hsome => hsome hnone)
      rw [if_pos hnone, if_neg hmissing]
      exact pass_leads
    · rw [if_neg hnone, if_pos (hasDescriptor_iff.mpr (Or.inr hnone))]
      exact leads_outcome .getDescriptor (hsend _)

/-- The state after a SET_CONFIGURATION. -/
theorem configuredState_leads :
    configuredState.Leads serving (Answered (some endpointControlEP) false b)
      (Answered (some endpointControlEP) false
        { b with
          state := if b.configuration ≠ 0 ∨ b.isAddressSet = true then .configured
            else .powered }) := by
  refine .read_bind serving_read ?_
  intro s hs
  have hnumber : s.usbDeviceConfigurationNumber = b.configuration :=
    congrArg Bus.configuration hs.bus
  rw [hnumber]
  by_cases hzero : b.configuration ≠ 0
  · rw [if_pos hzero, if_pos (Or.inl hzero)]
    exact answered_modify (fun b => { b with state := .configured }) fun _ => rfl
  · rw [if_neg hzero]
    refine .read_bind serving_read ?_
    intro s hs
    have haddress : s.isAddressSet = b.isAddressSet :=
      congrArg Bus.isAddressSet hs.bus
    rw [haddress]
    have hstate : (if b.configuration ≠ 0 ∨ b.isAddressSet = true then USBDeviceState.configured
        else .powered) = if b.isAddressSet = true then .configured else .powered := by
      simp only [hzero, false_or]
    rw [hstate]
    exact answered_modify
      (fun c => { c with state := if b.isAddressSet = true then .configured else .powered })
      fun _ => rfl

/-- `EVENT_USB_Device_ConfigurationChanged`. -/
theorem eventUSBDeviceConfigurationChanged_leads :
    eventUSBDeviceConfigurationChanged.Leads serving (Answered place false b)
      (Answered none false { b with usingReportProtocol := true, idleCount := 500 }) := by
  have hconfigure : hidDeviceConfigureEndpoints.Leads serving (Answered place false b)
      (Answered none false { b with usingReportProtocol := true, idleCount := 500 }) := by
    refine .bind (answered_modify
      (fun b => { b with usingReportProtocol := false, idleCount := 0 }) fun _ => rfl) ?_
    intro _
    refine .bind (answered_modify (fun b => { b with usingReportProtocol := true })
      fun _ => rfl) ?_
    intro _
    refine .bind (answered_modify (fun b => { b with idleCount := 500 }) fun _ => rfl) ?_
    intro _
    exact .mono (fun _ hv => hv.anywhere) (fun _ hv => hv) .of_keeps
  refine .bind hconfigure ?_
  intro _
  exact .of_keeps

/-- SET_CONFIGURATION. -/
theorem usbDeviceSetConfiguration_leads :
    usbDeviceSetConfiguration.Leads serving (Pending endpointControlEP false h b)
      (Outcome h b (if h.wValue.toUInt8 ≤ fixedNumConfigurations then
        some (.setConfiguration h.wValue.toUInt8) else none)) := by
  refine .read_bind serving_read ?_
  intro s hs
  have hrequest : s.usbControlRequest = h := hs.request
  rw [hrequest]
  by_cases hnumber : fixedNumConfigurations < h.wValue.toUInt8
  · rw [if_pos hnumber, if_neg (UInt8.not_le.mpr hnumber)]
    exact pass_leads
  · rw [if_neg hnumber, if_pos (UInt8.not_lt.mp hnumber)]
    show Prog.Leads serving (Pending endpointControlEP false h b) _
      (Answered none false ((Request.setConfiguration h.wValue.toUInt8).effect b))
    refine .bind clearSETUP_leads ?_
    intro _
    refine .bind (answered_modify
      (fun b => { b with configuration := h.wValue.toUInt8 }) fun _ => rfl) ?_
    intro _
    refine .bind .of_keeps ?_
    intro _
    refine .bind configuredState_leads ?_
    intro _
    exact eventUSBDeviceConfigurationChanged_leads

/-- The standard requests answer exactly what they are asked. -/
theorem standardRequest_outcome :
    (standardRequest h).Leads serving (Pending endpointControlEP false h b)
      (Outcome h b (standardRequestIn h)) := by
  unfold standardRequest
  by_cases hstatus : h.bRequest = reqGetStatus
  · rw [if_pos hstatus, standardRequestIn_getStatus hstatus]
    split
    case isTrue htype => exact leads_outcome .getStatus (usbDeviceGetStatus_leads htype)
    case isFalse => exact pass_leads
  rw [if_neg hstatus]
  by_cases hfeature : h.bRequest = reqClearFeature ∨ h.bRequest = reqSetFeature
  · rw [if_pos hfeature]
    split
    case isTrue htype => exact usbDeviceClearSetFeature_leads hfeature htype
    case isFalse htype =>
      rw [not_or] at htype
      rw [standardRequestIn_feature hfeature, if_neg htype.1, if_neg htype.2]
      exact pass_leads
  rw [if_neg hfeature]
  by_cases haddress : h.bRequest = reqSetAddress
  · rw [if_pos haddress, standardRequestIn_setAddress haddress]
    split
    · exact leads_outcome (.setAddress _) usbDeviceSetAddress_leads
    · exact pass_leads
  rw [if_neg haddress]
  by_cases hdescriptor : h.bRequest = reqGetDescriptor
  · rw [if_pos hdescriptor, standardRequestIn_getDescriptor hdescriptor]
    split
    · exact usbDeviceGetDescriptor_leads
    · exact pass_leads
  rw [if_neg hdescriptor]
  by_cases hget : h.bRequest = reqGetConfiguration
  · rw [if_pos hget, standardRequestIn_getConfiguration hget]
    split
    · exact leads_outcome .getConfiguration clearSETUP_then
    · exact pass_leads
  rw [if_neg hget]
  by_cases hset : h.bRequest = reqSetConfiguration
  · rw [if_pos hset, standardRequestIn_setConfiguration hset]
    split
    · exact usbDeviceSetConfiguration_leads
    · exact pass_leads
  · rw [if_neg hset, standardRequestIn_other hstatus hfeature haddress hdescriptor hget hset]
    exact pass_leads

/-- A stall of the control endpoint refuses the request. -/
theorem stall_refuses :
    endpointStallTransaction.Leads serving (Answered (some endpointControlEP) false b)
      (Refused b) := by
  refine .of_modify ?_
  intro s hs
  refine ⟨trivial, ?_⟩
  show Refused b (s.setEndpoint s.uenum _).controlView
  rw [controlView_stall (hs.uenum _ rfl)]
  exact ⟨hs.setup, rfl, hs.bus⟩

/-- A stall of another endpoint does not. -/
theorem stall_elsewhere (hu : u ≠ endpointControlEP) :
    endpointStallTransaction.Leads serving (Answered (some u) stall b)
      (Answered (some u) stall b) := by
  refine .of_modify ?_
  intro s hs
  have huenum : s.uenum = u := hs.uenum _ rfl
  refine ⟨trivial, ?_⟩
  show Answered _ stall b (s.setEndpoint s.uenum _).controlView
  rw [controlView_setEndpoint (huenum ▸ hu)]
  exact hs

/-- What nobody has answered is refused. -/
theorem stallUnanswered_refuses :
    stallUnanswered.Leads serving (Pending endpointControlEP false h b) (Refused b) := by
  refine .read_bind serving_read ?_
  intro s hs
  rw [setupReceived_pending hs]
  refine .bind clearSETUP_leads ?_
  intro _
  exact stall_refuses

/-- After an answer the flag can only be that of another endpoint. -/
theorem stallUnanswered_answered :
    stallUnanswered.Leads serving (Answered none stall b) (Answered none stall b) := by
  intro v hv
  refine Prog.wp_bind fun s hs => ⟨trivial, fun v' hv' => ?_⟩
  have hs : Answered none stall b s.controlView := Stable.star hs hv
  have hs : Answered (some s.uenum) stall b s.controlView :=
    { hs with uenum := fun _ hu => Option.some.inj hu }
  have hv' : Answered (some s.uenum) stall b v' := Stable.star hv' hs
  have hclear : endpointClearSETUP.Leads serving (Answered (some s.uenum) stall b)
      (Answered (some s.uenum) stall b) := by
    cases stall
    · exact .of_keeps
    · exact .of_keeps
  have hrest : (if s.selected.rxstpi = true then do
        endpointClearSETUP
        endpointStallTransaction
      else pure () : FwProg Unit).Leads serving (Answered (some s.uenum) stall b)
        (Answered (some s.uenum) stall b) := by
    cases hreceived : s.selected.rxstpi with
    | false =>
        rw [if_neg (by decide)]
        exact .of_keeps
    | true =>
        have helsewhere : s.uenum ≠ endpointControlEP := by
          intro huenum
          rw [selected_control huenum] at hreceived
          exact Bool.noConfusion (hreceived.symm.trans hs.setup)
        refine .bind hclear ?_
        intro _
        exact stall_elsewhere helsewhere
  exact Prog.wp_mono (fun _ _ hv => hv.anywhere) (hrest v' hv')

/-- What has become of a request in the end. -/
def Settles (b : Bus) : Option Request → ControlView → Prop
  | some r => Answered none r.stalls (r.effect b)
  | none => Refused b

/-- The check at the end settles every request. -/
theorem stallUnanswered_settles (r : Option Request) :
    stallUnanswered.Leads serving (Outcome h b r) (Settles b r) := by
  cases r with
  | none => exact stallUnanswered_refuses
  | some r => exact stallUnanswered_answered

/-- The bytes of the packet come out one by one. -/
theorem read8_received {x : UInt8} {packet : List UInt8} {Q : UInt8 → ControlView → Prop}
    {v : ControlView} (hv : Received (x :: packet) b v)
    (hQ : ∀ v', Received packet b v' → Q x v') : endpointRead8.wp serving Q v := by
  intro s hs
  have hs : Received (x :: packet) b s.controlView := Stable.star hs hv
  have huenum : s.uenum = endpointControlEP := hs.uenum
  have hbank : (s.endpoints endpointControlEP).bank = x :: packet := hs.bank
  have hafter : Received packet b
      (s.setEndpoint s.uenum fun r => { r with bank := r.bank.tail }).controlView := by
    refine ⟨⟨?_, ?_, ?_, ?_, hs.bus⟩, hs.uenum⟩
    · simpa [controlView, setEndpoint, huenum] using hs.enabled
    · simpa [controlView, setEndpoint, huenum] using hs.setup
    · simpa [controlView, setEndpoint, huenum] using hs.stalled
    · simp [controlView, setEndpoint, huenum, hbank]
  refine ⟨trivial, fun v' hv' => ?_⟩
  have hhead : s.selected.bank.headD 0 = x := by
    rw [selected_control huenum, hbank]
    rfl
  show Q (s.selected.bank.headD 0) v'
  rw [hhead]
  exact hQ v' (Stable.star hv' hafter)

/-- A word of the packet. -/
theorem readWord_received {w : UInt16} {packet : List UInt8} {Q : UInt16 → ControlView → Prop}
    {v : ControlView} (hv : Received (littleEndian w ++ packet) b v)
    (hQ : ∀ v', Received packet b v' → Q w v') : readWord.wp serving Q v := by
  refine Prog.wp_bind (read8_received hv ?_)
  intro v hv
  refine Prog.wp_bind (read8_received hv ?_)
  intro v hv v' hv'
  rw [littleEndian_word]
  exact hQ v' (Stable.star hv' hv)

/-- The header that is read is the one in the packet. -/
theorem readRequestHeader_leads (h : USBRequestHeader) :
    readRequestHeader.Leads serving (Received h.bytes b) (Pending endpointControlEP false h b) := by
  have hstore : (setControlRequest h).Leads serving (Received [] b)
      (Pending endpointControlEP false h b) := by
    refine .of_modify ?_
    intro s hs
    exact ⟨trivial, hs.uenum, hs.enabled, hs.setup, hs.stalled, rfl, hs.bus⟩
  intro v hv
  refine Prog.wp_bind (read8_received hv ?_)
  intro v hv
  refine Prog.wp_bind (read8_received hv ?_)
  intro v hv
  refine Prog.wp_bind (readWord_received hv ?_)
  intro v hv
  refine Prog.wp_bind (readWord_received hv ?_)
  intro v hv
  have hlast : Received (littleEndian h.wLength ++ []) b v := hv
  refine Prog.wp_bind (readWord_received hlast ?_)
  intro v hv
  exact hstore v hv

/-- Class driver, standard requests and the final stall together. -/
theorem usbDeviceProcessControlRequest_settles :
    usbDeviceProcessControlRequest.Leads serving (Received h.bytes b)
      (Settles b (requestIn h)) := by
  refine .bind (readRequestHeader_leads h) ?_
  intro _
  cases hclass : classRequestOf h with
  | some r =>
      have hsettles : Settles b (requestIn h) = Answered none false ((r.asked h).effect b) := by
        rw [requestIn_class hclass]
        cases r <;> rfl
      rw [hsettles]
      refine .bind (hidDeviceProcessControlRequest_answers hclass) ?_
      intro _
      refine .read_bind serving_read ?_
      intro s hs
      have hcleared : s.selected.rxstpi = false := by
        rw [selected_control (hs.uenum _ rfl)]
        exact hs.setup
      rw [hcleared]
      exact .mono (fun _ hv => hv.anywhere) (fun _ hv => hv) stallUnanswered_answered
  | none =>
      rw [requestIn_standard hclass]
      refine .bind (hidDeviceProcessControlRequest_passes hclass) ?_
      intro _
      refine .read_bind serving_read ?_
      intro s hs
      rw [setupReceived_pending hs]
      refine .read_bind serving_read ?_
      intro s hs
      have hrequest : s.usbControlRequest = h := hs.request
      rw [hrequest]
      refine .bind standardRequest_outcome ?_
      intro _
      exact stallUnanswered_settles _

/-- A settled request is not undone by a selection. -/
theorem select_settles (address : UInt8) (r : Option Request) :
    (endpointSelectEndpoint address).Leads serving (Settles b r) (Settles b r) := by
  cases r with
  | none =>
      show Prog.Leads serving (Refused b) _ (Refused b)
      exact .of_keeps
  | some r =>
      show Prog.Leads serving (Answered none r.stalls (r.effect b)) _
        (Answered none r.stalls (r.effect b))
      exact .of_keeps

/-- `USB_USBTask` on a waiting packet. -/
theorem usbUSBTask_settles (hattached : b.state ≠ .unattached) :
    usbUSBTask.Leads serving (Waiting h.bytes b) (Settles b (requestIn h)) := by
  refine .read_bind serving_read ?_
  intro s hs
  have hstate : s.usbDeviceState = b.state := congrArg Bus.state hs.bus
  rw [hstate, if_neg hattached]
  have hselect : (endpointSelectEndpoint endpointControlEP).Leads serving (Waiting h.bytes b)
      (Received h.bytes b) := by
    refine .of_modify ?_
    intro s hs
    exact ⟨trivial, { hs with uenum := rfl }⟩
  refine .bind .of_keeps ?_
  intro prevEndpoint
  refine .bind hselect ?_
  intro _
  refine .read_bind serving_read ?_
  intro s hs
  have hreceived : s.selected.rxstpi = true := by
    rw [selected_control hs.uenum]
    exact hs.setup
  rw [hreceived]
  refine .bind usbDeviceProcessControlRequest_settles ?_
  intro _
  exact select_settles _ _

end Requests

/-- The surroundings let the request run. -/
def LetsRun (s : Firmware) (e : Signal) : Prop :=
  Undisturbed s.controlView (s.signal e).controlView

/-- **Every request is answered or stalled.**  A call of `USB_USBTask` on an
attached device with a SETUP packet waiting, left to run to its end, takes the
packet, stalls the control endpoint exactly if the header asks for nothing the
device knows or for a halt of endpoint 8, and leaves behind exactly what the
request asks for. -/
theorem request_answered_or_stalled (s : Firmware) (h : USBRequestHeader)
    (hattached : s.usbDeviceState ≠ .unattached)
    (henabled : (s.endpoints endpointControlEP).epen = true)
    (hsetup : (s.endpoints endpointControlEP).rxstpi = true)
    (hbank : (s.endpoints endpointControlEP).bank = h.bytes)
    (hstall : (s.endpoints endpointControlEP).stallrq = false) (turns : List (Turn Signal))
    (hturns : InterruptsAllowed signal LetsRun usbUSBTask s turns)
    (hend : (execute signal usbUSBTask s turns).prog = .done ()) :
    let s' := (execute signal usbUSBTask s turns).state
    (s'.endpoints endpointControlEP).rxstpi = false ∧
      ((s'.endpoints endpointControlEP).stallrq = true ↔
        requestIn h = none ∨ requestIn h = some .haltControl) ∧
      s'.bus = (requestIn h).elim s.bus (·.effect s.bus) := by
  intro s'
  have hstart : Waiting h.bytes s.bus s.controlView := ⟨henabled, hsetup, hstall, hbank, rfl⟩
  have hresult : Settles s.bus (requestIn h) s'.controlView :=
    wp_result (fun _ _ hrun => .single hrun) (usbUSBTask_settles hattached _ hstart) hturns hend
  cases hrequest : requestIn h with
  | none =>
      rw [hrequest] at hresult
      have hstalled : (s'.endpoints endpointControlEP).stallrq = true := hresult.stalled
      exact ⟨hresult.setup, by simp [hstalled], hresult.bus⟩
  | some r =>
      rw [hrequest] at hresult
      have hstalled : (s'.endpoints endpointControlEP).stallrq = r.stalls := hresult.stalled
      have hhalt : r.stalls = true ↔ r = .haltControl := by
        cases r <;> simp [Request.stalls]
      exact ⟨hresult.setup, by simp [hstalled, hhalt], hresult.bus⟩

/-- An addressed device that is about to be configured. -/
def addressedDevice : Firmware where
  ports := quietBoard
  usbDeviceState := .addressed
  udaddr := 0x85
  endpoints n :=
    if n = endpointControlEP then
      { epen := true, rxstpi := true, txini := true
        bank := USBRequestHeader.bytes ⟨hostToDeviceDevice, reqSetConfiguration, 1, 0, 0⟩ }
    else {}

/-- SET_CONFIGURATION 1 is answered and takes effect. -/
theorem request_answered_or_stalled_configure :
    let s' := (execute signal usbUSBTask addressedDevice (List.replicate 53 .program)).state
    (s'.endpoints endpointControlEP).rxstpi = false ∧
      ((s'.endpoints endpointControlEP).stallrq = true ↔
        some (Request.setConfiguration 1) = none ∨
          some (Request.setConfiguration 1) = some .haltControl) ∧
      s'.bus = (Request.setConfiguration 1).effect addressedDevice.bus :=
  request_answered_or_stalled addressedDevice
    ⟨hostToDeviceDevice, reqSetConfiguration, 1, 0, 0⟩ (by decide) rfl rfl rfl rfl _
    (interruptsAllowed_programs _ _ _) (Prog.eq_done (by decide +kernel))

end Firmware

end AvrJoystick
