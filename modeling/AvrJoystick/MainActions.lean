import AvrJoystick.UsbStack

/-!
# What the main program can do

Every action of the main program, sorted by what it touches: the registers of
endpoints, the selection, the data register, the variables of the application
and its class driver, the variables of the USB core, the interrupt mask.  Each
action is placed in one of these kinds once.  From that, every function of the
main program keeps whatever its kinds of actions keep, for any contract.
-/

namespace AvrJoystick

open Interleave

namespace Firmware

/-- No packet from the host and no stall request has appeared. -/
structure EndpointQuiet (r r' : EndpointRegs) : Prop where
  setup : r'.rxstpi = true → r.rxstpi = true
  out : r'.rxouti = true → r.rxouti = true
  stall : r'.stallrq = true → r.stallrq = true

theorem EndpointQuiet.refl (r : EndpointRegs) : EndpointQuiet r r := ⟨id, id, id⟩

theorem EndpointQuiet.trans {r r' r'' : EndpointRegs} (h : EndpointQuiet r r')
    (h' : EndpointQuiet r' r'') : EndpointQuiet r r'' :=
  ⟨h.setup ∘ h'.setup, h.out ∘ h'.out, h.stall ∘ h'.stall⟩

/-- Endpoint registers and what the controller does about them, except for
requesting a stall. -/
structure Registers (s s' : Firmware) : Prop where
  rest : s' = { s with
    endpoints := s'.endpoints, allocated := s'.allocated, released := s'.released }
  quiet : ∀ n, EndpointQuiet (s.endpoints n) (s'.endpoints n)

/-- The registers of the selected endpoint except for its stall request, and the
packets it hands over. -/
def Access (s s' : Firmware) : Prop :=
  ∃ (f : EndpointRegs → EndpointRegs) (packets : List (List UInt8)),
    s' = { s.setEndpoint s.uenum f with
      released := s.released ++ packets.map fun p => (s.uenum, p) } ∧
      ∀ r, EndpointQuiet r (f r) ∧ (f r).stallrq = r.stallrq

/-- A stall of the selected endpoint is requested. -/
def Stalls (s s' : Firmware) : Prop :=
  s' = s.setEndpoint s.uenum fun r => { r with stallrq := true }

/-- The endpoint with this address is selected. -/
def Selects (address : UInt8) (s s' : Firmware) : Prop :=
  s' = { s with uenum := uenumOf address }

/-- A byte goes to the bank of the selected endpoint. -/
def Writes (writer : Writer) (s s' : Firmware) : Prop :=
  ∃ data, s' =
    { s.setEndpoint s.uenum fun r => { r with bank := r.bank ++ [data] } with
      written := s.written ++ [⟨writer, s.uenum, data⟩] }

/-- An idle rate the host can set, or the one a configuration starts with. -/
def IsIdleCount (count : UInt16) : Prop := count % 4 = 0 ∧ count ≤ 1020

/-- Variables of the application, and those of the class driver that follow
the traffic. -/
inductive AppStep (s : Firmware) : Firmware → Prop
  | prevReport (data : ReportBuffer) : AppStep s { s with prevReportINBuffer := data }
  | output (data : UInt8) :
      AppStep s { s with saved := data, ports := { s.ports with portD := data } }
  | leds (ledMask : UInt8) : AppStep s { s with ports := ledsSetAllLEDs ledMask s.ports }
  | reloadIdle : AppStep s { s with hid := { s.hid with idleMSRemaining := s.hid.idleCount } }
  | prevFrame : AppStep s { s with hid := { s.hid with prevFrameNum := s.udfnum } }

/-- Variables of the class driver that the host sets. -/
inductive SettingStep (s : Firmware) : Firmware → Prop
  | clearHID : SettingStep s { s with hid := {} }
  | protocol (flag : Bool) :
      SettingStep s { s with hid := { s.hid with usingReportProtocol := flag } }
  | idleCount (count : UInt16) (h : IsIdleCount count) :
      SettingStep s { s with hid := { s.hid with idleCount := count } }

/-- Variables of the USB core and the device address. -/
inductive CoreStep (s : Firmware) : Firmware → Prop
  | request (header : USBRequestHeader) : CoreStep s { s with usbControlRequest := header }
  | address (udaddr : UInt8) : CoreStep s { s with udaddr := udaddr }
  | configuration (number : UInt8) (h : number ≤ fixedNumConfigurations) :
      CoreStep s { s with usbDeviceConfigurationNumber := number }
  | state (state : USBDeviceState) (h : state ≠ .suspended) :
      CoreStep s { s with usbDeviceState := state }
  | remoteWakeup (flag : Bool) : CoreStep s { s with usbDeviceRemoteWakeupEnabled := flag }

/-- The two halves of an update of the interrupt mask. -/
inductive MaskStep (s : Firmware) : Firmware → Prop
  | loadUDIEN : MaskStep s { s with udienCopy := some s.udien }
  | storeUDIEN :
      MaskStep s
        { s with udien := { s.udienCopy.getD s.udien with sof := true }, udienCopy := none }

section Kinds

/-- Quiet registers of one endpoint make all of them quiet. -/
theorem setEndpoint_quiet (s : Firmware) (m : UInt8) {f : EndpointRegs → EndpointRegs}
    (hf : ∀ r, EndpointQuiet r (f r)) (n : UInt8) :
    EndpointQuiet (s.endpoints n) ((s.setEndpoint m f).endpoints n) := by
  unfold setEndpoint
  dsimp only
  split
  · exact hf _
  · exact .refl _

/-- A flushed bank has nothing in it. -/
theorem flushed_quiet (r : EndpointRegs) : EndpointQuiet r r.flushed :=
  ⟨fun h => Bool.noConfusion h, fun h => Bool.noConfusion h, id⟩

/-- Access to the selected endpoint is access to endpoint registers. -/
theorem Access.registers {s s' : Firmware} (h : Access s s') : Registers s s' := by
  obtain ⟨f, packets, rfl, hf⟩ := h
  exact ⟨rfl, setEndpoint_quiet s _ fun r => (hf r).1⟩

instance {V : Type} {C : Contract Firmware V} {P : V → Prop} [hC : Allows C P Registers] :
    Allows C P Access :=
  ⟨fun s s' hP h => hC.allows s s' hP h.registers⟩

/-- Registers of one endpoint, and the banks in the controller's memory. -/
theorem Registers.reserve (s : Firmware) (m : UInt8) {f : EndpointRegs → EndpointRegs}
    (hf : ∀ r, EndpointQuiet r (f r)) (allocated : List UInt8) :
    Registers s ((s.setEndpoint m f).setAllocated allocated) :=
  ⟨rfl, setEndpoint_quiet s m hf⟩

/-- Nothing handed over. -/
theorem Access.set (s : Firmware) {f : EndpointRegs → EndpointRegs}
    (hf : ∀ r, EndpointQuiet r (f r) ∧ (f r).stallrq = r.stallrq) :
    Access s (s.setEndpoint s.uenum f) := by
  refine ⟨f, [], ?_, hf⟩
  rw [List.map_nil, List.append_nil]
  rfl

/-- Actions on the registers of the selected endpoint. -/
theorem does_onSelected {f : EndpointRegs → EndpointRegs}
    (hf : ∀ r, EndpointQuiet r (f r) ∧ (f r).stallrq = r.stallrq) : Does Access (onSelected f) :=
  ⟨_, rfl, fun s => Access.set s hf⟩

instance : Does Access endpointEnableEndpoint := does_onSelected fun _ => ⟨⟨id, id, id⟩, rfl⟩

instance : Does Access endpointDisableEndpoint :=
  does_onSelected fun _ =>
    ⟨⟨fun h => Bool.noConfusion h, fun h => Bool.noConfusion h, id⟩, rfl⟩

instance : Does Access endpointClearSETUP :=
  does_onSelected fun _ => ⟨⟨fun h => Bool.noConfusion h, id, id⟩, rfl⟩

instance : Does Access endpointClearOUT :=
  does_onSelected fun _ => ⟨⟨id, fun h => Bool.noConfusion h, id⟩, rfl⟩

instance (value : UInt8) : Does Access (onSelected fun r => { r with uecfg0x := value }) :=
  does_onSelected fun _ => ⟨⟨id, id, id⟩, rfl⟩

instance (value : UInt8) : Does Access (onSelected fun r => { r with ueienx := value }) :=
  does_onSelected fun _ => ⟨⟨id, id, id⟩, rfl⟩

instance : Does Registers endpointClearStall :=
  ⟨_, rfl, fun s => ⟨rfl, setEndpoint_quiet s s.uenum (f := fun r => { r with stallrq := false })
    fun _ => ⟨id, id, fun h => Bool.noConfusion h⟩⟩⟩

instance : Does Registers clearALLOC := by
  refine ⟨_, rfl, fun s => .reserve s s.uenum ?_ _⟩
  exact fun _ => ⟨id, id, id⟩

instance (address : UInt8) : Does Registers (endpointResetEndpoint address) := by
  refine ⟨_, rfl, fun s => ?_⟩
  dsimp only
  split
  · exact ⟨rfl, setEndpoint_quiet s _ flushed_quiet⟩
  · exact ⟨rfl, fun _ => .refl _⟩

instance : Does Access endpointClearIN :=
  ⟨_, rfl, fun s => ⟨fun r => { r with txini := false, rwal := false, bank := [] },
    [s.selected.bank], rfl, fun _ => ⟨⟨id, id, id⟩, rfl⟩⟩⟩

instance : Does Access endpointRead8 :=
  ⟨_, rfl, fun s => Access.set s (f := fun r => { r with bank := r.bank.tail })
    fun _ => ⟨⟨id, id, id⟩, rfl⟩⟩

instance (value : UInt8) : Does Registers (writeUECFG1X value) := by
  refine ⟨_, rfl, fun s => .reserve s s.uenum ?_ _⟩
  exact fun _ => ⟨id, id, id⟩

instance : Does Stalls endpointStallTransaction := ⟨_, rfl, fun _ => rfl⟩

instance (address : UInt8) : Does (Selects address) (endpointSelectEndpoint address) :=
  ⟨_, rfl, fun _ => rfl⟩

instance (writer : Writer) (data : UInt8) : Does (Writes writer) (endpointWrite8 writer data) :=
  ⟨_, rfl, fun _ => ⟨_, rfl⟩⟩

instance (data : ReportBuffer) : Does AppStep (storePrevReport data) :=
  ⟨_, rfl, fun _ => .prevReport _⟩

instance (r : ReceivedReport) : Does AppStep (processHIDReport r) :=
  ⟨_, rfl, fun _ => .output _⟩

instance (ledMask : UInt8) : Does AppStep (setAllLEDs ledMask) := ⟨_, rfl, fun _ => .leds _⟩

instance : Does SettingStep clearHIDState := ⟨_, rfl, fun _ => .clearHID⟩

instance (flag : Bool) : Does SettingStep (setUsingReportProtocol flag) :=
  ⟨_, rfl, fun _ => .protocol _⟩

instance : Does SettingStep (setIdleCount 500) :=
  ⟨_, rfl, fun _ => .idleCount _ ⟨by decide, by decide⟩⟩

instance : Does AppStep reloadIdleMSRemaining := ⟨_, rfl, fun _ => .reloadIdle⟩

instance : Does AppStep storePrevFrameNum := ⟨_, rfl, fun _ => .prevFrame⟩

/-- A mask above bit `k` looks at the number shifted down. -/
theorem and_shiftLeft (x m k : Nat) : x &&& (m <<< k) = ((x >>> k) &&& m) <<< k := by
  apply Nat.eq_of_testBit_eq
  intro j
  by_cases hj : k ≤ j
  · simp [Nat.testBit_shiftLeft, Nat.testBit_shiftRight, hj, Nat.add_sub_cancel' hj]
  · simp [Nat.testBit_shiftLeft, hj]

/-- The idle rate of a SET_IDLE: four times the high byte of `wValue`. -/
theorem idleCount_toNat (wValue : UInt16) :
    ((wValue &&& 0xFF00) >>> 6).toNat = wValue.toNat / 256 * 4 := by
  have hlt := wValue.toNat_lt
  have hand : wValue.toNat &&& 0xFF00 = wValue.toNat / 256 % 256 * 256 := by
    have hmask := Nat.and_two_pow_sub_one_eq_mod (wValue.toNat >>> 8) 8
    rw [show (0xFF00 : Nat) = (2 ^ 8 - 1) <<< 8 from rfl, and_shiftLeft, hmask,
      Nat.shiftLeft_eq, Nat.shiftRight_eq_div_pow]
  rw [UInt16.toNat_shiftRight, UInt16.toNat_and]
  show (wValue.toNat &&& 0xFF00) >>> 6 = _
  rw [hand, Nat.shiftRight_eq_div_pow]
  omega

instance (wValue : UInt16) : Does SettingStep (setIdleCount ((wValue &&& 0xFF00) >>> 6)) := by
  refine ⟨_, rfl, fun _ => .idleCount _ ?_⟩
  have hlt := wValue.toNat_lt
  have hvalue := idleCount_toNat wValue
  constructor
  · apply UInt16.toNat_inj.mp
    rw [UInt16.toNat_mod, hvalue]
    show _ % 4 = 0
    omega
  · rw [UInt16.le_iff_toNat_le, hvalue]
    show _ ≤ 1020
    omega

instance (header : USBRequestHeader) : Does CoreStep (setControlRequest header) :=
  ⟨_, rfl, fun _ => .request _⟩

instance (address : UInt8) : Does CoreStep (usbDeviceSetDeviceAddress address) :=
  ⟨_, rfl, fun _ => .address _⟩

instance : Does CoreStep usbDeviceEnableDeviceAddress := ⟨_, rfl, fun _ => .address _⟩

instance : Does CoreStep (setDeviceState .configured) :=
  ⟨_, rfl, fun _ => .state _ (by decide)⟩

instance (c : Prop) [Decidable c] :
    Does CoreStep (setDeviceState (if c then .addressed else .default)) :=
  ⟨_, rfl, fun _ => .state _ (by split <;> decide)⟩

instance (c : Prop) [Decidable c] :
    Does CoreStep (setDeviceState (if c then .configured else .powered)) :=
  ⟨_, rfl, fun _ => .state _ (by split <;> decide)⟩

instance (flag : Bool) : Does CoreStep (setRemoteWakeupEnabled flag) :=
  ⟨_, rfl, fun _ => .remoteWakeup _⟩

instance : Does MaskStep Firmware.loadUDIEN := ⟨_, rfl, fun _ => .loadUDIEN⟩

instance : Does MaskStep storeUDIENWithSOFE := ⟨_, rfl, fun _ => .storeUDIEN⟩

/-- The number of a configuration that the device has is stored. -/
theorem does_setConfigurationNumber {number : UInt8} (h : number ≤ fixedNumConfigurations) :
    Does CoreStep (setConfigurationNumber number) :=
  ⟨_, rfl, fun _ => .configuration _ h⟩

end Kinds

section Functions

-- the search goes through a whole function body at once
set_option synthInstance.maxSize 4096

variable {V : Type} {C : Contract Firmware V} {P : V → Prop} [Stable C P]
variable [Allows C P Unchanged]

section Selected

variable [Allows C P Access]

instance (flag : FwProg Bool) [Keeps C P flag] : Keeps C P (awaitUnlessUnattached flag) := by
  unfold awaitUnlessUnattached
  infer_instance

instance : Keeps C P endpointClearStatusStage := by
  unfold endpointClearStatusStage
  infer_instance

instance : Keeps C P endpointIsReady := by
  unfold endpointIsReady
  infer_instance

instance (w : WaitState) : Keeps C P (waitRound w) := by
  unfold waitRound
  infer_instance

instance : Keeps C P endpointWaitUntilReady := by
  unfold endpointWaitUntilReady
  infer_instance

instance (flag : FwProg Bool) (abortable : Bool) [Keeps C P flag] :
    Keeps C P (awaitControlEnd flag abortable) := by
  unfold awaitControlEnd
  infer_instance

instance (exit : StreamExit) (next : FwProg ControlStreamError) [Keeps C P next] :
    Keeps C P (StreamExit.andThen exit next) := by
  cases exit
  · exact inferInstanceAs (Keeps C P next)
  · exact inferInstanceAs (Keeps C P (pure _))

instance (buffer : List UInt8) (wLength : Nat) : Keeps C P (controlData buffer wLength) := by
  unfold controlData
  infer_instance

instance (r : List UInt8 × Nat) : Keeps C P (takeBankRound r) := by
  unfold takeBankRound
  infer_instance

instance (r : List UInt8 × Nat) : Keeps C P (readControlRound r) := by
  unfold readControlRound
  infer_instance

instance (length : Nat) : Keeps C P (endpointReadControlStreamLE length) := by
  unfold endpointReadControlStreamLE clearUnwantedOUT
  infer_instance

instance : Keeps C P spinUntilINReady := by
  unfold spinUntilINReady
  infer_instance

instance : Keeps C P readWord := by
  unfold readWord
  infer_instance

instance [Allows C P Stalls] : Keeps C P stallUnanswered := by
  unfold stallUnanswered
  infer_instance

section Control

variable [Allows C P (Writes .control)]

instance (bytesInEndpoint : Nat) (data : List UInt8) :
    Keeps C P (fillControlBank bytesInEndpoint data) := by
  induction data generalizing bytesInEndpoint with
  | nil => exact inferInstanceAs (Keeps C P (pure _))
  | cons b data ih =>
      unfold fillControlBank
      infer_instance

instance (w : List UInt8 × Bool) : Keeps C P (writeControlRound w) := by
  unfold writeControlRound
  infer_instance

instance (buffer : List UInt8) : Keeps C P (endpointWriteControlStreamLE buffer) := by
  unfold endpointWriteControlStreamLE
  infer_instance

instance (data : UInt16) : Keeps C P (endpointWrite16LE .control data) := by
  unfold endpointWrite16LE
  infer_instance

instance (reply : Firmware → UInt8) : Keeps C P (replyByte reply) := by
  unfold replyByte
  infer_instance

instance : Keeps C P usbDeviceGetConfiguration := by
  unfold usbDeviceGetConfiguration
  infer_instance

instance (descriptor : List UInt8) : Keeps C P (sendDescriptor descriptor) := by
  unfold sendDescriptor
  infer_instance

instance : Keeps C P usbDeviceGetDescriptor := by
  unfold usbDeviceGetDescriptor
  infer_instance

instance (status : UInt16) : Keeps C P (replyStatus status) := by
  unfold replyStatus
  infer_instance

variable [Allows C P AppStep]

instance (header : USBRequestHeader) : Keeps C P (setReport header) := by
  unfold setReport
  infer_instance

variable [Allows C P (Selects endpointControlEP)]

instance (header : USBRequestHeader) : Keeps C P (getReport header) := by
  unfold getReport
  infer_instance

variable [Allows C P SettingStep]

instance (header : USBRequestHeader) (r : HIDClassRequest) :
    Keeps C P (classRequest header r) := by
  cases r <;> (unfold classRequest; infer_instance)

instance : Keeps C P hidDeviceProcessControlRequest := by
  unfold hidDeviceProcessControlRequest
  have (header : USBRequestHeader) :
      Keeps C P ((classRequestOf header).elim (pure ()) (classRequest header)) := by
    cases classRequestOf header
    · exact inferInstanceAs (Keeps C P (pure ()))
    · exact inferInstanceAs (Keeps C P (classRequest header _))
  infer_instance

end Control

end Selected

variable [Allows C P Registers]

instance (c : EndpointConfig) : Keeps C P (rewriteConfig c) := by
  unfold rewriteConfig
  infer_instance

instance [Allows C P MaskStep] : Keeps C P usbDeviceEnableSOFEvents := by
  unfold usbDeviceEnableSOFEvents
  infer_instance

section Core

variable [Allows C P CoreStep]

instance : Keeps C P readRequestHeader := by
  unfold readRequestHeader
  infer_instance

instance : Keeps C P configuredState := by
  unfold configuredState
  infer_instance

instance : Keeps C P usbDeviceSetAddress := by
  unfold usbDeviceSetAddress
  infer_instance

end Core

section Selections

variable [∀ address, Allows C P (Selects address)]

instance (number d0 d1 epNum : UInt8) : Keeps C P (loopValues number d0 d1 epNum) := by
  unfold loopValues
  infer_instance

instance (number d0 d1 : UInt8) (endpoints : List UInt8) :
    Keeps C P (configureLoop number d0 d1 endpoints) := by
  induction endpoints with
  | nil => unfold configureLoop; infer_instance
  | cons epNum rest ih => unfold configureLoop; infer_instance

instance (address type : UInt8) (size : UInt16) (banks : UInt8) :
    Keeps C P (endpointConfigureEndpoint address type size banks) := by
  unfold endpointConfigureEndpoint endpointConfigureEndpointPrv
  split
  · infer_instance
  · split <;> infer_instance

instance (table : List USBEndpointTable) :
    Keeps C P (endpointConfigureEndpointTable table) := by
  induction table with
  | nil => exact inferInstanceAs (Keeps C P (pure true))
  | cons e table ih => unfold endpointConfigureEndpointTable; infer_instance

instance (index : UInt8) : Keeps C P (endpointStatus index) := by
  unfold endpointStatus
  infer_instance

instance [Allows C P Stalls] (set : Bool) (index : UInt8) :
    Keeps C P (haltFeature set index) := by
  unfold haltFeature
  infer_instance

variable [Allows C P SettingStep]

instance : Keeps C P hidDeviceConfigureEndpoints := by
  unfold hidDeviceConfigureEndpoints
  infer_instance

variable [Allows C P AppStep] [Allows C P MaskStep]

instance : Keeps C P eventUSBDeviceConfigurationChanged := by
  unfold eventUSBDeviceConfigurationChanged
  infer_instance

variable [Allows C P CoreStep]

instance : Keeps C P usbDeviceSetConfiguration := by
  unfold usbDeviceSetConfiguration
  have (number : UInt8) : Keeps C P (if fixedNumConfigurations < number then pure ()
      else do
        endpointClearSETUP
        setConfigurationNumber number
        endpointClearStatusStage
        configuredState
        eventUSBDeviceConfigurationChanged : FwProg Unit) := by
    split
    · infer_instance
    · have := does_setConfigurationNumber (UInt8.not_lt.mp ‹_›)
      infer_instance
  infer_instance

end Selections

section Features

variable [Allows C P (Selects endpointControlEP)]

instance : Keeps C P acceptFeature := by
  unfold acceptFeature
  infer_instance

instance (set : Bool) (index : UInt8) [Keeps C P (haltFeature set index)] :
    Keeps C P (acceptHaltFeature set index) := by
  unfold acceptHaltFeature
  infer_instance

instance [Allows C P CoreStep] [∀ set index, Keeps C P (acceptHaltFeature set index)] :
    Keeps C P usbDeviceClearSetFeature := by
  unfold usbDeviceClearSetFeature
  infer_instance

instance [Allows C P (Writes .control)] [∀ index, Keeps C P (endpointStatus index)] :
    Keeps C P usbDeviceGetStatus := by
  unfold usbDeviceGetStatus
  infer_instance

end Features

section Everything

variable [Allows C P Stalls] [Allows C P AppStep] [Allows C P SettingStep]
variable [Allows C P CoreStep] [Allows C P MaskStep]
variable [∀ address, Allows C P (Selects address)] [∀ writer, Allows C P (Writes writer)]

instance (header : USBRequestHeader) : Keeps C P (standardRequest header) := by
  unfold standardRequest
  infer_instance

instance : Keeps C P usbDeviceProcessControlRequest := by
  unfold usbDeviceProcessControlRequest
  infer_instance

instance : Keeps C P usbUSBTask := by
  unfold usbUSBTask
  infer_instance

end Everything

section Reports

variable [Allows C P AppStep] [Allows C P (Selects joystickINEPAddr)]
variable [Allows C P (Writes .report)] [Keeps C P usbUSBTask]

instance (data : List UInt8) : Keeps C P (writeStreamRound data) := by
  cases data <;> (unfold writeStreamRound; infer_instance)

instance (data : List UInt8) : Keeps C P (endpointWriteStreamLE data) := by
  unfold endpointWriteStreamLE
  infer_instance

instance (reportID : UInt8) (data : List UInt8) : Keeps C P (sendReport reportID data) := by
  unfold sendReport
  infer_instance

instance : Keeps C P createAndSendReport := by
  unfold createAndSendReport
  infer_instance

instance : Keeps C P hidDeviceUSBTask := by
  unfold hidDeviceUSBTask
  infer_instance

instance : Keeps C P mainLoop := by
  unfold mainLoop
  infer_instance

end Reports

end Functions

end Firmware

end AvrJoystick
