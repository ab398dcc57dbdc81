import AvrJoystick.Device

/-!
# What one step of the device can do

The case analysis of the step function, made once.  A control request acts
only when the driver accepts it.  A call of `HID_Device_USBTask` has three
outcomes: it does not get as far as deciding whether to send, it decides
against sending and only notes the frame number, or it sends the current
report as a single packet.  Between steps the bank of the interrupt endpoint
is empty, because the task releases whatever it has written.
-/

namespace AvrJoystick

/-- The requests the driver accepts as class request `r`. -/
theorem ControlTransfer.accepted_eq_some {t : ControlTransfer}
    {r : HIDClassRequest} :
    t.accepted = some r ↔
      t.setupReceived = true ∧
        t.header.wIndex = interfaceIDJoystick.toUInt16 ∧
        hidClassRequest t.header.bRequest = some r ∧
        t.header.bmRequestType = r.requestType := by
  unfold ControlTransfer.accepted
  by_cases hsetup : t.setupReceived = false
  · simp [hsetup]
  by_cases hindex : t.header.wIndex = interfaceIDJoystick.toUInt16
  · simp [hsetup, hindex, Option.filter_eq_some_iff]
  · simp [hsetup, hindex]

/-- An accepted SET_REPORT, field by field. -/
theorem ControlTransfer.accepted_setReport {t : ControlTransfer} :
    t.accepted = some .setReport ↔
      t.setupReceived = true ∧
        t.header.wIndex = interfaceIDJoystick.toUInt16 ∧
        t.header.bRequest = 0x09 ∧
        t.header.bmRequestType = hostToDeviceClassInterface := by
  have hrequest : hidClassRequest t.header.bRequest = some .setReport ↔
      t.header.bRequest = 0x09 := by
    constructor
    · intro h
      unfold hidClassRequest at h
      split at h <;> simp_all
      exact UInt8.toNat_inj.mp (by assumption)
    · intro h
      rw [h]
      rfl
  rw [ControlTransfer.accepted_eq_some, hrequest]
  rfl

/-- The report that `CALLBACK_HID_Device_CreateHIDReport` makes of a cleared
buffer in the current state. -/
def Device.currentReport (d : Device) : USBJoystickReportData :=
  { USBJoystickReportData.cleared with
    button := d.ports.pinB.toUInt32
    x := d.mask.toInt8
    y := d.saved.toInt8 }

theorem callbackHIDDeviceCreateHIDReport_cleared
    (d : Device) (reportID reportType : UInt8) :
    callbackHIDDeviceCreateHIDReport d reportID reportType .cleared =
      ⟨false, reportID, d.currentReport, 32⟩ := rfl

/-- The first two bytes of the report are `mask` and `saved`. -/
theorem Device.currentReport_getElem? (d : Device) :
    d.currentReport.toBytes[0]? = some d.mask ∧
      d.currentReport.toBytes[1]? = some d.saved := by
  simp [Device.currentReport, USBJoystickReportData.toBytes,
    USBJoystickReportData.axes]

/-- A whole buffer is compared, and a whole buffer is sent. -/
theorem ReportBuffer.take_size (b : ReportBuffer) : b.bytes.take 32 = b.bytes :=
  List.take_of_length_le (Nat.le_of_eq b.length_eq)

theorem USBJoystickReportData.toBuffer_bytes (r : USBJoystickReportData) :
    r.toBuffer.bytes = r.toBytes := rfl

theorem getReport_eq (d : Device) (t : ControlTransfer) :
    getReport d t =
      ({ d with prevReportINBuffer := d.currentReport.toBuffer },
        .controlReport d.currentReport.toBytes ::
          (endpointWriteControlStreamLE
            (if t.reportID = 0 then [] else [t.reportID])
            d.currentReport.toBytes t.header.wLength.toNat
            t.polls).packets.map .controlPacket) := by
  have htake := ReportBuffer.take_size d.currentReport.toBuffer
  rw [USBJoystickReportData.toBuffer_bytes] at htake
  unfold getReport
  simp only [callbackHIDDeviceCreateHIDReport_cleared,
    USBJoystickReportData.toBuffer_bytes, UInt16.reduceToNat, htake]
  rfl

theorem Device.step_getReport {t : ControlTransfer}
    (h : t.accepted = some .getReport) (d : Device) :
    d.step (.controlRequest t) =
      ({ d with prevReportINBuffer := d.currentReport.toBuffer },
        .controlReport d.currentReport.toBytes ::
          (endpointWriteControlStreamLE
            (if t.reportID = 0 then [] else [t.reportID])
            d.currentReport.toBytes t.header.wLength.toNat
            t.polls).packets.map .controlPacket) := by
  simp [Device.step, eventUSBDeviceControlRequest,
    hidDeviceProcessControlRequest, h, getReport_eq]

theorem Device.step_setIdle {t : ControlTransfer}
    (h : t.accepted = some .setIdle)
    (hstatus : statusStageCleared false t.polls = true) (d : Device) :
    d.step (.controlRequest t) =
      ({ d with
          hid := { d.hid with
            idleCount := (t.header.wValue &&& 0xFF00) >>> 6 } }, []) := by
  simp [Device.step, eventUSBDeviceControlRequest,
    hidDeviceProcessControlRequest, h, setIdle, hstatus]

/-- What can be seen of a control request: packets on the control endpoint,
after the report made for them if it is a GET_REPORT. -/
theorem hidDeviceProcessControlRequest_observations (d : Device)
    (t : ControlTransfer) :
    ∃ packets : List (List UInt8),
      (hidDeviceProcessControlRequest d t).2 =
        (if t.accepted = some .getReport then
          [.controlReport d.currentReport.toBytes] else []) ++
          packets.map .controlPacket := by
  have hreply : ∀ reply, ∃ packets : List (List UInt8),
      replyByte t reply = packets.map .controlPacket := by
    intro reply
    unfold replyByte
    split
    · exact ⟨[[reply]], rfl⟩
    · exact ⟨[], rfl⟩
  unfold hidDeviceProcessControlRequest
  split <;> rename_i hacc
  · exact ⟨[], by simp [hacc]⟩
  · exact ⟨_, by rw [getReport_eq, if_pos hacc]; rfl⟩
  · exact ⟨[], by simp [hacc]⟩
  · simpa [hacc] using hreply _
  · exact ⟨[], by simp [hacc]⟩
  · exact ⟨[], by simp [hacc]⟩
  · simpa [hacc] using hreply _

/-- **What a control request does to the device**: nothing, or one of four
things according to the request the driver accepts. -/
theorem hidDeviceProcessControlRequest_device (d : Device)
    (t : ControlTransfer) :
    (hidDeviceProcessControlRequest d t).1 = d ∨
    (t.accepted = some .getReport ∧
      (hidDeviceProcessControlRequest d t).1 =
        { d with prevReportINBuffer := d.currentReport.toBuffer }) ∨
    (t.accepted = some .setReport ∧ ∃ b,
      (hidDeviceProcessControlRequest d t).1 =
        { d with saved := b, ports := { d.ports with portD := b } }) ∨
    (t.accepted = some .setProtocol ∧ ∃ flag,
      (hidDeviceProcessControlRequest d t).1 =
        { d with hid := { d.hid with usingReportProtocol := flag } }) ∨
    (t.accepted = some .setIdle ∧ statusStageCleared false t.polls = true ∧
      (hidDeviceProcessControlRequest d t).1 =
        { d with
          hid := { d.hid with
            idleCount := (t.header.wValue &&& 0xFF00) >>> 6 } }) := by
  unfold hidDeviceProcessControlRequest
  split <;> rename_i hacc
  · exact Or.inl rfl
  · rw [getReport_eq]
    exact Or.inr (Or.inl ⟨hacc, rfl⟩)
  · unfold setReport
    split
    · exact Or.inl rfl
    · exact Or.inr (Or.inr (Or.inl ⟨hacc, _, rfl⟩))
  · exact Or.inl rfl
  · unfold setProtocol
    split
    · exact Or.inr (Or.inr (Or.inr (Or.inl ⟨hacc, _, rfl⟩)))
    · exact Or.inl rfl
  · unfold setIdle
    split
    · exact Or.inr (Or.inr (Or.inr (Or.inr ⟨hacc, ‹_›, rfl⟩)))
    · exact Or.inl rfl
  · exact Or.inl rfl

/-- A tick touches the idle timer only. -/
theorem hidDeviceMillisecondElapsed_eq (d : Device) :
    ∃ remaining, hidDeviceMillisecondElapsed d =
      { d with hid := { d.hid with idleMSRemaining := remaining } } := by
  unfold hidDeviceMillisecondElapsed
  split
  · exact ⟨_, rfl⟩
  · exact ⟨d.hid.idleMSRemaining, rfl⟩

/-- The task gets as far as deciding whether to send: the device is
configured, the frame is a new one and the endpoint takes data. -/
def Device.ReachesSendDecision (d : Device) (t : TaskCall) : Prop :=
  d.usbDeviceState = .configured ∧ d.hid.prevFrameNum ≠ t.frameNumber ∧
    d.endpoint.isReadWriteAllowed = true

instance (d : Device) (t : TaskCall) : Decidable (d.ReachesSendDecision t) := by
  unfold Device.ReachesSendDecision; infer_instance

/-- The report of the moment differs from the comparison buffer, or the idle
period has elapsed. -/
def Device.HasReportToSend (d : Device) : Prop :=
  d.currentReport.toBuffer ≠ d.prevReportINBuffer ∨ d.idlePeriodElapsed = true

instance (d : Device) : Decidable d.HasReportToSend := by
  unfold Device.HasReportToSend; infer_instance

/-- The task sends a report. -/
def Device.Sends (d : Device) (t : TaskCall) : Prop :=
  d.ReachesSendDecision t ∧ d.HasReportToSend

instance (d : Device) (t : TaskCall) : Decidable (d.Sends t) := by
  unfold Device.Sends; infer_instance

theorem hidDeviceUSBTask_of_not_reaches {d : Device} {t : TaskCall}
    (h : ¬ d.ReachesSendDecision t) : hidDeviceUSBTask d t = (d, []) := by
  unfold hidDeviceUSBTask
  by_cases hstate : d.usbDeviceState = .configured
  · by_cases hframe : d.hid.prevFrameNum = t.frameNumber
    · simp [hframe]
    · have hclosed : d.endpoint.isReadWriteAllowed = false := by
        simpa [Device.ReachesSendDecision, hstate, hframe] using h
      simp [hclosed]
  · simp [hstate]

/-- The send decision in terms of the report of the moment. -/
theorem hidDeviceUSBTask_of_reaches {d : Device} {t : TaskCall}
    (h : d.ReachesSendDecision t) :
    hidDeviceUSBTask d t =
      if d.HasReportToSend then
        let sent :=
          endpointWriteStreamLE d.endpoint d.currentReport.toBytes t.waits
        ({ d with
            prevReportINBuffer := d.currentReport.toBuffer
            endpoint := sent.endpoint.clearIN
            hid := { d.hid with
              idleMSRemaining := d.hid.idleCount
              prevFrameNum := t.lastFrameNumber } },
          .inReport d.currentReport.toBytes ::
            (sent.packets ++ [sent.endpoint.bank]).map .inPacket)
      else
        ({ d with
            prevReportINBuffer := d.currentReport.toBuffer
            hid := { d.hid with prevFrameNum := t.lastFrameNumber } }, []) := by
  obtain ⟨hstate, hframe, hready⟩ := h
  have htake := ReportBuffer.take_size d.currentReport.toBuffer
  rw [USBJoystickReportData.toBuffer_bytes] at htake
  have hchanged : d.currentReport.toBytes ≠ d.prevReportINBuffer.bytes ↔
      d.currentReport.toBuffer ≠ d.prevReportINBuffer :=
    not_congr
      ⟨fun heq => ReportBuffer.ext heq, fun heq => congrArg ReportBuffer.bytes heq⟩
  unfold hidDeviceUSBTask
  simp only [hstate, hframe, hready, callbackHIDDeviceCreateHIDReport_cleared,
    USBJoystickReportData.toBuffer_bytes, UInt16.reduceToNat, htake,
    ReportBuffer.take_size]
  simp [Device.HasReportToSend, hchanged]

/-- The task decides against sending: the buffer already holds the report. -/
theorem hidDeviceUSBTask_of_quiet {d : Device} {t : TaskCall}
    (h : d.ReachesSendDecision t) (hquiet : ¬ d.HasReportToSend) :
    hidDeviceUSBTask d t =
      ({ d with hid := { d.hid with prevFrameNum := t.lastFrameNumber } },
        []) := by
  have hsame : d.currentReport.toBuffer = d.prevReportINBuffer := by
    apply Classical.byContradiction
    intro hne
    exact hquiet (Or.inl hne)
  rw [hidDeviceUSBTask_of_reaches h, if_neg hquiet, hsame]

/-- A task that does not send shows nothing. -/
theorem hidDeviceUSBTask_silent {d : Device} {t : TaskCall}
    (h : ¬ d.Sends t) : (hidDeviceUSBTask d t).2 = [] := by
  by_cases hreach : d.ReachesSendDecision t
  · rw [hidDeviceUSBTask_of_quiet hreach (fun hhas => h ⟨hreach, hhas⟩)]
  · rw [hidDeviceUSBTask_of_not_reaches hreach]

/-- **A report is one packet.**  With an empty bank the task sends the report
of the moment whole and leaves the bank to the controller. -/
theorem hidDeviceUSBTask_of_sends {d : Device} {t : TaskCall}
    (h : d.Sends t) (hempty : d.endpoint.bank = []) :
    hidDeviceUSBTask d t =
      ({ d with
          prevReportINBuffer := d.currentReport.toBuffer
          endpoint := d.endpoint.clearIN
          hid := { d.hid with
            idleMSRemaining := d.hid.idleCount
            prevFrameNum := t.lastFrameNumber } },
        [.inReport d.currentReport.toBytes,
          .inPacket d.currentReport.toBytes]) := by
  have hfits : d.currentReport.toBytes.length ≤ joystickINEPSize :=
    Nat.le_of_eq d.currentReport.toBytes_length
  rw [hidDeviceUSBTask_of_reaches h.1, if_pos h.2,
    endpointWriteStreamLE_fits h.1.2.2 hempty hfits]
  rfl

/-- Nothing is left behind in the bank of the interrupt endpoint. -/
def Device.BankEmpty (d : Device) : Prop := d.endpoint.bank = []

theorem mainBeforeLoop_bankEmpty (ports : Ports) :
    (mainBeforeLoop ports).BankEmpty := rfl

theorem hidDeviceUSBTask_bankEmpty {d : Device} (h : d.BankEmpty)
    (t : TaskCall) : (hidDeviceUSBTask d t).1.BankEmpty := by
  by_cases hreach : d.ReachesSendDecision t
  · by_cases hsend : d.HasReportToSend
    · rw [hidDeviceUSBTask_of_sends ⟨hreach, hsend⟩ h]
      rfl
    · rw [hidDeviceUSBTask_of_quiet hreach hsend]
      exact h
  · rw [hidDeviceUSBTask_of_not_reaches hreach]
    exact h

/-- Control requests leave the interrupt endpoint, `mask` and the LED port
alone. -/
theorem hidDeviceProcessControlRequest_frame (d : Device)
    (t : ControlTransfer) :
    (hidDeviceProcessControlRequest d t).1.endpoint = d.endpoint ∧
      (hidDeviceProcessControlRequest d t).1.mask = d.mask ∧
      (hidDeviceProcessControlRequest d t).1.ports.portE = d.ports.portE := by
  rcases hidDeviceProcessControlRequest_device d t with
    h | ⟨_, h⟩ | ⟨_, _, h⟩ | ⟨_, _, h⟩ | ⟨_, _, h⟩ <;>
    rw [h] <;> exact ⟨rfl, rfl, rfl⟩

theorem Device.step_bankEmpty {d : Device} (h : d.BankEmpty) (e : Event) :
    (d.step e).1.BankEmpty := by
  cases e with
  | controlRequest t =>
      show (hidDeviceProcessControlRequest d t).1.endpoint.bank = []
      rw [(hidDeviceProcessControlRequest_frame d t).1]
      exact h
  | usbTask t => exact hidDeviceUSBTask_bankEmpty h t
  | endpointHalt halted => cases halted <;> first | exact h | rfl
  | startOfFrame =>
      obtain ⟨remaining, heq⟩ := hidDeviceMillisecondElapsed_eq d
      show (hidDeviceMillisecondElapsed d).endpoint.bank = []
      rw [heq]
      exact h
  | busReset => rfl
  | configurationChanged configOk => rfl
  | connect => exact h
  | disconnect => exact h
  | stateChange state => exact h
  | inToken => exact h
  | pinB level => exact h

theorem hidDeviceUSBTask_ports_saved_mask (d : Device) (t : TaskCall) :
    (hidDeviceUSBTask d t).1.ports = d.ports ∧
      (hidDeviceUSBTask d t).1.saved = d.saved ∧
      (hidDeviceUSBTask d t).1.mask = d.mask := by
  by_cases hreach : d.ReachesSendDecision t
  · rw [hidDeviceUSBTask_of_reaches hreach]
    split <;> exact ⟨rfl, rfl, rfl⟩
  · rw [hidDeviceUSBTask_of_not_reaches hreach]
    exact ⟨rfl, rfl, rfl⟩

/-- A control request other than SET_REPORT leaves the ports and the
application's variables alone. -/
theorem hidDeviceProcessControlRequest_ports_saved
    {t : ControlTransfer} (h : t.accepted ≠ some .setReport) (d : Device) :
    (hidDeviceProcessControlRequest d t).1.ports = d.ports ∧
      (hidDeviceProcessControlRequest d t).1.saved = d.saved := by
  rcases hidDeviceProcessControlRequest_device d t with
    heq | ⟨_, heq⟩ | ⟨hset, _⟩ | ⟨_, _, heq⟩ | ⟨_, _, heq⟩
  · simp [heq]
  · simp [heq]
  · exact absurd hset h
  · simp [heq]
  · simp [heq]

/-- No step writes `mask`. -/
theorem Device.step_mask (d : Device) (e : Event) :
    (d.step e).1.mask = d.mask := by
  cases e with
  | controlRequest t => exact (hidDeviceProcessControlRequest_frame d t).2.1
  | usbTask t => exact (hidDeviceUSBTask_ports_saved_mask d t).2.2
  | startOfFrame =>
      obtain ⟨remaining, heq⟩ := hidDeviceMillisecondElapsed_eq d
      show (hidDeviceMillisecondElapsed d).mask = d.mask
      rw [heq]
  | endpointHalt halted => cases halted <;> rfl
  | _ => rfl

/-- One step of the device alone. -/
def Device.next (d : Device) (e : Event) : Device := (d.step e).1

theorem run_next_mask (d : Device) (es : List Event) :
    (Runs.run Device.next d es).mask = d.mask :=
  Runs.run_invariant (fun s : Device => s.mask = d.mask)
    (fun s e hs => (s.step_mask e).trans hs) rfl es

end AvrJoystick
