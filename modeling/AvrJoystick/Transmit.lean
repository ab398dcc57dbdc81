import AvrJoystick.DeviceSteps

/-!
# Reports on the wire

A report leaves the device on two paths: unasked on the interrupt endpoint,
and in answer to a GET_REPORT on the control endpoint.  Both carry the report
of the moment, and its fields, read as the report descriptor declares them,
are the application's variables (`report_mirrors_descriptor`).

On the interrupt path a report is a single packet, shorter than the packet
size the host has been told, so the host finds the boundaries between reports.
What it does not find is the length it expects: every report ends two bytes
before the declared one does (`transfers_are_declared_reports_iff`).
-/

namespace AvrJoystick

/-- A report handed to the interrupt endpoint. -/
def Observation.report : Observation → Option (List UInt8)
  | .inReport report => some report
  | _ => none

/-- A packet released on the interrupt endpoint. -/
def Observation.packet : Observation → Option (List UInt8)
  | .inPacket packet => some packet
  | _ => none

/-- The bytes of a packet released on the control endpoint. -/
def Observation.controlBytes : Observation → List UInt8
  | .controlPacket packet => packet
  | _ => []

/-- The report an event puts on the interrupt pipe, if it does. -/
def Device.sentReport (d : Device) : Event → Option (List UInt8)
  | .usbTask t => if d.Sends t then some d.currentReport.toBytes else none
  | _ => none

/-- What is sent is the report of the moment. -/
theorem Device.eq_currentReport_of_sentReport {d : Device} {e : Event}
    {report : List UInt8} (h : d.sentReport e = some report) :
    report = d.currentReport.toBytes := by
  cases e with
  | usbTask t =>
      simp only [Device.sentReport] at h
      split at h
      · exact (Option.some.inj h).symm
      · cases h
  | _ => cases h

/-- **Every report on the interrupt pipe is one packet there**, and only a
sending call of the task puts one there. -/
theorem Device.step_reports {d : Device} (hbank : d.BankEmpty) (e : Event) :
    (d.step e).2.filterMap Observation.report = (d.sentReport e).toList ∧
      (d.step e).2.filterMap Observation.packet = (d.sentReport e).toList := by
  cases e with
  | controlRequest t =>
      obtain ⟨packets, hpackets⟩ :=
        hidDeviceProcessControlRequest_observations d t
      show (hidDeviceProcessControlRequest d t).2.filterMap _ = [] ∧
        (hidDeviceProcessControlRequest d t).2.filterMap _ = []
      rw [hpackets]
      constructor
      · split <;> simp [Observation.report]
      · split <;> simp [Observation.packet]
  | usbTask t =>
      show (hidDeviceUSBTask d t).2.filterMap _ = _ ∧
        (hidDeviceUSBTask d t).2.filterMap _ = _
      by_cases hsends : d.Sends t
      · have hsent : d.sentReport (.usbTask t) =
            some d.currentReport.toBytes := if_pos hsends
        rw [hidDeviceUSBTask_of_sends hsends hbank, hsent]
        exact ⟨rfl, rfl⟩
      · have hsent : d.sentReport (.usbTask t) = none := if_neg hsends
        rw [hidDeviceUSBTask_silent hsends, hsent]
        exact ⟨rfl, rfl⟩
  | endpointHalt halted => cases halted <;> exact ⟨rfl, rfl⟩
  | _ => exact ⟨rfl, rfl⟩

/-- A completed GET_REPORT without a report ID brings the host the report of
the moment, packet by packet. -/
theorem getReport_controlBytes (d : Device) {t : ControlTransfer}
    (hget : t.accepted = some .getReport) (hid : t.reportID = 0)
    (hlength : sizeofUSBJoystickReportData ≤ t.header.wLength.toNat) :
    (d.step (.controlRequest t)).2.flatMap Observation.controlBytes =
      d.currentReport.toBytes.take
        (fixedControlEndpointSize * readyPolls t.polls) := by
  have hsize := d.currentReport.toBytes_length
  have hne : d.currentReport.toBytes ≠ [] := by
    intro hnil
    rw [hnil] at hsize
    cases hsize
  rw [Device.step_getReport hget, if_pos hid, List.flatMap_cons,
    List.flatMap_map]
  show [] ++ List.flatMap id _ = _
  rw [List.nil_append, List.flatMap_id,
    endpointWriteControlStreamLE_packets (by rwa [hsize]) hne]

/-- The fields of the report of the moment. -/
theorem Device.currentReport_fields (d : Device) :
    axisFields.map (·.value d.currentReport.toBytes) =
        [d.mask.toInt8.toInt, d.saved.toInt8.toInt, 0, 0, 0, 0] ∧
      buttonFields.map (·.value d.currentReport.toBytes) =
        (List.range 32).map
          (fun i => ((d.ports.pinB.toNat.testBit i).toNat : Int)) := by
  constructor
  · rw [axisFields_values]
    rfl
  · rw [buttonFields_values]
    rfl

theorem run_bankEmpty (ports : Ports) (es : List Event) :
    (Runs.run Device.next (mainBeforeLoop ports) es).BankEmpty :=
  Runs.run_invariant Device.BankEmpty
    (fun _ e hd => Device.step_bankEmpty hd e)
    (mainBeforeLoop_bankEmpty ports) es

/-- **The report structure mirrors the report descriptor, on both paths.**
For every value of the structure, the declared axis fields read its axes in
order, as signed bytes, and the declared one-bit fields read the bits of its
button word.  In every reachable state the interrupt path and a GET_REPORT for
at least thirty-two bytes, of which the host collects at least four packets,
carry the same thirty-two bytes, and their fields are `mask`, `saved`, zero
for the other axes, and the pins of port B. -/
theorem report_mirrors_descriptor :
    (∀ r : USBJoystickReportData,
      axisFields.map (·.value r.toBytes) = r.axes.map Int8.toInt ∧
        buttonFields.map (·.value r.toBytes) =
          (List.range 32).map
            (fun i => ((r.button.toNat.testBit i).toNat : Int))) ∧
    ∀ (ports : Ports) (es : List Event) (d : Device),
      d = Runs.run Device.next (mainBeforeLoop ports) es →
      ∃ report : List UInt8, report.length = 32 ∧
        (∀ c : TaskCall, d.Sends c →
          (d.step (.usbTask c)).2 = [.inReport report, .inPacket report]) ∧
        (∀ t : ControlTransfer, t.accepted = some .getReport →
          t.reportID = 0 → 32 ≤ t.header.wLength.toNat →
          (d.step (.controlRequest t)).2.head? = some (.controlReport report) ∧
          (4 ≤ readyPolls t.polls →
            (d.step (.controlRequest t)).2.flatMap Observation.controlBytes =
              report)) ∧
        axisFields.map (·.value report) =
          [d.mask.toInt8.toInt, d.saved.toInt8.toInt, 0, 0, 0, 0] ∧
        buttonFields.map (·.value report) =
          (List.range 32).map
            (fun i => ((d.ports.pinB.toNat.testBit i).toNat : Int)) := by
  refine ⟨fun r => ⟨axisFields_values r, buttonFields_values r⟩, ?_⟩
  rintro ports es d rfl
  generalize hd : Runs.run Device.next (mainBeforeLoop ports) es = d
  have hbank : d.BankEmpty := hd ▸ run_bankEmpty ports es
  refine ⟨d.currentReport.toBytes, d.currentReport.toBytes_length, ?_, ?_,
    d.currentReport_fields⟩
  · intro c hsends
    exact congrArg Prod.snd (hidDeviceUSBTask_of_sends hsends hbank)
  · intro t hget hid hlength
    constructor
    · rw [Device.step_getReport hget]
      rfl
    · intro hready
      have henough : d.currentReport.toBytes.length ≤
          fixedControlEndpointSize * readyPolls t.polls := by
        simp only [USBJoystickReportData.toBytes_length,
          sizeofUSBJoystickReportData, fixedControlEndpointSize]
        omega
      rw [getReport_controlBytes d hget hid hlength,
        List.take_of_length_le henough]

/-- The device right after its first configuration. -/
def configuredDevice : Device :=
  Runs.run Device.next (mainBeforeLoop quietBoard)
    [.configurationChanged true, .stateChange .configured]

/-- A GET_REPORT for sixty-four bytes, of which the host collects four packets
and the empty one that ends them. -/
def wholeGetReport : ControlTransfer where
  header :=
    { bmRequestType := deviceToHostClassInterface, bRequest := 0x01
      wValue := 0x0100, wIndex := 0, wLength := 64 }
  polls := List.replicate 5 { inReady := true } ++ [{ outReceived := some [] }]
  stack := fun _ => 0

theorem report_mirrors_descriptor_configuredDevice :
    ∃ report : List UInt8,
      (configuredDevice.step (.usbTask ⟨1, 1, []⟩)).2 =
          [.inReport report, .inPacket report] ∧
        (configuredDevice.step (.controlRequest wholeGetReport)).2.flatMap
          Observation.controlBytes = report := by
  obtain ⟨report, _, htask, hget, _⟩ := report_mirrors_descriptor.2 quietBoard
    [.configurationChanged true, .stateChange .configured] configuredDevice rfl
  exact ⟨report, htask _ (by decide +kernel),
    (hget wholeGetReport (by decide +kernel) (by decide +kernel)
      (by decide +kernel)).2 (by decide +kernel)⟩

/-- How a host puts transfers together, having collected `sofar`: a transfer
ends with the packet that reaches the declared report length or is shorter
than the declared packet size. -/
def reassembleFrom (declared maxPacket : Nat) (sofar : List UInt8) :
    List (List UInt8) → List (List UInt8)
  | [] => []
  | packet :: packets =>
      if declared ≤ (sofar ++ packet).length ∨ packet.length < maxPacket then
        (sofar ++ packet) :: reassembleFrom declared maxPacket [] packets
      else
        reassembleFrom declared maxPacket (sofar ++ packet) packets

/-- Each short packet is a transfer of its own. -/
theorem reassembleFrom_short {declared maxPacket : Nat}
    {packets : List (List UInt8)}
    (hshort : ∀ packet ∈ packets, packet.length < maxPacket) :
    reassembleFrom declared maxPacket [] packets = packets := by
  induction packets with
  | nil => rfl
  | cons packet packets ih =>
      obtain ⟨hhead, htail⟩ := List.forall_mem_cons.mp hshort
      rw [reassembleFrom, if_pos (Or.inr hhead), List.nil_append, ih htail]

/-- The reports handed to the interrupt endpoint. -/
def reportsSent (log : List Observation) : List (List UInt8) :=
  log.filterMap Observation.report

/-- The transfers that a host which has read the descriptors sees. -/
def transfers (log : List Observation) : List (List UInt8) :=
  reassembleFrom declaredInputReportLength hidReportINEndpointSize []
    (log.filterMap Observation.packet)

/-- The reports sent along a run from `d`. -/
def Device.sentReports (d : Device) : List Event → List (List UInt8)
  | [] => []
  | e :: es => (d.sentReport e).toList ++ (d.next e).sentReports es

/-- What a run adds to the log: the reports sent, once as reports and once as
packets. -/
theorem run_log_reports {o : Observed} (hbank : o.device.BankEmpty)
    (es : List Event) :
    reportsSent (Runs.run Observed.step o es).log =
        reportsSent o.log ++ o.device.sentReports es ∧
      (Runs.run Observed.step o es).log.filterMap Observation.packet =
        o.log.filterMap Observation.packet ++ o.device.sentReports es := by
  induction es generalizing o with
  | nil => simp [Device.sentReports]
  | cons e es ih =>
      obtain ⟨hreports, hpackets⟩ := Device.step_reports hbank e
      obtain ⟨ihreports, ihpackets⟩ :=
        @ih (o.step e) (Device.step_bankEmpty hbank e)
      rw [Runs.run_cons, ihreports, ihpackets]
      constructor
      · simp [Observed.step, reportsSent, hreports, Device.sentReports,
          Device.next]
      · simp [Observed.step, hpackets, Device.sentReports, Device.next]

theorem Device.sentReports_length (d : Device) (es : List Event) :
    ∀ report ∈ d.sentReports es,
      report.length = sizeofUSBJoystickReportData := by
  induction es generalizing d with
  | nil => simp [Device.sentReports]
  | cons e es ih =>
      intro report hreport
      rcases List.mem_append.mp hreport with hhead | htail
      · rw [Device.eq_currentReport_of_sentReport (Option.mem_toList.mp hhead)]
        exact d.currentReport.toBytes_length
      · exact ih (d.next e) report htail

/-- The step does not send a report. -/
def Device.Quiet (d : Device) : Event → Prop
  | .usbTask t => ¬ d.Sends t
  | _ => True

theorem Device.sentReport_eq_none (d : Device) (e : Event) :
    d.sentReport e = none ↔ d.Quiet e := by
  cases e with
  | usbTask t => simp [Device.sentReport, Device.Quiet]
  | _ => simp [Device.sentReport, Device.Quiet]

theorem Device.sentReports_eq_nil (d : Device) (es : List Event) :
    d.sentReports es = [] ↔ Runs.Along Device.next Device.Quiet d es := by
  induction es generalizing d with
  | nil => simp [Device.sentReports, Runs.Along]
  | cons e es ih =>
      simp [Device.sentReports, Runs.Along, ih, Device.sentReport_eq_none]

/-- **The host finds every report, whole.**  In every run the transfers are
the reports sent, one for one and byte for byte. -/
theorem transfers_eq_reportsSent (ports : Ports) (es : List Event) :
    transfers (Runs.run Observed.step (started ports) es).log =
      reportsSent (Runs.run Observed.step (started ports) es).log := by
  obtain ⟨hreports, hpackets⟩ :=
    @run_log_reports (started ports) (mainBeforeLoop_bankEmpty ports) es
  have hshort : ∀ packet ∈ (started ports).device.sentReports es,
      packet.length < hidReportINEndpointSize := by
    intro packet hpacket
    rw [Device.sentReports_length _ es packet hpacket]
    decide
  rw [transfers, hreports, hpackets]
  exact reassembleFrom_short hshort

/-- **Whole declared reports reach the host only when nothing is sent.**  The
transfers the host reassembles are the reports sent and have the declared
length, exactly in the runs in which no call of the task sends a report. -/
theorem transfers_are_declared_reports_iff (ports : Ports) (es : List Event) :
    (transfers (Runs.run Observed.step (started ports) es).log =
        reportsSent (Runs.run Observed.step (started ports) es).log ∧
      ∀ transfer ∈ transfers (Runs.run Observed.step (started ports) es).log,
        transfer.length = declaredInputReportLength) ↔
      Runs.Along Device.next Device.Quiet (mainBeforeLoop ports) es := by
  have hsame := transfers_eq_reportsSent ports es
  have hreports : reportsSent (Runs.run Observed.step (started ports) es).log =
      (mainBeforeLoop ports).sentReports es :=
    (@run_log_reports (started ports) (mainBeforeLoop_bankEmpty ports) es).1
  rw [← Device.sentReports_eq_nil, hsame, hreports]
  constructor
  · rintro ⟨_, hlength⟩
    apply List.eq_nil_iff_forall_not_mem.mpr
    intro report hreport
    have hactual := Device.sentReports_length _ es report hreport
    have hdeclared := hlength report hreport
    rw [hactual, declaredInputReportLength_eq] at hdeclared
    cases hdeclared
  · intro hnil
    simp [hnil]

/-- The first report already is two bytes short. -/
theorem first_transfer_short :
    ¬ ∀ transfer ∈ transfers (Runs.run Observed.step (started quietBoard)
        [.configurationChanged true, .stateChange .configured,
          .usbTask ⟨1, 1, []⟩]).log,
      transfer.length = declaredInputReportLength := by
  decide +kernel

end AvrJoystick
