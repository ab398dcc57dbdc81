import AvrJoystick.ChangeSender
import AvrJoystick.DeviceSteps

/-!
# The interrupt pipe

The host learns of a changed input from the reports written to the interrupt
endpoint.  `HID_Device_USBTask` writes one when the report of the moment
differs from the comparison buffer or the idle period has elapsed.  So the
device is a sender of changes: the comparison buffer is what it remembers, the
elapsed idle period is a refresh that is due, and a configuration restarts the
session.

It is not alone in writing the comparison buffer.  Every GET_REPORT overwrites
it with a report that goes to the control pipe only, and the task then takes
that report for sent.  A configuration does not clear the buffer either; the
first report is sent because the idle period counts as elapsed, unless the
host cancels the idle reports before that.  `no_update_lost` shows that these
two are the only ways to lose an update.
-/

namespace AvrJoystick

open ChangeSender

/-- The latest report written to the interrupt endpoint since the last
configuration, updated by one observation. -/
def Observation.note : Option (List UInt8) → Observation → Option (List UInt8)
  | _, .configuration => none
  | _, .inReport report => some report
  | latest, _ => latest

/-- The latest report written to the interrupt endpoint since the last
configuration. -/
def latestReport (log : List Observation) : Option (List UInt8) :=
  log.foldl Observation.note none

/-- The device as a sender of changes. -/
def Observed.sender (o : Observed) : Sender (List UInt8) where
  remembered := o.device.prevReportINBuffer.bytes
  sent := latestReport o.log
  due := o.device.idlePeriodElapsed

/-- A SET_IDLE with rate zero, carried out. -/
def ControlTransfer.CancelsIdle (t : ControlTransfer) : Prop :=
  t.accepted = some .setIdle ∧ statusStageCleared false t.polls = true ∧
    (t.header.wValue &&& 0xFF00) >>> 6 = 0

instance (t : ControlTransfer) : Decidable t.CancelsIdle := by
  unfold ControlTransfer.CancelsIdle; infer_instance

/-- The idle period elapses, or nothing happens to the sender. -/
def Device.refreshOp (d : Device) : Op (List UInt8) :=
  if d.idlePeriodElapsed then .arm else .skip

/-- What an event does to the sender. -/
def Device.senderOp (d : Device) : Event → Op (List UInt8)
  | .usbTask t =>
      if d.ReachesSendDecision t then .offer d.currentReport.toBytes else .skip
  | .controlRequest t =>
      if t.accepted = some .getReport then .overwrite d.currentReport.toBytes
      else if t.CancelsIdle then .disarm
      else (d.next (.controlRequest t)).refreshOp
  | .configurationChanged _ => .restart
  | e => (d.next e).refreshOp

theorem Observed.sender_step (o : Observed) (e : Event) :
    (o.step e).sender =
      ⟨(o.device.step e).1.prevReportINBuffer.bytes,
        (o.device.step e).2.foldl Observation.note (latestReport o.log),
        (o.device.step e).1.idlePeriodElapsed⟩ := by
  simp [Observed.sender, Observed.step, latestReport]

/-- A step that leaves the comparison buffer alone, writes no report and does
not take back an elapsed idle period. -/
theorem Observed.sender_refresh {o : Observed} {e : Event}
    (hprev : (o.device.next e).prevReportINBuffer = o.device.prevReportINBuffer)
    (hlog : (o.device.step e).2.foldl Observation.note (latestReport o.log) =
      latestReport o.log)
    (hdue : o.device.idlePeriodElapsed = true →
      (o.device.next e).idlePeriodElapsed = true) :
    (o.step e).sender = o.sender.step (o.device.next e).refreshOp := by
  rw [Device.next] at hprev hdue ⊢
  rw [Observed.sender_step, hlog, hprev]
  by_cases hafter : (o.device.step e).1.idlePeriodElapsed = true
  · simp [Device.refreshOp, hafter, Observed.sender, Sender.step]
  · have hbefore : o.device.idlePeriodElapsed = false := by
      simpa using fun h => hafter (hdue h)
    have hafter' : (o.device.step e).1.idlePeriodElapsed = false := by
      simpa using hafter
    simp [Device.refreshOp, hafter', hbefore, Observed.sender, Sender.step]

/-- Packets on the control pipe are no reports on the interrupt pipe. -/
theorem foldl_note_controlPacket (latest : Option (List UInt8))
    (packets : List (List UInt8)) :
    (packets.map Observation.controlPacket).foldl Observation.note latest =
      latest := by
  induction packets with
  | nil => rfl
  | cons packet packets ih => exact ih

theorem Device.idlePeriodElapsed_iff {d : Device} :
    d.idlePeriodElapsed = true ↔
      d.hid.idleCount ≠ 0 ∧ d.hid.idleMSRemaining = 0 := by
  simp [Device.idlePeriodElapsed]

/-- Control requests write no report to the interrupt pipe. -/
theorem hidDeviceProcessControlRequest_silent (d : Device)
    (t : ControlTransfer) (latest : Option (List UInt8)) :
    (hidDeviceProcessControlRequest d t).2.foldl Observation.note latest =
      latest := by
  obtain ⟨packets, hpackets⟩ :=
    hidDeviceProcessControlRequest_observations d t
  rw [hpackets, List.foldl_append, foldl_note_controlPacket]
  split <;> rfl

/-- Only GET_REPORT writes the comparison buffer. -/
theorem hidDeviceProcessControlRequest_prevReportINBuffer
    {t : ControlTransfer} (h : t.accepted ≠ some .getReport) (d : Device) :
    (hidDeviceProcessControlRequest d t).1.prevReportINBuffer =
      d.prevReportINBuffer := by
  rcases hidDeviceProcessControlRequest_device d t with
    heq | ⟨hget, _⟩ | ⟨_, _, heq⟩ | ⟨_, _, heq⟩ | ⟨_, _, heq⟩
  · rw [heq]
  · exact absurd hget h
  · rw [heq]
  · rw [heq]
  · rw [heq]

/-- Only a SET_IDLE with rate zero takes back an elapsed idle period. -/
theorem hidDeviceProcessControlRequest_idlePeriodElapsed
    {t : ControlTransfer} (h : ¬ t.CancelsIdle) {d : Device}
    (hdue : d.idlePeriodElapsed = true) :
    (hidDeviceProcessControlRequest d t).1.idlePeriodElapsed = true := by
  obtain ⟨hcount, hremaining⟩ := Device.idlePeriodElapsed_iff.mp hdue
  rw [Device.idlePeriodElapsed_iff]
  rcases hidDeviceProcessControlRequest_device d t with
    heq | ⟨_, heq⟩ | ⟨_, _, heq⟩ | ⟨_, _, heq⟩ | ⟨hacc, hstatus, heq⟩
  · rw [heq]
    exact ⟨hcount, hremaining⟩
  · rw [heq]
    exact ⟨hcount, hremaining⟩
  · rw [heq]
    exact ⟨hcount, hremaining⟩
  · rw [heq]
    exact ⟨hcount, hremaining⟩
  · rw [heq]
    exact ⟨fun hzero => h ⟨hacc, hstatus, hzero⟩, hremaining⟩

theorem sender_step_controlRequest (o : Observed) (t : ControlTransfer) :
    (o.step (.controlRequest t)).sender =
      o.sender.step (o.device.senderOp (.controlRequest t)) := by
  have hsilent := hidDeviceProcessControlRequest_silent o.device t
    (latestReport o.log)
  by_cases hget : t.accepted = some .getReport
  · have hdevice : (o.device.step (.controlRequest t)).1 =
        { o.device with
          prevReportINBuffer := o.device.currentReport.toBuffer } := by
      rw [Device.step_getReport hget]
    rw [Observed.sender_step, hdevice, Device.senderOp, if_pos hget]
    exact congrArg (Sender.mk _ · _) hsilent
  by_cases hcancel : t.CancelsIdle
  · have hdevice : (o.device.step (.controlRequest t)).1 =
        { o.device with hid := { o.device.hid with idleCount := 0 } } := by
      rw [Device.step_setIdle hcancel.1 hcancel.2.1, hcancel.2.2]
    rw [Observed.sender_step, hdevice, Device.senderOp, if_neg hget,
      if_pos hcancel]
    exact congrArg (Sender.mk _ · _) hsilent
  · rw [Device.senderOp, if_neg hget, if_neg hcancel]
    exact Observed.sender_refresh
      (hidDeviceProcessControlRequest_prevReportINBuffer hget o.device) hsilent
      (hidDeviceProcessControlRequest_idlePeriodElapsed hcancel)

/-- A call of the task that reaches its decision offers the report of the
moment; any other call does nothing. -/
theorem sender_step_usbTask {o : Observed} (hbank : o.device.BankEmpty)
    (t : TaskCall) :
    (o.step (.usbTask t)).sender =
      o.sender.step (o.device.senderOp (.usbTask t)) := by
  rw [Observed.sender_step, Device.senderOp, Device.step]
  by_cases hreach : o.device.ReachesSendDecision t
  · rw [if_pos hreach]
    by_cases hsend : o.device.HasReportToSend
    · have hoffer : o.device.currentReport.toBytes ≠
          o.device.prevReportINBuffer.bytes ∨
            o.device.idlePeriodElapsed = true :=
        hsend.imp_left (fun hne heq => hne (ReportBuffer.ext heq))
      have hserved : (decide (o.device.hid.idleCount ≠ 0) &&
          decide (o.device.hid.idleCount = 0)) = false := by
        by_cases hzero : o.device.hid.idleCount = 0 <;> simp [hzero]
      have hstep : o.sender.step (.offer o.device.currentReport.toBytes) =
          ⟨o.device.currentReport.toBytes,
            some o.device.currentReport.toBytes, false⟩ := if_pos hoffer
      rw [hidDeviceUSBTask_of_sends ⟨hreach, hsend⟩ hbank, hstep, ← hserved]
      rfl
    · have hquiet : o.sender.step (.offer o.device.currentReport.toBytes) =
          o.sender :=
        if_neg (fun hoffer => hsend (hoffer.imp_left
          (fun hne heq => hne (congrArg ReportBuffer.bytes heq))))
      rw [hidDeviceUSBTask_of_quiet hreach hsend, hquiet]
      rfl
  · rw [if_neg hreach, hidDeviceUSBTask_of_not_reaches hreach]
    rfl

/-- **The device refines the sender of changes**, event by event. -/
theorem Observed.sender_simulates {o : Observed} (hbank : o.device.BankEmpty)
    (e : Event) :
    (o.step e).sender = o.sender.step (o.device.senderOp e) := by
  cases e with
  | usbTask t => exact sender_step_usbTask hbank t
  | controlRequest t => exact sender_step_controlRequest o t
  | configurationChanged configOk =>
      rw [Observed.sender_step]
      rfl
  | startOfFrame =>
      -- a tick can only bring the end of the idle period nearer
      obtain ⟨remaining, heq⟩ := hidDeviceMillisecondElapsed_eq o.device
      have hprev : (hidDeviceMillisecondElapsed o.device).prevReportINBuffer =
          o.device.prevReportINBuffer := by
        rw [heq]
      refine Observed.sender_refresh hprev rfl (fun hdue => ?_)
      have hremaining : o.device.hid.idleMSRemaining = 0 :=
        (Device.idlePeriodElapsed_iff.mp hdue).2
      show (hidDeviceMillisecondElapsed o.device).idlePeriodElapsed = true
      simpa [hidDeviceMillisecondElapsed, hremaining] using hdue
  | endpointHalt halted =>
      cases halted <;> exact Observed.sender_refresh rfl rfl id
  | connect => exact Observed.sender_refresh rfl rfl id
  | disconnect => exact Observed.sender_refresh rfl rfl id
  | stateChange state => exact Observed.sender_refresh rfl rfl id
  | busReset => exact Observed.sender_refresh rfl rfl id
  | inToken => exact Observed.sender_refresh rfl rfl id
  | pinB level => exact Observed.sender_refresh rfl rfl id

/-- The task, reaching its decision, offers the report of the moment. -/
theorem sender_offer {o : Observed} (hbank : o.device.BankEmpty) {t : TaskCall}
    (hreach : o.device.ReachesSendDecision t) :
    (o.step (.usbTask t)).sender =
      o.sender.step (.offer o.device.currentReport.toBytes) := by
  rw [Observed.sender_simulates hbank, Device.senderOp, if_pos hreach]

/-- The report says what the inputs are: the button word, and the X and Y
bytes. -/
def Carries (report : List UInt8) (pinB mask saved : UInt8) : Prop :=
  (report.drop 6).take 4 = BitStream.leBytes 4 pinB.toNat ∧
    report[0]? = some mask ∧ report[1]? = some saved

instance (report : List UInt8) (pinB mask saved : UInt8) :
    Decidable (Carries report pinB mask saved) := by
  unfold Carries; infer_instance

theorem Device.currentReport_carries (d : Device) :
    Carries d.currentReport.toBytes d.ports.pinB d.mask d.saved := by
  refine ⟨?_, d.currentReport_getElem?⟩
  simp [Device.currentReport, USBJoystickReportData.toBytes,
    USBJoystickReportData.axes]

/-- What the host is promised of a step: if it is a call of the task that
reaches its send decision, then afterwards the latest report written since the
last configuration carries the inputs as they are. -/
def Observed.DeliversUpdate (o : Observed) : Event → Prop
  | .usbTask t =>
      o.device.ReachesSendDecision t →
        ∃ report, latestReport (o.step (.usbTask t)).log = some report ∧
          Carries report o.device.ports.pinB
            (o.step (.usbTask t)).device.mask
            (o.step (.usbTask t)).device.saved
  | _ => True

/-- What is asked of the host at a step.  A GET_REPORT finds the comparison
buffer up to date or the idle period elapsed; a SET_IDLE with rate zero finds
that the report in the comparison buffer has been written to the endpoint, or
that there has not been a report at all. -/
def Observed.HidesNothing (o : Observed) : Event → Prop
  | .controlRequest t =>
      (t.accepted = some .getReport →
        o.device.currentReport.toBuffer = o.device.prevReportINBuffer ∨
          o.device.idlePeriodElapsed = true) ∧
      (t.CancelsIdle →
        latestReport o.log = some o.device.prevReportINBuffer.bytes ∨
          o.device.prevReportINBuffer = .zeroed)
  | _ => True

instance (o : Observed) : DecidablePred o.HidesNothing
  | .controlRequest _ => by unfold Observed.HidesNothing; infer_instance
  | .connect | .disconnect | .stateChange _ | .busReset | .endpointHalt _
  | .configurationChanged _ | .startOfFrame | .usbTask _ | .inToken
  | .pinB _ => .isTrue trivial

/-- The X byte keeps every report from being all zero. -/
def Reportable (report : List UInt8) : Prop := report ≠ ReportBuffer.zeroed.bytes

theorem Device.currentReport_reportable {d : Device} (hmask : d.mask = 0xFF) :
    Reportable d.currentReport.toBytes := by
  intro hzero
  have hx := d.currentReport_carries.2.1
  rw [hzero, hmask] at hx
  exact absurd hx (by decide)

/-- The invariant of the pipe. -/
structure Observed.PipeInvariant (o : Observed) : Prop where
  bankEmpty : o.device.BankEmpty
  mask : o.device.mask = 0xFF
  coherent : o.sender.Coherent Reportable

theorem Observed.HidesNothing.safe {o : Observed} {e : Event}
    (hmask : o.device.mask = 0xFF) (h : o.HidesNothing e) :
    (o.device.senderOp e).Safe Reportable o.sender := by
  have hrefresh : ∀ d : Device, d.refreshOp.Safe Reportable o.sender := by
    intro d
    unfold Device.refreshOp
    split <;> trivial
  cases e with
  | usbTask t =>
      by_cases hreach : o.device.ReachesSendDecision t
      · rw [Device.senderOp, if_pos hreach]
        exact Device.currentReport_reportable hmask
      · rw [Device.senderOp, if_neg hreach]
        trivial
  | controlRequest t =>
      by_cases hget : t.accepted = some .getReport
      · rw [Device.senderOp, if_pos hget]
        exact (h.1 hget).imp_left (congrArg ReportBuffer.bytes)
      by_cases hcancel : t.CancelsIdle
      · rw [Device.senderOp, if_neg hget, if_pos hcancel]
        exact (h.2 hcancel).imp_right
          (fun hzero hne => hne (congrArg ReportBuffer.bytes hzero))
      · rw [Device.senderOp, if_neg hget, if_neg hcancel]
        exact hrefresh _
  | configurationChanged configOk => trivial
  | _ => exact hrefresh _

theorem Observed.PipeInvariant.step {o : Observed} (h : o.PipeInvariant)
    {e : Event} (he : o.HidesNothing e) : (o.step e).PipeInvariant where
  bankEmpty := Device.step_bankEmpty h.bankEmpty e
  mask := (o.device.step_mask e).trans h.mask
  coherent := by
    rw [Observed.sender_simulates h.bankEmpty]
    exact h.coherent.step (he.safe h.mask)

theorem Observed.PipeInvariant.deliversUpdate {o : Observed}
    (h : o.PipeInvariant) (e : Event) : o.DeliversUpdate e := by
  cases e with
  | usbTask t =>
      intro hreach
      have hsent : (o.step (.usbTask t)).sender.sent =
          some o.device.currentReport.toBytes := by
        rw [sender_offer h.bankEmpty hreach]
        exact h.coherent.offer_sent (Device.currentReport_reportable h.mask)
      obtain ⟨_, hsaved, hmask⟩ :=
        hidDeviceUSBTask_ports_saved_mask o.device t
      refine ⟨_, hsent, ?_⟩
      show Carries _ _ (hidDeviceUSBTask o.device t).1.mask
        (hidDeviceUSBTask o.device t).1.saved
      rw [hsaved, hmask]
      exact o.device.currentReport_carries
  | _ => trivial

theorem started_pipeInvariant (ports : Ports) :
    (started ports).PipeInvariant where
  bankEmpty := mainBeforeLoop_bankEmpty ports
  mask := rfl
  coherent := Or.inr (Or.inr (fun h => h rfl))

/-- **No update is lost, as long as the host hides none.**  In every run from
power-up, in whatever order the steps come: if each GET_REPORT finds the
comparison buffer up to date or an idle report due, and the idle reports are
not cancelled before the first one after a configuration, then every call of
the task that reaches its send decision leaves the current inputs as the
latest report on the interrupt pipe. -/
theorem no_update_lost (ports : Ports) (es : List Event)
    (hes : Runs.Along Observed.step Observed.HidesNothing (started ports) es) :
    Runs.Along Observed.step Observed.DeliversUpdate (started ports) es :=
  Runs.along_of_invariant Observed.PipeInvariant
    (fun _ _ hinv hguard => hinv.step hguard)
    (fun _ e hinv _ => hinv.deliversUpdate e) (started_pipeInvariant ports) hes

/-- A GET_REPORT that finds a change not yet sent, with no idle report due,
hides it: the next decision of the task leaves the old report standing. -/
theorem getReport_hides_update {o : Observed} (hbank : o.device.BankEmpty)
    {t : ControlTransfer} (hget : t.accepted = some .getReport)
    (hsent : latestReport o.log = some o.device.prevReportINBuffer.bytes)
    (hhides : ¬ o.HidesNothing (.controlRequest t)) {c : TaskCall}
    (hreach : (o.step (.controlRequest t)).device.ReachesSendDecision c) :
    latestReport ((o.step (.controlRequest t)).step (.usbTask c)).log ≠
      some o.device.currentReport.toBytes := by
  have hcancel : ¬ t.CancelsIdle := by
    simp [ControlTransfer.CancelsIdle, hget]
  have hstale : o.device.currentReport.toBuffer ≠ o.device.prevReportINBuffer ∧
      o.device.idlePeriodElapsed = false := by
    simpa [Observed.HidesNothing, hget, hcancel] using hhides
  have hdevice : (o.step (.controlRequest t)).device =
      { o.device with
        prevReportINBuffer := o.device.currentReport.toBuffer } :=
    congrArg Prod.fst (Device.step_getReport hget o.device)
  have hoffer := sender_offer (Device.step_bankEmpty hbank _) hreach
  rw [hdevice, Observed.sender_simulates hbank, Device.senderOp,
    if_pos hget] at hoffer
  have hlost := Sender.overwrite_hides (s := o.sender) hsent
    (fun heq => hstale.1 (ReportBuffer.ext heq)) hstale.2
  exact fun hlatest => hlost ((congrArg Sender.sent hoffer).symm.trans hlatest)

/-- Cancelling the idle reports hides the report in the comparison buffer if
it has not been written since the last configuration. -/
theorem setIdle_hides_update {o : Observed} (hbank : o.device.BankEmpty)
    {t : ControlTransfer} (hcancel : t.CancelsIdle)
    (hsame : o.device.currentReport.toBuffer = o.device.prevReportINBuffer)
    (hsent : latestReport o.log ≠ some o.device.prevReportINBuffer.bytes)
    {c : TaskCall}
    (hreach : (o.step (.controlRequest t)).device.ReachesSendDecision c) :
    latestReport ((o.step (.controlRequest t)).step (.usbTask c)).log ≠
      some o.device.currentReport.toBytes := by
  have hget : t.accepted ≠ some .getReport := by
    rw [hcancel.1]
    decide
  have hcurrent : (o.step (.controlRequest t)).device.currentReport.toBytes =
      o.device.prevReportINBuffer.bytes := by
    rw [← congrArg ReportBuffer.bytes hsame, Observed.step,
      Device.step_setIdle hcancel.1 hcancel.2.1]
    rfl
  have hoffer := sender_offer (Device.step_bankEmpty hbank _) hreach
  rw [hcurrent, Observed.sender_simulates hbank, Device.senderOp,
    if_neg hget, if_pos hcancel] at hoffer
  have hlost := Sender.disarm_hides (s := o.sender) hsent
  rw [← USBJoystickReportData.toBuffer_bytes, hsame]
  exact fun hlatest => hlost ((congrArg Sender.sent hoffer).symm.trans hlatest)

/-- A GET_REPORT for the feature report, as the host application makes it on
start-up; the host collects the four packets of the answer and the empty one
that ends them. -/
def getFeature : ControlTransfer where
  header :=
    { bmRequestType := deviceToHostClassInterface, bRequest := 0x01
      wValue := 0x0300, wIndex := 0, wLength := 126 }
  polls := List.replicate 5 { inReady := true } ++ [{ outReceived := some [] }]
  stack := fun _ => 0

/-- The device is configured and sends its first report, which the host
collects. -/
def firstReport : List Event :=
  [.configurationChanged true, .stateChange .configured, .usbTask ⟨1, 1, []⟩,
    .inToken]

/-- A button is pressed, and a GET_REPORT sees it before the task does. -/
def buttonThenGetFeature : List Event :=
  firstReport ++ [.pinB 0xFE, .controlRequest getFeature]

/-- The press of the button never reaches the interrupt pipe. -/
theorem buttonThenGetFeature_loses_update :
    ¬ Runs.Along Observed.step Observed.DeliversUpdate (started quietBoard)
      (buttonThenGetFeature ++ [.usbTask ⟨2, 2, []⟩]) := by
  intro hall
  have hlast := (Runs.along_append.mp hall).2.1
  obtain ⟨report, hlatest, hcarries, _⟩ := hlast (by decide +kernel)
  have hold : latestReport ((Runs.run Observed.step (started quietBoard)
      buttonThenGetFeature).step (.usbTask ⟨2, 2, []⟩)).log =
        some (0xFF :: 0 :: 0 :: 0 :: 0 :: 0 :: 0xFF :: List.replicate 25 0) := by
    decide +kernel
  rw [hold] at hlatest
  cases hlatest
  exact absurd hcarries (by decide +kernel)

/-- The same requests in a harmless order: the task sends the change, then the
host reads it again. -/
theorem no_update_lost_task_first :
    Runs.Along Observed.step Observed.HidesNothing (started quietBoard)
        (firstReport ++ [.pinB 0xFE, .usbTask ⟨2, 2, []⟩,
          .controlRequest getFeature, .usbTask ⟨3, 3, []⟩]) ∧
      Runs.Along Observed.step Observed.DeliversUpdate (started quietBoard)
        (firstReport ++ [.pinB 0xFE, .usbTask ⟨2, 2, []⟩,
          .controlRequest getFeature, .usbTask ⟨3, 3, []⟩]) :=
  ⟨by decide +kernel, no_update_lost quietBoard _ (by decide +kernel)⟩

end AvrJoystick
