import AvrJoystick.ControlStreams
import AvrJoystick.ReportTask

/-!
# Class requests take effect at one moment

`HID_Device_ProcessControlRequest` is one step of the device's step system, with
the transfer given as the polls of the control endpoint.  In the firmware the
call waits for the host again and again, and meanwhile frames start, pins change
and the bus is connected, disconnected, suspended or resumed.

As for the report task, there is a moment at which the call can be taken to have
happened, this time without any reordering of what happens around it.  A request
that asks for data takes effect when the reply is made, and the packets that go
out are those of the step (`get_request_is_one_step`).  A request that brings data
takes effect when the variable is set, and the data stage of the step is made of
the packets that came in, in their order (`set_request_is_one_step`).
-/

namespace AvrJoystick

open Interleave Relation Streams

/-- A packet released on the control endpoint. -/
def Observation.controlData : Observation → Option (List UInt8)
  | .controlPacket packet => some packet
  | _ => none

/-- The packets of a list of releases. -/
theorem filterMap_controlPackets (packets : List (List UInt8)) :
    (packets.map Observation.controlPacket).filterMap Observation.controlData = packets := by
  rw [List.filterMap_map]
  exact List.filterMap_some

/-- The ID in front of a report, if it has one. -/
def leadingID (header : USBRequestHeader) : List UInt8 :=
  if header.wValue.toUInt8 = 0 then [] else [header.wValue.toUInt8]

/-- What a request asks for. -/
def Device.reply (d : Device) (header : USBRequestHeader) : HIDClassRequest → List UInt8
  | .getReport => leadingID header ++ d.currentReport.toBytes
  | .getProtocol => [d.hid.usingReportProtocol.toUInt8]
  | .getIdle => [(d.hid.idleCount >>> 2).toUInt8]
  | .setReport | .setProtocol | .setIdle => []

section Requests

variable {header : USBRequestHeader} {r : HIDClassRequest}

/-- The request that the class driver finds in a header is the one the step
system accepts. -/
theorem accepted_eq_classRequestOf {t : ControlTransfer} (h : t.setupReceived = true) :
    t.accepted = Firmware.classRequestOf t.header := by
  unfold ControlTransfer.accepted Firmware.classRequestOf
  rw [if_neg (by rw [h]; decide)]

/-- It carries the type its number calls for. -/
theorem classRequestOf_requestType (h : Firmware.classRequestOf header = some r) :
    header.bmRequestType = r.requestType := by
  have haccepted : ControlTransfer.accepted ⟨header, true, [], fun _ => 0⟩ = some r := h
  exact (ControlTransfer.accepted_eq_some.mp haccepted).2.2.2

/-- A request that brings data gets no data back. -/
theorem set_request_silent (hset : header.bmRequestType = hostToDeviceClassInterface)
    (polls : List EndpointPoll) (stack : Nat → UInt8) (d : Device) :
    (hidDeviceProcessControlRequest d ⟨header, true, polls, stack⟩).2 = [] := by
  rw [hidDeviceProcessControlRequest, accepted_eq_classRequestOf rfl]
  cases hrequest : Firmware.classRequestOf header with
  | none => rfl
  | some r =>
      have htype : hostToDeviceClassInterface = r.requestType :=
        hset.symm.trans (classRequestOf_requestType hrequest)
      cases r with
      | setReport | setProtocol | setIdle => rfl
      | getReport | getProtocol | getIdle => exact absurd htype (by decide)

end Requests

/-- The application gets a report. -/
def Clocked.received (c : Clocked) (r : ReceivedReport) : Clocked :=
  { c with device := callbackHIDDeviceProcessHIDReport c.device r }

/-- A setting of the class driver is changed. -/
def Clocked.setHID (c : Clocked) (f : HIDDeviceState → HIDDeviceState) : Clocked :=
  { c with device := { c.device with hid := f c.device.hid } }

/-- The request as one step. -/
def Clocked.processed (c : Clocked) (t : ControlTransfer) : Clocked :=
  { c with device := (hidDeviceProcessControlRequest c.device t).1 }

namespace Firmware

/-- With the control endpoint selected and nothing sent on the report endpoint since
`w`, a moment has passed at which `P` held.  What has been done since then could
have been done at that moment, by `f`. -/
structure Serving (w : TaskView) (P : Clocked → Prop) (f : Clocked → Clocked)
    (v : TaskView) : Prop where
  uenum : v.uenum = endpointControlEP
  sent : v.sent = w.sent
  now : ∃ early late, v.happened = w.happened ++ (early ++ late) ∧
    P (surroundings.run w.now early) ∧
    v.now = surroundings.run (f (surroundings.run w.now early)) late

section Serving

variable {w v : TaskView} {P P' : Clocked → Prop} {f f' : Clocked → Clocked}

instance : Stable tasking (Serving w P f) where
  stable v v' hv hmove := by
    obtain ⟨early, late, hhappened, hP, hnow⟩ := hv.now
    obtain ⟨l, hl, hnow'⟩ := hmove.now
    refine ⟨hmove.uenum.trans hv.uenum, hmove.sent.trans hv.sent, early, late ++ l, ?_, hP, ?_⟩
    · rw [hl, hhappened]
      simp only [List.append_assoc]
    · rw [hnow', hnow, System.run_append]

/-- As long as nothing has been done, the device is where the surroundings have taken
it. -/
theorem Serving.untouched (hv : Serving w P id v) :
    ∃ l, v.happened = w.happened ++ (l ++ []) ∧ v.now = surroundings.run w.now l := by
  obtain ⟨early, late, hhappened, _, hnow⟩ := hv.now
  refine ⟨early ++ late, by rw [List.append_nil, hhappened], ?_⟩
  rw [System.run_append]
  exact hnow

/-- Nothing has been done so far: this is the moment. -/
theorem Serving.moment (hv : Serving w P id v) (hP : P' v.now) : Serving w P' id v := by
  obtain ⟨l, hhappened, hrun⟩ := hv.untouched
  exact ⟨hv.uenum, hv.sent, l, [], hhappened, hrun ▸ hP, hrun⟩

/-- Something is done just now. -/
theorem Serving.actNow (hv : Serving w P id v) (g : Clocked → Clocked) :
    Serving w (fun _ => True) g { v with now := g v.now } := by
  obtain ⟨l, hhappened, hrun⟩ := hv.untouched
  exact ⟨hv.uenum, hv.sent, l, [], hhappened, trivial, congrArg g hrun⟩

/-- Something is done that could have been done before. -/
theorem Serving.act (hv : Serving w P f v) (g : Clocked → Clocked)
    (hg : ∀ o c, g (Clocked.outside c o) = (g c).outside o) :
    Serving w P (fun c => g (f c)) { v with now := g v.now } := by
  obtain ⟨early, late, hhappened, hP, hnow⟩ := hv.now
  refine ⟨hv.uenum, hv.sent, early, late, hhappened, hP, ?_⟩
  show g v.now = _
  rw [hnow]
  exact System.run_act g (fun o _ c => hg o c) _

/-- What has been done is seen in another way. -/
theorem Serving.mono (hv : Serving w P f v) (h : ∀ c, P c → P' c ∧ f' c = f c) :
    Serving w P' f' v := by
  obtain ⟨early, late, hhappened, hP, hnow⟩ := hv.now
  obtain ⟨hP', hf⟩ := h _ hP
  exact ⟨hv.uenum, hv.sent, early, late, hhappened, hP', by rw [hf, hnow]⟩

/-- The report task does not depend on the control endpoint. -/
theorem taskView_control {s : Firmware} (huenum : s.uenum = endpointControlEP)
    (f : EndpointRegs → EndpointRegs) (packets : List (List UInt8)) :
    taskView { s.setEndpoint s.uenum f with
      released := s.released ++ packets.map fun p => (s.uenum, p) } = s.taskView := by
  have hregs : (s.setEndpoint endpointControlEP f).endpoints reportEP = s.endpoints reportEP :=
    setEndpoint_ne s f (by decide)
  have hother : ∀ p ∈ packets.map fun p => (endpointControlEP, p),
      ¬ (p.1 == reportEP) = true := by
    intro p hp
    obtain ⟨packet, _, rfl⟩ := List.mem_map.mp hp
    exact of_decide_eq_false rfl
  rw [huenum]
  simp only [taskView, clocked, device, reportPackets, hregs, List.filter_append,
    List.filter_eq_nil_iff.mpr hother, List.append_nil]
  simp only [setEndpoint, huenum]
  rfl

instance : Allows tasking (Serving w P f) Unchanged where
  allows s s' hs h := by
    obtain rfl : s' = s := h
    exact ⟨trivial, hs⟩

instance : Allows tasking (Serving w P f) Access where
  allows s s' hs h := by
    obtain ⟨g, packets, rfl, _⟩ := h
    have hsame := taskView_control hs.uenum g packets
    exact ⟨trivial, show Serving w P f (taskView _) from hsame ▸ hs⟩

instance : Allows tasking (Serving w P f) (Writes .control) where
  allows s s' hs h := by
    obtain ⟨data, rfl⟩ := h
    have hsame := taskView_control hs.uenum (fun r => { r with bank := r.bank ++ [data] }) []
    rw [List.map_nil, List.append_nil] at hsame
    exact ⟨trivial, show Serving w P f (taskView _) from hsame.symm ▸ hs⟩

instance : Allows tasking (Serving w P f) (Selects endpointControlEP) where
  allows s s' hs h := by
    obtain rfl : s' = _ := h
    exact ⟨trivial, { hs with uenum := rfl }⟩

end Serving

/-- Since `w` the packets have been sent, and after an abort possibly a garbled one,
and the transfer has ended with `error`. -/
structure Transferred (w : StreamView) (patient : Prop) (packets garbled : List (List UInt8))
    (error : ControlStreamError) (v : StreamView) : Prop where
  uenum : v.uenum = endpointControlEP
  request : v.request = w.request
  sent : v.sent = w.sent ++ packets ++ garbled
  single : garbled.length ≤ 1
  aborted : garbled ≠ [] ∨ error = .hostAborted → v.setup = true
  calm : patient → garbled = []

/-- Nothing has been sent since `w`, and unless the host has aborted the request the
bank is as given. -/
structure Answering (w : StreamView) (patient : Prop) (bank : List UInt8) (v : StreamView) :
    Prop where
  uenum : v.uenum = endpointControlEP
  request : v.request = w.request
  sent : v.sent = w.sent
  bank : v.setup = false → v.bank = bank
  calm : patient → v.setup = false

section Transfer

variable {w : StreamView} {patient : Prop} {packets garbled : List (List UInt8)}
  {error : ControlStreamError} {bank : List UInt8}

instance : Stable (writing w patient) (Transferred w patient packets garbled error) where
  stable _ _ hv h :=
    { hv with
      uenum := h.1.uenum.trans hv.uenum
      request := h.1.request.trans hv.request
      sent := h.1.sent.trans hv.sent
      aborted := fun habort => h.1.setup (hv.aborted habort) }

instance : Stable (writing w patient) (Answering w patient bank) where
  stable v v' hv h := by
    obtain ⟨hacts, hwaits⟩ := h
    refine ⟨hacts.uenum.trans hv.uenum, hacts.request.trans hv.request, hacts.sent.trans hv.sent,
      fun hsetup => ?_, fun hpatient => (hwaits hpatient).setup.trans (hv.calm hpatient)⟩
    have hbefore : v.setup = false :=
      Bool.eq_false_iff.mpr fun hup => Bool.eq_false_iff.mp hsetup (hacts.setup hup)
    exact (hacts.bank hsetup).trans (hv.bank hbefore)

/-- The SETUP packet is acknowledged. -/
theorem clearSETUP_answering :
    endpointClearSETUP.Leads (writing w patient) (Asked w patient) (Answering w patient []) := by
  refine Prog.Leads.of_modify ?_
  intro s hs
  refine ⟨trivial, ?_⟩
  show Answering w patient [] (streamView _)
  rw [clearSETUP_view hs.uenum]
  exact ⟨hs.uenum, hs.request, hs.sent, fun _ => rfl, fun _ => rfl⟩

/-- A byte is written to the bank. -/
theorem write8_answering (b : UInt8) :
    (endpointWrite8 .control b).Leads (writing w patient) (Answering w patient bank)
      (Answering w patient (bank ++ [b])) := by
  refine Prog.Leads.of_modify ?_
  intro s hs
  refine ⟨trivial, ?_⟩
  have huenum : s.uenum = endpointControlEP := hs.uenum
  have hview : streamView
      { s.setEndpoint s.uenum fun r => { r with bank := r.bank ++ [b] } with
        written := s.written ++ [⟨.control, s.uenum, b⟩] } =
      { s.streamView with bank := s.streamView.bank ++ [b] } := by
    simp only [streamView, setEndpoint, huenum, if_true]
    rfl
  show Answering w patient (bank ++ [b]) (streamView _)
  rw [hview]
  exact { hs with bank := fun hsetup => congrArg (· ++ [b]) (hs.bank hsetup) }

/-- The reply is sent, unless the host has aborted the request. -/
theorem clearIN_answering :
    endpointClearIN.Leads (writing w patient) (Answering w patient bank)
      (fun v => ∃ packets garbled, Transferred w patient packets garbled .noError v ∧
        (packets = [bank] ∨ packets = [] ∧ garbled ≠ [])) := by
  intro v hv s hs
  have hstart : Answering w patient bank s.streamView := Stable.star hs hv
  refine ⟨trivial, ?_⟩
  intro v' hv'
  have hview := WriteCall.clearIN_view hstart.uenum
  cases hsetup : s.streamView.setup with
  | true =>
      -- the bank may hold the host's new SETUP packet
      refine ⟨[], [s.streamView.bank], Stable.star hv' ?_, Or.inr ⟨rfl, List.cons_ne_nil _ _⟩⟩
      show Transferred w patient _ _ _ (streamView _)
      rw [hview]
      exact
        { uenum := hstart.uenum
          request := hstart.request
          sent := by rw [List.append_nil]; exact congrArg (· ++ [_]) hstart.sent
          single := Nat.le_refl 1
          aborted := fun _ => hsetup
          calm := fun hpatient => Bool.noConfusion (hsetup.symm.trans (hstart.calm hpatient)) }
  | false =>
      refine ⟨[bank], [], Stable.star hv' ?_, Or.inl rfl⟩
      show Transferred w patient _ _ _ (streamView _)
      rw [hview, hstart.bank hsetup]
      exact
        { uenum := hstart.uenum
          request := hstart.request
          sent := by rw [List.append_nil]; exact congrArg (· ++ [_]) hstart.sent
          single := Nat.zero_le 1
          aborted := fun habort => by
            rcases habort with hne | herror
            · exact absurd rfl hne
            · cases herror
          calm := fun _ => rfl }

/-- Acknowledging the status stage changes nothing of this. -/
theorem clearOUT_transferred :
    endpointClearOUT.Leads (writing w patient) (Transferred w patient packets garbled error)
      (Transferred w patient packets garbled error) := by
  refine Prog.Leads.of_modify ?_
  intro s hs
  refine ⟨trivial, ?_⟩
  show Transferred w patient packets garbled error (streamView _)
  rw [clearOUT_view hs.uenum]
  exact { hs with }

instance : Allows (writing w patient) (Transferred w patient packets garbled error)
    Unchanged where
  allows s s' hs h := by
    obtain rfl : s' = s := h
    exact ⟨trivial, hs⟩

instance : Allows (writing w patient) (Answering w patient bank) Unchanged where
  allows s s' hs h := by
    obtain rfl : s' = s := h
    exact ⟨trivial, hs⟩

/-- The status stage of a request for data sends nothing. -/
theorem clearStatusStage_transferred
    (hdir : w.request.bmRequestType &&& reqDirDeviceToHost ≠ 0) :
    endpointClearStatusStage.Leads (writing w patient)
      (Transferred w patient packets garbled error)
      (Transferred w patient packets garbled error) := by
  intro v hv
  refine streaming_read hv ?_
  intro s hs
  have hrequest : s.usbControlRequest = w.request := hs.request
  rw [hrequest, if_pos hdir]
  refine Prog.wp_bind (Prog.wp_mono ?_ (Keeps.keeps _ hs))
  intro there v' hv'
  cases there with
  | true => exact clearOUT_transferred v' hv'
  | false => exact Prog.wp_pure hv' fun _ h => h

end Transfer

/-- The step for these packets sends them, and all that a patient host wants. -/
structure Answers (header : USBRequestHeader) (patient : Prop) (packets : List (List UInt8))
    (error : ControlStreamError) (c : Clocked) : Prop where
  sends : (AvrJoystick.hidDeviceProcessControlRequest c.device
    ⟨header, true, writePolls packets error, fun _ => 0⟩).2.filterMap Observation.controlData =
      packets
  complete : patient → ∀ r, classRequestOf header = some r →
    (c.device.reply header r).take header.wLength.toNat <+: packets.flatten

/-- The call amounts to one step, which has released the packets of the reply. -/
def Replied (w : StreamView × TaskView) (patient : Prop) (v : StreamView × TaskView) : Prop :=
  ∃ packets garbled error, Transferred w.1 patient packets garbled error v.1 ∧
    Serving w.2 (Answers w.1.request patient packets error)
      (·.processed ⟨w.1.request, true, writePolls packets error, fun _ => 0⟩) v.2

/-- The views of a request for data. -/
abbrev getting (w : StreamView) (patient : Prop) : Contract Firmware (StreamView × TaskView) :=
  (writing w patient).both tasking

section Get

variable {w v : StreamView × TaskView} {patient : Prop}

instance : Stable (getting w.1 patient) (Replied w patient) where
  stable v v' hv h := by
    obtain ⟨packets, garbled, error, htransferred, hserving⟩ := hv
    exact ⟨packets, garbled, error,
      Stable.stable (C := writing w.1 patient) _ _ htransferred h.1,
      Stable.stable (C := tasking) _ _ hserving h.2⟩

/-- A stage of the request before anything is sent. -/
abbrev BeforeReply (w : StreamView × TaskView) (patient : Prop) (P : Clocked → Prop)
    (f : Clocked → Clocked) : StreamView × TaskView → Prop :=
  Together (Asked w.1 patient) (Serving w.2 P f)

/-- The stream that sends the report. -/
abbrev reportCall (w : StreamView) (patient : Prop) (report : USBJoystickReportData) :
    WriteCall where
  start := w
  bank := leadingID w.request
  buffer := report.toBytes
  patient := patient
  room := by
    unfold leadingID
    split
    · exact Nat.zero_le _
    · exact Nat.le_of_ble_eq_true rfl
  nonempty h := by
    have hlength := report.toBytes_length
    rw [h] at hlength
    cases hlength

/-- The packets that carry the report are those of the step. -/
theorem answers_getReport {report : USBJoystickReportData} {packets garbled : List (List UInt8)}
    {error : ControlStreamError} {s : StreamView} {w : StreamView}
    (hrequest : classRequestOf w.request = some .getReport)
    (hsent : (reportCall w patient report).Sent packets garbled error s) {c : Clocked}
    (hreport : c.device.currentReport = report) :
    Answers w.request patient packets error c ∧
      c.processed ⟨w.request, true, writePolls packets error, fun _ => 0⟩ =
        c.withPrevReport report.toBuffer := by
  have hstep : AvrJoystick.hidDeviceProcessControlRequest c.device
      ⟨w.request, true, writePolls packets error, fun _ => 0⟩ =
      ({ c.device with prevReportINBuffer := report.toBuffer },
        .controlReport report.toBytes :: packets.map .controlPacket) := by
    have hpolls : AvrJoystick.endpointWriteControlStreamLE (leadingID w.request) report.toBytes
        w.request.wLength.toNat (writePolls packets error) = ⟨packets, some error⟩ := hsent.polls
    rw [AvrJoystick.hidDeviceProcessControlRequest, accepted_eq_classRequestOf rfl, hrequest]
    dsimp only
    rw [getReport_eq, hreport]
    exact congrArg (fun sent : ControlWrite => (({ c.device with
      prevReportINBuffer := report.toBuffer } : Device),
        Observation.controlReport report.toBytes :: sent.packets.map .controlPacket)) hpolls
  refine ⟨⟨?_, ?_⟩, ?_⟩
  · rw [hstep]
    exact filterMap_controlPackets packets
  · intro hpatient r hr
    obtain rfl : HIDClassRequest.getReport = r := Option.some.inj (hrequest.symm.trans hr)
    obtain ⟨_, _, hbegins⟩ := hsent.complete hpatient
    have hreply : c.device.reply w.request .getReport = leadingID w.request ++ report.toBytes := by
      rw [Device.reply, hreport]
    -- the report is cut to the length before the ID is put in front of it
    have hwants : (reportCall w patient report).payload.take w.request.wLength.toNat =
        (leadingID w.request ++ report.toBytes).take w.request.wLength.toNat := by
      show (leadingID w.request ++ report.toBytes.take w.request.wLength.toNat).take _ = _
      rw [List.take_append, List.take_append, List.take_take, Nat.min_eq_left (Nat.sub_le _ _)]
    rw [hreply, ← hwants]
    exact hbegins
  · rw [Clocked.processed, hstep]
    rfl

/-- A stage of the reply: the report has been made and stored, and these bytes are in
the bank. -/
abbrev Filling (w : StreamView × TaskView) (patient : Prop) (report : USBJoystickReportData)
    (bank : List UInt8) : StreamView × TaskView → Prop :=
  Together ((reportCall w.1 patient report).Clean [] (· = bank))
    (Serving w.2 (fun c => c.device.currentReport = report) (·.withPrevReport report.toBuffer))

/-- The report goes out. -/
theorem writeReport_replies {report : USBJoystickReportData}
    (hrequest : classRequestOf w.1.request = some .getReport) :
    (endpointWriteControlStreamLE report.toBytes >>= fun _ => endpointClearOUT).Leads
      (getting w.1 patient) (Filling w patient report (leadingID w.1.request))
      (Replied w patient) := by
  rintro v ⟨hclean, hserving⟩
  refine Prog.wp_bind (Prog.wp_mono ?_ (Prog.wp_both
    (WriteCall.endpointWriteControlStreamLE_wp hclean) (Keeps.keeps v.2 hserving)))
  rintro error v' ⟨⟨packets, garbled, hsent⟩, hserving'⟩
  have htransferred : Transferred w.1 patient packets garbled error v'.1 :=
    { uenum := hsent.uenum
      request := hsent.request
      sent := hsent.sent
      single := hsent.single
      aborted := fun h => by
        rcases h with hne | herror
        · exact hsent.aborted hne
        · exact hsent.abort herror
      calm := fun hpatient => (hsent.complete hpatient).2.1 }
  refine Prog.wp_mono ?_ (Prog.wp_both (clearOUT_transferred v'.1 htransferred)
    (Keeps.keeps v'.2 hserving'))
  rintro _ v'' ⟨hdone, hserved⟩
  refine ⟨packets, garbled, error, hdone, hserved.mono ?_⟩
  intro c hreport
  exact answers_getReport hrequest hsent hreport

/-- The report is stored for comparison. -/
theorem storePrevReport_beforeReply {P : Clocked → Prop} (data : ReportBuffer) :
    (storePrevReport data).Leads (getting w.1 patient) (BeforeReply w patient P id)
      (BeforeReply w patient P (·.withPrevReport data)) := by
  refine Prog.Leads.of_modify ?_
  rintro s ⟨hasked, hserving⟩
  refine ⟨⟨trivial, trivial⟩, hasked, ?_⟩
  exact hserving.act (·.withPrevReport data) fun _ _ => Clocked.withPrevReport_outside data

/-- The control endpoint is selected. -/
theorem selectControl_beforeReply {P : Clocked → Prop} {f : Clocked → Clocked} :
    (endpointSelectEndpoint endpointControlEP).Leads (getting w.1 patient)
      (BeforeReply w patient P f) (BeforeReply w patient P f) := by
  refine Prog.Leads.of_modify ?_
  rintro s ⟨hasked, hserving⟩
  exact ⟨⟨trivial, trivial⟩, { hasked with uenum := rfl }, { hserving with uenum := rfl }⟩

/-- The bank is free for the report. -/
theorem clearSETUP_filling {report : USBJoystickReportData} :
    endpointClearSETUP.Leads (getting w.1 patient)
      (BeforeReply w patient (fun c => c.device.currentReport = report)
        (·.withPrevReport report.toBuffer))
      (Filling w patient report []) := by
  refine Prog.Leads.both (C := (reportCall w.1 patient report).contract) ?_ Keeps.keeps
  refine Prog.Leads.of_modify ?_
  intro s hs
  exact ⟨trivial, Asked.clearSETUP (c := reportCall w.1 patient report) hs⟩

/-- The ID of the report is written. -/
theorem write8_filling {report : USBJoystickReportData} (b : UInt8) :
    (endpointWrite8 .control b).Leads (getting w.1 patient) (Filling w patient report [])
      (Filling w patient report [b]) := by
  refine Prog.Leads.both (C := (reportCall w.1 patient report).contract) ?_ Keeps.keeps
  refine Prog.Leads.of_modify ?_
  intro s hs
  have hwritten := WriteCall.Clean.write hs b
  refine ⟨trivial, { hwritten with bank := fun hsetup => ?_ }⟩
  obtain ⟨_, rfl, hbank⟩ := hwritten.bank hsetup
  exact hbank

/-- **GET_REPORT.** -/
theorem getReport_replies (hrequest : classRequestOf w.1.request = some .getReport) :
    (getReport w.1.request).Leads (getting w.1 patient)
      (BeforeReply w patient (fun _ => True) id) (Replied w patient) := by
  refine Prog.Leads.read_at (fun _ => ⟨trivial, trivial⟩) ?_
  rintro s ⟨hasked, hserving⟩
  rw [callbackHIDDeviceCreateHIDReport_cleared]
  -- the pins are read now: this is the moment
  have hmade : BeforeReply w patient (fun c => c.device.currentReport = s.toDevice.currentReport) id
      (s.streamView, s.taskView) := ⟨hasked, hserving.moment rfl⟩
  generalize s.toDevice.currentReport = report at hmade ⊢
  have hbytes : report.toBuffer.bytes.take (32 : UInt16).toNat = report.toBytes :=
    report.toBuffer.take_size
  have hwrite : (endpointWriteControlStreamLE report.toBytes >>= fun _ => endpointClearOUT).Leads
      (getting w.1 patient) (Filling w patient report (leadingID w.1.request))
      (Replied w patient) := writeReport_replies hrequest
  refine (Prog.Leads.bind (storePrevReport_beforeReply report.toBuffer) ?_) _ hmade
  intro _
  refine .bind selectControl_beforeReply ?_
  intro _
  refine .bind clearSETUP_filling ?_
  intro _
  dsimp only
  rw [hbytes]
  by_cases hid : w.1.request.wValue.toUInt8 = 0
  · rw [if_neg (not_not_intro hid)]
    rw [leadingID, if_pos hid] at hwrite
    exact hwrite
  · rw [if_pos hid]
    rw [leadingID, if_neg hid] at hwrite
    refine .bind (write8_filling _) ?_
    intro _
    exact hwrite

/-- The step that replies with one byte. -/
theorem answers_byte {packets garbled : List (List UInt8)} {w : StreamView} {r : HIDClassRequest}
    {b : UInt8} {c : Clocked} (hrequest : classRequestOf w.request = some r)
    (hstep : ∀ polls : List EndpointPoll, AvrJoystick.hidDeviceProcessControlRequest c.device
      ⟨w.request, true, polls, fun _ => 0⟩ =
        (c.device, AvrJoystick.replyByte ⟨w.request, true, polls, fun _ => 0⟩ b))
    (hreply : c.device.reply w.request r = [b])
    (hsent : packets = [[b]] ∨ packets = [] ∧ garbled ≠ [])
    (hcalm : patient → garbled = []) :
    Answers w.request patient packets .noError c ∧
      c.processed ⟨w.request, true, writePolls packets .noError, fun _ => 0⟩ = c := by
  refine ⟨⟨?_, ?_⟩, ?_⟩
  · rw [hstep]
    rcases hsent with rfl | ⟨rfl, _⟩ <;> rfl
  · intro hpatient r' hr'
    obtain rfl : r = r' := Option.some.inj (hrequest.symm.trans hr')
    rcases hsent with rfl | ⟨rfl, hne⟩
    · rw [hreply]
      exact List.take_prefix _ _
    · exact absurd (hcalm hpatient) hne
  · rw [Clocked.processed, hstep]

/-- **GET_IDLE and GET_PROTOCOL**, for a byte that the step system replies with as
well. -/
theorem replyByte_replies {reply : Firmware → UInt8} {r : HIDClassRequest}
    (hrequest : classRequestOf w.1.request = some r)
    (hdir : w.1.request.bmRequestType &&& reqDirDeviceToHost ≠ 0)
    (hreply : ∀ s : Firmware, s.device.reply w.1.request r = [reply s])
    (hstep : ∀ (d : Device) (b : UInt8) (polls : List EndpointPoll),
      d.reply w.1.request r = [b] → AvrJoystick.hidDeviceProcessControlRequest d
        ⟨w.1.request, true, polls, fun _ => 0⟩ =
          (d, AvrJoystick.replyByte ⟨w.1.request, true, polls, fun _ => 0⟩ b)) :
    (replyByte reply).Leads (getting w.1 patient) (BeforeReply w patient (fun _ => True) id)
      (Replied w patient) := by
  refine .bind (Prog.Leads.both clearSETUP_answering Keeps.keeps) ?_
  intro _
  refine .bind (Prog.Leads.both (Prog.Leads.of_keeps (p := spinUntilINReady)) Keeps.keeps) ?_
  intro _
  refine Prog.Leads.read_at (fun _ => ⟨trivial, trivial⟩) ?_
  rintro s ⟨hanswering, hserving⟩
  -- the byte is read now: this is the moment
  have hmoment : Serving w.2 (fun c => c.device.reply w.1.request r = [reply s]) id s.taskView :=
    hserving.moment (hreply s)
  generalize reply s = b at hmoment ⊢
  refine (Prog.Leads.bind (Prog.Leads.both (write8_answering b) Keeps.keeps) ?_)
    (s.streamView, s.taskView) ⟨hanswering, hmoment⟩
  rintro _ v ⟨hbank, hserving'⟩
  refine Prog.wp_bind (Prog.wp_mono ?_ (Prog.wp_both (clearIN_answering v.1 hbank)
    (Keeps.keeps v.2 hserving')))
  rintro _ v' ⟨⟨packets, garbled, htransferred, hsent⟩, hserving''⟩
  refine Prog.wp_mono ?_ (Prog.wp_both (clearStatusStage_transferred hdir v'.1 htransferred)
    (Keeps.keeps v'.2 hserving''))
  rintro _ v'' ⟨hdone, hserved⟩
  refine ⟨packets, garbled, .noError, hdone, hserved.mono ?_⟩
  intro c hc
  exact answers_byte hrequest (fun polls => hstep c.device b polls hc) hc hsent hdone.calm

/-- Whatever the host asks for. -/
theorem classRequest_replies {r : HIDClassRequest}
    (hget : w.1.request.bmRequestType = deviceToHostClassInterface)
    (hrequest : classRequestOf w.1.request = some r) :
    (classRequest w.1.request r).Leads (getting w.1 patient)
      (BeforeReply w patient (fun _ => True) id) (Replied w patient) := by
  have htype : deviceToHostClassInterface = r.requestType :=
    hget.symm.trans (classRequestOf_requestType hrequest)
  have hdir : w.1.request.bmRequestType &&& reqDirDeviceToHost ≠ 0 := by
    rw [hget]
    decide
  have haccepted (polls : List EndpointPoll) :
      ControlTransfer.accepted ⟨w.1.request, true, polls, fun _ => 0⟩ = some r := hrequest
  cases r with
  | getReport => exact getReport_replies hrequest
  | getProtocol =>
      refine replyByte_replies hrequest hdir (fun _ => rfl) ?_
      intro d b polls hb
      obtain rfl := (List.cons.inj hb).1
      rw [AvrJoystick.hidDeviceProcessControlRequest, haccepted]
  | getIdle =>
      refine replyByte_replies hrequest hdir (fun _ => rfl) ?_
      intro d b polls hb
      obtain rfl := (List.cons.inj hb).1
      rw [AvrJoystick.hidDeviceProcessControlRequest, haccepted]
  | setReport => exact absurd htype (by decide)
  | setProtocol => exact absurd htype (by decide)
  | setIdle => exact absurd htype (by decide)

/-- A request that the driver leaves alone. -/
theorem answers_none {w : StreamView} (hrequest : classRequestOf w.request = none) (c : Clocked) :
    Answers w.request patient [] .noError c ∧
      c.processed ⟨w.request, true, writePolls [] .noError, fun _ => 0⟩ = c := by
  have hstep : AvrJoystick.hidDeviceProcessControlRequest c.device
      ⟨w.request, true, writePolls [] .noError, fun _ => 0⟩ = (c.device, []) := by
    rw [AvrJoystick.hidDeviceProcessControlRequest, accepted_eq_classRequestOf rfl, hrequest]
  refine ⟨⟨?_, ?_⟩, ?_⟩
  · rw [hstep]
    rfl
  · intro _ r hr
    cases hrequest.symm.trans hr
  · rw [Clocked.processed, hstep]

end Get

/-- The driver looks at the flag and at the header, and goes on to the request that
it finds. -/
theorem hidDeviceProcessControlRequest_dispatch {V : Type} {C : Contract Firmware V}
    {U Q : V → Prop} [Stable C U] [Stable C Q] (hread : ∀ s, C.guarantee s s)
    (header : USBRequestHeader)
    (hflag : ∀ s, U (C.view s) → s.selected.rxstpi = true ∧ s.usbControlRequest = header)
    (hnone : classRequestOf header = none → ∀ v, U v → Q v)
    (hsome : ∀ r, classRequestOf header = some r → (classRequest header r).Leads C U Q) :
    hidDeviceProcessControlRequest.Leads C U Q := by
  refine Prog.Leads.read_at hread ?_
  intro s₁ hs₁
  rw [(hflag s₁ hs₁).1]
  refine Prog.Leads.read_at hread ?_ _ hs₁
  intro s₂ hs₂
  rw [(hflag s₂ hs₂).2]
  cases hrequest : classRequestOf header with
  | none => exact Prog.wp_pure (P := Q) (hnone hrequest _ hs₂) fun _ h => h
  | some r => exact hsome r hrequest _ hs₂

/-- A request that has been asked and not been acknowledged. -/
def Unanswered (w : StreamView) (patient : Prop) (v : StreamView) : Prop :=
  Asked w patient v ∧ v.setup = true

instance {w : StreamView} {patient : Prop} :
    Stable (writing w patient) (Unanswered w patient) where
  stable v v' hv h :=
    ⟨Stable.stable (C := writing w patient) v v' hv.1 h, h.1.setup hv.2⟩

/-- The whole call for a request for data. -/
theorem get_request_replies {w : StreamView × TaskView} {patient : Prop}
    (hget : w.1.request.bmRequestType = deviceToHostClassInterface) :
    hidDeviceProcessControlRequest.Leads (getting w.1 patient)
      (Together (Unanswered w.1 patient) (Serving w.2 (fun _ => True) id))
      (Replied w patient) := by
  refine hidDeviceProcessControlRequest_dispatch (fun _ => ⟨trivial, trivial⟩) w.1.request ?_ ?_ ?_
  · rintro s ⟨⟨hasked, hsetup⟩, _⟩
    have hselected : s.selected = s.endpoints endpointControlEP := selected_stream hasked.uenum
    exact ⟨by rw [hselected]; exact hsetup, hasked.request⟩
  · rintro hnone v ⟨⟨hasked, _⟩, hserving⟩
    refine ⟨[], [], .noError, ?_, hserving.mono fun c _ => answers_none hnone c⟩
    exact
      { uenum := hasked.uenum
        request := hasked.request
        sent := by simpa using hasked.sent
        single := Nat.zero_le 1
        aborted := fun h => by
          rcases h with hne | herror
          · exact absurd rfl hne
          · cases herror
        calm := fun _ => rfl }
  · intro r hr
    refine (classRequest_replies hget hr).mono ?_ fun _ h => h
    rintro v ⟨⟨hasked, _⟩, hserving⟩
    exact ⟨hasked, hserving⟩

/-- A request that amounts to one step, as a run of the step system. -/
theorem Serving.run {s s' : Firmware} {P : Clocked → Prop} {t : ControlTransfer}
    (h : Serving s.taskView P (·.processed t) s'.taskView) :
    ∃ early late, s'.happened = s.happened ++ (early ++ late) ∧
      P (surroundings.run s.clocked early) ∧
      Runs.run Observed.step ⟨s.device, []⟩ (early.filterMap Outside.event ++
        .controlRequest t :: late.filterMap Outside.event) =
          ⟨s'.device, (AvrJoystick.hidDeviceProcessControlRequest
            (surroundings.run s.clocked early).device t).2⟩ := by
  obtain ⟨early, late, hhappened, hP, hnow⟩ := h.now
  refine ⟨early, late, hhappened, hP, ?_⟩
  refine (run_step_between s.clocked (.controlRequest t) early late).trans ?_
  exact congrArg (fun c : Clocked => Observed.mk c.device _) hnow.symm

/-- What may happen during a request for data. -/
structure GetSignal (s : Firmware) (e : Signal) : Prop where
  ambient : AmbientSignal s e
  host : HostMoves s e

/-- A device that has just received a request. -/
def deviceRequested (request : USBRequestHeader) : Firmware :=
  { deviceAnswering request with
    endpoints := fun n =>
      if n = endpointControlEP then { rxstpi := true, txini := true } else {} }

/-- A button is pressed and a packet comes in during the call. -/
def duringTransfer (before : Nat) (flags : EndpointFlags) (after : Nat) : List (Turn Signal) :=
  List.replicate before .program ++
    .interrupt (.pinB 5) :: .interrupt (.endpoint endpointControlEP flags) ::
      List.replicate after .program

/-- Both come in the states that the program has reached by then. -/
theorem duringTransfer_allowed {A : Firmware → Signal → Prop} {s : Firmware} {before after : Nat}
    {flags : EndpointFlags} {t : Firmware}
    (ht : t = (execute signal hidDeviceProcessControlRequest s
      (List.replicate before .program)).state)
    (hpin : A t (.pinB 5)) (hhost : A (t.signal (.pinB 5)) (.endpoint endpointControlEP flags)) :
    InterruptsAllowed signal A hidDeviceProcessControlRequest s
      (duringTransfer before flags after) := by
  subst ht
  refine interruptsAllowed_append (interruptsAllowed_programs _ _ _)
    ⟨?_, ?_, interruptsAllowed_programs _ _ _⟩ <;>
    intro e he <;> obtain rfl := Turn.interrupt.inj he
  · exact hpin
  · exact hhost

/-- Pins have nothing to do with the host. -/
theorem hostMoves_pinB (s : Firmware) (level : UInt8) : HostMoves s (.pinB level) where
  uenum := rfl
  sent := rfl
  request := rfl
  signature := rfl
  setup h := h
  bank _ := rfl
  out _ h := h

/-- The host goes on waiting while pins change. -/
theorem hostIsPatient_pinB {start s : Firmware} (h : busError s.usbDeviceState = none)
    (level : UInt8) : HostIsPatient start s (.pinB level) where
  setup := rfl
  state := h
  out hdown hup := absurd (hdown.symm.trans hup) Bool.false_ne_true

/-- The request that is being served stays, and as long as its SETUP packet waits the
controller takes in no OUT packet. -/
structure HoldsRequest (v v' : StreamView) : Prop where
  request : v'.request = v.request
  out : v.setup = true → v'.out = v.out

/-- The views of a request that brings data. -/
abbrev setting (awake : Prop) : Contract Firmware (StreamView × TaskView) :=
  ((reading awake).restrict HoldsRequest).both tasking

/-- The SETUP packet of the request waits, and nothing has come in since `w`. -/
structure Unacknowledged (awake : Prop) (w v : StreamView) : Prop where
  uenum : v.uenum = endpointControlEP
  setup : v.setup = true
  out : v.out = false
  arrived : v.arrived = w.arrived
  request : v.request = w.request
  calm : awake → busError v.state = none

/-- Packets may have come in since `w`. -/
def CameIn (w v : StreamView) : Prop := w.arrived <+: v.arrived

/-- Unless the host has aborted the request, the first packets that came in since `w`
have been taken, of which `F` holds. -/
structure Took (w : StreamView) (F : List (List UInt8) → Prop) (v : StreamView) : Prop where
  uenum : v.uenum = endpointControlEP
  arrived : w.arrived <+: v.arrived
  taken : v.setup = false → ∃ taken, taken <+: w.since v ∧ F taken

section Set

variable {awake : Prop} {w v : StreamView} {F : List (List UInt8) → Prop}

instance : Stable ((reading awake).restrict HoldsRequest) (Unacknowledged awake w) where
  stable v v' hv h := by
    obtain ⟨⟨hmove, hawake⟩, hholds⟩ := h
    -- no OUT packet comes in before the SETUP packet is acknowledged
    have hout : v'.out = false := (hholds.out hv.setup).trans hv.out
    refine ⟨hmove.uenum.trans hv.uenum, hmove.setup hv.setup, hout, ?_,
      hholds.request.trans hv.request, hawake⟩
    rw [hmove.arrived, if_neg (by rw [hv.out]; decide), waiting_none hout, List.append_nil]
    exact hv.arrived

instance : Stable (reading awake) (CameIn w) where
  stable _ _ hv h := h.1.arrived_mono hv

instance : Stable (reading awake) (Took w F) where
  stable v v' hv h := by
    refine ⟨h.1.uenum.trans hv.uenum, h.1.arrived_mono hv.arrived, fun hsetup => ?_⟩
    obtain ⟨taken, hbegins, hF⟩ := hv.taken (h.1.before hsetup)
    refine ⟨taken, hbegins.trans ?_, hF⟩
    rw [h.1.since hv.arrived]
    exact List.prefix_append _ _

instance : Allows (reading awake) (CameIn w) Unchanged where
  allows s s' hs h := by
    obtain rfl : s' = s := h
    exact ⟨trivial, hs⟩

instance : Allows (reading awake) (CameIn w) Access where
  allows s s' hs h := by
    obtain ⟨f, packets, rfl, _⟩ := h
    exact ⟨trivial, hs⟩

/-- Acknowledging the SETUP packet loses nothing: no OUT packet can be in the bank. -/
theorem clearSETUP_accounted (hwaiting : w.waiting = []) :
    endpointClearSETUP.Leads ((reading awake).restrict HoldsRequest) (Unacknowledged awake w)
      (Accounted awake w (· = [])) := by
  refine Prog.Leads.of_modify ?_
  intro s hs
  refine ⟨trivial, ?_⟩
  show Accounted awake w (· = []) (streamView _)
  rw [clearSETUP_view hs.uenum]
  refine ⟨hs.uenum, hs.arrived ▸ List.prefix_rfl, hs.calm, fun _ => ⟨[], ?_, rfl⟩⟩
  have hsince : w.since { s.streamView with setup := false, bank := [] } = [] := by
    show s.streamView.arrived.drop w.arrived.length = []
    rw [show s.streamView.arrived = w.arrived from hs.arrived, List.drop_length]
  have hnone : StreamView.waiting { s.streamView with setup := false, bank := [] } = [] :=
    waiting_none hs.out
  rw [hwaiting, hsince, hnone]

/-- The status stage is ended by the device. -/
theorem clearIN_took :
    endpointClearIN.Leads (reading awake) (Took w F) (Took w F) := by
  refine Prog.Leads.of_modify ?_
  intro s hs
  refine ⟨trivial, ?_⟩
  show Took w F (streamView _)
  rw [WriteCall.clearIN_view hs.uenum]
  exact ⟨hs.uenum, hs.arrived, hs.taken⟩

end Set

/-- The data that the packets make up, for a request that the host has not aborted. -/
structure ReadData (header : USBRequestHeader) (received : List UInt8)
    (error : ControlStreamError) (taken : List (List UInt8)) : Prop where
  ends : error ≠ .hostAborted
  stored : ∃ left, Storing header.wLength.toNat (received, left) taken
  enough : error = .noError → header.wLength.toNat ≤ taken.flatten.length

/-- What a request takes of the packets that come in.  A SET_REPORT takes as many as it
needs for its data, the others none. -/
structure DataStage (header : USBRequestHeader) (new taken : List (List UInt8))
    (error : ControlStreamError) : Prop where
  first : taken <+: new
  ends : error ≠ .hostAborted
  needed : classRequestOf header = some .setReport → 0 < header.wLength.toNat → taken ≠ [] →
    taken.dropLast.flatten.length < header.wLength.toNat
  enough : classRequestOf header = some .setReport → error = .noError →
    header.wLength.toNat ≤ taken.flatten.length
  other : classRequestOf header ≠ some .setReport → taken = [] ∧ error = .noError

/-- The others need no packets. -/
theorem DataStage.none_taken {header : USBRequestHeader} (new : List (List UInt8))
    (hother : classRequestOf header ≠ some .setReport) : DataStage header new [] .noError where
  first := List.nil_prefix
  ends := by decide
  needed h := absurd h hother
  enough h := absurd h hother
  other _ := ⟨rfl, rfl⟩

/-- The call amounts to one step, whose data stage has taken the first packets that
came in. -/
structure Obeyed (w : StreamView × TaskView) (awake : Prop) (v : StreamView × TaskView) :
    Prop where
  arrived : CameIn w.1 v.1
  obeyed : v.1.setup = false → ∃ taken error stack,
    DataStage w.1.request (w.1.since v.1) taken error ∧ (awake → error = .noError) ∧
    Serving w.2 (fun _ => True) (·.processed ⟨w.1.request, true, readPolls taken error, stack⟩) v.2

/-- The step system's SET_REPORT for these packets. -/
theorem setReport_readPolls {header : USBRequestHeader} {taken : List (List UInt8)}
    {error : ControlStreamError} (stack : Nat → UInt8)
    (hrequest : classRequestOf header = some .setReport) (herror : error ≠ .hostAborted)
    (henough : error = .noError → header.wLength.toNat ≤ taken.flatten.length) (d : Device) :
    (AvrJoystick.hidDeviceProcessControlRequest d
      ⟨header, true, readPolls taken error, stack⟩).1 =
      callbackHIDDeviceProcessHIDReport d (receivedReport header stack
        (taken.flatten.take header.wLength.toNat)) := by
  have hread := endpointReadControlStreamLE_readPolls taken header.wLength.toNat herror henough
  rw [AvrJoystick.hidDeviceProcessControlRequest, accepted_eq_classRequestOf rfl, hrequest]
  simp only [AvrJoystick.setReport, ControlTransfer.receivedReport, ControlTransfer.dataStage,
    hread, Option.map_some, ControlTransfer.memory]
  rfl

/-- What a completed read has taken, when nothing waited at its start. -/
theorem Stored.took {awake : Prop} {w v : StreamView} {received : List UInt8}
    {error : ControlStreamError} (hv : Stored awake w w.request.wLength.toNat received error v)
    (hwaiting : w.waiting = []) : Took w (ReadData w.request received error) v := by
  refine ⟨hv.account.uenum, hv.account.arrived, fun hsetup => ?_⟩
  obtain ⟨taken, haccount, hheld⟩ := hv.account.account hsetup
  rw [hwaiting, List.nil_append] at haccount
  refine ⟨taken, haccount ▸ List.prefix_append _ _, ?_, hheld.1, hheld.2⟩
  intro habort
  exact Bool.noConfusion ((hv.abort habort).symm.trans hsetup)

section Obey

variable {awake : Prop} {w v : StreamView × TaskView}

instance : Stable (setting awake) (Obeyed w awake) where
  stable v v' hv h := by
    obtain ⟨⟨hmove, _⟩, _⟩ := h.1
    refine ⟨hmove.arrived_mono hv.arrived, fun hsetup => ?_⟩
    obtain ⟨taken, error, stack, hdata, hawake, hserving⟩ := hv.obeyed (hmove.before hsetup)
    refine ⟨taken, error, stack, { hdata with first := hdata.first.trans ?_ }, hawake,
      Stable.stable (C := tasking) _ _ hserving h.2⟩
    rw [hmove.since hv.arrived]
    exact List.prefix_append _ _

/-- What is done with the data of a SET_REPORT. -/
theorem processHIDReport_obeys {stack : Nat → UInt8} {received : List UInt8}
    {error : ControlStreamError}
    (hrequest : classRequestOf w.1.request = some .setReport)
    (hawake : awake → error = .noError ∨ error = .hostAborted) :
    (processHIDReport (receivedReport w.1.request stack received)).Leads (setting awake)
      (Together (Took w.1 (ReadData w.1.request received error))
        (Serving w.2 (fun _ => True) id))
      (Obeyed w awake) := by
  refine Prog.Leads.of_modify ?_
  rintro s ⟨htook, hserving⟩
  refine ⟨⟨trivial, trivial⟩, htook.arrived, ?_⟩
  intro hsetup
  obtain ⟨taken, hfirst, herror, ⟨left, hstoring⟩, henough⟩ := htook.taken hsetup
  have hreceived : received = taken.flatten.take w.1.request.wLength.toNat := hstoring.received
  refine ⟨taken, error, stack, ?_, ?_, ?_⟩
  · exact
      { first := hfirst
        ends := herror
        needed := fun _ => hstoring.needed
        enough := fun _ => henough
        other := fun hother => absurd hrequest hother }
  · intro h
    rcases hawake h with hno | habort
    · exact hno
    · exact absurd habort herror
  · -- the report reaches the application now: this is the moment
    have hact := hserving.actNow (·.received (receivedReport w.1.request stack received))
    refine hact.mono fun c _ => ⟨trivial, ?_⟩
    rw [Clocked.processed, setReport_readPolls stack hrequest herror henough, ← hreceived]
    rfl

/-- **SET_REPORT.** -/
theorem setReport_obeys (hwaiting : w.1.waiting = [])
    (hrequest : classRequestOf w.1.request = some .setReport) :
    (setReport w.1.request).Leads (setting awake)
      (Together (Unacknowledged awake w.1) (Serving w.2 (fun _ => True) id))
      (Obeyed w awake) := by
  refine Prog.Leads.read_bind (fun _ => ⟨trivial, trivial⟩) ?_
  intro s _
  refine .bind (Prog.Leads.both (clearSETUP_accounted hwaiting) Keeps.keeps) ?_
  rintro _ v ⟨haccounted, hserving⟩
  refine Prog.wp_bind (Prog.wp_mono ?_ (Prog.wp_both
    (Prog.wp_restrict (endpointReadControlStreamLE_wp haccounted)) (Keeps.keeps v.2 hserving)))
  rintro ⟨received, error⟩ v₁ ⟨hstored, hserving₁⟩
  have hclear : endpointClearIN.Leads (setting awake)
      (Together (Took w.1 (ReadData w.1.request received error)) (Serving w.2 (fun _ => True) id))
      (Together (Took w.1 (ReadData w.1.request received error))
        (Serving w.2 (fun _ => True) id)) :=
    Prog.Leads.both (fun v hv => Prog.wp_restrict (clearIN_took v hv)) Keeps.keeps
  refine (Prog.Leads.bind hclear ?_) v₁ ⟨hstored.took hwaiting, hserving₁⟩
  intro _
  exact processHIDReport_obeys hrequest hstored.awake

/-- **SET_IDLE and SET_PROTOCOL**, for a change of the settings that the step system
makes as well. -/
theorem setVariable_obeys {f : HIDDeviceState → HIDDeviceState}
    (hother : classRequestOf w.1.request ≠ some .setReport)
    (hstep : ∀ d : Device, (AvrJoystick.hidDeviceProcessControlRequest d
      ⟨w.1.request, true, readPolls [] .noError, fun _ => 0⟩).1 = { d with hid := f d.hid }) :
    Prog.Leads (setting awake)
      (Together (CameIn w.1) (Serving w.2 (fun _ => True) id))
      (do
        endpointClearSETUP
        endpointClearStatusStage
        Prog.modify fun s => { s with hid := f s.hid })
      (Obeyed w awake) := by
  have hkeeps {p : FwProg Unit} [Keeps (reading awake) (CameIn w.1) p]
      [Keeps tasking (Serving w.2 (fun _ => True) id) p] : p.Leads (setting awake)
        (Together (CameIn w.1) (Serving w.2 (fun _ => True) id))
        (Together (CameIn w.1) (Serving w.2 (fun _ => True) id)) :=
    Prog.Leads.both (fun v hv => Prog.wp_restrict (Keeps.keeps v hv)) Keeps.keeps
  refine .bind hkeeps ?_
  intro _
  refine .bind hkeeps ?_
  intro _
  refine Prog.Leads.of_modify ?_
  rintro s ⟨harrived, hserving⟩
  refine ⟨⟨trivial, trivial⟩, harrived, ?_⟩
  intro _
  refine ⟨[], .noError, fun _ => 0, .none_taken _ hother, fun _ => rfl, ?_⟩
  -- the variable is set now: this is the moment
  refine (hserving.actNow (·.setHID f)).mono fun c _ => ⟨trivial, ?_⟩
  rw [Clocked.processed, hstep]
  rfl

/-- Whatever the host sets. -/
theorem classRequest_obeys {r : HIDClassRequest} (hwaiting : w.1.waiting = [])
    (hset : w.1.request.bmRequestType = hostToDeviceClassInterface)
    (hrequest : classRequestOf w.1.request = some r) :
    (classRequest w.1.request r).Leads (setting awake)
      (Together (Unacknowledged awake w.1) (Serving w.2 (fun _ => True) id))
      (Obeyed w awake) := by
  have htype : hostToDeviceClassInterface = r.requestType :=
    hset.symm.trans (classRequestOf_requestType hrequest)
  have haccepted (polls : List EndpointPoll) :
      ControlTransfer.accepted ⟨w.1.request, true, polls, fun _ => 0⟩ = some r := hrequest
  have hcameIn (v : StreamView × TaskView)
      (hv : Together (Unacknowledged awake w.1) (Serving w.2 (fun _ => True) id) v) :
      Together (CameIn w.1) (Serving w.2 (fun _ => True) id) v :=
    ⟨show w.1.arrived <+: v.1.arrived from hv.1.arrived ▸ List.prefix_rfl, hv.2⟩
  cases r with
  | setReport => exact setReport_obeys hwaiting hrequest
  | setProtocol =>
      refine (setVariable_obeys (f := fun hid => { hid with
        usingReportProtocol := decide (w.1.request.wValue &&& 0xFF ≠ 0x00) }) ?_ ?_).mono
        hcameIn fun _ h => h
      · rw [hrequest]
        decide
      · intro d
        rw [AvrJoystick.hidDeviceProcessControlRequest, haccepted]
        rfl
  | setIdle =>
      refine (setVariable_obeys (f := fun hid => { hid with
        idleCount := (w.1.request.wValue &&& 0xFF00) >>> 6 }) ?_ ?_).mono hcameIn fun _ h => h
      · rw [hrequest]
        decide
      · intro d
        rw [AvrJoystick.hidDeviceProcessControlRequest, haccepted]
        rfl
  | getReport => exact absurd htype (by decide)
  | getProtocol => exact absurd htype (by decide)
  | getIdle => exact absurd htype (by decide)

/-- The whole call for a request that brings data. -/
theorem set_request_obeys (hwaiting : w.1.waiting = [])
    (hset : w.1.request.bmRequestType = hostToDeviceClassInterface) :
    hidDeviceProcessControlRequest.Leads (setting awake)
      (Together (Unacknowledged awake w.1) (Serving w.2 (fun _ => True) id))
      (Obeyed w awake) := by
  refine hidDeviceProcessControlRequest_dispatch (fun _ => ⟨trivial, trivial⟩) w.1.request ?_ ?_ ?_
  · rintro s ⟨hwaits, _⟩
    have hselected : s.selected = s.endpoints endpointControlEP := selected_stream hwaits.uenum
    exact ⟨by rw [hselected]; exact hwaits.setup, hwaits.request⟩
  · rintro hnone v ⟨hwaits, hserving⟩
    have hstep (c : Clocked) :
        c.processed ⟨w.1.request, true, readPolls [] .noError, fun _ => 0⟩ = c := by
      rw [Clocked.processed, AvrJoystick.hidDeviceProcessControlRequest,
        accepted_eq_classRequestOf rfl, hnone]
    refine ⟨show w.1.arrived <+: v.1.arrived from hwaits.arrived ▸ List.prefix_rfl, fun _ => ?_⟩
    have hother : classRequestOf w.1.request ≠ some .setReport := by
      rw [hnone]
      decide
    exact ⟨[], .noError, fun _ => 0, .none_taken _ hother, fun _ => rfl,
      hserving.mono fun c _ => ⟨trivial, hstep c⟩⟩
  · intro r hr
    exact classRequest_obeys hwaiting hset hr

end Obey

/-- The controller keeps the SETUP packet of a request until it is acknowledged, and
takes in no OUT packet before that. -/
def HoldsSetup (s : Firmware) (e : Signal) : Prop :=
  (s.endpoints endpointControlEP).rxstpi = true →
    ((s.signal e).endpoints endpointControlEP).rxouti = (s.endpoints endpointControlEP).rxouti

/-- What may happen during a request that brings data. -/
structure SetSignal (s : Firmware) (e : Signal) : Prop where
  ambient : AmbientSignal s e
  packet : LeavesPacket s e
  setup : HoldsSetup s e

/-- No signal touches the request that is being served. -/
theorem signal_request (s : Firmware) (e : Signal) :
    (s.signal e).usbControlRequest = s.usbControlRequest := by
  cases e with
  | interrupt =>
      cases hpending : s.udint.eorst && s.udien.eorst with
      | false =>
          show s.usbGenVect.usbControlRequest = _
          rw [(usbGenVect_quiet hpending).rest]
      | true =>
          obtain ⟨t, hframe, hserved⟩ := usbGenVect_reset hpending
          show s.usbGenVect.usbControlRequest = _
          rw [hserved, (configureControlEndpoint_access _).rest, hframe.rest]
  | endpoint n f => rfl
  | memory fits => rfl
  | frame number => rfl
  | flags udint => rfl
  | vbus level => rfl
  | busReset => rfl
  | pinB level => rfl
  | stack content => rfl

/-- **Requests that bring data take effect at one moment.**  Let a call for a SET
request be interrupted in any way, short of a reset of the bus or a new SETUP
packet.  Then the step system takes the same device to the same device, with the
request as one step between what happened before some moment and what happened
after it.  The data stage of that step takes the first packets that came in since
the start, as many as it needs, and ends well unless the bus is suspended or goes
away. -/
theorem set_request_is_one_step (s : Firmware) (hselected : s.uenum = endpointControlEP)
    (hsetup : (s.endpoints endpointControlEP).rxstpi = true)
    (hout : (s.endpoints endpointControlEP).rxouti = false)
    (hset : s.usbControlRequest.bmRequestType = hostToDeviceClassInterface)
    (turns : List (Turn Signal))
    (hturns : InterruptsAllowed signal SetSignal hidDeviceProcessControlRequest s turns)
    (hend : (execute signal hidDeviceProcessControlRequest s turns).prog = .done ())
    (hnone : ((execute signal hidDeviceProcessControlRequest s turns).state.endpoints
      endpointControlEP).rxstpi = false) :
    let s' := (execute signal hidDeviceProcessControlRequest s turns).state
    let header := s.usbControlRequest
    ∃ (early late : List Outside) (new taken : List (List UInt8)) (error : ControlStreamError)
      (stack : Nat → UInt8),
      s'.happened = s.happened ++ (early ++ late) ∧
      Runs.run Observed.step ⟨s.device, []⟩ (early.filterMap Outside.event ++
        .controlRequest ⟨header, true, readPolls taken error, stack⟩ ::
          late.filterMap Outside.event) = ⟨s'.device, []⟩ ∧
      s'.reportPackets = s.reportPackets ∧
      s'.arrivedPackets = s.arrivedPackets ++ new ∧ DataStage header new taken error ∧
      (InterruptsAllowed signal StaysAwake hidDeviceProcessControlRequest s turns →
        busError s.usbDeviceState = none → error = .noError) := by
  intro s' header
  let awake : Prop :=
    InterruptsAllowed signal StaysAwake hidDeviceProcessControlRequest s turns ∧
      busError s.usbDeviceState = none
  have hwaiting : s.streamView.waiting = [] := waiting_none hout
  have hstart : Together (Unacknowledged awake s.streamView)
      (Serving s.taskView (fun _ => True) id) (s.streamView, s.taskView) :=
    ⟨⟨hselected, hsetup, hout, rfl, rfl, And.right⟩, hselected, rfl, [], [],
      (List.append_nil _).symm, trivial, rfl⟩
  have hmoves : (setting awake).Moves signal
      (fun t e => SetSignal t e ∧ (awake → StaysAwake t e)) := by
    intro t e h
    obtain ⟨hsignal, hstays⟩ := h
    have hdelivers : Delivers t.streamView (t.signal e).streamView :=
      ⟨hsignal.packet.uenum, hsignal.packet.setup, hsignal.packet.packet, signal_arrived t e⟩
    exact .single ⟨⟨⟨hdelivers, hstays⟩, signal_request t e, hsignal.setup⟩,
      hsignal.ambient.around⟩
  have hobeyed : Obeyed (s.streamView, s.taskView) awake (s'.streamView, s'.taskView) :=
    wp_result hmoves (set_request_obeys (w := (s.streamView, s.taskView)) hwaiting hset _ hstart)
      (hturns.and_imp fun h : awake => h.1) hend
  obtain ⟨new, hnew⟩ := hobeyed.arrived
  obtain ⟨taken, error, stack, hdata, hawake, hserving⟩ := hobeyed.obeyed hnone
  obtain ⟨early, late, hhappened, _, hrun⟩ := hserving.run
  have hsince : s.streamView.since s'.streamView = new := by
    rw [StreamView.since, ← hnew, List.drop_left]
  have hsilent := set_request_silent hset (readPolls taken error) stack
    (surroundings.run s.clocked early).device
  exact ⟨early, late, new, taken, error, stack, hhappened,
    hrun.trans (congrArg (Observed.mk s'.device) hsilent), hserving.sent, hnew.symm,
    hsince ▸ hdata, fun hstays hbus => hawake ⟨hstays, hbus⟩⟩

/-- Pins may change at any time. -/
theorem setSignal_pinB (s : Firmware) (level : UInt8) : SetSignal s (.pinB level) where
  ambient := .pinB level
  packet := ⟨rfl, id, fun _ hout => ⟨hout, rfl⟩⟩
  setup _ := rfl

/-- When no packet waits, one may come in. -/
theorem setSignal_endpoint {s : Firmware} (hsetup : (s.endpoints endpointControlEP).rxstpi = false)
    (hout : (s.endpoints endpointControlEP).rxouti = false) (flags : EndpointFlags) :
    SetSignal s (.endpoint endpointControlEP flags) where
  ambient := .other _ (by decide) _
  packet := ⟨rfl, fun hup => Bool.noConfusion (hsetup.symm.trans hup),
    fun _ hup => Bool.noConfusion (hout.symm.trans hup)⟩
  setup hup := Bool.noConfusion (hsetup.symm.trans hup)

/-- A SET_REPORT of two bytes, during which a button is pressed and the data comes in:
the second byte is on the LEDs. -/
theorem set_request_is_one_step_setReport :
    let s := deviceRequested ⟨0x21, 9, 0x0200, 0, 2⟩
    let s' := (execute signal hidDeviceProcessControlRequest s
      (duringTransfer 6 { rxouti := true, txini := true, bank := [7, 8] } 16)).state
    ∃ (early late : List Outside) (taken : List (List UInt8)) (stack : Nat → UInt8),
      [.pinB 5] = early ++ late ∧
      Runs.run Observed.step ⟨s.device, []⟩ (early.filterMap Outside.event ++
        .controlRequest ⟨s.usbControlRequest, true, readPolls taken .noError, stack⟩ ::
          late.filterMap Outside.event) = ⟨s'.device, []⟩ ∧
      taken <+: [[7, 8]] ∧ 2 ≤ taken.flatten.length ∧ s'.device.ports.portD = 8 := by
  intro s s'
  have hturns : InterruptsAllowed signal SetSignal hidDeviceProcessControlRequest s
      (duringTransfer 6 { rxouti := true, txini := true, bank := [7, 8] } 16) := by
    refine duringTransfer_allowed rfl (setSignal_pinB _ 5) (setSignal_endpoint ?_ ?_ _)
    · decide +kernel
    · decide +kernel
  have hawake : InterruptsAllowed signal StaysAwake hidDeviceProcessControlRequest s
      (duringTransfer 6 { rxouti := true, txini := true, bank := [7, 8] } 16) := by
    refine duringTransfer_allowed rfl ?_ ?_
    · show busError _ = none
      decide +kernel
    · show busError _ = none
      decide +kernel
  obtain ⟨early, late, new, taken, error, stack, hhappened, hrun, _, hnew, hdata, hends⟩ :=
    set_request_is_one_step s rfl rfl rfl rfl
      (duringTransfer 6 { rxouti := true, txini := true, bank := [7, 8] } 16) hturns
      (Prog.eq_done (by decide +kernel)) (by decide +kernel)
  obtain rfl := hends hawake rfl
  have hevents : s'.happened = [.pinB 5] := by decide +kernel
  have harrived : s'.arrivedPackets = [[7, 8]] := by decide +kernel
  obtain rfl : new = [[7, 8]] := hnew.symm.trans harrived
  exact ⟨early, late, taken, stack, hevents.symm.trans hhappened, hrun, hdata.first,
    hdata.enough rfl rfl, by decide +kernel⟩

end Firmware

end AvrJoystick
