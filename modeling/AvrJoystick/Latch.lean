import AvrJoystick.DeviceSteps

/-!
# The output latch

`saved` and port D together form the output latch.  Only an accepted
SET_REPORT writes it, and then with the byte at offset one of the report data:
the history of output reports determines it (`latch_is_output_history`).

That byte is taken without a look at how much data there is.  It lies past the
report ID, if the request names one, and past what the host has delivered, if
the host delivered too little; the latch then takes on whatever the stack
held.  `setReport_latches_host_data_iff` says that a SET_REPORT is harmless
for every content of the stack exactly when its data stage reaches that byte.
-/

namespace AvrJoystick

/-- A SET_REPORT for the interface of the joystick, by the fields of its
header. -/
def ControlTransfer.IsSetReport (t : ControlTransfer) : Prop :=
  t.setupReceived = true ∧
    t.header.wIndex = interfaceIDJoystick.toUInt16 ∧
    t.header.bRequest = 0x09 ∧
    t.header.bmRequestType = hostToDeviceClassInterface

instance (t : ControlTransfer) : Decidable t.IsSetReport :=
  inferInstanceAs (Decidable (_ ∧ _))

/-- The SET_REPORT that an event is, if it is one. -/
def Event.outputReport : Event → Option ControlTransfer
  | .controlRequest t => if t.IsSetReport then some t else none
  | _ => none

namespace ControlTransfer

/-- Payload offset of the byte at offset one of the report data. -/
def latchOffset (t : ControlTransfer) : Nat := 1 + t.idBytes

/-- The part of the payload that the data stage of the request takes. -/
def delivered (t : ControlTransfer) : List UInt8 :=
  (payload t.polls).take t.header.wLength.toNat

/-- The byte at offset one of the report data, if it was delivered. -/
def deliveredByte (t : ControlTransfer) : Option UInt8 :=
  t.delivered[t.latchOffset]?

theorem memory_eq (t : ControlTransfer) (i : Nat) :
    t.memory i = t.delivered[i]?.getD (t.stack i) := by
  rw [memory, dataStage, endpointReadControlStreamLE_received,
    List.getD_eq_getElem?_getD]
  rfl

end ControlTransfer

/-- **What an accepted SET_REPORT latches**: the delivered byte, or else the
stack's. -/
theorem setReport_eq {t : ControlTransfer}
    (hend : t.dataStage.outcome.isSome = true) (d : Device) :
    setReport d t =
      { d with
        saved := t.deliveredByte.getD (t.stack t.latchOffset)
        ports := { d.ports with
          portD := t.deliveredByte.getD (t.stack t.latchOffset) } } := by
  obtain ⟨code, hcode⟩ := Option.isSome_iff_exists.mp hend
  simp [setReport, ControlTransfer.receivedReport, hcode,
    callbackHIDDeviceProcessHIDReport, ControlTransfer.memory_eq,
    ControlTransfer.deliveredByte, ControlTransfer.latchOffset]

theorem Device.step_outputReport {e : Event} {t : ControlTransfer}
    (h : e.outputReport = some t) (d : Device) :
    d.step e = (setReport d t, []) := by
  cases e with
  | controlRequest t' =>
      by_cases hset : t'.IsSetReport
      · have ht : t' = t := by simpa [Event.outputReport, hset] using h
        have hacc : t'.accepted = some .setReport :=
          ControlTransfer.accepted_setReport.mpr hset
        subst ht
        simp [Device.step, eventUSBDeviceControlRequest,
          hidDeviceProcessControlRequest, hacc]
      · simp [Event.outputReport, hset] at h
  | _ => simp [Event.outputReport] at h

/-- **Only an accepted SET_REPORT writes the latch.** -/
theorem Device.step_latch_of_not_outputReport {e : Event}
    (h : e.outputReport = none) (d : Device) :
    (d.step e).1.saved = d.saved ∧
      (d.step e).1.ports.portD = d.ports.portD := by
  cases e with
  | controlRequest t =>
      have hacc : t.accepted ≠ some .setReport := by
        intro hacc
        have hset : t.IsSetReport := ControlTransfer.accepted_setReport.mp hacc
        simp [Event.outputReport, hset] at h
      obtain ⟨hports, hsaved⟩ :=
        hidDeviceProcessControlRequest_ports_saved hacc d
      exact ⟨hsaved, congrArg Ports.portD hports⟩
  | usbTask t =>
      obtain ⟨hports, hsaved, _⟩ := hidDeviceUSBTask_ports_saved_mask d t
      exact ⟨hsaved, congrArg Ports.portD hports⟩
  | startOfFrame =>
      obtain ⟨remaining, heq⟩ := hidDeviceMillisecondElapsed_eq d
      show (hidDeviceMillisecondElapsed d).saved = d.saved ∧
        (hidDeviceMillisecondElapsed d).ports.portD = d.ports.portD
      rw [heq]
      exact ⟨rfl, rfl⟩
  | endpointHalt halted => cases halted <;> exact ⟨rfl, rfl⟩
  | _ => exact ⟨rfl, rfl⟩

/-- Every accepted SET_REPORT comes with a complete data stage that holds at
least two bytes of report data. -/
def Event.DeliversOutputReport (e : Event) : Prop :=
  ∀ t, e.outputReport = some t →
    t.dataStage.outcome.isSome = true ∧
      t.header.wLength.toNat ≤ (payload t.polls).length ∧
      2 + t.idBytes ≤ t.header.wLength.toNat

instance (e : Event) : Decidable e.DeliversOutputReport :=
  inferInstanceAs (Decidable (∀ t ∈ e.outputReport, _))

/-- The byte an accepted SET_REPORT brings for the latch. -/
def Event.outputByte (e : Event) : Option UInt8 :=
  e.outputReport.bind ControlTransfer.deliveredByte

theorem Event.DeliversOutputReport.deliveredByte_isSome {e : Event}
    (h : e.DeliversOutputReport) {t : ControlTransfer}
    (ht : e.outputReport = some t) :
    ∃ b, t.deliveredByte = some b := by
  obtain ⟨_, hfull, htwo⟩ := h t ht
  have hlen : t.latchOffset < t.delivered.length := by
    simp only [ControlTransfer.latchOffset, ControlTransfer.delivered,
      List.length_take]
    omega
  exact ⟨t.delivered[t.latchOffset], List.getElem?_eq_getElem hlen⟩

/-- The latch is a register that the output bytes are written to. -/
theorem Device.next_latch {e : Event} (h : e.DeliversOutputReport) (d : Device) :
    (d.next e).saved = e.outputByte.getD d.saved ∧
      (d.next e).ports.portD = e.outputByte.getD d.ports.portD := by
  cases hout : e.outputReport with
  | none =>
      have hkeep := Device.step_latch_of_not_outputReport hout d
      simpa [Device.next, Event.outputByte, hout] using hkeep
  | some t =>
      obtain ⟨b, hb⟩ := h.deliveredByte_isSome hout
      have hstep : d.next e = setReport d t :=
        congrArg Prod.fst (Device.step_outputReport hout d)
      rw [hstep, setReport_eq (h t hout).1, hb]
      simp [Event.outputByte, hout, hb]

/-- **The output latch is exactly the history of output reports.**  From the
state that `SetupHardware` leaves, after any events in any order: without an
accepted SET_REPORT `saved` is 0 and port D is high; otherwise both hold the
byte at offset one of the report data of the last one.  `mask` never changes,
and no other kind of step touches the latch. -/
theorem latch_is_output_history (ports : Ports) (es : List Event)
    (hes : ∀ e ∈ es, e.DeliversOutputReport) {final : Device}
    (hfinal : Runs.run Device.next (setupHardware (afterReset ports)) es =
      final) :
    ((es.filterMap Event.outputReport = [] →
        final.saved = 0 ∧ final.ports.portD = 0xFF) ∧
      (∀ t, (es.filterMap Event.outputReport).getLast? = some t →
        ∃ b, t.deliveredByte = some b ∧
          final.saved = b ∧ final.ports.portD = b) ∧
      final.mask = 0xFF) ∧
    ∀ (d : Device) (e : Event), e.outputReport = none →
      (d.next e).saved = d.saved ∧ (d.next e).ports.portD = d.ports.portD := by
  subst hfinal
  have hbytes : es.filterMap Event.outputByte =
      (es.filterMap Event.outputReport).filterMap
        ControlTransfer.deliveredByte := by
    rw [List.filterMap_filterMap]
    rfl
  have hsaved := Runs.run_register Device.saved Event.outputByte
    (fun d e he => (Device.next_latch (hes e he) d).1)
    (setupHardware (afterReset ports))
  have hportD := Runs.run_register (fun d : Device => d.ports.portD)
    Event.outputByte (fun d e he => (Device.next_latch (hes e he) d).2)
    (setupHardware (afterReset ports))
  refine ⟨⟨?_, ?_, run_next_mask _ es⟩,
    fun d e he => Device.step_latch_of_not_outputReport he d⟩
  · intro hnone
    rw [hsaved, hportD, hbytes, hnone]
    exact ⟨rfl, rfl⟩
  · intro t ht
    obtain ⟨front, hfront⟩ := List.getLast?_eq_some_iff.mp ht
    obtain ⟨e, he, hte⟩ : ∃ e ∈ es, e.outputReport = some t :=
      List.mem_filterMap.mp (hfront ▸ List.mem_append_right _ (by simp))
    obtain ⟨b, hb⟩ := (hes e he).deliveredByte_isSome hte
    have hlast : (es.filterMap Event.outputByte).getLast? = some b := by
      rw [hbytes, hfront, List.filterMap_append]
      simp [hb]
    refine ⟨b, hb, ?_, ?_⟩
    · rw [hsaved, hlast, Option.getD_some]
    · rw [hportD, hlast, Option.getD_some]

/-- An output report with ID 5: the ID, then two bytes of report data. -/
def reportWithID : ControlTransfer where
  header :=
    { bmRequestType := hostToDeviceClassInterface, bRequest := 0x09
      wValue := 0x0205, wIndex := 0, wLength := 3 }
  polls := [{}, { outReceived := some [0x05, 0x11, 0x22] }, { inReady := true }]
  stack := fun _ => 0x55

theorem latch_is_output_history_reportWithID :
    (∀ e ∈ [Event.connect, .controlRequest reportWithID, .disconnect],
        e.DeliversOutputReport) ∧
      ∀ final, Runs.run Device.next (setupHardware (afterReset quietBoard))
          [.connect, .controlRequest reportWithID, .disconnect] = final →
        final.saved = 0x22 ∧ final.ports.portD = 0x22 := by
  refine ⟨by decide +kernel, fun final hfinal => ?_⟩
  obtain ⟨⟨_, hlast, _⟩, _⟩ := latch_is_output_history quietBoard
    [.connect, .controlRequest reportWithID, .disconnect] (by decide +kernel)
    hfinal
  obtain ⟨b, hb, hsaved, hportD⟩ := hlast reportWithID rfl
  have hbyte : reportWithID.deliveredByte = some 0x22 := by decide +kernel
  cases hbyte.symm.trans hb
  exact ⟨hsaved, hportD⟩

/-- The latch is as before, or holds the byte that this request delivered for
it. -/
def LatchesHostData (t : ControlTransfer) (before after : Device) : Prop :=
  (after.saved = before.saved ∧ after.ports.portD = before.ports.portD) ∨
    ∃ b, t.deliveredByte = some b ∧ after.saved = b ∧ after.ports.portD = b

/-- The callback's result depends only on the first `ReportSize` bytes behind
the pointer it is given. -/
def ReadsWithinReport (d : Device) (r : ReceivedReport) : Prop :=
  ∀ data : Nat → UInt8,
    (∀ i, i < r.reportSize.toNat → data i = r.reportData i) →
    callbackHIDDeviceProcessHIDReport d { r with reportData := data } =
      callbackHIDDeviceProcessHIDReport d r

/-- An accepted SET_REPORT drives the output pins with the host's data only. -/
def SetReportFaithful (d : Device) (t : ControlTransfer) : Prop :=
  LatchesHostData t d (d.next (.controlRequest t)) ∧
    ∀ r, t.receivedReport = some r → ReadsWithinReport d r

theorem readsWithinReport_of_two_le {r : ReceivedReport}
    (h : 2 ≤ r.reportSize.toNat) (d : Device) : ReadsWithinReport d r := by
  intro data hdata
  simp [callbackHIDDeviceProcessHIDReport, hdata 1 (by omega)]

theorem ControlTransfer.deliveredByte_isSome_iff (t : ControlTransfer) :
    (∃ b, t.deliveredByte = some b) ↔
      t.latchOffset < min t.header.wLength.toNat (payload t.polls).length := by
  rw [← List.length_take, ← Option.isSome_iff_exists]
  simp [ControlTransfer.deliveredByte, ControlTransfer.delivered]

theorem ControlTransfer.idBytes_le_one (t : ControlTransfer) :
    t.idBytes ≤ 1 := by
  unfold ControlTransfer.idBytes
  split <;> omega

/-- The size passed to the callback, when the request is long enough for its
report ID. -/
theorem ControlTransfer.reportSize_toNat {t : ControlTransfer}
    (h : t.idBytes ≤ t.header.wLength.toNat) :
    (t.header.wLength - UInt16.ofNat t.idBytes).toNat =
      t.header.wLength.toNat - t.idBytes := by
  have hid := t.idBytes_le_one
  have hofNat : (UInt16.ofNat t.idBytes).toNat = t.idBytes := by
    rw [UInt16.toNat_ofNat']
    omega
  rw [UInt16.toNat_sub_of_le _ _ (UInt16.le_iff_toNat_le.mpr (by omega)), hofNat]

/-- Once the byte has been delivered, the size passed to the callback covers
it. -/
theorem ControlTransfer.reportSize_of_latchOffset_lt {t : ControlTransfer}
    (h : t.latchOffset < t.header.wLength.toNat) {r : ReceivedReport}
    (hr : t.receivedReport = some r) : 2 ≤ r.reportSize.toNat := by
  obtain ⟨_, _, rfl⟩ := Option.map_eq_some_iff.mp hr
  simp only [ControlTransfer.latchOffset] at h
  rw [ControlTransfer.reportSize_toNat (by omega)]
  omega

/-- **The latch is safe from the stack exactly when the data stage reaches
it.**  For an accepted SET_REPORT of any type, ID and length, whose data stage
ended in whatever way: the output pins are driven with the host's data only,
whatever the stack holds, if and only if the data stage delivered the byte at
offset one of the report data. -/
theorem setReport_latches_host_data_iff (d : Device) (t : ControlTransfer)
    (hset : t.accepted = some .setReport)
    (hend : t.dataStage.outcome.isSome = true) :
    (∀ stack : Nat → UInt8, SetReportFaithful d { t with stack := stack }) ↔
      t.latchOffset < min t.header.wLength.toNat (payload t.polls).length := by
  have hnext : ∀ stack : Nat → UInt8,
      d.next (.controlRequest { t with stack := stack }) =
        { d with
          saved := t.deliveredByte.getD (stack t.latchOffset)
          ports := { d.ports with
            portD := t.deliveredByte.getD (stack t.latchOffset) } } := by
    intro stack
    have hout : Event.outputReport (.controlRequest { t with stack := stack }) =
        some { t with stack := stack } :=
      if_pos (ControlTransfer.accepted_setReport.mp hset)
    exact (congrArg Prod.fst (Device.step_outputReport hout d)).trans
      (setReport_eq (t := { t with stack := stack }) hend d)
  rw [← t.deliveredByte_isSome_iff]
  constructor
  · -- A stack byte that differs from `saved` can only be latched by mistake.
    intro hall
    apply Classical.byContradiction
    intro hnone
    have hmissing : t.deliveredByte = none := by
      cases hb : t.deliveredByte with
      | none => rfl
      | some b => exact absurd ⟨b, hb⟩ hnone
    obtain ⟨hlatch, _⟩ := hall (fun _ => d.saved + 1)
    rw [LatchesHostData, hnext, hmissing] at hlatch
    obtain ⟨hsaved, _⟩ | ⟨b, hb, _⟩ := hlatch
    · simp at hsaved
    · exact hnone ⟨b, hb⟩
  · rintro ⟨b, hb⟩ stack
    refine ⟨Or.inr ⟨b, hb, ?_⟩, ?_⟩
    · rw [hnext, hb]
      exact ⟨rfl, rfl⟩
    · intro r hr
      have hlt := t.deliveredByte_isSome_iff.mp ⟨b, hb⟩
      exact readsWithinReport_of_two_le
        (ControlTransfer.reportSize_of_latchOffset_lt
          (t := { t with stack := stack })
          (Nat.lt_of_lt_of_le hlt (Nat.min_le_left _ _)) hr) d

/-- With two bytes behind the ID the request is harmless. -/
theorem reportWithID_latches_host_data :
    reportWithID.accepted = some .setReport ∧
      reportWithID.dataStage.outcome.isSome = true ∧
      ∀ stack : Nat → UInt8,
        SetReportFaithful (mainBeforeLoop quietBoard)
          { reportWithID with stack := stack } :=
  ⟨by decide +kernel, by decide +kernel,
    (setReport_latches_host_data_iff (mainBeforeLoop quietBoard) reportWithID
      (by decide +kernel) (by decide +kernel)).mpr (by decide +kernel)⟩

/-- An output report of a single byte, received in full. -/
def oneByteReport : ControlTransfer where
  header :=
    { bmRequestType := hostToDeviceClassInterface, bRequest := 0x09
      wValue := 0x0200, wIndex := 0, wLength := 1 }
  polls := [{ outReceived := some [0xAA] }, { inReady := true }]
  stack := fun _ => 0x55

/-- The pins take on a byte of the stack, which the host never sent. -/
theorem oneByteReport_latches_stack :
    oneByteReport.accepted = some .setReport ∧
      ((mainBeforeLoop quietBoard).next
        (.controlRequest oneByteReport)).ports.portD = 0x55 ∧
      ¬ SetReportFaithful (mainBeforeLoop quietBoard) oneByteReport := by
  refine ⟨by decide +kernel, by decide +kernel, ?_⟩
  rintro ⟨⟨hkept, _⟩ | ⟨b, hb, _⟩, _⟩
  · exact absurd hkept (by decide +kernel)
  · have hnone : oneByteReport.deliveredByte = none := by decide +kernel
    rw [hnone] at hb
    cases hb

end AvrJoystick
