import AvrJoystick.Latch

/-!
# Writing through hidraw

What is assumed of the Linux hidraw layer.  Writing a buffer issues a
SET_REPORT for an output report whose ID is the first byte of the buffer.  ID
zero stands for "no report ID" and is not transmitted; any other ID is, as the
first byte of the data stage.

The device undoes this: it skips the first byte of the data stage when the
request names a report ID.  So the application is passed the buffer without
its first byte in both cases (`hidraw_framings_agree`).
-/

namespace AvrJoystick

/-- The data stage for a buffer. -/
def hidrawData : List UInt8 → List UInt8
  | [] => []
  | id :: data => if id = 0 then data else id :: data

/-- `HID_REPORT_ITEM_Out`. -/
def hidReportItemOut : UInt8 := 1

/-- The request for a buffer: SET_REPORT of the output report named by its
first byte. -/
def hidrawHeader (buffer : List UInt8) : USBRequestHeader where
  bmRequestType := hostToDeviceClassInterface
  bRequest := 0x09
  wValue := 0x0200 ||| (buffer.headD 0).toUInt16
  wIndex := interfaceIDJoystick.toUInt16
  wLength := UInt16.ofNat (hidrawData buffer).length

/-- The transfer is one complete request for the buffer. -/
structure ControlTransfer.Writes (t : ControlTransfer) (buffer : List UInt8) :
    Prop where
  header : t.header = hidrawHeader buffer
  setupReceived : t.setupReceived = true
  delivered : t.delivered = hidrawData buffer
  ended : t.dataStage.outcome = some .noError

/-- The low byte of the request's value is the report ID. -/
theorem outputReport_reportID (id : UInt8) :
    (0x0200 ||| id.toUInt16).toUInt8 = id := by
  have hlow : (0x0200 : UInt16).toUInt8 = 0 := by decide
  rw [UInt16.toUInt8_or, hlow, UInt8.zero_or, UInt8.toUInt8_toUInt16]

/-- The high byte is the report type. -/
theorem outputReport_reportType (id : UInt8) :
    (0x0200 ||| id.toUInt16) >>> 8 = 2 := by
  have hid : id.toNat >>> 8 = 0 := by
    rw [Nat.shiftRight_eq_div_pow]
    exact Nat.div_eq_of_lt id.toNat_lt
  apply UInt16.toNat_inj.mp
  simp [Nat.shiftRight_or_distrib, hid]

/-- The framing the device undoes: behind the report ID, if there is one, the
data stage is the buffer from its second byte on. -/
theorem hidrawData_drop (id : UInt8) (data : List UInt8) :
    (hidrawData (id :: data)).drop (if id = 0 then 0 else 1) = data := by
  by_cases hid : id = 0 <;> simp [hidrawData, hid]

theorem hidrawData_length (id : UInt8) (data : List UInt8) :
    (hidrawData (id :: data)).length =
      data.length + (if id = 0 then 0 else 1) := by
  by_cases hid : id = 0 <;> simp [hidrawData, hid]

namespace ControlTransfer

variable {t : ControlTransfer} {id : UInt8} {data : List UInt8}

theorem Writes.isSetReport (h : t.Writes (id :: data)) : t.IsSetReport := by
  rw [IsSetReport, h.header]
  exact ⟨h.setupReceived, rfl, rfl, rfl⟩

theorem Writes.reportID_eq (h : t.Writes (id :: data)) : t.reportID = id := by
  rw [reportID, h.header]
  exact outputReport_reportID id

theorem Writes.idBytes_eq (h : t.Writes (id :: data)) :
    t.idBytes = if id = 0 then 0 else 1 := by
  rw [idBytes, h.reportID_eq]

/-- What the application finds behind the pointer it is passed. -/
theorem Writes.memory_eq (h : t.Writes (id :: data)) {i : Nat}
    (hi : i < data.length) :
    t.memory (i + t.idBytes) = data.getD i 0 := by
  have hdata : (hidrawData (id :: data))[i + t.idBytes]? = data[i]? := by
    rw [h.idBytes_eq, Nat.add_comm, ← List.getElem?_drop, hidrawData_drop]
  rw [t.memory_eq, h.delivered, hdata, List.getD_eq_getElem?_getD,
    List.getElem?_eq_getElem hi]
  rfl

theorem Writes.reportSize_eq (h : t.Writes (id :: data))
    (hlength : data.length < 65535) :
    (t.header.wLength - UInt16.ofNat t.idBytes).toNat = data.length := by
  have hid := t.idBytes_le_one
  have hwLength : t.header.wLength.toNat = data.length + t.idBytes := by
    rw [h.header, h.idBytes_eq, ← hidrawData_length]
    simp only [hidrawHeader, UInt16.toNat_ofNat']
    apply Nat.mod_eq_of_lt
    rw [hidrawData_length, ← h.idBytes_eq]
    omega
  rw [reportSize_toNat (by omega), hwLength, Nat.add_sub_cancel]

/-- **What the application is passed**: the buffer without its first byte. -/
theorem Writes.receivedReport_eq (h : t.Writes (id :: data)) :
    t.receivedReport = some
      { reportID := id
        reportType := hidReportItemOut
        reportData := fun i => t.memory (i + t.idBytes)
        reportSize := t.header.wLength - UInt16.ofNat t.idBytes } := by
  have htype : t.reportType = hidReportItemOut := by
    rw [reportType, h.header]
    exact congrArg (·.toUInt8 - 1) (outputReport_reportType id)
  rw [receivedReport, h.ended, h.reportID_eq, htype]
  rfl

/-- A complete write latches the third byte of the buffer. -/
theorem Writes.step_eq (h : t.Writes (id :: data)) (hlength : 1 < data.length)
    (d : Device) :
    d.step (.controlRequest t) =
      ({ d with
          saved := data.getD 1 0
          ports := { d.ports with portD := data.getD 1 0 } }, []) := by
  have hout : Event.outputReport (.controlRequest t) = some t :=
    if_pos h.isSetReport
  rw [Device.step_outputReport hout, setReport, h.receivedReport_eq]
  simp only [callbackHIDDeviceProcessHIDReport, h.memory_eq hlength]

end ControlTransfer

/-- **The two framings agree.**  Whatever its first byte is, a complete write
of a buffer of at least three bytes passes the application the bytes behind
the first one, with their number as the size, and latches the third.  Buffers
that differ in the first byte only have the same effect on the device. -/
theorem hidraw_framings_agree (buffer : List UInt8)
    (hlow : 3 ≤ buffer.length) (hhigh : buffer.length ≤ 65535)
    (t : ControlTransfer) (ht : t.Writes buffer) (d : Device) :
    (∃ r, t.receivedReport = some r ∧
      r.reportID = buffer.getD 0 0 ∧ r.reportType = hidReportItemOut ∧
      r.reportSize.toNat = buffer.length - 1 ∧
      ∀ i < buffer.length - 1, r.reportData i = buffer.getD (i + 1) 0) ∧
    d.step (.controlRequest t) =
      ({ d with
          saved := buffer.getD 2 0
          ports := { d.ports with portD := buffer.getD 2 0 } }, []) ∧
    ∀ (id' : UInt8) (t' : ControlTransfer), t'.Writes (id' :: buffer.tail) →
      d.step (.controlRequest t') = d.step (.controlRequest t) := by
  cases buffer with
  | nil => simp at hlow
  | cons id data =>
      rw [List.length_cons] at hlow hhigh
      have hlength : 1 < data.length := by omega
      refine ⟨⟨_, ht.receivedReport_eq, rfl, rfl, ?_, ?_⟩, ?_, ?_⟩
      · exact ht.reportSize_eq (by omega)
      · intro i hi
        exact ht.memory_eq hi
      · exact ht.step_eq hlength d
      · intro id' t' ht'
        rw [ht.step_eq hlength d]
        exact ht'.step_eq hlength d

/-- One write of four bytes under report ID 7, in one packet. -/
def fourByteWrite : ControlTransfer where
  header := hidrawHeader [7, 1, 2, 3]
  polls := [{ outReceived := some [7, 1, 2, 3] }, { inReady := true }]
  stack := fun _ => 0

theorem fourByteWrite_writes : fourByteWrite.Writes [7, 1, 2, 3] where
  header := rfl
  setupReceived := rfl
  delivered := by decide +kernel
  ended := by decide +kernel

theorem hidraw_framings_agree_fourByteWrite :
    fourByteWrite.Writes [7, 1, 2, 3] ∧
      ((mainBeforeLoop quietBoard).next
        (.controlRequest fourByteWrite)).saved = 2 := by
  obtain ⟨_, hstep, _⟩ := hidraw_framings_agree [7, 1, 2, 3] (by decide)
    (by decide) fourByteWrite fourByteWrite_writes (mainBeforeLoop quietBoard)
  refine ⟨fourByteWrite_writes, ?_⟩
  rw [Device.next, hstep]
  rfl

end AvrJoystick
