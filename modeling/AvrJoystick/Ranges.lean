import AvrJoystick.HostApp

/-!
# The declared ranges of the exchanged values

The axes are declared to lie between -127 and 127.  The bytes the host sends
are declared with the bounds still in force from the buttons, zero and one.
The host writes the second byte of its counter, which is zero or one only in
the first 512 of every 65536 iterations; what it writes comes back as the Y
axis.  `exchanged_in_range_iff` says that these iterations are exactly the
ones in which a write may succeed without a value leaving its declared range.
-/

namespace AvrJoystick

/-- An axis is in range unless it holds the one signed byte below -127. -/
theorem axisField_inRange_iff (r : USBJoystickReportData) {i : Nat} (hi : i < 6) :
    (axisItem.field 0 i).InRange r.toBytes ↔ r.axes.getD i 0 ≠ -128 := by
  have hbounds : (axisItem.field 0 i).InRange r.toBytes ↔
      -127 ≤ (r.axes.getD i 0).toInt ∧ (r.axes.getD i 0).toInt ≤ 127 := by
    unfold Hid.Field.InRange
    rw [axisField_value r hi]
    rfl
  have hlow := (r.axes.getD i 0).le_toInt
  have hhigh := (r.axes.getD i 0).toInt_lt
  rw [hbounds, ne_eq, ← Int8.toInt_inj]
  show _ ↔ ¬ (r.axes.getD i 0).toInt = -128
  omega

theorem axisFields_inRange {r : USBJoystickReportData}
    (h : ∀ a ∈ r.axes, a ≠ -128) :
    ∀ f ∈ axisFields, f.InRange r.toBytes := by
  intro f hf
  rw [axisFields_eq, Hid.MainItem.mem_fields] at hf
  obtain ⟨i, hi, rfl⟩ := hf
  have hlength : i < r.axes.length := hi
  rw [axisField_inRange_iff r hi, List.getD_eq_getElem?_getD,
    List.getElem?_eq_getElem hlength]
  exact h _ (List.getElem_mem hlength)

/-- The host's data is in range when every byte is zero or one. -/
theorem outputFields_inRange_iff (data : List UInt8) :
    (∀ f ∈ outputFields, f.InRange data) ↔
      ∀ i < 64, (data.getD i 0).toNat ≤ 1 := by
  have hfield : ∀ i, (hostOutItem.field 0 i).InRange data ↔
      (data.getD i 0).toNat ≤ 1 := by
    intro i
    have hoffset : (hostOutItem.field 0 i).bitOffset = 8 * i := by
      simp [Hid.MainItem.field, hostOutItem]
    unfold Hid.Field.InRange
    rw [Hid.Field.value_unsignedByte (Int.le_refl 0) hoffset rfl]
    show (0 : Int) ≤ _ ∧ _ ≤ (1 : Int) ↔ _
    omega
  rw [outputFields_eq]
  constructor
  · intro h i hi
    exact (hfield i).mp (h _ (Hid.MainItem.mem_fields.mpr ⟨i, hi, rfl⟩))
  · intro h f hf
    obtain ⟨i, hi, rfl⟩ := Hid.MainItem.mem_fields.mp hf
    exact (hfield i).mpr (h i hi)

/-- The second byte of the counter. -/
theorem iterationByte_toNat (k : Nat) :
    (iterationByte k).toNat = k / 256 % 256 := by
  have hmask : (k % 2 ^ 32 &&& 0xFF00) >>> 8 = k % 2 ^ 32 / 256 % 256 := by
    rw [Nat.shiftRight_and_distrib, Nat.shiftRight_eq_div_pow]
    exact Nat.and_two_pow_sub_one_eq_mod (k % 2 ^ 32 / 2 ^ 8) 8
  rw [iterationByte, UInt8.toNat_ofNat', hmask]
  omega

theorem iterationByte_le_one_iff (k : Nat) :
    (iterationByte k).toNat ≤ 1 ↔ k % 65536 < 512 := by
  rw [iterationByte_toNat]
  omega

/-- The data of a write is in range in the first 512 of every 65536
iterations. -/
theorem hostBuffer_inRange_iff (k : Nat) :
    (∀ f ∈ outputFields, f.InRange ((hostBuffer (UInt32.ofNat k)).drop 1)) ↔
      k % 65536 < 512 := by
  have hdata : (hostBuffer (UInt32.ofNat k)).drop 1 =
      List.replicate 31 (iterationByte k) := by
    rw [hostBuffer_eq, hostByte_ofNat]
    rfl
  rw [outputFields_inRange_iff, hdata, ← iterationByte_le_one_iff]
  constructor
  · intro h
    simpa using h 0 (by decide)
  · intro h i _
    rw [List.getD_eq_getElem?_getD, List.getElem?_replicate]
    split
    · exact h
    · exact Nat.zero_le 1

/-- An input report, on either path. -/
def Observation.inputReport : Observation → Option (List UInt8)
  | .inReport report => some report
  | .controlReport report => some report
  | _ => none

/-- Every axis value the device has reported and every data byte the host has
written, its report ID aside, lies between the declared bounds. -/
def System.AllInRange (s : System) : Prop :=
  (∀ report ∈ s.observed.log.filterMap Observation.inputReport,
    ∀ f ∈ axisFields, f.InRange report) ∧
  ∀ w ∈ s.writes, ∀ f ∈ outputFields, f.InRange (w.data.drop 1)

/-- A step of the device reports nothing but the report of the moment. -/
theorem Device.step_inputReport {d : Device} (hbank : d.BankEmpty) (e : Event) :
    ∀ report ∈ (d.step e).2.filterMap Observation.inputReport,
      report = d.currentReport.toBytes := by
  cases e with
  | usbTask t =>
      show ∀ report ∈ (hidDeviceUSBTask d t).2.filterMap _, _
      by_cases hsends : d.Sends t
      · rw [hidDeviceUSBTask_of_sends hsends hbank]
        simp [Observation.inputReport]
      · rw [hidDeviceUSBTask_silent hsends]
        simp
  | controlRequest t =>
      obtain ⟨packets, hpackets⟩ :=
        hidDeviceProcessControlRequest_observations d t
      show ∀ report ∈ (hidDeviceProcessControlRequest d t).2.filterMap _, _
      rw [hpackets]
      split <;> simp [Observation.inputReport]
  | endpointHalt halted => cases halted <;> exact List.forall_mem_nil _
  | _ => exact List.forall_mem_nil _

/-- The bookkeeping behind the ranges: the data of every write is that of its
iteration, and every report shows the byte of iteration zero or of a
successful write. -/
structure System.Exchanges (s : System) : Prop where
  follows : ∃ c, s.Follows c
  mask : s.observed.device.mask = 0xFF
  written : ∀ w ∈ s.writes, w.data = hostBuffer (UInt32.ofNat w.iteration)
  reported : ∀ report ∈ s.observed.log.filterMap Observation.inputReport,
    ∃ (r : USBJoystickReportData) (k : Nat), report = r.toBytes ∧
      r.axes = [-1, (iterationByte k).toInt8, 0, 0, 0, 0] ∧
      (k = 0 ∨ ∃ w ∈ s.writes, w.iteration = k)

namespace System.Exchanges

variable {s s' : System}

/-- Steps that touch neither the device nor the writes. -/
theorem congr (h : s.Exchanges) (hfollows : ∃ c, s'.Follows c)
    (hobserved : s'.observed = s.observed) (hwrites : s'.writes = s.writes) :
    s'.Exchanges where
  follows := hfollows
  mask := hobserved ▸ h.mask
  written := hwrites ▸ h.written
  reported := hobserved ▸ hwrites ▸ h.reported

/-- A successful write adds its own data and no report. -/
theorem hostWrite_succeeds (h : s.Exchanges) {wire : Wire}
    (hread : s.host.hasRead = true)
    (hwire : wire.Completes (hostBuffer s.host.next.count)) :
    (s.hostWrite wire).Exchanges := by
  obtain ⟨c, hc⟩ := h.follows
  have hstep := hc.hostWrite_step hwire
  have hwrite : s.hostWrite wire =
      { s with
        observed := s.observed.step
          (.controlRequest (wire.transfer (hostBuffer s.host.next.count)))
        host := s.host.next
        writes := s.writes ++
          [⟨s.host.next.iteration, hostBuffer s.host.next.count⟩] } := by
    simp [System.hostWrite, hread, hwire]
  have hlog : (s.hostWrite wire).observed.log = s.observed.log := by
    simp [hwrite, Observed.step, hstep]
  have hwrites : (s.hostWrite wire).writes = s.writes ++
      [⟨s.host.next.iteration, hostBuffer s.host.next.count⟩] := by
    rw [hwrite]
  refine ⟨hc.step (.hostWrite wire), ?_, ?_, ?_⟩
  · rw [hwrite]
    exact (Device.step_mask _ _).trans h.mask
  · rw [hwrites]
    intro w hw
    rcases List.mem_append.mp hw with hold | hnew
    · exact h.written w hold
    · rw [List.mem_singleton.mp hnew]
      exact congrArg hostBuffer hc.next_count
  · rw [hlog, hwrites]
    intro report hreport
    obtain ⟨r, k, hr, haxes, hk⟩ := h.reported report hreport
    refine ⟨r, k, hr, haxes, hk.imp_right ?_⟩
    rintro ⟨w, hw, hwk⟩
    exact ⟨w, List.mem_append_left _ hw, hwk⟩

/-- A step of the device reports the byte it has latched. -/
theorem deviceStep (h : s.Exchanges) {e : Event} (he : e.outputReport = none) :
    (s.deviceStep e).Exchanges := by
  obtain ⟨c, hc⟩ := h.follows
  have hdevice : (s.deviceStep e).observed = s.observed.step e ∧
      (s.deviceStep e).writes = s.writes := by
    simp [System.deviceStep, he]
  refine ⟨⟨_, hc.deviceStep he⟩, ?_, ?_, ?_⟩
  · rw [hdevice.1]
    exact (Device.step_mask _ _).trans h.mask
  · rw [hdevice.2]
    exact h.written
  · rw [hdevice.1, hdevice.2, Observed.step, List.filterMap_append]
    intro report hreport
    rcases List.mem_append.mp hreport with hold | hnew
    · exact h.reported report hold
    · refine ⟨s.observed.device.currentReport, c.now,
        Device.step_inputReport hc.bankEmpty e report hnew, ?_,
        hc.genuine c.now (List.mem_append_right _ List.mem_cons_self)⟩
      rw [← hc.saved]
      simp [USBJoystickReportData.axes, Device.currentReport, h.mask,
        USBJoystickReportData.cleared]

theorem step (h : s.Exchanges) (e : SystemEvent) : (s.step e).Exchanges := by
  obtain ⟨c, hc⟩ := h.follows
  cases e with
  | hostRead =>
      have hkeep : s.hostRead.observed = s.observed ∧
          s.hostRead.writes = s.writes := by
        unfold System.hostRead
        split <;> exact ⟨rfl, rfl⟩
      exact h.congr (hc.step .hostRead) hkeep.1 hkeep.2
  | hostWrite wire =>
      by_cases hdone : s.host.hasRead = true ∧
          wire.Completes (hostBuffer s.host.next.count)
      · exact h.hostWrite_succeeds hdone.1 hdone.2
      · have hkeep : (s.hostWrite wire).observed = s.observed ∧
            (s.hostWrite wire).writes = s.writes := by
          unfold System.hostWrite
          split
          · rw [if_neg (fun hwire => hdone ⟨‹_›, hwire⟩)]
            exact ⟨rfl, rfl⟩
          · exact ⟨rfl, rfl⟩
        exact h.congr (hc.step (.hostWrite wire)) hkeep.1 hkeep.2
  | device e =>
      by_cases he : e.outputReport = none
      · exact h.deviceStep he
      · have hkeep : s.step (.device e) = s := if_neg he
        rw [hkeep]
        exact h
  | lose i => exact h.congr (hc.step (.lose i)) rfl rfl

end System.Exchanges

theorem System.after_exchanges (ports : Ports) (es : List SystemEvent) :
    (System.after ports es).Exchanges :=
  Runs.run_invariant System.Exchanges (fun _ e h => h.step e)
    { follows := ⟨_, System.start_follows ports⟩
      mask := rfl
      written := List.forall_mem_nil _
      reported := List.forall_mem_nil _ } es

/-- **When every exchanged value is in its declared range.**  After any run of
the main loop against the device, all axis values reported and all data bytes
written lie between their Logical Minimum and Maximum exactly when every
successful write happened in one of the first 512 of every 65536
iterations. -/
theorem exchanged_in_range_iff (ports : Ports) (es : List SystemEvent) :
    (System.after ports es).AllInRange ↔
      ∀ w ∈ (System.after ports es).writes, w.iteration % 65536 < 512 := by
  have h := System.after_exchanges ports es
  have hwritten : ∀ w ∈ (System.after ports es).writes,
      ((∀ f ∈ outputFields, f.InRange (w.data.drop 1)) ↔
        w.iteration % 65536 < 512) := by
    intro w hw
    rw [h.written w hw]
    exact hostBuffer_inRange_iff w.iteration
  constructor
  · intro hall w hw
    exact (hwritten w hw).mp (hall.2 w hw)
  · intro hearly
    refine ⟨?_, fun w hw => (hwritten w hw).mpr (hearly w hw)⟩
    -- The latch only ever held bytes that are themselves in range.
    intro report hreport
    obtain ⟨r, k, rfl, haxes, hk⟩ := h.reported report hreport
    have hbyte : (iterationByte k).toNat ≤ 1 := by
      rw [iterationByte_le_one_iff]
      rcases hk with rfl | ⟨w, hw, rfl⟩
      · decide
      · exact hearly w hw
    have hsmall : iterationByte k = 0 ∨ iterationByte k = 1 := by
      simp only [← UInt8.toNat_inj, UInt8.toNat_zero, UInt8.toNat_one]
      omega
    apply axisFields_inRange
    rw [haxes]
    rcases hsmall with hzero | hone
    · rw [hzero]
      decide +kernel
    · rw [hone]
      decide +kernel

/-- An iteration whose write does not reach the device. -/
def failingIteration : List SystemEvent :=
  [.hostRead, .hostWrite ⟨[], fun _ => 0⟩]

/-- Nothing on the wire, nothing written. -/
theorem not_completes_of_silence (stack : Nat → UInt8) (buffer : List UInt8) :
    ¬ Wire.Completes ⟨[], stack⟩ buffer := by
  rintro ⟨_, hended⟩
  rw [ControlTransfer.dataStage, Wire.transfer] at hended
  cases hlength : (hidrawHeader buffer).wLength.toNat with
  | zero =>
      rw [hlength] at hended
      cases hended
  | succ length =>
      rw [hlength] at hended
      cases hended

/-- With no report to read, failing iterations only count. -/
theorem run_failingIterations (n : Nat) {s : System} (hqueue : s.queue = [])
    (hhost : s.host.hasRead = false) :
    Runs.run System.step s (List.replicate n failingIteration).flatten =
      { s with
        host := { iteration := s.host.iteration + n
                  count := s.host.count + UInt32.ofNat n } } := by
  induction n generalizing s with
  | zero =>
      obtain ⟨observed, ⟨iteration, count, hasRead⟩, queue, reads, writes⟩ := s
      cases hhost
      simp
  | succ n ih =>
      have hfirst : Runs.run System.step s failingIteration =
          { s with host := s.host.next } := by
        simp [failingIteration, System.step, System.hostRead, System.hostWrite,
          Host.next, hqueue, hhost, not_completes_of_silence]
      have hrest := @ih { s with host := s.host.next } hqueue rfl
      have hiteration : s.host.iteration + 1 + n = s.host.iteration + (n + 1) := by
        omega
      have hcount : s.host.count + 1 + UInt32.ofNat n =
          s.host.count + UInt32.ofNat (n + 1) := by
        rw [Nat.add_comm n 1, UInt32.ofNat_add, UInt32.add_assoc]
        rfl
      rw [List.replicate_succ, List.flatten_cons, Runs.run_append, hfirst, hrest]
      simp only [Host.next, hiteration, hcount]

/-- The first write to get through is that of iteration 512. -/
def lateWrite : List SystemEvent :=
  (List.replicate 511 failingIteration).flatten ++
    [.hostRead, .hostWrite (fourPackets 2)]

/-- It sends twos where only zero and one are declared. -/
theorem lateWrite_out_of_range :
    ¬ (System.after quietBoard lateWrite).AllInRange := by
  have hwrites : (System.after quietBoard lateWrite).writes.map
      Transaction.iteration = [512] := by
    rw [System.after, lateWrite, Runs.run_append,
      run_failingIterations 511 rfl rfl]
    decide +kernel
  obtain ⟨w, hw, hiteration⟩ : ∃ w ∈ (System.after quietBoard lateWrite).writes,
      w.iteration = 512 :=
    List.mem_map.mp (hwrites ▸ List.mem_cons_self)
  intro hall
  have hrange := hall.2 w hw
  rw [(System.after_exchanges quietBoard lateWrite).written w hw, hiteration,
    hostBuffer_inRange_iff] at hrange
  exact absurd hrange (by decide)

end AvrJoystick
