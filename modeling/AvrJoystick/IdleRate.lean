import AvrJoystick.DeviceSteps
import AvrJoystick.MainActions

/-!
# The idle rate

The host sets how often the device repeats a report that has not changed.  What
the rate is for is said by a `Pacer`: it counts the milliseconds since the last
report, and remembers the rate in force when that report went out.

The class driver counts down instead, from the rate to zero, and starts over
with every report.  Its two variables follow the pacer along every run
(`Paced.step`), so that in every run a report goes out exactly when it has
changed or the pacer says that it is due (`idle_rate_paces_reports`).  A new rate
does not shorten the period that has begun: it counts from the next report on.
When the device is configured the rate becomes half a second and the countdown is
cleared, so that a report is due at once, whenever the last one went out.
-/

namespace AvrJoystick

/-- The rate the host has set, the rate in force when the last report went out,
and the milliseconds since then.  A rate of zero repeats nothing. -/
structure Pacer where
  rate : Nat := 0
  period : Nat := 0
  age : Nat := 0

namespace Pacer

/-- A report is to be repeated. -/
def Due (p : Pacer) : Prop := p.rate ≠ 0 ∧ p.period ≤ p.age

instance (p : Pacer) : Decidable p.Due := by
  unfold Due; infer_instance

/-- A millisecond has passed. -/
def tick (p : Pacer) : Pacer := { p with age := p.age + 1 }

/-- A report has gone out: the period begins, at the rate of now. -/
def reported (p : Pacer) : Pacer := { p with period := p.rate, age := 0 }

/-- A new rate, which leaves the period that has begun as it is. -/
def setRate (p : Pacer) (rate : Nat) : Pacer := { p with rate := rate }

/-- Half a second, and the first report at once. -/
def configured : Pacer := { rate := 500 }

end Pacer

/-- The rate that a SET_IDLE asks for, in milliseconds. -/
def ControlTransfer.idleRate (t : ControlTransfer) : Option Nat :=
  if t.accepted = some .setIdle ∧ statusStageCleared false t.polls = true then
    some (t.header.wValue.toNat / 256 * 4)
  else none

/-- A report has been handed to the interrupt endpoint. -/
def Observation.isReport : Observation → Bool
  | .inReport _ => true
  | _ => false

/-- What an event means for the pace, given what was seen of it. -/
def Pacer.next (p : Pacer) (e : Event) (seen : List Observation) : Pacer :=
  if seen.any Observation.isReport then p.reported
  else
    match e with
    | .startOfFrame => p.tick
    | .configurationChanged _ => .configured
    | .controlRequest t => t.idleRate.elim p p.setRate
    | _ => p

/-- A device and the pace it should keep. -/
structure PacedDevice where
  device : Device
  pacer : Pacer

/-- One event, for the device and for its pace. -/
def PacedDevice.step (s : PacedDevice) (e : Event) : PacedDevice :=
  ⟨s.device.next e, s.pacer.next e (s.device.step e).2⟩

/-- The countdown has come as far as the pacer has counted. -/
structure Paced (d : Device) (p : Pacer) : Prop where
  rate : d.hid.idleCount.toNat = p.rate
  remaining : d.hid.idleMSRemaining.toNat = p.period - p.age

section Paced

variable {d : Device} {p : Pacer}

/-- The driver's test is the pacer's. -/
theorem Paced.due_iff (h : Paced d p) : d.idlePeriodElapsed = true ↔ p.Due := by
  have hrate : d.hid.idleCount ≠ 0 ↔ p.rate ≠ 0 := by
    rw [← h.rate]
    exact not_congr UInt16.toNat_inj.symm
  have hzero : d.hid.idleMSRemaining = 0 ↔ p.period ≤ p.age := by
    rw [← UInt16.toNat_inj, h.remaining]
    exact Nat.sub_eq_zero_iff_le
  simp [Device.idlePeriodElapsed, Pacer.Due, hrate, hzero]

/-- A frame starts. -/
theorem Paced.tick (h : Paced d p) : Paced (hidDeviceMillisecondElapsed d) p.tick := by
  have hremaining := h.remaining
  unfold hidDeviceMillisecondElapsed
  split
  · next hpos =>
      refine ⟨h.rate, ?_⟩
      have hone : (1 : UInt16) ≤ d.hid.idleMSRemaining := by
        rw [UInt16.le_iff_toNat_le]
        have hne : d.hid.idleMSRemaining.toNat ≠ 0 := fun h0 => hpos (UInt16.toNat_inj.mp h0)
        show 1 ≤ _
        omega
      show (d.hid.idleMSRemaining - 1).toNat = p.period - (p.age + 1)
      rw [UInt16.toNat_sub_of_le _ _ hone, hremaining]
      show p.period - p.age - 1 = _
      omega
  · next hzero =>
      refine ⟨h.rate, ?_⟩
      rw [not_not] at hzero
      rw [hzero] at hremaining ⊢
      show 0 = p.period - (p.age + 1)
      have hpassed : 0 = p.period - p.age := hremaining
      omega

/-- Control requests show nothing on the interrupt endpoint. -/
theorem controlRequest_no_report (d : Device) (t : ControlTransfer) :
    (hidDeviceProcessControlRequest d t).2.any Observation.isReport = false := by
  obtain ⟨packets, hseen⟩ := hidDeviceProcessControlRequest_observations d t
  rw [hseen]
  split <;> simp [Observation.isReport]

/-- Only a SET_IDLE changes the rate, and none starts a period. -/
theorem Paced.controlRequest (h : Paced d p) (t : ControlTransfer) :
    Paced (hidDeviceProcessControlRequest d t).1 (t.idleRate.elim p p.setRate) := by
  unfold ControlTransfer.idleRate
  split
  · next hset =>
      have hstep := congrArg Prod.fst (Device.step_setIdle hset.1 hset.2 d)
      have hdevice : (hidDeviceProcessControlRequest d t).1 = { d with
          hid := { d.hid with idleCount := (t.header.wValue &&& 0xFF00) >>> 6 } } := hstep
      rw [hdevice]
      exact ⟨Firmware.idleCount_toNat t.header.wValue, h.remaining⟩
  · next hnot =>
      rcases hidDeviceProcessControlRequest_device d t with
        hsame | ⟨_, hdevice⟩ | ⟨_, _, hdevice⟩ | ⟨_, _, hdevice⟩ | ⟨haccepted, hcleared, _⟩
      · rw [hsame]
        exact h
      · rw [hdevice]
        exact ⟨h.rate, h.remaining⟩
      · rw [hdevice]
        exact ⟨h.rate, h.remaining⟩
      · rw [hdevice]
        exact ⟨h.rate, h.remaining⟩
      · exact absurd ⟨haccepted, hcleared⟩ hnot

/-- The task starts a period with every report. -/
theorem Paced.usbTask (h : Paced d p) (t : TaskCall) :
    Paced (hidDeviceUSBTask d t).1 (p.next (.usbTask t) (hidDeviceUSBTask d t).2) := by
  by_cases hreach : d.ReachesSendDecision t
  · by_cases hsend : d.HasReportToSend
    · rw [hidDeviceUSBTask_of_reaches hreach, if_pos hsend]
      exact ⟨h.rate, h.rate⟩
    · rw [hidDeviceUSBTask_of_quiet hreach hsend]
      exact ⟨h.rate, h.remaining⟩
  · rw [hidDeviceUSBTask_of_not_reaches hreach]
    exact h

/-- The countdown follows the pacer at every step. -/
theorem Paced.step (h : Paced d p) (e : Event) :
    Paced (d.next e) (p.next e (d.step e).2) := by
  cases e with
  | connect => exact ⟨h.rate, h.remaining⟩
  | disconnect => exact ⟨h.rate, h.remaining⟩
  | stateChange state => exact ⟨h.rate, h.remaining⟩
  | busReset => exact ⟨h.rate, h.remaining⟩
  | endpointHalt halted => cases halted <;> exact ⟨h.rate, h.remaining⟩
  | configurationChanged configOk => exact ⟨rfl, rfl⟩
  | controlRequest t =>
      have hseen := controlRequest_no_report d t
      show Paced (hidDeviceProcessControlRequest d t).1
        (p.next (.controlRequest t) (hidDeviceProcessControlRequest d t).2)
      rw [Pacer.next, hseen]
      exact h.controlRequest t
  | startOfFrame => exact h.tick
  | usbTask t => exact h.usbTask t
  | inToken => exact ⟨h.rate, h.remaining⟩
  | pinB level => exact ⟨h.rate, h.remaining⟩

end Paced

/-- The device when the main loop begins, before any rate is set. -/
def PacedDevice.started (ports : Ports) : PacedDevice := ⟨mainBeforeLoop ports, {}⟩

/-- **Reports keep the idle rate.**  After every run the task puts out the report of
the moment, as one packet, if it gets to decide and the report has changed since the
last one or is due: as many milliseconds have passed since the last report as the
rate in force then says, or none since the device was configured, and the rate in
force now is not zero.  In all other cases it puts out nothing. -/
theorem idle_rate_paces_reports (ports : Ports) (es : List Event) (call : TaskCall) :
    let s := Runs.run PacedDevice.step (.started ports) es
    (hidDeviceUSBTask s.device call).2 =
      if s.device.ReachesSendDecision call ∧
          (s.device.currentReport.toBuffer ≠ s.device.prevReportINBuffer ∨ s.pacer.Due) then
        [.inReport s.device.currentReport.toBytes, .inPacket s.device.currentReport.toBytes]
      else [] := by
  intro s
  have hs : Paced s.device s.pacer ∧ s.device.BankEmpty := by
    refine Runs.run_invariant (fun s : PacedDevice => Paced s.device s.pacer ∧ s.device.BankEmpty)
      ?_ ⟨⟨rfl, rfl⟩, mainBeforeLoop_bankEmpty ports⟩ es
    intro s e h
    exact ⟨h.1.step e, Device.step_bankEmpty h.2 e⟩
  have hsends : s.device.Sends call ↔ s.device.ReachesSendDecision call ∧
      (s.device.currentReport.toBuffer ≠ s.device.prevReportINBuffer ∨ s.pacer.Due) :=
    and_congr_right fun _ => or_congr_right hs.1.due_iff
  by_cases hsend : s.device.Sends call
  · rw [if_pos (hsends.mp hsend), hidDeviceUSBTask_of_sends hsend hs.2]
  · rw [if_neg (fun h => hsend (hsends.mpr h)), hidDeviceUSBTask_silent hsend]

end AvrJoystick
