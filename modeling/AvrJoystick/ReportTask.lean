import AvrJoystick.Transmit
import AvrJoystick.EndpointMemory
import AvrJoystick.FirmwareInvariants

/-!
# The report task takes effect at one moment

In the step system of the device a call of `HID_Device_USBTask` is one step.
In the firmware it is a sequence of actions, and between any two of them input
pins may change, frames may start, which the handler counts for the idle rate,
the host may collect a packet, and the bus may be connected, disconnected,
suspended or resumed.

Still, every completed call amounts to one step (`report_task_is_one_step`).
The task looks at the state of the bus, the frame number, the endpoint, the pins
and the idle timer one after the other.  What happens to one of them after the
task has looked can be taken to happen after the step, everything else before
it.  The order on each of them stays the same.  So whatever is known about runs
of the step system also holds for calls that are interrupted.
-/

namespace AvrJoystick

open Interleave Relation Streams

/-- An endpoint with other bytes in its bank. -/
def INEndpoint.withBank (ep : INEndpoint) (bank : List UInt8) : INEndpoint :=
  { ep with bank := bank }

/-- When an endpoint takes data. -/
theorem INEndpoint.isReadWriteAllowed_iff {ep : INEndpoint} :
    ep.isReadWriteAllowed = true ↔
      ep.isConfigured = true ∧ ep.isStalled = false ∧ ep.busy = false ∧
        ep.bank.length < joystickINEPSize := by
  simp [INEndpoint.isReadWriteAllowed, and_assoc]

/-- It goes on taking data as long as there is room. -/
theorem INEndpoint.isReadWriteAllowed_withBank {ep : INEndpoint} {bank : List UInt8}
    (h : ep.isReadWriteAllowed = true) (hroom : bank.length < joystickINEPSize) :
    (ep.withBank bank).isReadWriteAllowed = true := by
  obtain ⟨hconfigured, hstalled, hbusy, _⟩ := INEndpoint.isReadWriteAllowed_iff.mp h
  exact INEndpoint.isReadWriteAllowed_iff.mpr ⟨hconfigured, hstalled, hbusy, hroom⟩

namespace Clocked

/-- The comparison buffer is overwritten. -/
def withPrevReport (c : Clocked) (data : ReportBuffer) : Clocked :=
  { c with device := { c.device with prevReportINBuffer := data } }

/-- The frame number of the last call is overwritten. -/
def withPrevFrame (c : Clocked) (frame : UInt16) : Clocked :=
  { c with device := { c.device with hid := { c.device.hid with prevFrameNum := frame } } }

/-- The idle period starts over. -/
def reloaded (c : Clocked) : Clocked :=
  { c with device := { c.device with
      hid := { c.device.hid with idleMSRemaining := c.device.hid.idleCount } } }

/-- Something is done to the report endpoint. -/
def onEndpoint (c : Clocked) (f : INEndpoint → INEndpoint) : Clocked :=
  { c with device := { c.device with endpoint := f c.device.endpoint } }

/-- The report is on its way out: all is done but for the frame number. -/
def handedOver (c : Clocked) (data : ReportBuffer) (f : INEndpoint → INEndpoint) : Clocked :=
  ((c.withPrevReport data).reloaded).onEndpoint f

variable {c : Clocked} {o : Outside}

/-- Nothing is done to it. -/
theorem onEndpoint_same {f : INEndpoint → INEndpoint}
    (h : f c.device.endpoint = c.device.endpoint) : c.onEndpoint f = c := by
  rw [onEndpoint, h]

/-- The surroundings do not look at the comparison buffer. -/
theorem withPrevReport_outside (data : ReportBuffer) :
    (c.outside o).withPrevReport data = (c.withPrevReport data).outside o := by
  simp only [outside_eq]
  cases o <;> rfl

/-- Nor at the frame number of the last call. -/
theorem withPrevFrame_outside (frame : UInt16) :
    (c.outside o).withPrevFrame frame = (c.withPrevFrame frame).outside o := by
  simp only [outside_eq]
  cases o <;> rfl

/-- Only time does to the idle period. -/
theorem reloaded_outside (h : o.channel ≠ .time) :
    (c.outside o).reloaded = c.reloaded.outside o := by
  simp only [outside_eq]
  cases o <;> first | rfl | exact absurd rfl h

/-- Only the host does to the report endpoint. -/
theorem onEndpoint_outside_of_ne {f : INEndpoint → INEndpoint} (h : o.channel ≠ .pipe) :
    (c.outside o).onEndpoint f = (c.onEndpoint f).outside o := by
  simp only [outside_eq]
  cases o <;> first | rfl | exact absurd rfl h

/-- As long as the bank is free, the host leaves the report endpoint alone. -/
theorem onEndpoint_outside {f : INEndpoint → INEndpoint} (hfree : c.device.endpoint.busy = false)
    (hf : (f c.device.endpoint).busy = false) :
    (c.outside o).onEndpoint f = (c.onEndpoint f).outside o := by
  cases o with
  | inToken =>
      -- an IN token finds no packet to collect
      have hbefore : ({ c.device.endpoint with busy := false } : INEndpoint) =
          c.device.endpoint := by rw [← hfree]
      have hafter : ({ f c.device.endpoint with busy := false } : INEndpoint) =
          f c.device.endpoint := by rw [← hf]
      simp only [outside_eq, onEndpoint]
      rw [hbefore, hafter]
  | _ =>
      simp only [outside_eq]
      rfl

end Clocked

/-- The task reaches its send decision, with an empty bank. -/
structure Ready (c : Clocked) : Prop where
  state : c.device.usbDeviceState = .configured
  frame : c.device.hid.prevFrameNum ≠ c.frame
  allowed : c.device.endpoint.isReadWriteAllowed = true
  empty : c.device.endpoint.bank = []

/-- The task reaches its decision with this report, and the report is due. -/
structure Sending (report : USBJoystickReportData) (c : Clocked) : Prop extends Ready c where
  report : c.device.currentReport = report
  due : c.device.HasReportToSend

/-- The task reaches its decision with this report, and there is nothing to send. -/
structure Silent (report : USBJoystickReportData) (c : Clocked) : Prop extends Ready c where
  report : c.device.currentReport = report
  quiet : ¬ c.device.HasReportToSend

section Ready

variable {c : Clocked} {o : Outside} {report : USBJoystickReportData}

/-- The bank is free. -/
theorem Ready.free (h : Ready c) : c.device.endpoint.busy = false :=
  (INEndpoint.isReadWriteAllowed_iff.mp h.allowed).2.2.1

/-- The step of the task gets to its decision. -/
theorem Ready.reaches (h : Ready c) (last : UInt16) :
    c.device.ReachesSendDecision ⟨c.frame, last, []⟩ :=
  ⟨h.state, h.frame, h.allowed⟩

/-- Once the state and the frame have been looked at, the decision is reached. -/
theorem Ready.outside (h : Ready c) (hbus : o.channel ≠ .bus) (hframes : o.channel ≠ .frames) :
    Ready (c.outside o) where
  state := (outside_usbDeviceState hbus).trans h.state
  frame := by
    rw [outside_hid.1, outside_frame hframes]
    exact h.frame
  allowed := by
    rw [outside_endpoint_free h.free]
    exact h.allowed
  empty := by
    rw [outside_endpoint_free h.free]
    exact h.empty

/-- A report that is due stays due. -/
theorem hasReportToSend_outside (hpins : o.channel ≠ .pins) (h : c.device.HasReportToSend) :
    (c.outside o).device.HasReportToSend := by
  rcases h with hchanged | helapsed
  · left
    rw [outside_currentReport hpins, outside_prevReportINBuffer]
    exact hchanged
  · right
    by_cases htime : o.channel = .time
    · -- the timer has run down and stays there
      obtain rfl : o = .startOfFrame := by cases o <;> first | rfl | cases htime
      simp only [Device.idlePeriodElapsed, Bool.and_eq_true, decide_eq_true_eq] at helapsed ⊢
      rw [Clocked.outside_eq]
      refine ⟨helapsed.1, ?_⟩
      show countdown c.device.hid.idleMSRemaining = 0
      rw [helapsed.2]
      rfl
    · rw [Device.idlePeriodElapsed, outside_hid.2, outside_idleMSRemaining htime]
      exact helapsed

/-- A task that is going to send is going to send. -/
theorem Sending.outside (h : Sending report c) (hbus : o.channel ≠ .bus)
    (hframes : o.channel ≠ .frames) (hpins : o.channel ≠ .pins) :
    Sending report (c.outside o) :=
  { Ready.outside h.toReady hbus hframes with
    report := (outside_currentReport hpins).trans h.report
    due := hasReportToSend_outside hpins h.due }

/-- One that is not does not become so but by time. -/
theorem hasReportToSend_outside_iff (hpins : o.channel ≠ .pins) (htime : o.channel ≠ .time) :
    (c.outside o).device.HasReportToSend ↔ c.device.HasReportToSend := by
  rw [Device.HasReportToSend, Device.HasReportToSend, outside_currentReport hpins,
    outside_prevReportINBuffer, Device.idlePeriodElapsed, Device.idlePeriodElapsed,
    outside_hid.2, outside_idleMSRemaining htime]

end Ready

/-- Stages of the task.  In each of them the task has looked at some channels and
done something to the device. -/
abbrev TaskStage := surroundings.Stage

namespace TaskStage

/-- The task has been called. -/
def entry : TaskStage where
  later _ := False
  holds _ := True
  effect c := c
  keeps _ _ _ _ := trivial
  commutes _ _ _ _ := rfl

/-- The device was found configured. -/
def configured : TaskStage where
  later k := k = .bus
  holds c := c.device.usbDeviceState = .configured
  effect c := c
  keeps _ _ hbus h := (outside_usbDeviceState hbus).trans h
  commutes _ _ _ _ := rfl

/-- The frame was found to be a new one. -/
def newFrame : TaskStage where
  later k := k = .bus ∨ k = .frames
  holds c := c.device.usbDeviceState = .configured ∧ c.device.hid.prevFrameNum ≠ c.frame
  effect c := c
  keeps _ _ hlater h := by
    refine ⟨(outside_usbDeviceState (not_or.mp hlater).1).trans h.1, ?_⟩
    show (Clocked.outside _ _).device.hid.prevFrameNum ≠ _
    rw [outside_hid.1]
    exact (outside_frame (not_or.mp hlater).2).symm ▸ h.2
  commutes _ _ _ _ := rfl

/-- The endpoint was found to take data. -/
def ready : TaskStage where
  later k := k = .bus ∨ k = .frames
  holds := Ready
  effect c := c
  keeps _ _ hlater h := h.outside (not_or.mp hlater).1 (not_or.mp hlater).2
  commutes _ _ _ _ := rfl

/-- Once the pins have been read, only the idle timer and the host are still to be
looked at. -/
theorem looked_at_pins {k : Channel} (h : ¬ (k ≠ .time ∧ k ≠ .pipe)) :
    k ≠ .bus ∧ k ≠ .frames ∧ k ≠ .pins := by
  revert h
  cases k <;> decide

/-- Once the idle timer has been read, only the host is. -/
theorem looked_at_time {k : Channel} (h : ¬ k ≠ .pipe) :
    k ≠ .bus ∧ k ≠ .frames ∧ k ≠ .pins ∧ k ≠ .time := by
  revert h
  cases k <;> decide

/-- The report has been made. -/
def created (report : USBJoystickReportData) : TaskStage where
  later k := k ≠ .time ∧ k ≠ .pipe
  holds c := Ready c ∧ c.device.currentReport = report
  effect c := c
  keeps _ _ hlater h := by
    obtain ⟨hbus, hframes, hpins⟩ := looked_at_pins hlater
    exact ⟨h.1.outside hbus hframes, (outside_currentReport hpins).trans h.2⟩
  commutes _ _ _ _ := rfl

/-- The report was found to be due, compared with the buffer. -/
def due (report : USBJoystickReportData) (buffer : ReportBuffer) : TaskStage where
  later k := k ≠ .time ∧ k ≠ .pipe
  holds c := Sending report c ∧ c.device.prevReportINBuffer = buffer
  effect c := c
  keeps _ _ hlater h := by
    obtain ⟨hbus, hframes, hpins⟩ := looked_at_pins hlater
    exact ⟨h.1.outside hbus hframes hpins, outside_prevReportINBuffer.trans h.2⟩
  commutes _ _ _ _ := rfl

/-- The report has been stored for comparison. -/
def stored (report : USBJoystickReportData) : TaskStage where
  later k := k ≠ .time ∧ k ≠ .pipe
  holds := Sending report
  effect c := c.withPrevReport report.toBuffer
  keeps _ _ hlater h := by
    obtain ⟨hbus, hframes, hpins⟩ := looked_at_pins hlater
    exact h.outside hbus hframes hpins
  commutes _ _ _ _ := Clocked.withPrevReport_outside report.toBuffer

/-- The idle period has started over, and some bytes are in the bank. -/
def filling (report : USBJoystickReportData) (bank : List UInt8) : TaskStage where
  later k := k ≠ .pipe
  holds := Sending report
  effect c := c.handedOver report.toBuffer (·.withBank bank)
  keeps _ _ hlater h := by
    obtain ⟨hbus, hframes, hpins, _⟩ := looked_at_time hlater
    exact h.outside hbus hframes hpins
  commutes o c hlater h := by
    obtain ⟨_, _, _, htime⟩ := looked_at_time hlater
    show Clocked.onEndpoint (((c.outside o).withPrevReport _).reloaded) _ = _
    rw [Clocked.withPrevReport_outside, Clocked.reloaded_outside htime]
    exact Clocked.onEndpoint_outside h.free h.free

/-- The packet has been released. -/
def released (report : USBJoystickReportData) : TaskStage where
  later _ := True
  holds := Sending report
  effect c := c.handedOver report.toBuffer fun ep => (ep.withBank report.toBytes).clearIN
  keeps _ _ hlater _ := absurd trivial hlater
  commutes _ _ hlater _ := absurd trivial hlater

/-- The report was found not to be due. -/
def silent (report : USBJoystickReportData) : TaskStage where
  later k := k ≠ .pipe
  holds := Silent report
  effect c := c
  keeps _ _ hlater h := by
    obtain ⟨hbus, hframes, hpins, htime⟩ := looked_at_time hlater
    exact ⟨h.outside hbus hframes, (outside_currentReport hpins).trans h.report,
      fun hdue => h.quiet ((hasReportToSend_outside_iff hpins htime).mp hdue)⟩
  commutes _ _ _ _ := rfl

/-- The task as one step, with the frame number it stores at its end and the
packets it releases. -/
def called (last : UInt16) (packets : List (List UInt8)) : TaskStage where
  later _ := True
  holds c := (hidDeviceUSBTask c.device ⟨c.frame, last, []⟩).2.filterMap Observation.packet =
    packets
  effect c := { c with device := (hidDeviceUSBTask c.device ⟨c.frame, last, []⟩).1 }
  keeps _ _ hlater _ := absurd trivial hlater
  commutes _ _ hlater _ := absurd trivial hlater

variable {start c : Clocked} {h : List Outside} {report : USBJoystickReportData}

/-- A call that does not get to its decision. -/
theorem called_of_not_reaches {T : TaskStage} {β : Type} (hT : T.At start h c) (last : UInt16)
    (o : Clocked → β) (ho : ∀ e s, T.later (Outside.channel e) → o (s.outside e) = o s)
    (heffect : ∀ s, T.effect s = s)
    (hnot : ∀ s, T.holds s → o c = o s → ¬ s.device.ReachesSendDecision ⟨s.frame, last, []⟩) :
    (called last []).At start h c := by
  refine hT.look o ho (fun _ _ => trivial) ?_
  intro s hs hsame
  rw [heffect] at hsame ⊢
  have htask := hidDeviceUSBTask_of_not_reaches (hnot s hs hsame)
  refine ⟨?_, ?_⟩
  · show List.filterMap _ (hidDeviceUSBTask s.device _).2 = []
    rw [htask]
    rfl
  · show ({ s with device := (hidDeviceUSBTask s.device _).1 } : Clocked) = s
    rw [htask]

/-- A call with nothing to send has taken effect when it stores the frame number. -/
theorem called_of_silent (hT : (silent report).At start h c) (last : UInt16) :
    (called last []).At start h (c.withPrevFrame last) := by
  refine hT.act (·.withPrevFrame last) (fun _ _ _ => Clocked.withPrevFrame_outside last)
    (fun _ _ => trivial) ?_ ?_
  · intro s hs
    show List.filterMap _ (hidDeviceUSBTask s.device _).2 = []
    rw [hidDeviceUSBTask_of_quiet (hs.reaches last) hs.quiet]
    rfl
  · intro s hs
    show ({ s with device := (hidDeviceUSBTask s.device _).1 } : Clocked) = _
    rw [hidDeviceUSBTask_of_quiet (hs.reaches last) hs.quiet]
    rfl

/-- A call that sends its report has taken effect then, too. -/
theorem called_of_released (hT : (released report).At start h c) (last : UInt16) :
    (called last [report.toBytes]).At start h (c.withPrevFrame last) := by
  have htask (s : Clocked) (hs : Sending report s) :=
    hidDeviceUSBTask_of_sends ⟨hs.reaches last, hs.due⟩ hs.empty
  refine hT.act (·.withPrevFrame last) (fun _ _ _ => Clocked.withPrevFrame_outside last)
    (fun _ _ => trivial) ?_ ?_
  · intro s hs
    show List.filterMap _ (hidDeviceUSBTask s.device _).2 = _
    rw [htask s hs, hs.report]
    rfl
  · intro s hs
    show ({ s with device := (hidDeviceUSBTask s.device _).1 } : Clocked) = _
    rw [htask s hs, hs.report]
    rfl

end TaskStage

/-- An endpoint as the step system sees it. -/
def EndpointRegs.asIN (r : EndpointRegs) : INEndpoint where
  isConfigured := r.cfgok && r.isIn
  isStalled := r.stallrq
  busy := !r.txini
  bank := r.bank

namespace Firmware

/-- The variables and the report endpoint, as the step system sees them. -/
def device (s : Firmware) : Device :=
  { s.toDevice with endpoint := (s.endpoints reportEP).asIN }

/-- The device and the frame number. -/
def clocked (s : Firmware) : Clocked := ⟨s.device, s.udfnum⟩

/-- The packets released from the report endpoint so far. -/
def reportPackets (s : Firmware) : List (List UInt8) :=
  (s.released.filter (fun p => p.1 == reportEP)).map (·.2)

/-- What the task sees of the firmware, with what has happened around it. -/
@[ext]
structure TaskView where
  now : Clocked
  happened : List Outside
  uenum : UInt8
  rwal : Bool
  sent : List (List UInt8)

/-- What the task sees. -/
def taskView (s : Firmware) : TaskView where
  now := s.clocked
  happened := s.happened
  uenum := s.uenum
  rwal := (s.endpoints reportEP).rwal
  sent := s.reportPackets

/-- An access to the report endpoint. -/
theorem taskView_setEndpoint (s : Firmware) (f : EndpointRegs → EndpointRegs)
    (g : INEndpoint → INEndpoint)
    (hg : (f (s.endpoints reportEP)).asIN = g (s.endpoints reportEP).asIN) :
    (s.setEndpoint reportEP f).taskView =
      { s.taskView with
        now := s.clocked.onEndpoint g
        rwal := (f (s.endpoints reportEP)).rwal } := by
  simp only [taskView, clocked, device, setEndpoint_self, hg]
  rfl

/-- As long as the bank is not full, the controller's flag says whether the
endpoint takes data. -/
def Truthful (v : TaskView) : Prop :=
  v.now.device.endpoint.bank.length < joystickINEPSize →
    v.rwal = v.now.device.endpoint.isReadWriteAllowed

/-- What the surroundings may do during the task. -/
structure Around (v v' : TaskView) : Prop where
  now : ∃ h, v'.happened = v.happened ++ h ∧ v'.now = surroundings.run v.now h
  uenum : v'.uenum = v.uenum
  sent : v'.sent = v.sent
  truthful : Truthful v → Truthful v'

/-- The contract of the task. -/
def tasking : Contract Firmware TaskView where
  view := taskView
  rely := Around
  guarantee _ _ := True

/-- A stage of the task that began at `w` and has released the packets. -/
structure Entered (w : TaskView) (packets : List (List UInt8)) (T : TaskStage)
    (v : TaskView) : Prop where
  sent : v.sent = w.sent ++ packets
  truthful : Truthful v
  now : ∃ h, v.happened = w.happened ++ h ∧ T.At w.now h v.now

/-- The same with the report endpoint selected. -/
structure Task (w : TaskView) (packets : List (List UInt8)) (T : TaskStage)
    (v : TaskView) : Prop extends Entered w packets T v where
  uenum : v.uenum = reportEP

section Task

variable {w v : TaskView} {packets packets' : List (List UInt8)} {T T' : TaskStage}

instance : Stable tasking (Entered w packets T) where
  stable v v' hv hmove := by
    obtain ⟨h, hhappened, hat⟩ := hv.now
    obtain ⟨l, hl, hnow⟩ := hmove.now
    refine ⟨hmove.sent.trans hv.sent, hmove.truthful hv.truthful, h ++ l, ?_, ?_⟩
    · rw [hl, hhappened, List.append_assoc]
    · rw [hnow]
      exact hat.events l

instance : Stable tasking (Task w packets T) where
  stable v v' hv hmove :=
    { Stable.stable (C := tasking) (P := Entered w packets T) v v' hv.toEntered hmove with
      uenum := hmove.uenum.trans hv.uenum }

/-- The task goes on to a stage at which nothing else has changed. -/
theorem Entered.stage (hv : Entered w packets T v)
    (hT : ∀ h, T.At w.now h v.now → T'.At w.now h v.now) : Entered w packets T' v := by
  obtain ⟨h, hhappened, hat⟩ := hv.now
  exact ⟨hv.sent, hv.truthful, h, hhappened, hT h hat⟩

/-- The same with the report endpoint selected. -/
theorem Task.stage (hv : Task w packets T v)
    (hT : ∀ h, T.At w.now h v.now → T'.At w.now h v.now) : Task w packets T' v :=
  { hv.toEntered.stage hT with uenum := hv.uenum }

/-- An action of the task, with what it does to the device. -/
theorem task_modify {g : Firmware → Firmware}
    (h : ∀ s, Task w packets T s.taskView → Task w packets' T' (g s).taskView) :
    (Prog.modify g).Leads tasking (Task w packets T) (Task w packets' T') :=
  Prog.Leads.of_modify fun s hs => ⟨trivial, h s hs⟩

/-- The report endpoint is selected. -/
theorem select_task : (endpointSelectEndpoint joystickINEPAddr).Leads tasking
    (Entered w packets T) (Task w packets T) :=
  Prog.Leads.of_modify fun _ hs => ⟨trivial, { hs with uenum := rfl }⟩

end Task

section Write

variable {w v : TaskView} {report : USBJoystickReportData} {bank data : List UInt8}

/-- The report is on its way to the bank. -/
abbrev Writing (w : TaskView) (report : USBJoystickReportData) (bank : List UInt8) :
    TaskView → Prop :=
  Task w [] (.filling report bank)

/-- The registers of the report endpoint while it is being filled. -/
structure Open (bank : List UInt8) (s : Firmware) : Prop where
  uenum : s.uenum = reportEP
  content : (s.endpoints reportEP).bank = bank
  isIn : (s.endpoints reportEP).isIn = true
  txini : (s.endpoints reportEP).txini = true
  rwal : bank.length < joystickINEPSize → (s.endpoints reportEP).rwal = true

/-- The endpoint stays open. -/
theorem Task.registers {s : Firmware} (hs : Writing w report bank s.taskView) : Open bank s := by
  obtain ⟨h, _, hat⟩ := hs.now
  obtain ⟨x, hx, hendpoint⟩ := hat.seen (fun c => c.device.endpoint)
    fun _ _ hlater => outside_endpoint hlater
  obtain ⟨hconfigured, _, hbusy, _⟩ := INEndpoint.isReadWriteAllowed_iff.mp hx.allowed
  have hregs : (s.endpoints reportEP).asIN = x.device.endpoint.withBank bank := hendpoint
  have hin : ((s.endpoints reportEP).cfgok && (s.endpoints reportEP).isIn) = true :=
    (congrArg INEndpoint.isConfigured hregs).trans hconfigured
  have hready : (!(s.endpoints reportEP).txini) = false :=
    (congrArg INEndpoint.busy hregs).trans hbusy
  refine
    { uenum := hs.uenum
      content := congrArg INEndpoint.bank hregs
      isIn := (Bool.and_eq_true_iff.mp hin).2
      txini := by simpa using hready
      rwal := ?_ }
  intro hroom
  have hflag : (s.endpoints reportEP).rwal = (s.endpoints reportEP).asIN.isReadWriteAllowed :=
    hs.truthful (by
      show (s.endpoints reportEP).asIN.bank.length < joystickINEPSize
      rw [hregs]
      exact hroom)
  rw [hflag, hregs]
  exact INEndpoint.isReadWriteAllowed_withBank hx.allowed hroom

/-- One byte of the report is written. -/
theorem write8_task (hroom : bank.length < joystickINEPSize) (b : UInt8) :
    (endpointWrite8 .report b).Leads tasking (Writing w report bank)
      (Writing w report (bank ++ [b])) := by
  refine task_modify ?_
  intro s hs
  have hopen := hs.registers
  have hview : taskView
      { s.setEndpoint s.uenum fun r => { r with bank := r.bank ++ [b] } with
        written := s.written ++ [⟨.report, s.uenum, b⟩] } =
      { s.taskView with
        now := s.clocked.onEndpoint fun ep => ep.withBank (ep.bank ++ [b]) } := by
    rw [hopen.uenum]
    exact taskView_setEndpoint s (fun r => { r with bank := r.bank ++ [b] })
      (fun ep => ep.withBank (ep.bank ++ [b])) rfl
  have hbank : s.clocked.device.endpoint.bank = bank := hopen.content
  have hflag : (s.endpoints reportEP).rwal = s.clocked.device.endpoint.isReadWriteAllowed :=
    hs.truthful (hbank.symm ▸ hroom)
  obtain ⟨h, hhappened, hat⟩ := hs.now
  refine hview ▸ ⟨⟨hs.sent, ?_, h, hhappened, ?_⟩, hopen.uenum⟩
  · intro hlength
    have hallowed : s.clocked.device.endpoint.isReadWriteAllowed = true :=
      hflag ▸ hopen.rwal hroom
    exact (hopen.rwal hroom).trans (INEndpoint.isReadWriteAllowed_withBank hallowed hlength).symm
  · refine hat.act (·.onEndpoint fun ep => ep.withBank (ep.bank ++ [b])) ?_ (fun _ h => h)
      (fun _ h => h) (fun _ _ => rfl)
    intro _ _ hlater
    exact Clocked.onEndpoint_outside_of_ne hlater

/-- The loop of the stream writes all of the data, as there is room for it. -/
theorem writeStream_task (hfits : data.length ≤ joystickINEPSize) :
    (Prog.iterate data writeStreamRound).Leads tasking (Writing w report [])
      (Writing w report data) := by
  intro v hv
  -- what is in the bank and what is left make up the data
  refine Prog.wp_iterate
    (fun rest v' => ∃ bank, bank ++ rest = data ∧ Writing w report bank v')
    ⟨[], rfl, hv⟩ ?_ fun _ _ _ hv hmove => Stable.star hmove hv
  rintro rest v' ⟨bank, hdata, hwriting⟩
  cases rest with
  | nil =>
      rw [List.append_nil] at hdata
      exact Prog.wp_pure hwriting fun _ h => hdata ▸ h
  | cons b rest =>
      have hroom : bank.length < joystickINEPSize := by
        have hlength := congrArg List.length hdata
        rw [List.length_append, List.length_cons] at hlength
        omega
      refine Prog.wp_read (fun _ => trivial) ?_
      intro s hs
      have hwriting' := Stable.star hs hwriting
      have hopen := hwriting'.registers
      rw [selected, hopen.uenum, hopen.rwal hroom]
      refine Prog.wp_bind (Prog.wp_mono ?_ (write8_task hroom b _ hwriting'))
      intro _ v₁ hv₁
      refine Prog.wp_pure hv₁ ?_
      intro v₂ hv₂
      exact ⟨bank ++ [b], by rw [List.append_assoc, List.singleton_append, hdata], hv₂⟩

/-- The bank is free, so the wait for it ends at once. -/
theorem waitUntilReady_task (hv : Writing w report bank v) :
    endpointWaitUntilReady.wp tasking
      (fun error v' => error = .noError ∧ Writing w report bank v') v := by
  refine Prog.wp_read (fun _ => trivial) ?_
  intro s hs
  refine Prog.wp_iterate (fun _ => Writing w report bank) (Stable.star hs hv) ?_
    fun _ _ _ hv hmove => ⟨hv.1, Stable.star hmove hv.2⟩
  intro wait v' hv'
  refine Prog.wp_bind (Prog.wp_read (fun _ => trivial) ?_)
  intro s₁ hs₁
  have hv₁ := Stable.star hs₁ hv'
  rw [selected, hv₁.registers.uenum, hv₁.registers.isIn]
  intro s₂ hs₂
  refine ⟨trivial, ?_⟩
  intro v₃ hv₃
  have hv₂ := Stable.star hs₂ hv₁
  show Prog.wp tasking (if s₂.selected.txini = true then _ else _) _ v₃
  rw [selected, hv₂.registers.uenum, hv₂.registers.txini, if_pos rfl]
  exact Prog.wp_pure (Stable.star hv₃ hv₂) fun _ h => ⟨rfl, h⟩

/-- The whole stream. -/
theorem endpointWriteStreamLE_task (hfits : data.length ≤ joystickINEPSize) :
    (endpointWriteStreamLE data).Leads tasking (Writing w report []) (Writing w report data) := by
  intro v hv
  refine Prog.wp_bind (Prog.wp_mono ?_ (waitUntilReady_task hv))
  rintro error v' ⟨rfl, hwriting⟩
  exact writeStream_task hfits v' hwriting

/-- The report is handed over. -/
theorem clearIN_task :
    endpointClearIN.Leads tasking (Writing w report report.toBytes)
      (Task w [report.toBytes] (.released report)) := by
  refine task_modify ?_
  intro s hs
  have hopen := hs.registers
  have hset := taskView_setEndpoint s
    (fun r => { r with txini := false, rwal := false, bank := [] }) INEndpoint.clearIN rfl
  have hnow := congrArg TaskView.now hset
  have hrwal := congrArg TaskView.rwal hset
  have hview : taskView
      { s.setEndpoint s.uenum fun r => { r with txini := false, rwal := false, bank := [] } with
        released := s.released ++ [(s.uenum, s.selected.bank)] } =
      { s.taskView with
        now := s.clocked.onEndpoint INEndpoint.clearIN
        rwal := false
        sent := s.reportPackets ++ [report.toBytes] } := by
    rw [selected, hopen.uenum, hopen.content]
    refine TaskView.ext hnow rfl rfl hrwal ?_
    simp [taskView, reportPackets]
  have hsent : s.reportPackets = w.sent ++ [] := hs.sent
  obtain ⟨h, hhappened, hat⟩ := hs.now
  refine hview ▸ ⟨⟨?_, ?_, h, hhappened, ?_⟩, hopen.uenum⟩
  · rw [hsent, List.append_nil]
  · intro _
    simp [Clocked.onEndpoint, INEndpoint.clearIN, INEndpoint.isReadWriteAllowed]
  · refine hat.act (·.onEndpoint INEndpoint.clearIN) ?_ (fun _ _ => trivial) (fun _ h => h)
      (fun _ _ => rfl)
    intro _ _ hlater
    exact Clocked.onEndpoint_outside_of_ne hlater

/-- The idle period starts over. -/
theorem reload_task :
    reloadIdleMSRemaining.Leads tasking (Task w [] (.stored report)) (Writing w report []) := by
  refine task_modify ?_
  intro s hs
  obtain ⟨h, hhappened, hat⟩ := hs.now
  refine ⟨⟨hs.sent, hs.truthful, h, hhappened, ?_⟩, hs.uenum⟩
  refine hat.act Clocked.reloaded ?_ (fun _ hlater => hlater.2) (fun _ h => h) ?_
  · intro _ _ hlater
    exact Clocked.reloaded_outside hlater.1
  · intro c hc
    have hbank : c.device.endpoint.withBank [] = c.device.endpoint := by
      rw [← hc.empty]
      rfl
    exact Clocked.onEndpoint_same (c := (c.withPrevReport report.toBuffer).reloaded)
      (f := (·.withBank [])) hbank

/-- The report goes out. -/
theorem sendReport_task :
    (sendReport 0 report.toBytes).Leads tasking (Task w [] (.stored report))
      (Task w [report.toBytes] (.released report)) := by
  refine .bind reload_task ?_
  intro _
  have hselect : (endpointSelectEndpoint joystickINEPAddr).Leads tasking (Writing w report [])
      (Writing w report []) := fun v hv => select_task v hv.toEntered
  refine .bind hselect ?_
  intro _
  refine .bind (endpointWriteStreamLE_task (Nat.le_of_eq report.toBytes_length)) ?_
  intro _
  exact clearIN_task

end Write

/-- The task has returned, and amounts to one step at the moment it stored the frame
number. -/
def Finished (w v : TaskView) : Prop :=
  ∃ c h late packets, v.happened = w.happened ++ (h ++ late) ∧ v.sent = w.sent ++ packets ∧
    (TaskStage.called c.frame packets).At w.now h c ∧ v.now = surroundings.run c late

section Whole

variable {w : TaskView} {report : USBJoystickReportData}

instance : Stable tasking (Finished w) where
  stable v v' hv hmove := by
    obtain ⟨c, h, late, packets, hhappened, hsent, hat, hnow⟩ := hv
    obtain ⟨l, hl, hnow'⟩ := hmove.now
    refine ⟨c, h, late ++ l, packets, ?_, hmove.sent.trans hsent, hat, ?_⟩
    · rw [hl, hhappened]
      simp only [List.append_assoc]
    · rw [hnow', hnow]
      exact (System.run_append _ _ _).symm

/-- The task has taken effect just now. -/
theorem Entered.finished {v : TaskView} {packets : List (List UInt8)} {T : TaskStage}
    (hv : Entered w packets T v)
    (hT : ∀ h, T.At w.now h v.now → (TaskStage.called v.now.frame packets).At w.now h v.now) :
    Finished w v := by
  obtain ⟨h, hhappened, hat⟩ := hv.now
  exact ⟨v.now, h, [], packets, by rw [hhappened, List.append_nil], hv.sent, hT h hat, rfl⟩

/-- The frame number is stored last. -/
theorem storePrevFrameNum_task {packets : List (List UInt8)} {T : TaskStage}
    (hT : ∀ h c last, T.At w.now h c →
      (TaskStage.called last packets).At w.now h (c.withPrevFrame last)) :
    storePrevFrameNum.Leads tasking (Task w packets T) (Finished w) := by
  refine Prog.Leads.of_modify ?_
  intro s hs
  obtain ⟨h, hhappened, hat⟩ := hs.now
  exact ⟨trivial, s.clocked.withPrevFrame s.udfnum, h, [], packets,
    by rw [List.append_nil]; exact hhappened, hs.sent, hT h _ _ hat, rfl⟩

/-- The condition for sending: the buffers are compared as a whole. -/
theorem sendDecision_iff (a b : ReportBuffer) (elapsed : Bool) :
    ((32 : UInt16) ≠ 0 ∧ (false || decide (a.bytes.take (32 : UInt16).toNat ≠
      b.bytes.take (32 : UInt16).toNat) || elapsed) = true) ↔ (a ≠ b ∨ elapsed = true) := by
  have ha : a.bytes.take (32 : UInt16).toNat = a.bytes := a.take_size
  have hb : b.bytes.take (32 : UInt16).toNat = b.bytes := b.take_size
  have hbytes : a.bytes ≠ b.bytes ↔ a ≠ b :=
    not_congr ⟨fun h => ReportBuffer.ext h, fun h => congrArg ReportBuffer.bytes h⟩
  rw [ha, hb]
  simp [hbytes]

/-- What the task reads to decide whether to send. -/
def idleState (c : Clocked) : Bool × ReportBuffer :=
  (c.device.idlePeriodElapsed, c.device.prevReportINBuffer)

/-- The pins and the bus have nothing to do with it. -/
theorem idleState_outside {c : Clocked} {o : Outside} (h : o.channel ≠ .time) :
    idleState (c.outside o) = idleState c := by
  rw [idleState, idleState, Device.idlePeriodElapsed, Device.idlePeriodElapsed, outside_hid.2,
    outside_idleMSRemaining h, outside_prevReportINBuffer]

/-- The pins are read. -/
theorem Task.created {s : Firmware} (hs : Task w [] .ready s.taskView) :
    Task w [] (.created s.toDevice.currentReport) s.taskView := by
  refine hs.stage ?_
  intro h hat
  refine hat.look (fun c => c.device.currentReport) ?_ ?_ ?_
  · rintro e _ (hbus | hframes)
    · refine outside_currentReport ?_
      rw [show e.channel = _ from hbus]
      decide
    · refine outside_currentReport ?_
      rw [show e.channel = _ from hframes]
      decide
  · rintro k (rfl | rfl) <;> exact ⟨by decide, by decide⟩
  · intro c hc hreport
    exact ⟨⟨hc, hreport.symm⟩, rfl⟩

/-- The idle timer is read, and the report is due. -/
theorem Task.due {s : Firmware} (hs : Task w [] (.created report) s.taskView)
    (hdue : report.toBuffer ≠ s.prevReportINBuffer ∨ s.toDevice.idlePeriodElapsed = true) :
    Task w [] (.due report s.prevReportINBuffer) s.taskView := by
  refine hs.stage ?_
  intro h hat
  refine hat.look idleState (fun _ _ hlater => idleState_outside hlater.1) (fun _ h => h) ?_
  intro c hc hidle
  obtain ⟨helapsed, hbuffer⟩ := Prod.mk.inj hidle
  refine ⟨⟨{ hc.1 with report := hc.2, due := ?_ }, hbuffer.symm⟩, rfl⟩
  rw [Device.HasReportToSend, hc.2]
  rcases hdue with hchanged | hpassed
  · exact Or.inl (hbuffer ▸ hchanged)
  · exact Or.inr (helapsed.symm.trans hpassed)

/-- The idle timer is read, and there is nothing to send. -/
theorem Task.silent {s : Firmware} (hs : Task w [] (.created report) s.taskView)
    (hquiet : ¬ (report.toBuffer ≠ s.prevReportINBuffer ∨ s.toDevice.idlePeriodElapsed = true)) :
    Task w [] (.silent report) s.taskView := by
  refine hs.stage ?_
  intro h hat
  refine hat.look idleState (fun _ _ hlater => idleState_outside hlater.1)
    (fun _ hlater => hlater.2) ?_
  intro c hc hidle
  obtain ⟨helapsed, hbuffer⟩ := Prod.mk.inj hidle
  refine ⟨{ hc.1 with report := hc.2, quiet := ?_ }, rfl⟩
  rintro (hchanged | hpassed)
  · refine hquiet (Or.inl ?_)
    rw [hc.2] at hchanged
    exact fun heq => hchanged (heq.trans hbuffer)
  · exact hquiet (Or.inr (helapsed.trans hpassed))

/-- The comparison buffer is overwritten with a report that goes out. -/
theorem storeDue_task {buffer : ReportBuffer} :
    (storePrevReport report.toBuffer).Leads tasking (Task w [] (.due report buffer))
      (Task w [] (.stored report)) := by
  refine task_modify ?_
  intro s hs
  obtain ⟨h, hhappened, hat⟩ := hs.now
  refine ⟨⟨hs.sent, hs.truthful, h, hhappened, ?_⟩, hs.uenum⟩
  exact hat.act (·.withPrevReport report.toBuffer)
    (fun _ _ _ => Clocked.withPrevReport_outside report.toBuffer) (fun _ h => h)
    (fun _ hc => hc.1) (fun _ _ => rfl)

/-- Without a report to send it is overwritten with what it holds. -/
theorem storeSilent_task :
    (storePrevReport report.toBuffer).Leads tasking (Task w [] (.silent report))
      (Task w [] (.silent report)) := by
  refine task_modify ?_
  intro s hs
  obtain ⟨h, hhappened, hat⟩ := hs.now
  refine ⟨⟨hs.sent, hs.truthful, h, hhappened, ?_⟩, hs.uenum⟩
  refine hat.act (·.withPrevReport report.toBuffer)
    (fun _ _ _ => Clocked.withPrevReport_outside report.toBuffer) (fun _ h => h)
    (fun _ h => h) ?_
  intro c hc
  have hsame : report.toBuffer = c.device.prevReportINBuffer := by
    by_contra hchanged
    exact hc.quiet (Or.inl (hc.report ▸ hchanged))
  show c = c.withPrevReport report.toBuffer
  rw [Clocked.withPrevReport, hsame]

/-- The buffer that a report that goes out has been compared with. -/
theorem Task.buffer {s : Firmware} {buffer : ReportBuffer}
    (hs : Task w [] (.due report buffer) s.taskView) : s.prevReportINBuffer = buffer := by
  obtain ⟨h, _, hat⟩ := hs.now
  obtain ⟨c, hc, hseen⟩ := hat.seen (fun c => c.device.prevReportINBuffer)
    fun _ _ _ => outside_prevReportINBuffer
  exact hseen.trans hc.2

/-- The buffer that holds the report when there is nothing to send. -/
theorem Task.unchanged {s : Firmware} (hs : Task w [] (.silent report) s.taskView) :
    s.prevReportINBuffer = report.toBuffer := by
  obtain ⟨h, _, hat⟩ := hs.now
  obtain ⟨c, hc, hseen⟩ := hat.seen (fun c => c.device.prevReportINBuffer)
    fun _ _ _ => outside_prevReportINBuffer
  refine hseen.trans ?_
  by_contra hchanged
  refine hc.quiet (Or.inl ?_)
  rw [hc.report]
  exact fun heq => hchanged heq.symm

/-- The task with a free bank. -/
theorem createAndSendReport_task :
    createAndSendReport.Leads tasking (Task w [] .ready) (Finished w) := by
  -- the pins are read
  refine Prog.Leads.read_at (fun _ => trivial) ?_
  intro s₁ hs₁
  rw [callbackHIDDeviceCreateHIDReport_cleared]
  have hcreated := hs₁.created
  generalize s₁.toDevice.currentReport = report at hcreated ⊢
  have hbytes : report.toBuffer.bytes.take (32 : UInt16).toNat = report.toBytes :=
    report.toBuffer.take_size
  -- the idle timer is read; the buffer is read after it, and is the same then
  refine Prog.Leads.read_at (P := Task w [] (.created report)) (fun _ => trivial) ?_ _ hcreated
  intro s₂ hs₂
  by_cases hdue : report.toBuffer ≠ s₂.prevReportINBuffer ∨
      s₂.toDevice.idlePeriodElapsed = true
  · refine Prog.Leads.read_at (P := Task w [] (.due report s₂.prevReportINBuffer))
      (fun _ => trivial) ?_ _ (hs₂.due hdue)
    intro s₃ hs₃
    refine (Prog.Leads.bind storeDue_task ?_) _ hs₃
    intro _
    dsimp only
    rw [hs₃.buffer, if_pos ((sendDecision_iff _ _ _).mpr hdue), hbytes]
    refine .bind sendReport_task ?_
    intro _
    refine storePrevFrameNum_task ?_
    intro h c last hat
    exact TaskStage.called_of_released hat last
  · refine Prog.Leads.read_at (P := Task w [] (.silent report)) (fun _ => trivial) ?_ _
      (hs₂.silent hdue)
    intro s₃ hs₃
    refine (Prog.Leads.bind storeSilent_task ?_) _ hs₃
    intro _
    have helapsed : ¬ s₂.toDevice.idlePeriodElapsed = true := fun h => hdue (Or.inr h)
    have hquiet : ¬ (report.toBuffer ≠ report.toBuffer ∨
        s₂.toDevice.idlePeriodElapsed = true) := by
      rintro (hne | h)
      · exact hne rfl
      · exact helapsed h
    dsimp only
    rw [hs₃.unchanged, if_neg fun h => hquiet ((sendDecision_iff _ _ _).mp h)]
    refine storePrevFrameNum_task ?_
    intro h c last hat
    exact TaskStage.called_of_silent hat last

/-- The bank of the report endpoint is empty until the task writes to it. -/
theorem newFrame_bank {c : Clocked} {h : List Outside} (hempty : w.now.device.endpoint.bank = [])
    (hat : TaskStage.newFrame.At w.now h c) : c.device.endpoint.bank = [] := by
  obtain ⟨before, after, _, _, _, rfl⟩ := hat
  have hkept : ∀ l (c : Clocked),
      (surroundings.run c l).device.endpoint.bank = c.device.endpoint.bank := by
    intro l c
    refine System.run_observe (fun c => c.device.endpoint.bank) ?_ c
    intro o _ c
    show (c.outside o).device.endpoint.bank = c.device.endpoint.bank
    rw [Clocked.outside_eq]
    cases o <;> rfl
  exact ((hkept after _).trans (hkept before _)).trans hempty

/-- The state of the bus is read, and the device is not configured. -/
theorem Entered.unconfigured {s : Firmware} (hs : Entered w [] .entry s.taskView)
    (hstate : s.usbDeviceState ≠ .configured) : Finished w s.taskView := by
  refine hs.finished ?_
  intro h hat
  refine TaskStage.called_of_not_reaches hat _ (fun c => c.device.usbDeviceState)
    (fun _ _ => False.elim) (fun _ => rfl) ?_
  intro c _ hsame hreach
  exact hstate (hsame.trans hreach.1)

/-- The state of the bus is read, and the device is configured. -/
theorem Entered.configured {s : Firmware} (hs : Entered w [] .entry s.taskView)
    (hstate : s.usbDeviceState = .configured) : Entered w [] .configured s.taskView := by
  refine hs.stage ?_
  intro h hat
  refine hat.look (fun c => c.device.usbDeviceState) (fun _ _ => False.elim)
    (fun _ => False.elim) ?_
  intro c _ hsame
  exact ⟨hsame.symm.trans hstate, rfl⟩

/-- What the task compares to see whether the frame is a new one. -/
def frameNumbers (c : Clocked) : UInt16 × UInt16 := (c.device.hid.prevFrameNum, c.frame)

/-- The bus has nothing to do with it. -/
theorem frameNumbers_outside {c : Clocked} {o : Outside} (hbus : o.channel = .bus) :
    frameNumbers (c.outside o) = frameNumbers c := by
  rw [frameNumbers, outside_hid.1, outside_frame (by rw [hbus]; decide)]
  rfl

/-- The frame number is read, and the frame is the one of the last call. -/
theorem Entered.sameFrame {s : Firmware} (hs : Entered w [] .configured s.taskView)
    (hframe : s.hid.prevFrameNum = s.udfnum) : Finished w s.taskView := by
  refine hs.finished ?_
  intro h hat
  refine TaskStage.called_of_not_reaches hat _ frameNumbers
    (fun _ _ hbus => frameNumbers_outside hbus) (fun _ => rfl) ?_
  intro c _ hsame hreach
  obtain ⟨hprev, hnow⟩ := Prod.mk.inj hsame
  exact hreach.2.1 ((hprev.symm.trans hframe).trans hnow)

/-- The frame number is read, and the frame is a new one. -/
theorem Entered.newFrame {s : Firmware} (hs : Entered w [] .configured s.taskView)
    (hframe : s.hid.prevFrameNum ≠ s.udfnum) : Entered w [] .newFrame s.taskView := by
  refine hs.stage ?_
  intro h hat
  refine hat.look frameNumbers (fun _ _ hbus => frameNumbers_outside hbus) (fun _ => Or.inl) ?_
  intro c hc hsame
  obtain ⟨hprev, hnow⟩ := Prod.mk.inj hsame
  exact ⟨⟨hc, fun heq => hframe ((hprev.trans heq).trans hnow.symm)⟩, rfl⟩

/-- Neither the bus nor the frames have to do with the report endpoint. -/
theorem endpoint_outside_newFrame (o : Outside) (c : Clocked)
    (h : TaskStage.newFrame.later o.channel) :
    (c.outside o).device.endpoint = c.device.endpoint := by
  refine outside_endpoint ?_
  rcases h with hbus | hframes
  · exact fun heq => nomatch heq.symm.trans hbus
  · exact fun heq => nomatch heq.symm.trans hframes

/-- The endpoint is looked at, and takes no data. -/
theorem Task.closed {s : Firmware} (hs : Task w [] .newFrame s.taskView)
    (hclosed : s.device.endpoint.isReadWriteAllowed = false) : Finished w s.taskView := by
  refine hs.toEntered.finished ?_
  intro h hat
  refine TaskStage.called_of_not_reaches hat _ (fun c => c.device.endpoint)
    endpoint_outside_newFrame (fun _ => rfl) ?_
  intro c _ hsame hreach
  have hendpoint : s.device.endpoint = c.device.endpoint := hsame
  have hopen := hreach.2.2
  rw [← hendpoint, hclosed] at hopen
  exact Bool.noConfusion hopen

/-- The endpoint is looked at, and takes data. -/
theorem Task.ready {s : Firmware} (hs : Task w [] .newFrame s.taskView)
    (hallowed : s.device.endpoint.isReadWriteAllowed = true)
    (hbank : s.device.endpoint.bank = []) : Task w [] .ready s.taskView := by
  refine hs.stage ?_
  intro h hat
  refine hat.look (fun c => c.device.endpoint) endpoint_outside_newFrame (fun _ h => h) ?_
  intro c hc hsame
  have hendpoint : s.device.endpoint = c.device.endpoint := hsame
  exact ⟨⟨hc.1, hc.2, hendpoint ▸ hallowed, hendpoint ▸ hbank⟩, rfl⟩

/-- The whole task. -/
theorem hidDeviceUSBTask_task (hempty : w.now.device.endpoint.bank = []) :
    hidDeviceUSBTask.Leads tasking (Entered w [] .entry) (Finished w) := by
  -- the state of the bus, then the frame number, then the report endpoint
  refine Prog.Leads.read_at (fun _ => trivial) ?_
  intro s₁ hs₁
  by_cases hstate : s₁.usbDeviceState = .configured
  · rw [if_neg (fun h => h hstate)]
    refine Prog.Leads.read_at (P := Entered w [] .configured) (fun _ => trivial) ?_ _
      (hs₁.configured hstate)
    intro s₂ hs₂
    by_cases hframe : s₂.hid.prevFrameNum = s₂.udfnum
    · rw [if_pos (decide_eq_true hframe)]
      exact Prog.wp_pure (P := Finished w) (hs₂.sameFrame hframe) fun _ h => h
    · rw [if_neg (fun h => hframe (of_decide_eq_true h))]
      refine (Prog.Leads.bind select_task ?_) _ (hs₂.newFrame hframe)
      intro _
      refine Prog.Leads.read_at (fun _ => trivial) ?_
      intro s₃ hs₃
      have hbank : s₃.device.endpoint.bank = [] := by
        obtain ⟨h, _, hat⟩ := hs₃.now
        exact newFrame_bank hempty hat
      have hflag : (s₃.endpoints reportEP).rwal = s₃.device.endpoint.isReadWriteAllowed := by
        refine hs₃.truthful ?_
        show s₃.device.endpoint.bank.length < _
        rw [hbank]
        decide
      have hselected : s₃.uenum = reportEP := hs₃.uenum
      rw [selected, hselected, hflag]
      cases hallowed : s₃.device.endpoint.isReadWriteAllowed with
      | false => exact Prog.wp_pure (P := Finished w) (hs₃.closed hallowed) fun _ h => h
      | true => exact createAndSendReport_task _ (hs₃.ready hallowed hbank)
  · rw [if_pos hstate]
    exact Prog.wp_pure (P := Finished w) (hs₁.unconfigured hstate) fun _ h => h

end Whole

/-- The stage of the handler for a new frame. -/
theorem serveStartOfFrame_clocked (s : Firmware) :
    s.serveStartOfFrame.clocked = surroundings.run s.clocked
      (if s.udint.sof && s.udien.sof then [.startOfFrame] else []) := by
  unfold serveStartOfFrame
  split
  · have htick : (hidDeviceMillisecondElapsed s.toDevice).hid =
        { s.hid with idleMSRemaining := countdown s.hid.idleMSRemaining } := by
      rw [millisecondElapsed_eq]
      rfl
    show (⟨{ s.device with hid := (hidDeviceMillisecondElapsed s.toDevice).hid }, s.udfnum⟩ :
      Clocked) = s.clocked.outside .startOfFrame
    rw [htick, Clocked.outside_eq]
    rfl
  · rfl

/-- The stage for the supply on the bus. -/
theorem serveVBUS_clocked (s : Firmware) :
    s.serveVBUS.clocked = surroundings.run s.clocked
      (if s.vbusti && s.vbuste then [if s.vbus then .connect else .disconnect] else []) := by
  unfold serveVBUS
  split
  · cases s.vbus <;> rfl
  · rfl

/-- The stage for a suspended bus. -/
theorem serveSuspend_clocked (s : Firmware) :
    s.serveSuspend.clocked = surroundings.run s.clocked
      (if s.udint.susp && s.udien.susp then [.stateChange .suspended] else []) := by
  unfold serveSuspend
  split <;> rfl

/-- The stage for a wake-up. -/
theorem serveWakeUp_clocked (s : Firmware) :
    s.serveWakeUp.clocked = surroundings.run s.clocked
      (if s.udint.wakeup && s.udien.wakeup then
        [.stateChange
          (if s.usbDeviceConfigurationNumber ≠ 0 then .configured
          else if s.isAddressSet then .addressed
          else .powered)]
      else []) := by
  unfold serveWakeUp
  split <;> rfl

/-- A new frame leaves the supply on the bus to the next stage. -/
theorem serveStartOfFrame_vbus (s : Firmware) :
    s.serveStartOfFrame.vbusti = s.vbusti ∧ s.serveStartOfFrame.vbuste = s.vbuste ∧
      s.serveStartOfFrame.vbus = s.vbus := by
  unfold serveStartOfFrame
  split <;> exact ⟨rfl, rfl, rfl⟩

/-- The first two stages leave suspending and waking to the others. -/
theorem serveVBUS_suspend (s : Firmware) :
    s.serveStartOfFrame.serveVBUS.udien = s.udien ∧
      s.serveStartOfFrame.serveVBUS.udint.susp = s.udint.susp ∧
      s.serveStartOfFrame.serveVBUS.udint.wakeup = s.udint.wakeup := by
  have hvbus (t : Firmware) : t.serveVBUS.udien = t.udien ∧ t.serveVBUS.udint = t.udint := by
    unfold serveVBUS
    split
    · split <;> exact ⟨rfl, rfl⟩
    · exact ⟨rfl, rfl⟩
  rw [(hvbus _).1, (hvbus _).2]
  unfold serveStartOfFrame
  split <;> exact ⟨rfl, rfl, rfl⟩

/-- Suspending arms the wake-up. -/
theorem serveSuspend_arms (s : Firmware) :
    s.serveSuspend.udint = s.udint ∧
      s.serveSuspend.udien.wakeup = (s.udien.wakeup || (s.udint.susp && s.udien.susp)) := by
  unfold serveSuspend
  split
  · next hpending => exact ⟨rfl, by rw [hpending, Bool.or_true]⟩
  · next hpending =>
      rw [Bool.not_eq_true] at hpending
      exact ⟨rfl, by rw [hpending, Bool.or_false]⟩

/-- **The handler as events of the step system.**  Unless it serves a reset, the
handler does to the device what the events do that are noted down. -/
theorem usbGenVect_clocked {s : Firmware} (h : (s.udint.eorst && s.udien.eorst) = false) :
    s.usbGenVect.clocked = surroundings.run s.clocked s.served := by
  have hframe := beforeReset_frame s
  have hnoReset : s.usbGenVect = s.serveStartOfFrame.serveVBUS.serveSuspend.serveWakeUp := by
    unfold usbGenVect serveEndOfReset
    rw [hframe.flag, hframe.enable, h]
    rfl
  obtain ⟨hvbusti, hvbuste, hvbus⟩ := serveStartOfFrame_vbus s
  obtain ⟨hudien, hsusp, hwakeup⟩ := serveVBUS_suspend s
  obtain ⟨hudint, henabled⟩ := serveSuspend_arms s.serveStartOfFrame.serveVBUS
  have hsettings := (((serveStartOfFrame_frame s).trans (serveVBUS_frame _)).trans
    (serveSuspend_frame _)).rest
  have hnumber : s.serveStartOfFrame.serveVBUS.serveSuspend.usbDeviceConfigurationNumber =
      s.usbDeviceConfigurationNumber := by rw [hsettings]
  have haddress : s.serveStartOfFrame.serveVBUS.serveSuspend.isAddressSet = s.isAddressSet := by
    rw [hsettings]
    rfl
  rw [hnoReset, serveWakeUp_clocked, serveSuspend_clocked, serveVBUS_clocked,
    serveStartOfFrame_clocked, ← System.run_append, ← System.run_append, ← System.run_append,
    hvbusti, hvbuste, hvbus, hudint, henabled, hudien, hsusp, hwakeup, hnumber, haddress]
  simp only [served, List.append_assoc]

/-- The signals a call of the task may meet.  The bus is not reset and the handler
serves no reset.  The host may collect the packet in the report endpoint, whose
flags tell the truth, and anything may happen on the other endpoints. -/
inductive AmbientSignal (s : Firmware) : Signal → Prop
  | interrupt (hreset : (s.udint.eorst && s.udien.eorst) = false) : AmbientSignal s .interrupt
  | report (f : EndpointFlags) (hstall : f.stallrq = (s.endpoints reportEP).stallrq)
      (hbank : f.bank = (s.endpoints reportEP).bank)
      (hready : (s.endpoints reportEP).txini = true → f.txini = true)
      (hrwal : f.bank.length < joystickINEPSize → f.rwal =
        ({ s.endpoints reportEP with txini := f.txini } : EndpointRegs).asIN.isReadWriteAllowed) :
      AmbientSignal s (.endpoint reportEP f)
  | other (n : UInt8) (hn : n ≠ reportEP) (f : EndpointFlags) : AmbientSignal s (.endpoint n f)
  | memory (fits : UInt8 → Bool) : AmbientSignal s (.memory fits)
  | frame (number : UInt16) : AmbientSignal s (.frame number)
  | flags (udint : DeviceInterrupts) : AmbientSignal s (.flags udint)
  | vbus (level : Bool) : AmbientSignal s (.vbus level)
  | pinB (level : UInt8) : AmbientSignal s (.pinB level)
  | stack (content : Nat → UInt8) : AmbientSignal s (.stack content)

/-- Nothing of it has happened. -/
theorem Around.of_same {v v' : TaskView} (h : v' = v) : Around v v' := by
  subst h
  exact ⟨⟨[], (List.append_nil _).symm, rfl⟩, rfl, rfl, id⟩

/-- The handler is called. -/
theorem interrupt_around {s : Firmware} (h : (s.udint.eorst && s.udien.eorst) = false) :
    Around s.taskView (s.signal .interrupt).taskView := by
  have hnow := usbGenVect_clocked h
  have hframe := (usbGenVect_quiet h).rest
  have hregs : s.usbGenVect.endpoints = s.endpoints := by rw [hframe]
  refine ⟨⟨s.served, rfl, hnow⟩, ?_, ?_, ?_⟩
  · show s.usbGenVect.uenum = s.uenum
    rw [hframe]
  · show s.usbGenVect.reportPackets = s.reportPackets
    rw [hframe]
    rfl
  · -- the registers of the endpoint are as before
    intro htruthful hroom
    have hendpoint : (s.signal .interrupt).device.endpoint = s.device.endpoint :=
      congrArg (fun e => (e reportEP).asIN) hregs
    show (s.usbGenVect.endpoints reportEP).rwal = _
    rw [hregs]
    show _ = (s.signal .interrupt).device.endpoint.isReadWriteAllowed
    rw [hendpoint]
    exact htruthful (hendpoint ▸ hroom)

/-- The host has collected the packet, or nothing has changed. -/
theorem report_around {s : Firmware} {f : EndpointFlags}
    (hstall : f.stallrq = (s.endpoints reportEP).stallrq)
    (hbank : f.bank = (s.endpoints reportEP).bank)
    (hready : (s.endpoints reportEP).txini = true → f.txini = true)
    (hrwal : f.bank.length < joystickINEPSize → f.rwal =
      ({ s.endpoints reportEP with txini := f.txini } : EndpointRegs).asIN.isReadWriteAllowed) :
    Around s.taskView (s.signal (.endpoint reportEP f)).taskView := by
  have hset := taskView_setEndpoint s (fun r =>
      { r with
        stallrq := f.stallrq, rxstpi := f.rxstpi, rxouti := f.rxouti
        txini := f.txini, rwal := f.rwal, bank := f.bank })
    (fun ep => { ep with busy := !f.txini }) (by rw [hstall, hbank]; rfl)
  have hnow : (s.signal (.endpoint reportEP f)).clocked =
      s.clocked.onEndpoint fun ep => { ep with busy := !f.txini } := congrArg TaskView.now hset
  refine ⟨?_, rfl, rfl, ?_⟩
  · by_cases hcollected : f.txini = true ∧ (s.endpoints reportEP).txini = false
    · refine ⟨[.inToken], if_pos ⟨rfl, hcollected⟩, hnow.trans ?_⟩
      rw [hcollected.1]
      rfl
    · refine ⟨[], ?_, hnow.trans (Clocked.onEndpoint_same ?_)⟩
      · rw [List.append_nil]
        exact if_neg fun h => hcollected h.2
      · have hsame : f.txini = (s.endpoints reportEP).txini := by
          cases htxini : (s.endpoints reportEP).txini with
          | true => exact hready htxini
          | false =>
              rw [← Bool.not_eq_true]
              exact fun h => hcollected ⟨h, htxini⟩
        rw [hsame]
        rfl
  · intro _ hroom
    have hlength : f.bank.length < joystickINEPSize := by
      have hbank' : (s.signal (.endpoint reportEP f)).clocked.device.endpoint.bank = f.bank := by
        rw [hnow, hbank]
        rfl
      exact hbank' ▸ hroom
    have hflag : (s.signal (.endpoint reportEP f)).taskView.rwal = f.rwal :=
      congrArg TaskView.rwal hset
    rw [hflag, hrwal hlength]
    show _ = (s.signal (.endpoint reportEP f)).clocked.device.endpoint.isReadWriteAllowed
    rw [hnow]
    rfl

/-- The surroundings keep to the contract of the task. -/
theorem AmbientSignal.around {s : Firmware} {e : Signal} (h : AmbientSignal s e) :
    Around s.taskView (s.signal e).taskView := by
  cases h with
  | interrupt hreset => exact interrupt_around hreset
  | report f hstall hbank hready hrwal => exact report_around hstall hbank hready hrwal
  | other n hn f =>
      have hregs : (s.signal (.endpoint n f)).endpoints reportEP = s.endpoints reportEP :=
        if_neg (Ne.symm hn)
      have hquiet : (s.signal (.endpoint n f)).happened = s.happened :=
        if_neg fun h => hn h.1
      refine .of_same ?_
      simp only [taskView, clocked, device, hregs, hquiet]
      rfl
  | memory fits => exact .of_same rfl
  | frame number => exact ⟨⟨[.frame number], rfl, rfl⟩, rfl, rfl, id⟩
  | flags udint => exact .of_same rfl
  | vbus level => exact .of_same rfl
  | pinB level => exact ⟨⟨[.pinB level], rfl, rfl⟩, rfl, rfl, id⟩
  | stack content => exact .of_same rfl

/-- A configured device at the start of a frame. -/
def deviceInFrame : Firmware where
  ports := quietBoard
  usbDeviceState := .configured
  udfnum := 1
  udien := { sof := true, susp := true }
  endpoints n :=
    if n = reportEP then { uecfg0x := epdirBit, cfgok := true, txini := true, rwal := true }
    else {}

/-- While a report is being made, a button is pressed, a frame starts and the bus is
suspended. -/
def pressedInBetween : List (Turn Signal) :=
  List.replicate 6 .program ++
    .interrupt (.pinB 5) :: .interrupt (.frame 2) ::
      .interrupt (.flags { sof := true, susp := true }) :: .interrupt .interrupt ::
      List.replicate 107 .program

end Firmware

end AvrJoystick
