import AvrJoystick.Streams
import AvrJoystick.DeviceSteps

/-!
# The surroundings of the main program

Some events of the step system are not steps of the main program: the idle timer
ticks, the host collects a packet, pins change, and the bus is connected,
disconnected, suspended or resumed.  The number of the frame changes as well; to
the step system that number is an argument of the main program's steps.

All of these act on separate parts of the device and its controller, so events
that act on different parts can be taken in either order (`surroundings`).
-/

namespace AvrJoystick

open Streams

/-- What may happen to the device while the main program runs. -/
inductive Outside
  | startOfFrame
  | frame (number : UInt16)
  | inToken
  | pinB (level : UInt8)
  | connect
  | disconnect
  | stateChange (state : USBDeviceState)
  deriving DecidableEq

/-- The part that an event acts on: the idle timer, the frame number, the report
endpoint, the input pins, or the state of the bus. -/
inductive Channel
  | time
  | frames
  | pipe
  | pins
  | bus
  deriving DecidableEq

namespace Outside

/-- The part that the event acts on. -/
def channel : Outside → Channel
  | .startOfFrame => .time
  | .frame _ => .frames
  | .inToken => .pipe
  | .pinB _ => .pins
  | .connect | .disconnect | .stateChange _ => .bus

/-- The event of the step system, if it is one. -/
def event : Outside → Option Event
  | .startOfFrame => some .startOfFrame
  | .frame _ => none
  | .inToken => some .inToken
  | .pinB level => some (.pinB level)
  | .connect => some .connect
  | .disconnect => some .disconnect
  | .stateChange state => some (.stateChange state)

end Outside

/-- A device, and the frame number its controller shows. -/
structure Clocked where
  device : Device
  frame : UInt16

/-- One millisecond less, down to zero. -/
def countdown (remaining : UInt16) : UInt16 := if remaining ≠ 0 then remaining - 1 else remaining

/-- A millisecond passes. -/
theorem millisecondElapsed_eq (d : Device) :
    hidDeviceMillisecondElapsed d =
      { d with hid := { d.hid with idleMSRemaining := countdown d.hid.idleMSRemaining } } := by
  unfold hidDeviceMillisecondElapsed countdown
  split <;> rfl

/-- An event of the surroundings: a step of the device, or a new frame number. -/
def Clocked.outside (c : Clocked) (o : Outside) : Clocked where
  device := o.event.elim c.device c.device.next
  frame :=
    match o with
    | .frame number => number
    | _ => c.frame

/-- A step of the device, if the event is one. -/
theorem Clocked.outside_device (c : Clocked) (o : Outside) :
    (c.outside o).device = o.event.elim c.device c.device.next := rfl

/-- The events of each channel act on a part of their own. -/
theorem Clocked.outside_eq (c : Clocked) (o : Outside) :
    c.outside o = match o with
      | .startOfFrame =>
          { c with
            device := { c.device with
              hid := { c.device.hid with
                idleMSRemaining := countdown c.device.hid.idleMSRemaining } } }
      | .frame number => { c with frame := number }
      | .inToken =>
          { c with
            device := { c.device with endpoint := { c.device.endpoint with busy := false } } }
      | .pinB level =>
          { c with device := { c.device with ports := { c.device.ports with pinB := level } } }
      | .connect =>
          { c with
            device := { c.device with
              usbDeviceState := .powered, ports := { c.device.ports with portE := 0xFF } } }
      | .disconnect =>
          { c with
            device := { c.device with
              usbDeviceState := .unattached, ports := { c.device.ports with portE := 0xFF } } }
      | .stateChange state => { c with device := { c.device with usbDeviceState := state } } := by
  cases o with
  | startOfFrame => exact congrArg (Clocked.mk · c.frame) (millisecondElapsed_eq c.device)
  | frame number => rfl
  | inToken => rfl
  | pinB level => rfl
  | connect => rfl
  | disconnect => rfl
  | stateChange state => rfl

/-- The device with what happens around the main program. -/
def surroundings : System Clocked Outside Channel where
  next := Clocked.outside
  stream := Outside.channel
  commute c o o' h := by
    simp only [Clocked.outside_eq]
    cases o <;> cases o' <;> first | rfl | exact absurd rfl h

/-- Nothing can be seen of the surroundings' events. -/
theorem run_outside (c : Clocked) (log : List Observation) (h : List Outside) :
    Runs.run Observed.step ⟨c.device, log⟩ (h.filterMap Outside.event) =
      ⟨(surroundings.run c h).device, log⟩ := by
  induction h generalizing c with
  | nil => rfl
  | cons o h ih =>
      have hrest : Runs.run Observed.step ⟨(c.outside o).device, log⟩
          (h.filterMap Outside.event) = ⟨(surroundings.run c (o :: h)).device, log⟩ :=
        ih (c.outside o)
      cases hevent : o.event with
      | none =>
          have hsame : (c.outside o).device = c.device := by
            rw [Clocked.outside_device, hevent]
            rfl
          rw [List.filterMap_cons_none hevent]
          rwa [hsame] at hrest
      | some e =>
          have hdevice : (c.outside o).device = c.device.next e := by
            rw [Clocked.outside_device, hevent]
            rfl
          have hnone : (c.device.step e).2 = [] := by
            cases o <;> first | cases hevent; rfl | cases hevent
          have hstep : Observed.step ⟨c.device, log⟩ e = ⟨(c.outside o).device, log⟩ := by
            rw [Observed.step, hnone, List.append_nil, hdevice]
            rfl
          rw [List.filterMap_cons_some hevent, Runs.run_cons, hstep]
          exact hrest

/-- One step of the device, and what happens around it. -/
theorem run_step_between (c : Clocked) (e : Event) (before after : List Outside) :
    let moment := surroundings.run c before
    Runs.run Observed.step ⟨c.device, []⟩
      (before.filterMap Outside.event ++ e :: after.filterMap Outside.event) =
        ⟨(surroundings.run ⟨(moment.device.step e).1, moment.frame⟩ after).device,
          (moment.device.step e).2⟩ := by
  intro moment
  have hstep : Observed.step ⟨moment.device, []⟩ e =
      ⟨(moment.device.step e).1, (moment.device.step e).2⟩ := by
    rw [Observed.step, List.nil_append]
  rw [Runs.run_append, run_outside c [] before, Runs.run_cons, hstep]
  exact run_outside ⟨(moment.device.step e).1, moment.frame⟩ _ after

/-- The frame number in force does not depend on the device. -/
theorem run_frame {c c' : Clocked} (h : c.frame = c'.frame) (l : List Outside) :
    (surroundings.run c l).frame = (surroundings.run c' l).frame := by
  induction l generalizing c c' with
  | nil => exact h
  | cons o l ih =>
      refine ih ?_
      show (c.outside o).frame = (c'.outside o).frame
      rw [Clocked.outside_eq, Clocked.outside_eq]
      cases o <;> first | rfl | exact h

section Unchanged

variable {c : Clocked} {o : Outside}

/-- Only the bus changes the state. -/
theorem outside_usbDeviceState (h : o.channel ≠ .bus) :
    (c.outside o).device.usbDeviceState = c.device.usbDeviceState := by
  rw [Clocked.outside_eq]
  cases o <;> first | rfl | exact absurd rfl h

/-- Only the frames change the frame number. -/
theorem outside_frame (h : o.channel ≠ .frames) : (c.outside o).frame = c.frame := by
  rw [Clocked.outside_eq]
  cases o <;> first | rfl | exact absurd rfl h

/-- Only the pins change the report of the moment. -/
theorem outside_currentReport (h : o.channel ≠ .pins) :
    (c.outside o).device.currentReport = c.device.currentReport := by
  rw [Clocked.outside_eq]
  cases o <;> first | rfl | exact absurd rfl h

/-- Only time runs the idle timer down. -/
theorem outside_idleMSRemaining (h : o.channel ≠ .time) :
    (c.outside o).device.hid.idleMSRemaining = c.device.hid.idleMSRemaining := by
  rw [Clocked.outside_eq]
  cases o <;> first | rfl | exact absurd rfl h

/-- Only the host does to the report endpoint. -/
theorem outside_endpoint (h : o.channel ≠ .pipe) :
    (c.outside o).device.endpoint = c.device.endpoint := by
  rw [Clocked.outside_eq]
  cases o <;> first | rfl | exact absurd rfl h

/-- A bank that is free stays free. -/
theorem outside_endpoint_free (h : c.device.endpoint.busy = false) :
    (c.outside o).device.endpoint = c.device.endpoint := by
  by_cases ho : o.channel = .pipe
  · obtain rfl : o = .inToken := by cases o <;> first | rfl | cases ho
    show { c.device.endpoint with busy := false } = c.device.endpoint
    rw [← h]
  · exact outside_endpoint ho

/-- The settings of the class driver are left alone. -/
theorem outside_hid : (c.outside o).device.hid.prevFrameNum = c.device.hid.prevFrameNum ∧
    (c.outside o).device.hid.idleCount = c.device.hid.idleCount := by
  rw [Clocked.outside_eq]
  cases o <;> exact ⟨rfl, rfl⟩

/-- So is its comparison buffer. -/
theorem outside_prevReportINBuffer :
    (c.outside o).device.prevReportINBuffer = c.device.prevReportINBuffer := by
  rw [Clocked.outside_eq]
  cases o <;> rfl

end Unchanged

end AvrJoystick
