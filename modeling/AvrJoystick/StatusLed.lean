import AvrJoystick.DeviceSteps

/-!
# The status LED

The event handlers show the state of the USB connection on the LEDs, each
with its own mask of `joystick.h`.  On this board only the first LED exists:
it is part of the masks for "not ready" and "error", and of no other.

`LEDs_SetAllLEDs` ignores its mask and drives the whole port high, so the LED
is lit from start-up on and never changes.  It tells the truth exactly while
the connection is down or its configuration has failed
(`status_led_correct_iff`).
-/

namespace AvrJoystick

/-- What the handlers want to show. -/
inductive Status
  | notReady
  | enumerating
  | ready
  | error
  deriving DecidableEq, Repr

/-- The mask of `joystick.h` for a status. -/
def Status.mask : Status → UInt8
  | .notReady => ledMaskUSBNotReady
  | .enumerating => ledMaskUSBEnumerating
  | .ready => ledMaskUSBReady
  | .error => ledMaskUSBError

/-- The status an event stands for, if it is one of the three that are shown. -/
def Event.status : Event → Option Status
  | .connect => some .enumerating
  | .disconnect => some .notReady
  | .configurationChanged configOk => some (if configOk then .ready else .error)
  | _ => none

/-- The status of the most recent such event; "not ready" after start-up. -/
def lastStatus (es : List Event) : Status :=
  (es.filterMap Event.status).getLast?.getD .notReady

/-- Only the handlers of the three status events write the LED port. -/
theorem Device.next_portE (d : Device) (e : Event) :
    (d.next e).ports.portE =
      (e.status.map (fun _ => 0xFF)).getD d.ports.portE := by
  cases e with
  | controlRequest t => exact (hidDeviceProcessControlRequest_frame d t).2.2
  | usbTask t =>
      exact congrArg Ports.portE (hidDeviceUSBTask_ports_saved_mask d t).1
  | startOfFrame =>
      obtain ⟨remaining, heq⟩ := hidDeviceMillisecondElapsed_eq d
      show (hidDeviceMillisecondElapsed d).ports.portE = d.ports.portE
      rw [heq]
  | endpointHalt halted => cases halted <;> rfl
  | _ => rfl

/-- **The LED port is high after any history.** -/
theorem run_portE (ports : Ports) (es : List Event) :
    (Runs.run Device.next (mainBeforeLoop ports) es).ports.portE = 0xFF := by
  apply Runs.run_invariant (fun d : Device => d.ports.portE = 0xFF) _ rfl
  intro d e hd
  rw [Device.next_portE, hd]
  cases e.status <;> rfl

/-- The masks that contain the only LED there is. -/
theorem Status.mask_eq_allLEDs_iff (status : Status) :
    ledsAllLEDs = status.mask ↔ status = .notReady ∨ status = .error := by
  cases status <;> decide

/-- **When the status LED tells the truth.**  After `main` has set up the
board and any events have followed in any order, the LEDs show the mask of the
most recent connect, disconnect or configuration event exactly when that mask
is the one for "not ready" or for "error". -/
theorem status_led_correct_iff (ports : Ports) (es : List Event) :
    ledsGetLEDs (Runs.run Device.next (mainBeforeLoop ports) es).ports &&&
        ledsAllLEDs = (lastStatus es).mask ↔
      lastStatus es = .notReady ∨ lastStatus es = .error := by
  have hleds : ledsGetLEDs
      (Runs.run Device.next (mainBeforeLoop ports) es).ports &&& ledsAllLEDs =
        ledsAllLEDs := by
    rw [ledsGetLEDs, run_portE]
    decide
  rw [hleds, Status.mask_eq_allLEDs_iff]

/-- The first connection already shows "not ready". -/
theorem status_led_wrong_after_connect :
    ledsGetLEDs (Runs.run Device.next (mainBeforeLoop quietBoard)
        [.connect]).ports &&& ledsAllLEDs ≠ (lastStatus [.connect]).mask := by
  decide

end AvrJoystick
