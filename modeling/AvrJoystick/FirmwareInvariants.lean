import AvrJoystick.MainActions

/-!
# What holds whenever the main loop is interrupted

The main loop runs for ever, and the interrupt handler and the controller act
on its state between any two of its actions.  `run_invariant` reduces a
property of all such runs to one check for the actions of the main program and
one for the signals around it.

The interrupt for a reset of the bus stays armed throughout, so that a reset
always gets through (`reset_always_served`).

A device whose bus is suspended has its clock frozen and can only come back
through the wake-up interrupt.  The handler arms that interrupt while it
disarms the suspend interrupt, and the main program writes to the same register
without turning interrupts off.  Unless the handler suspends the device inside
that write, a suspended device wakes (`suspended_device_wakes`); otherwise it
may not (`suspend_inside_update`).

What the host has set stays within the bounds of its encodings
(`settings_stay_in_range`).
-/

namespace AvrJoystick

open Interleave

namespace Firmware

/-- What one action of the main program does. -/
inductive MainAction (s s' : Firmware) : Prop
  | unchanged (h : Unchanged s s')
  | registers (h : Registers s s')
  | stalls (h : Stalls s s')
  | selects (address : UInt8) (h : Selects address s s')
  | writes (writer : Writer) (h : Writes writer s s')
  | app (h : AppStep s s')
  | setting (h : SettingStep s s')
  | core (h : CoreStep s s')
  | mask (h : MaskStep s s')

/-- The contract that asks for nothing but these actions. -/
def anyAction : Contract Firmware Unit where
  view _ := ()
  rely _ _ := True
  guarantee := MainAction

section AnyAction

variable {P : Unit → Prop}

instance : Stable anyAction P := ⟨fun _ _ h _ => h⟩

instance : Allows anyAction P Unchanged := ⟨fun _ _ hP h => ⟨.unchanged h, hP⟩⟩

instance : Allows anyAction P Registers := ⟨fun _ _ hP h => ⟨.registers h, hP⟩⟩

instance : Allows anyAction P Stalls := ⟨fun _ _ hP h => ⟨.stalls h, hP⟩⟩

instance (address : UInt8) : Allows anyAction P (Selects address) :=
  ⟨fun _ _ hP h => ⟨.selects address h, hP⟩⟩

instance (writer : Writer) : Allows anyAction P (Writes writer) :=
  ⟨fun _ _ hP h => ⟨.writes writer h, hP⟩⟩

instance : Allows anyAction P AppStep := ⟨fun _ _ hP h => ⟨.app h, hP⟩⟩

instance : Allows anyAction P SettingStep := ⟨fun _ _ hP h => ⟨.setting h, hP⟩⟩

instance : Allows anyAction P CoreStep := ⟨fun _ _ hP h => ⟨.core h, hP⟩⟩

instance : Allows anyAction P MaskStep := ⟨fun _ _ hP h => ⟨.mask h, hP⟩⟩

end AnyAction

/-- **Invariants of the running firmware.** -/
theorem run_invariant {A : Firmware → Signal → Prop} (J : Firmware → Prop)
    (hmain : ∀ s s', J s → MainAction s s' → J s')
    (hsignal : ∀ s e, A s e → J s → J (s.signal e)) {s : Firmware} (hs : J s)
    {turns : List (Turn Signal)} (hturns : InterruptsAllowed signal A mainLoop s turns) :
    J (s.after turns) := by
  have hloop : mainLoop.wp anyAction (fun _ _ => True) () := Keeps.keeps () trivial
  exact wp_invariant (fun _ _ _ => .single trivial) J hmain hsignal hs hloop hturns

/-- Only the selection and the endpoint registers have changed, and nothing has
come in. -/
structure EndpointAccess (s s' : Firmware) : Prop where
  rest : s' = { s with
    uenum := s'.uenum, endpoints := s'.endpoints
    allocated := s'.allocated, released := s'.released }
  quiet : ∀ n, EndpointQuiet (s.endpoints n) (s'.endpoints n)

/-- Nothing has changed. -/
theorem EndpointAccess.refl (s : Firmware) : EndpointAccess s s := ⟨rfl, fun _ => .refl _⟩

/-- One access after another. -/
theorem EndpointAccess.trans {s s' s'' : Firmware} (h : EndpointAccess s s')
    (h' : EndpointAccess s' s'') : EndpointAccess s s'' := by
  refine ⟨?_, fun n => (h.quiet n).trans (h'.quiet n)⟩
  have hrest := h'.rest
  rw [h.rest] at hrest
  exact hrest

/-- The contract of a program that touches nothing but endpoints. -/
def endpointAccess : Contract Firmware Unit where
  view _ := ()
  rely _ _ := True
  guarantee := EndpointAccess

section EndpointAccess

variable {P : Unit → Prop}

instance : Stable endpointAccess P := ⟨fun _ _ h _ => h⟩

instance : Allows endpointAccess P Unchanged :=
  ⟨fun s _ hP h => ⟨h ▸ .refl s, hP⟩⟩

instance : Allows endpointAccess P Registers :=
  ⟨fun _ _ hP h => ⟨⟨h.rest ▸ rfl, h.quiet⟩, hP⟩⟩

instance (address : UInt8) : Allows endpointAccess P (Selects address) :=
  ⟨fun _ _ hP h => ⟨h ▸ ⟨rfl, fun _ => .refl _⟩, hP⟩⟩

end EndpointAccess

/-- The call in the interrupt handler touches nothing but endpoints. -/
theorem configureControlEndpoint_access (s : Firmware) :
    EndpointAccess s s.configureControlEndpoint := by
  have hcall : (endpointConfigureEndpoint endpointControlEP epTypeControl
      (UInt16.ofNat fixedControlEndpointSize) 1).wp endpointAccess (fun _ _ => True) () :=
    Keeps.keeps () trivial
  unfold configureControlEndpoint
  cases hrun : (endpointConfigureEndpoint endpointControlEP epTypeControl
      (UInt16.ofNat fixedControlEndpointSize) 1).uninterrupted s with
  | none => exact .refl s
  | some result =>
      exact (wp_uninterrupted (EndpointAccess s) (fun _ _ => .trans) (.refl s) hcall hrun).1

/-- What `USB_Init` leaves behind, up to the endpoints. -/
theorem usbInit_access (s : Firmware) :
    EndpointAccess
      { s with
        udaddr := 0, udien := { susp := true, eorst := true }, udint := {}
        vbuste := true, vbusti := false, plle := false, frzclk := false
        usbDeviceState := .unattached, usbDeviceConfigurationNumber := 0
        usbDeviceRemoteWakeupEnabled := false, usbDeviceCurrentlySelfPowered := false }
      (usbInit s) := by
  unfold usbInit
  have haccess := configureControlEndpoint_access
    { s with
      uenum := 0, endpoints := fun _ => {}, allocated := [], udaddr := 0
      udien := {}, udint := {}, vbusti := false, plle := false, frzclk := false
      usbDeviceState := .unattached, usbDeviceConfigurationNumber := 0
      usbDeviceRemoteWakeupEnabled := false, usbDeviceCurrentlySelfPowered := false
      vbuste := true }
  generalize configureControlEndpoint _ = t at haccess ⊢
  constructor
  · rw [haccess.rest]
  · -- the controller starts with every flag down
    intro n
    have hquiet := haccess.quiet n
    exact ⟨fun h => Bool.noConfusion (hquiet.setup h), fun h => Bool.noConfusion (hquiet.out h),
      fun h => Bool.noConfusion (hquiet.stall h)⟩

/-- The stages of the handler before the last one touch neither endpoints nor
the data register, and leave a reset to the last one. -/
structure HandlerFrame (s s' : Firmware) : Prop where
  rest : s' = { s with
    udint := s'.udint, udien := s'.udien, vbusti := s'.vbusti, plle := s'.plle
    frzclk := s'.frzclk, usbDeviceState := s'.usbDeviceState, ports := s'.ports, hid := s'.hid }
  flag : s'.udint.eorst = s.udint.eorst
  enable : s'.udien.eorst = s.udien.eorst

/-- Nothing has changed. -/
theorem HandlerFrame.refl (s : Firmware) : HandlerFrame s s := ⟨rfl, rfl, rfl⟩

/-- One stage after another. -/
theorem HandlerFrame.trans {s s' s'' : Firmware} (h : HandlerFrame s s')
    (h' : HandlerFrame s' s'') : HandlerFrame s s'' := by
  refine ⟨?_, h'.flag.trans h.flag, h'.enable.trans h.enable⟩
  have hrest := h'.rest
  rw [h.rest] at hrest
  exact hrest

/-- The stage of a new frame. -/
theorem serveStartOfFrame_frame (s : Firmware) : HandlerFrame s s.serveStartOfFrame := by
  unfold serveStartOfFrame
  split
  · exact ⟨rfl, rfl, rfl⟩
  · exact .refl s

/-- The stage of the supply on the bus. -/
theorem serveVBUS_frame (s : Firmware) : HandlerFrame s s.serveVBUS := by
  unfold serveVBUS
  split
  · split <;> exact ⟨rfl, rfl, rfl⟩
  · exact .refl s

/-- The stage of a suspended bus. -/
theorem serveSuspend_frame (s : Firmware) : HandlerFrame s s.serveSuspend := by
  unfold serveSuspend
  split
  · exact ⟨rfl, rfl, rfl⟩
  · exact .refl s

/-- The stage of a wake-up. -/
theorem serveWakeUp_frame (s : Firmware) : HandlerFrame s s.serveWakeUp := by
  unfold serveWakeUp
  split
  · exact ⟨rfl, rfl, rfl⟩
  · exact .refl s

/-- All stages before the one that serves a reset. -/
theorem beforeReset_frame (s : Firmware) :
    HandlerFrame s s.serveStartOfFrame.serveVBUS.serveSuspend.serveWakeUp := by
  have hframe := serveStartOfFrame_frame s
  have hvbus := hframe.trans (serveVBUS_frame _)
  have hsuspend := hvbus.trans (serveSuspend_frame _)
  exact hsuspend.trans (serveWakeUp_frame _)

/-- Without a reset the handler leaves the endpoints alone. -/
theorem usbGenVect_quiet {s : Firmware} (h : (s.udint.eorst && s.udien.eorst) = false) :
    HandlerFrame s s.usbGenVect := by
  have hframe := beforeReset_frame s
  unfold usbGenVect serveEndOfReset
  generalize s.serveStartOfFrame.serveVBUS.serveSuspend.serveWakeUp = t at hframe ⊢
  have hpending : (t.udint.eorst && t.udien.eorst) = false := by
    rw [hframe.flag, hframe.enable, h]
  rw [if_neg (by rw [hpending]; decide)]
  exact hframe

/-- A reset is served last. -/
theorem usbGenVect_reset {s : Firmware} (h : (s.udint.eorst && s.udien.eorst) = true) :
    ∃ t, HandlerFrame s t ∧ s.usbGenVect = configureControlEndpoint
      { t with
        usbDeviceState := .default, usbDeviceConfigurationNumber := 0
        udint := { t.udint with eorst := false, susp := false }
        udien := { t.udien with susp := false, wakeup := true }
        resets := t.resets + 1 } := by
  refine ⟨_, beforeReset_frame s, ?_⟩
  have hframe := beforeReset_frame s
  unfold usbGenVect serveEndOfReset
  generalize s.serveStartOfFrame.serveVBUS.serveSuspend.serveWakeUp = t at hframe ⊢
  have hpending : (t.udint.eorst && t.udien.eorst) = true := by
    rw [hframe.flag, hframe.enable, h]
  rw [if_pos hpending]

/-- What suspending and waking depend on. -/
structure Power where
  vbuste : Bool
  udien : DeviceInterrupts
  udienCopy : Option DeviceInterrupts
  udint : DeviceInterrupts
  state : USBDeviceState
  frzclk : Bool

/-- What suspending and waking see of the firmware. -/
def power (s : Firmware) : Power :=
  ⟨s.vbuste, s.udien, s.udienCopy, s.udint, s.usbDeviceState, s.frzclk⟩

/-- Access to endpoints is not seen by them. -/
theorem power_access {s s' : Firmware} (h : EndpointAccess s s') : s'.power = s.power := by
  rw [h.rest]
  rfl

/-- The actions of the main program as far as suspending and waking see them. -/
inductive PowerStep (p : Power) : Power → Prop
  | refl : PowerStep p p
  | state (state : USBDeviceState) (h : state ≠ .suspended) :
      PowerStep p { p with state := state }
  | loadUDIEN : PowerStep p { p with udienCopy := some p.udien }
  | storeUDIEN :
      PowerStep p
        { p with udien := { p.udienCopy.getD p.udien with sof := true }, udienCopy := none }

/-- What the main program does to them. -/
theorem MainAction.power {s s' : Firmware} (h : MainAction s s') :
    PowerStep s.power s'.power := by
  cases h with
  | unchanged h => exact h ▸ .refl
  | registers h =>
      rw [h.rest]
      exact .refl
  | stalls h =>
      rw [h]
      exact .refl
  | selects _ h =>
      rw [h]
      exact .refl
  | writes _ h =>
      obtain ⟨_, rfl⟩ := h
      exact .refl
  | app h => cases h <;> exact .refl
  | setting h => cases h <;> exact .refl
  | core h =>
      cases h with
      | state state hstate => exact .state state hstate
      | request _ => exact .refl
      | address _ => exact .refl
      | configuration _ _ => exact .refl
      | remoteWakeup _ => exact .refl
  | mask h =>
      cases h with
      | loadUDIEN => exact .loadUDIEN
      | storeUDIEN => exact .storeUDIEN

/-- The stages of the interrupt handler as suspending and waking see them. -/
inductive HandlerStep (p : Power) : Power → Prop
  | refl : HandlerStep p p
  | startOfFrame : HandlerStep p { p with udint := { p.udint with sof := false } }
  | vbus (state : USBDeviceState) (h : state ≠ .suspended) :
      HandlerStep p { p with state := state }
  | suspend :
      HandlerStep p
        { p with
          udien := { p.udien with susp := false, wakeup := true }
          frzclk := true, state := .suspended }
  | wakeUp (state : USBDeviceState) (h : state ≠ .suspended) :
      HandlerStep p
        { p with
          udint := { p.udint with wakeup := false }
          udien := { p.udien with wakeup := false, susp := true }
          frzclk := false, state := state }
  | endOfReset :
      HandlerStep p
        { p with
          udint := { p.udint with eorst := false, susp := false }
          udien := { p.udien with susp := false, wakeup := true }
          state := .default }

namespace HandlerStep

variable (s : Firmware)

/-- A new frame clears its flag. -/
theorem serveStartOfFrame : HandlerStep s.power s.serveStartOfFrame.power := by
  unfold Firmware.serveStartOfFrame
  split
  · exact .startOfFrame
  · exact .refl

/-- The supply on the bus decides on the state. -/
theorem serveVBUS : HandlerStep s.power s.serveVBUS.power := by
  unfold Firmware.serveVBUS
  split
  · split
    · exact .vbus .powered (by simp)
    · exact .vbus .unattached (by simp)
  · exact .refl

/-- A suspended bus freezes the clock and arms the wake-up. -/
theorem serveSuspend : HandlerStep s.power s.serveSuspend.power := by
  unfold Firmware.serveSuspend
  split
  · exact .suspend
  · exact .refl

/-- A wake-up starts the clock again. -/
theorem serveWakeUp : HandlerStep s.power s.serveWakeUp.power := by
  unfold Firmware.serveWakeUp
  split
  · refine .wakeUp _ ?_
    split
    · simp
    · split <;> simp
  · exact .refl

/-- A reset arms the wake-up, not the suspension. -/
theorem serveEndOfReset : HandlerStep s.power s.serveEndOfReset.power := by
  unfold Firmware.serveEndOfReset
  split
  · rw [power_access (configureControlEndpoint_access _)]
    exact .endOfReset
  · exact .refl

end HandlerStep

/-- What every stage of the handler keeps, the handler keeps. -/
theorem usbGenVect_keeps {I : Power → Prop} (hI : ∀ p p', I p → HandlerStep p p' → I p')
    {s : Firmware} (hs : I s.power) : I s.usbGenVect.power := by
  have hframe := hI _ _ hs (.serveStartOfFrame s)
  have hvbus := hI _ _ hframe (.serveVBUS _)
  have hsuspend := hI _ _ hvbus (.serveSuspend _)
  have hwakeUp := hI _ _ hsuspend (.serveWakeUp _)
  exact hI _ _ hwakeUp (.serveEndOfReset _)

/-- Apart from the handler, the surroundings can only change flags. -/
theorem signal_power (s : Firmware) {e : Signal} (he : e ≠ .interrupt) :
    ∃ udint, (s.signal e).power = { s.power with udint := udint } := by
  cases e with
  | interrupt => exact absurd rfl he
  | flags udint => exact ⟨udint, rfl⟩
  | busReset => exact ⟨{ s.udint with eorst := true }, rfl⟩
  | endpoint _ _ => exact ⟨s.udint, rfl⟩
  | memory _ => exact ⟨s.udint, rfl⟩
  | frame _ => exact ⟨s.udint, rfl⟩
  | vbus _ => exact ⟨s.udint, rfl⟩
  | pinB _ => exact ⟨s.udint, rfl⟩
  | stack _ => exact ⟨s.udint, rfl⟩

/-- An interrupt is taken when its flag and its enable bit are both set. -/
def interruptRequested (s : Firmware) : Bool :=
  (s.udint.sof && s.udien.sof) || (s.vbusti && s.vbuste) || (s.udint.susp && s.udien.susp) ||
    (s.udint.wakeup && s.udien.wakeup) || (s.udint.eorst && s.udien.eorst)

/-- A device that has just been initialised. -/
theorem power_beforeMainLoop (ports : Ports) (fits : UInt8 → Bool)
    (signature : UInt8 → UInt8) (stack : Nat → UInt8) (vbus : Bool) :
    (beforeMainLoop ports fits signature stack vbus).power =
      ⟨true, { susp := true, eorst := true }, none, {}, .unattached, false⟩ := by
  unfold beforeMainLoop
  rw [(usbInit_access _).rest]
  rfl

/-- The interrupts that are armed at any time. -/
structure Armed (p : Power) : Prop where
  vbuste : p.vbuste = true
  eorst : p.udien.eorst = true
  exclusive : p.udien.susp = !p.udien.wakeup
  copy : ∀ c, p.udienCopy = some c → c.eorst = true ∧ c.susp = !c.wakeup

namespace Armed

/-- The main program disarms neither. -/
theorem main {p p' : Power} (h : Armed p) (hp : PowerStep p p') : Armed p' := by
  cases hp with
  | refl => exact h
  | state _ _ => exact { h with }
  | loadUDIEN =>
      refine { h with copy := fun c hc => ?_ }
      obtain rfl := Option.some.inj hc
      exact ⟨h.eorst, h.exclusive⟩
  | storeUDIEN =>
      -- the value written back was read earlier
      have hvalue : (p.udienCopy.getD p.udien).eorst = true ∧
          (p.udienCopy.getD p.udien).susp = !(p.udienCopy.getD p.udien).wakeup := by
        cases hcopy : p.udienCopy with
        | none => exact ⟨h.eorst, h.exclusive⟩
        | some c => exact h.copy c hcopy
      exact { h with eorst := hvalue.1, exclusive := hvalue.2, copy := by simp }

/-- No stage of the handler disarms them. -/
theorem handler {p p' : Power} (h : Armed p) (hp : HandlerStep p p') : Armed p' := by
  cases hp with
  | refl => exact h
  | startOfFrame => exact { h with }
  | vbus _ _ => exact { h with }
  | suspend => exact { h with exclusive := rfl }
  | wakeUp _ _ => exact { h with exclusive := rfl }
  | endOfReset => exact { h with exclusive := rfl }

/-- Nothing around the main program disarms them. -/
theorem signal {s : Firmware} (h : Armed s.power) (e : Signal) : Armed (s.signal e).power := by
  by_cases he : e = .interrupt
  · subst he
    exact usbGenVect_keeps (fun _ _ => handler) h
  · obtain ⟨udint, hpower⟩ := signal_power s he
    rw [hpower]
    exact { h with }

end Armed

/-- They are armed in every run. -/
theorem armed_after (ports : Ports) (fits : UInt8 → Bool) (signature : UInt8 → UInt8)
    (stack : Nat → UInt8) (vbus : Bool) (turns : List (Turn Signal)) :
    Armed ((beforeMainLoop ports fits signature stack vbus).after turns).power := by
  refine run_invariant (A := fun _ _ => True) (fun s => Armed s.power)
    (fun _ _ h hmain => h.main hmain.power) (fun _ e _ h => h.signal e) ?_
    (interruptsAllowed_of_forall (fun _ _ => trivial) _ _ _)
  rw [power_beforeMainLoop]
  exact ⟨rfl, rfl, rfl, by simp⟩

/-- The handler does not run between the two halves of `UDIEN |= (1 << SOFE)`. -/
def HandlerOutsideUpdate (s : Firmware) (e : Signal) : Prop :=
  e = .interrupt → s.udienCopy = none

/-- A suspended device waits for the wake-up interrupt. -/
structure WakeArmed (p : Power) : Prop where
  frozen : p.frzclk = true → p.udien.wakeup = true
  suspended : p.state = .suspended → p.udien.wakeup = true
  copy : ∀ c, p.udienCopy = some c → c.wakeup = p.udien.wakeup

namespace WakeArmed

/-- The main program writes back the wake-up bit it has read. -/
theorem main {p p' : Power} (h : WakeArmed p) (hp : PowerStep p p') : WakeArmed p' := by
  cases hp with
  | refl => exact h
  | state state hstate => exact { h with suspended := fun hsusp => absurd hsusp hstate }
  | loadUDIEN => exact { h with copy := fun c hc => by rw [← Option.some.inj hc] }
  | storeUDIEN =>
      have hvalue : (p.udienCopy.getD p.udien).wakeup = p.udien.wakeup := by
        cases hcopy : p.udienCopy with
        | none => rfl
        | some c => exact h.copy c hcopy
      exact
        { frozen := fun hfrozen => hvalue.trans (h.frozen hfrozen)
          suspended := fun hsusp => hvalue.trans (h.suspended hsusp)
          copy := by simp }

/-- Outside an update every stage of the handler keeps the wake-up armed. -/
theorem handler {p p' : Power} (h : WakeArmed p ∧ p.udienCopy = none)
    (hp : HandlerStep p p') : WakeArmed p' ∧ p'.udienCopy = none := by
  cases hp with
  | refl => exact h
  | startOfFrame => exact ⟨{ h.1 with }, h.2⟩
  | vbus _ hstate =>
      exact ⟨{ h.1 with suspended := fun hsusp => absurd hsusp hstate }, h.2⟩
  | suspend => exact ⟨⟨fun _ => rfl, fun _ => rfl, by simp [h.2]⟩, h.2⟩
  | wakeUp _ hstate =>
      exact ⟨⟨by simp, fun hsusp => absurd hsusp hstate, by simp [h.2]⟩, h.2⟩
  | endOfReset => exact ⟨⟨fun _ => rfl, fun _ => rfl, by simp [h.2]⟩, h.2⟩

/-- So does all that happens around the main program. -/
theorem signal {s : Firmware} (h : WakeArmed s.power) {e : Signal}
    (hallowed : HandlerOutsideUpdate s e) : WakeArmed (s.signal e).power := by
  by_cases he : e = .interrupt
  · have hcopy := hallowed he
    subst he
    exact (usbGenVect_keeps (fun _ _ => handler) ⟨h, hcopy⟩).1
  · obtain ⟨udint, hpower⟩ := signal_power s he
    rw [hpower]
    exact { h with }

end WakeArmed

/-- A new frame passes a wake-up on to the later stages. -/
theorem serveStartOfFrame_wakeup (s : Firmware) :
    s.serveStartOfFrame.udint.wakeup = s.udint.wakeup ∧
      s.serveStartOfFrame.udien = s.udien := by
  unfold serveStartOfFrame
  split <;> exact ⟨rfl, rfl⟩

/-- A change of the supply passes it on. -/
theorem serveVBUS_wakeup (s : Firmware) :
    s.serveVBUS.udint = s.udint ∧ s.serveVBUS.udien = s.udien := by
  unfold serveVBUS
  split
  · split <;> exact ⟨rfl, rfl⟩
  · exact ⟨rfl, rfl⟩

/-- A suspended bus passes it on and leaves it armed. -/
theorem serveSuspend_wakeup {s : Firmware} (h : s.udien.wakeup = true) :
    s.serveSuspend.udint = s.udint ∧ s.serveSuspend.udien.wakeup = true := by
  unfold serveSuspend
  split
  · exact ⟨rfl, rfl⟩
  · exact ⟨rfl, h⟩

/-- The device is awake: it has its clock, and its state is not the suspended one. -/
def IsAwake (s : Firmware) : Prop :=
  s.frzclk = false ∧ s.plle = true ∧ s.usbDeviceState ≠ .suspended

/-- The stage of the wake-up leaves the device awake. -/
theorem serveWakeUp_isAwake {s : Firmware} (hflag : s.udint.wakeup = true)
    (harmed : s.udien.wakeup = true) : s.serveWakeUp.IsAwake := by
  unfold serveWakeUp
  rw [if_pos (by rw [hflag, harmed]; rfl)]
  refine ⟨rfl, rfl, ?_⟩
  dsimp only
  split
  · simp
  · split <;> simp

/-- A reset does not send it to sleep again. -/
theorem serveEndOfReset_isAwake {s : Firmware} (h : s.IsAwake) : s.serveEndOfReset.IsAwake := by
  unfold serveEndOfReset
  split
  · rw [(configureControlEndpoint_access _).rest]
    exact ⟨h.1, h.2.1, by simp⟩
  · exact h

/-- The handler wakes a device whose wake-up interrupt is armed. -/
theorem usbGenVect_isAwake {s : Firmware} (hflag : s.udint.wakeup = true)
    (harmed : s.udien.wakeup = true) : s.usbGenVect.IsAwake := by
  obtain ⟨hflag₁, harmed₁⟩ := serveStartOfFrame_wakeup s
  obtain ⟨hflag₂, harmed₂⟩ := serveVBUS_wakeup s.serveStartOfFrame
  obtain ⟨hflag₃, harmed₃⟩ := serveSuspend_wakeup (s := s.serveStartOfFrame.serveVBUS)
    (by rw [harmed₂, harmed₁, harmed])
  refine serveEndOfReset_isAwake (serveWakeUp_isAwake ?_ harmed₃)
  rw [hflag₃, hflag₂, hflag₁, hflag]

/-- **A suspended device wakes.**  Unless the handler has run inside the update of
`UDIEN`, a wake-up on the bus requests an interrupt while the device is
suspended, whatever other flags are raised with it, and the handler starts the
clock and leaves the suspended state.  As for resets, no flag is raised while
the handler clears another one. -/
theorem suspended_device_wakes (ports : Ports) (fits : UInt8 → Bool)
    (signature : UInt8 → UInt8) (stack : Nat → UInt8) (vbus : Bool)
    (turns : List (Turn Signal))
    (hturns : InterruptsAllowed signal HandlerOutsideUpdate mainLoop
      (beforeMainLoop ports fits signature stack vbus) turns)
    (hsuspended : ((beforeMainLoop ports fits signature stack vbus).after turns).usbDeviceState =
      .suspended) (udint : DeviceInterrupts) (hwakeup : udint.wakeup = true) :
    let s := ((beforeMainLoop ports fits signature stack vbus).after turns).signal (.flags udint)
    s.interruptRequested = true ∧ (s.signal .interrupt).IsAwake := by
  intro s
  have hstart : WakeArmed (beforeMainLoop ports fits signature stack vbus).power := by
    rw [power_beforeMainLoop]
    exact ⟨by simp, by simp, by simp⟩
  have hafter := run_invariant (fun s => WakeArmed s.power)
    (fun _ _ h hmain => h.main hmain.power) (fun _ _ hallowed h => h.signal hallowed)
    hstart hturns
  have harmed : s.udien.wakeup = true := hafter.suspended hsuspended
  have hflag : s.udint.wakeup = true := hwakeup
  refine ⟨?_, usbGenVect_isAwake hflag harmed⟩
  unfold interruptRequested
  rw [hflag, harmed]
  simp

/-- The bus is suspended once and then wakes. -/
theorem suspended_device_wakes_once :
    let s := ((beforeMainLoop quietBoard (fun _ => true) (fun _ => 0) (fun _ => 0) true).after
      [.interrupt (.flags { susp := true }), .interrupt .interrupt]).signal
      (.flags { wakeup := true })
    s.interruptRequested = true ∧ (s.signal .interrupt).IsAwake := by
  refine suspended_device_wakes quietBoard _ _ _ _
    [.interrupt (.flags { susp := true }), .interrupt .interrupt] ⟨?_, ?_, trivial⟩
    (by decide +kernel) _ rfl
  · intro e he h
    obtain rfl := Turn.interrupt.inj he
    cases h
  · intro _ _ _
    decide +kernel

/-- What the restriction excludes: the handler suspends the device in the middle
of the update, and the update disarms the wake-up interrupt again.  If the bus
wakes up before the handler has run once more, nothing requests an interrupt. -/
theorem suspend_inside_update (s : Firmware) (harmed : s.udien = { susp := true, eorst := true })
    (hvbus : s.vbusti = false) :
    let stuck := (execute signal usbDeviceEnableSOFEvents s
      [.program, .interrupt (.flags { susp := true }), .interrupt .interrupt, .program,
        .interrupt (.flags { wakeup := true })]).state
    stuck.frzclk = true ∧ stuck.usbDeviceState = .suspended ∧
      stuck.interruptRequested = false := by
  cases s
  subst harmed hvbus
  exact ⟨rfl, rfl, rfl⟩

/-- What the host has set: the configuration number and the idle rate. -/
structure Settings where
  configuration : UInt8
  idleCount : UInt16

/-- What the host has set of the firmware. -/
def settings (s : Firmware) : Settings := ⟨s.usbDeviceConfigurationNumber, s.hid.idleCount⟩

/-- Access to endpoints changes no setting. -/
theorem settings_access {s s' : Firmware} (h : EndpointAccess s s') :
    s'.settings = s.settings := by
  rw [h.rest]
  rfl

/-- Settings within the bounds their encodings need. -/
structure Settings.InRange (v : Settings) : Prop where
  configuration : v.configuration ≤ fixedNumConfigurations
  idle : IsIdleCount v.idleCount

/-- No idle rate at all. -/
theorem isIdleCount_zero : IsIdleCount 0 := ⟨by decide, by decide⟩

/-- The main program keeps the settings in range. -/
theorem MainAction.settings_inRange {s s' : Firmware} (h : s.settings.InRange)
    (hs : MainAction s s') : s'.settings.InRange := by
  cases hs with
  | unchanged hs => exact hs ▸ h
  | registers hs =>
      rw [hs.rest]
      exact h
  | stalls hs =>
      rw [hs]
      exact h
  | selects _ hs =>
      rw [hs]
      exact h
  | writes _ hs =>
      obtain ⟨_, rfl⟩ := hs
      exact h
  | app hs => cases hs <;> exact h
  | setting hs =>
      cases hs with
      | idleCount count hcount => exact { h with idle := hcount }
      | clearHID => exact { h with idle := isIdleCount_zero }
      | protocol _ => exact h
  | core hs =>
      cases hs with
      | configuration number hnumber => exact { h with configuration := hnumber }
      | state _ _ => exact h
      | request _ => exact h
      | address _ => exact h
      | remoteWakeup _ => exact h
  | mask hs => cases hs <;> exact h

/-- A new frame changes no setting. -/
theorem serveStartOfFrame_settings (s : Firmware) :
    s.serveStartOfFrame.settings = s.settings := by
  unfold serveStartOfFrame
  split
  · unfold eventUSBDeviceStartOfFrame hidDeviceMillisecondElapsed
    split <;> rfl
  · rfl

/-- Nor does a change of the supply. -/
theorem serveVBUS_settings (s : Firmware) : s.serveVBUS.settings = s.settings := by
  unfold serveVBUS
  split
  · split <;> rfl
  · rfl

/-- Nor does a suspended bus. -/
theorem serveSuspend_settings (s : Firmware) : s.serveSuspend.settings = s.settings := by
  unfold serveSuspend
  split <;> rfl

/-- Nor does a wake-up. -/
theorem serveWakeUp_settings (s : Firmware) : s.serveWakeUp.settings = s.settings := by
  unfold serveWakeUp
  split <;> rfl

/-- A reset takes the configuration away. -/
theorem serveEndOfReset_settings {s : Firmware} (h : s.settings.InRange) :
    s.serveEndOfReset.settings.InRange := by
  unfold serveEndOfReset
  split
  · rw [settings_access (configureControlEndpoint_access _)]
    exact { h with configuration := UInt8.zero_le }
  · exact h

/-- Nothing around the main program puts a setting out of range. -/
theorem signal_settings {s : Firmware} (h : s.settings.InRange) (e : Signal) :
    (s.signal e).settings.InRange := by
  cases e with
  | interrupt =>
      refine serveEndOfReset_settings ?_
      rwa [serveWakeUp_settings, serveSuspend_settings, serveVBUS_settings,
        serveStartOfFrame_settings]
  | flags _ => exact h
  | busReset => exact h
  | endpoint _ _ => exact h
  | memory _ => exact h
  | frame _ => exact h
  | vbus _ => exact h
  | pinB _ => exact h
  | stack _ => exact h

/-- An idle rate is four times the byte that GET_IDLE answers. -/
theorem IsIdleCount.reply {count : UInt16} (h : IsIdleCount count) :
    4 * ((count >>> 2).toUInt8).toNat = count.toNat := by
  have hmod : count.toNat % 4 = 0 := by simpa using congrArg UInt16.toNat h.1
  have hle : count.toNat ≤ 1020 := UInt16.le_iff_toNat_le.mp h.2
  rw [UInt16.toNat_toUInt8, UInt16.toNat_shiftRight]
  show 4 * (count.toNat >>> 2 % 256) = count.toNat
  rw [Nat.shiftRight_eq_div_pow]
  omega

/-- **Settings survive their encodings.**  In every run the configuration number
is 0, for no configuration, or that of a configuration the device has, and the
byte GET_IDLE answers stands for exactly the idle rate in use. -/
theorem settings_stay_in_range (ports : Ports) (fits : UInt8 → Bool)
    (signature : UInt8 → UInt8) (stack : Nat → UInt8) (vbus : Bool)
    (turns : List (Turn Signal)) :
    let s := (beforeMainLoop ports fits signature stack vbus).after turns
    s.usbDeviceConfigurationNumber ≤ fixedNumConfigurations ∧
      4 * ((s.hid.idleCount >>> 2).toUInt8).toNat = s.hid.idleCount.toNat := by
  intro s
  have hstart : (beforeMainLoop ports fits signature stack vbus).settings.InRange := by
    unfold beforeMainLoop
    rw [(usbInit_access _).rest]
    exact ⟨UInt8.zero_le, isIdleCount_zero⟩
  have hafter : s.settings.InRange :=
    run_invariant (A := fun _ _ => True) (fun s => s.settings.InRange)
      (fun _ _ h hmain => hmain.settings_inRange h) (fun _ e _ h => signal_settings h e) hstart
      (interruptsAllowed_of_forall (fun _ _ => trivial) _ _ _)
  exact ⟨hafter.configuration, hafter.idle.reply⟩

end Firmware

end AvrJoystick
