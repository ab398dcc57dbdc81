import AvrJoystick.EndpointMemory
import AvrJoystick.FirmwareInvariants

/-!
# Which endpoint the bytes go to

The controller has one data register; the bytes written to it go to whichever
endpoint is selected.  The selection is shared by everybody: the report task,
the control requests, which are also served in the middle of a report, and the
interrupt handler, which reconfigures the control endpoint after a reset of the
bus and leaves that endpoint selected.

Nothing restores the selection around the handler.  Still, bytes of control
requests only ever reach the control endpoint, and bytes of reports only reach
the report endpoint as long as no reset is served while the report is written.
After one, the rest of the report goes to the control endpoint, until the report
endpoint is selected again: by the task, for a reset before its own selection,
or at the end of the control requests that are served in the middle of a report,
for a reset during these.
`report_task_writes_in_place` says this of one call of the report task from any
state, `bytes_reach_their_endpoints` of the whole main loop, and
`usbTask_restores_selection` says that serving control requests gives the
selection back.

All of this supposes that the controller has memory for all its endpoints: the
handler ignores whether its configuration has succeeded.
-/

namespace AvrJoystick

open Interleave Relation

namespace Firmware

/-- The selection, and how many resets the handler has served. -/
structure Selection where
  uenum : UInt8
  resets : Nat

/-- What the firmware has selected. -/
def selection (s : Firmware) : Selection := ⟨s.uenum, s.resets⟩

/-- Where a byte may be written, in a task that began when `since` resets had
been served. -/
def InPlace (since : Nat) (v : Selection) : Writer → Prop
  | .control => v.uenum = endpointControlEP
  | .report => v.uenum = reportEP ∨ (v.uenum = endpointControlEP ∧ since < v.resets)

/-- One action: at most one byte is written, and in its place. -/
def WritesInPlace (since : Nat) (s s' : Firmware) : Prop :=
  s'.resets = s.resets ∧
    (s'.written = s.written ∨
      ∃ writer data, s'.written = s.written ++ [⟨writer, s.uenum, data⟩] ∧
        InPlace since s.selection writer)

/-- The surroundings only change the selection by serving a reset. -/
def discipline (since : Nat) : Contract Firmware Selection where
  view := selection
  rely v v' := v'.uenum = endpointControlEP ∧ v.resets < v'.resets
  guarantee := WritesInPlace since

/-- At least `r` resets have been served. -/
def Since (r : Nat) (v : Selection) : Prop := r ≤ v.resets

/-- Endpoint `u` is selected, or the control endpoint because of a reset after
the first `r`. -/
def Holding (u : UInt8) (r : Nat) (v : Selection) : Prop :=
  (v.uenum = u ∧ r ≤ v.resets) ∨ (v.uenum = endpointControlEP ∧ r < v.resets)

/-- Either way, at least `r` resets have been served. -/
theorem Holding.since {u : UInt8} {r : Nat} {v : Selection} (h : Holding u r v) :
    Since r v := by
  rcases h with ⟨_, h⟩ | ⟨_, h⟩
  · exact h
  · exact Nat.le_of_lt h

/-- The control endpoint is selected in both cases. -/
theorem Holding.control {r : Nat} {v : Selection} (h : Holding endpointControlEP r v) :
    v.uenum = endpointControlEP := by
  rcases h with ⟨h, _⟩ | ⟨h, _⟩ <;> exact h

/-- The selection fits into the three bits of `UENUM`. -/
theorem Holding.small {u : UInt8} {r : Nat} {v : Selection} (hu : u < 8)
    (h : Holding u r v) : v.uenum < 8 := by
  rcases h with ⟨h, _⟩ | ⟨h, _⟩
  · rwa [h]
  · rw [h]
    decide

/-- A selection that has been kept from a later moment on. -/
theorem Holding.trans {u : UInt8} {r : Nat} {v v' : Selection} (h : Holding u r v)
    (h' : Holding v.uenum v.resets v') : Holding u r v' := by
  rcases h' with ⟨hsame, hle⟩ | ⟨hzero, hlt⟩
  · rcases h with ⟨h, hr⟩ | ⟨h, hr⟩
    · exact Or.inl ⟨hsame.trans h, Nat.le_trans hr hle⟩
    · exact Or.inr ⟨hsame.trans h, Nat.lt_of_lt_of_le hr hle⟩
  · exact Or.inr ⟨hzero, Nat.lt_of_le_of_lt h.since hlt⟩

section Discipline

variable {since r : Nat} {u : UInt8} {P : Selection → Prop}

instance : Stable (discipline since) (Since r) :=
  ⟨fun _ _ hv h => Nat.le_trans hv (Nat.le_of_lt h.2)⟩

instance : Stable (discipline since) (Holding u r) :=
  ⟨fun _ _ hv h => Or.inr ⟨h.1, Nat.lt_of_le_of_lt hv.since h.2⟩⟩

/-- Actions that neither select nor write. -/
theorem allows_of_same {E : Firmware → Firmware → Prop}
    (hE : ∀ s s', E s s' → s'.selection = s.selection ∧ s'.written = s.written) :
    Allows (discipline since) P E where
  allows s s' hP h := by
    obtain ⟨hselection, hwritten⟩ := hE s s' h
    refine ⟨⟨congrArg Selection.resets hselection, Or.inl hwritten⟩, ?_⟩
    show P s'.selection
    rw [hselection]
    exact hP

instance : Allows (discipline since) P Unchanged :=
  allows_of_same fun _ _ h => h ▸ ⟨rfl, rfl⟩

instance : Allows (discipline since) P Registers :=
  allows_of_same fun _ _ h => by
    rw [h.rest]
    exact ⟨rfl, rfl⟩

instance : Allows (discipline since) P Stalls :=
  allows_of_same fun _ _ h => h ▸ ⟨rfl, rfl⟩

instance : Allows (discipline since) P AppStep :=
  allows_of_same fun _ _ h => by cases h <;> exact ⟨rfl, rfl⟩

instance : Allows (discipline since) P SettingStep :=
  allows_of_same fun _ _ h => by cases h <;> exact ⟨rfl, rfl⟩

instance : Allows (discipline since) P CoreStep :=
  allows_of_same fun _ _ h => by cases h <;> exact ⟨rfl, rfl⟩

instance : Allows (discipline since) P MaskStep :=
  allows_of_same fun _ _ h => by cases h <;> exact ⟨rfl, rfl⟩

/-- A selection writes nothing, and holds from then on. -/
theorem selects_inPlace (address : UInt8) {s s' : Firmware} (hs : Since r s.selection)
    (h : Selects address s s') :
    WritesInPlace since s s' ∧ Holding (uenumOf address) r s'.selection := by
  subst h
  exact ⟨⟨rfl, Or.inl rfl⟩, Or.inl ⟨rfl, hs⟩⟩

instance (address : UInt8) : Allows (discipline since) (Since r) (Selects address) where
  allows _ _ hs h := (selects_inPlace address hs h).imp_right Holding.since

/-- Selecting an endpoint that is selected. -/
theorem allows_selects (address : UInt8) :
    Allows (discipline since) (Holding (uenumOf address) r) (Selects address) where
  allows _ _ hs h := selects_inPlace address hs.since h

/-- `Endpoint_SelectEndpoint` from any selection. -/
theorem select_leads (address : UInt8) :
    (endpointSelectEndpoint address).Leads (discipline since) (Since r)
      (Holding (uenumOf address) r) :=
  .of_does fun _ _ => selects_inPlace address

instance : Allows (discipline since) (Holding endpointControlEP r) (Selects endpointControlEP) :=
  allows_selects endpointControlEP

instance : Allows (discipline since) (Holding reportEP r) (Selects joystickINEPAddr) :=
  allows_selects joystickINEPAddr

/-- A byte may be written where its writer has its place. -/
theorem allows_writes {writer : Writer} (hP : ∀ v, P v → InPlace since v writer) :
    Allows (discipline since) P (Writes writer) where
  allows s s' hs h := by
    obtain ⟨data, rfl⟩ := h
    exact ⟨⟨rfl, Or.inr ⟨writer, data, rfl, hP _ hs⟩⟩, hs⟩

instance : Allows (discipline since) (Holding endpointControlEP r) (Writes .control) :=
  allows_writes fun _ h => h.control

instance : Allows (discipline since) (Holding reportEP since) (Writes .report) :=
  allows_writes fun _ h => by
    rcases h with ⟨h, _⟩ | h
    · exact Or.inl h
    · exact Or.inr h

end Discipline

section Control

variable {since r : Nat}

instance (index : UInt8) :
    Keeps (discipline since) (Holding endpointControlEP r) (endpointStatus index) where
  keeps := by
    unfold endpointStatus
    -- another endpoint is selected for a while
    refine .bind (R := Since r) (.mono (fun _ h => h.since) (fun _ h => h) .of_keeps) ?_
    intro _
    refine .bind .of_keeps ?_
    intro stalled
    refine .bind (select_leads endpointControlEP) ?_
    intro _
    exact .of_keeps

instance (set : Bool) (index : UInt8) :
    Keeps (discipline since) (Holding endpointControlEP r) (acceptHaltFeature set index) where
  keeps := by
    unfold acceptHaltFeature acceptFeature
    refine .bind (R := Since r) (.mono (fun _ h => h.since) (fun _ h => h) .of_keeps) ?_
    intro _
    refine .bind (select_leads endpointControlEP) ?_
    intro _
    exact .of_keeps

/-- What keeps the control endpoint selected need not say so. -/
theorem leads_since {α : Type} {p : FwProg α}
    [Keeps (discipline since) (Holding endpointControlEP r) p] :
    p.Leads (discipline since) (Holding endpointControlEP r) (Since r) :=
  .mono (fun _ h => h) (fun _ h => h.since) .of_keeps

/-- A request for a configuration ends with another endpoint selected, all
others with the control endpoint. -/
theorem standardRequest_leads (header : USBRequestHeader) :
    (standardRequest header).Leads (discipline since) (Holding endpointControlEP r)
      (Since r) := by
  have hconfiguration : usbDeviceSetConfiguration.Leads (discipline since)
      (Holding endpointControlEP r) (Since r) :=
    .mono (fun _ h => h.since) (fun _ h => h) .of_keeps
  unfold standardRequest
  refine .ite leads_since ?_
  refine .ite leads_since ?_
  refine .ite leads_since ?_
  refine .ite leads_since ?_
  refine .ite leads_since ?_
  exact .ite (.ite hconfiguration leads_since) leads_since

/-- A whole control request. -/
theorem usbDeviceProcessControlRequest_leads :
    usbDeviceProcessControlRequest.Leads (discipline since) (Holding endpointControlEP r)
      (Since r) := by
  unfold usbDeviceProcessControlRequest
  refine .bind .of_keeps ?_
  intro _
  refine .bind .of_keeps ?_
  intro _
  refine .bind .of_keeps ?_
  intro received
  -- both branches end in the check for what nobody has answered
  refine .ite ?_ leads_since
  refine .bind .of_keeps ?_
  intro header
  refine .bind (standardRequest_leads header) ?_
  intro _
  exact .of_keeps

/-- The number of an endpoint survives being read together with its direction
and selected again. -/
theorem uenumOf_current {u : UInt8} (hu : u < 8) (dir : Bool) :
    uenumOf ((u &&& endpointEPNumMask) ||| (if dir then endpointDirIn else 0)) = u := by
  revert u
  cases dir
  · exact uint8_forall (P := fun u => u < 8 → uenumOf ((u &&& 0x0F) ||| 0) = u)
      (by decide +kernel) _
  · exact uint8_forall (P := fun u => u < 8 → uenumOf ((u &&& 0x0F) ||| 0x80) = u)
      (by decide +kernel) _

/-- Control requests are served between two selections. -/
theorem usbUSBTask_leads {u : UInt8} (hu : u < 8) :
    usbUSBTask.Leads (discipline since) (Holding u r) (Holding u r) := by
  unfold usbUSBTask
  refine .bind .of_keeps ?_
  intro state
  refine .ite .of_keeps ?_
  intro v hv
  refine Prog.wp_bind ?_
  intro s hs
  have hs' : Holding u r s.selection := Stable.star hs hv
  -- the endpoint to come back to is the one selected when it was read
  have hback : (endpointSelectEndpoint ((s.uenum &&& endpointEPNumMask) |||
      (if s.selected.isIn then endpointDirIn else 0))).Leads (discipline since)
      (Since s.resets) (Holding u r) := by
    refine .mono (fun _ h => h) (fun v hv => ?_) (select_leads _)
    rw [uenumOf_current (u := s.uenum) (hs'.small hu)] at hv
    exact hs'.trans hv
  refine ⟨⟨rfl, Or.inl rfl⟩, ?_⟩
  intro v' hv'
  have hv' : Since s.resets v' := Stable.star hv' (Nat.le_refl _)
  refine (?_ : Prog.Leads (discipline since) (Since s.resets) _ (Holding u r)) v' hv'
  refine .bind (select_leads endpointControlEP) ?_
  intro _
  refine .bind .of_keeps ?_
  intro received
  refine .ite ?_ (.mono (fun _ h => h.since) (fun _ h => h) hback)
  refine .bind usbDeviceProcessControlRequest_leads ?_
  intro _
  exact hback

end Control

section Task

variable {since r : Nat} {u : UInt8}

instance : Keeps (discipline since) (Holding reportEP r) usbUSBTask :=
  ⟨usbUSBTask_leads (by decide)⟩

/-- One of three endpoints is selected, after at least `r` resets. -/
def Settled (u : UInt8) (r : Nat) (v : Selection) : Prop :=
  r ≤ v.resets ∧ (v.uenum = u ∨ v.uenum = endpointControlEP ∨ v.uenum = reportEP)

instance : Stable (discipline since) (Settled u r) :=
  ⟨fun _ _ hv h => ⟨Nat.le_trans hv.1 (Nat.le_of_lt h.2), Or.inr (Or.inl h.1)⟩⟩

/-- An endpoint that is held is one of the three. -/
theorem Holding.settled {u' : UInt8} {v : Selection}
    (hu' : u' = u ∨ u' = endpointControlEP ∨ u' = reportEP) (h : Holding u' r v) :
    Settled u r v := by
  rcases h with ⟨h, hr⟩ | ⟨h, hr⟩
  · exact ⟨hr, h ▸ hu'⟩
  · exact ⟨Nat.le_of_lt hr, Or.inr (Or.inl h)⟩

/-- The selection at the start of a report. -/
theorem selectReport_leads :
    (endpointSelectEndpoint joystickINEPAddr).Leads (discipline since) (Since r)
      (Holding reportEP r) :=
  select_leads joystickINEPAddr

/-- The report task from any of the three endpoints. -/
theorem hidDeviceUSBTask_leads :
    hidDeviceUSBTask.Leads (discipline since) (Settled u since) (Settled u since) := by
  unfold hidDeviceUSBTask
  refine .bind .of_keeps ?_
  intro state
  refine .ite .of_keeps ?_
  refine .bind .of_keeps ?_
  intro sameFrame
  refine .ite .of_keeps ?_
  refine .mono (fun _ h => h.1) (fun _ => Holding.settled (Or.inr (Or.inr rfl))) ?_
  refine .bind selectReport_leads ?_
  intro _
  exact .of_keeps

end Task

/-- The controller has memory for all its endpoints. -/
def EnoughMemory (s : Firmware) : Prop := ∀ n, s.fits n = true

/-- The call in the handler leaves the control endpoint selected. -/
theorem configureControlEndpoint_uenum {s : Firmware} (hs : s.EnoughMemory) :
    s.configureControlEndpoint.uenum = endpointControlEP := by
  obtain ⟨ok, s', hrun⟩ : ∃ ok s', (endpointConfigureEndpoint endpointControlEP epTypeControl
      (UInt16.ofNat fixedControlEndpointSize) 1).uninterrupted s = some (ok, s') :=
    configureEndpoint_returns (by decide) s
  unfold configureControlEndpoint
  rw [hrun]
  rcases configureEndpoint_cases hrun with ⟨h, _⟩ | ⟨_, c, _, h⟩
  · exact absurd h (by decide)
  · exact h.uenum (h.success.mpr ⟨hs _, fun n _ _ _ => hs n⟩)

/-- The handler serves a reset, or it leaves the endpoints alone. -/
theorem usbGenVect_cases (s : Firmware) :
    HandlerFrame s s.usbGenVect ∨
      ∃ t : Firmware, t.fits = s.fits ∧ t.written = s.written ∧ t.resets = s.resets + 1 ∧
        s.usbGenVect = t.configureControlEndpoint := by
  cases hpending : s.udint.eorst && s.udien.eorst with
  | false => exact Or.inl (usbGenVect_quiet hpending)
  | true =>
      obtain ⟨t, hframe, hreset⟩ := usbGenVect_reset hpending
      refine Or.inr ⟨_, ?_, ?_, ?_, hreset⟩ <;> (rw [hframe.rest])

/-- The call in the handler touches neither the memory nor what has been
written. -/
theorem configureControlEndpoint_same (t : Firmware) :
    t.configureControlEndpoint.fits = t.fits ∧ t.configureControlEndpoint.written = t.written ∧
      t.configureControlEndpoint.resets = t.resets := by
  rw [(configureControlEndpoint_access t).rest]
  exact ⟨rfl, rfl, rfl⟩

/-- Nobody but the main program writes to the data register. -/
theorem signal_written (s : Firmware) (e : Signal) : (s.signal e).written = s.written := by
  cases e with
  | interrupt =>
      show s.usbGenVect.written = s.written
      rcases usbGenVect_cases s with hframe | ⟨t, _, hwritten, _, h⟩
      · rw [hframe.rest]
      · rw [h, (configureControlEndpoint_same t).2.1, hwritten]
  | _ => rfl

/-- The selection only changes by a reset, and then to the control endpoint. -/
theorem signal_selection {s : Firmware} (hs : s.EnoughMemory) (e : Signal) :
    (s.signal e).selection = s.selection ∨
      ((s.signal e).uenum = endpointControlEP ∧ s.resets < (s.signal e).resets) := by
  cases e with
  | interrupt =>
      rcases usbGenVect_cases s with hframe | ⟨t, hfits, _, hresets, h⟩
      · refine Or.inl ?_
        show s.usbGenVect.selection = s.selection
        rw [hframe.rest]
        rfl
      · refine Or.inr ?_
        show s.usbGenVect.uenum = endpointControlEP ∧ s.resets < s.usbGenVect.resets
        rw [h, (configureControlEndpoint_same t).2.2, hresets]
        exact ⟨configureControlEndpoint_uenum fun n => hfits ▸ hs n, Nat.lt_succ_self _⟩
  | _ => exact Or.inl rfl

/-- The memory is as it was, unless the surroundings say otherwise. -/
theorem signal_fits (s : Firmware) {e : Signal} (he : ∀ fits, e ≠ .memory fits) :
    (s.signal e).fits = s.fits := by
  cases e with
  | memory fits => exact absurd rfl (he fits)
  | interrupt =>
      show s.usbGenVect.fits = s.fits
      rcases usbGenVect_cases s with hframe | ⟨t, hfits, _, _, h⟩
      · rw [hframe.rest]
      · rw [h, (configureControlEndpoint_same t).1, hfits]
  | _ => rfl

/-- The main program has no say in the memory. -/
theorem MainAction.fits {s s' : Firmware} (h : MainAction s s') : s'.fits = s.fits := by
  cases h with
  | unchanged h => rw [h]
  | registers h => rw [h.rest]
  | stalls h =>
      rw [h]
      rfl
  | selects _ h => rw [h]
  | writes _ h =>
      obtain ⟨_, rfl⟩ := h
      rfl
  | app h => cases h <;> rfl
  | setting h => cases h <;> rfl
  | core h => cases h <;> rfl
  | mask h => cases h <;> rfl

/-- Memory that is never taken away is there at every interrupt. -/
theorem enoughMemory_throughout {α : Type} {p : FwProg α} {Q : α → Unit → Prop}
    (hp : p.wp anyAction Q ()) {s : Firmware} (hs : s.EnoughMemory)
    {turns : List (Turn Signal)} (hturns : ∀ fits, Turn.interrupt (.memory fits) ∉ turns) :
    InterruptsAllowed signal (fun s _ => s.EnoughMemory) p s turns := by
  induction turns generalizing p s with
  | nil => trivial
  | cons t turns ih =>
      have hrest : ∀ fits, Turn.interrupt (.memory fits) ∉ turns :=
        fun fits h => hturns fits (List.mem_cons_of_mem _ h)
      refine ⟨fun e _ => hs, ?_⟩
      cases t with
      | program =>
          obtain ⟨hnext, hstep⟩ := Prog.wp_step (s := s) hp
          refine ih hnext ?_ hrest
          rcases hstep with hsame | hmain
          · exact hsame.symm ▸ hs
          · exact fun n => hmain.fits ▸ hs n
      | interrupt e =>
          refine ih hp (fun n => ?_) hrest
          have he : ∀ fits, e ≠ .memory fits := by
            rintro fits rfl
            exact hturns fits List.mem_cons_self
          show (s.signal e).fits n = true
          rw [signal_fits s he]
          exact hs n

/-- What the surroundings do keeps to the contract's rely. -/
theorem discipline_moves (since : Nat) :
    (discipline since).Moves signal (fun s _ => s.EnoughMemory) := by
  intro s e hs
  rcases signal_selection hs e with h | h
  · show ReflTransGen _ s.selection (s.signal e).selection
    rw [h]
  · exact .single h

/-- The bytes written from `s` to `s'` are all in their places. -/
structure WrittenInPlace (s s' : Firmware) : Prop where
  resets : s.resets ≤ s'.resets
  written : ∃ new, s'.written = s.written ++ new ∧
    ∀ b ∈ new, InPlace s.resets ⟨b.endpoint, s'.resets⟩ b.writer

/-- A place remains one when more resets are served. -/
theorem InPlace.later {since r r' : Nat} {u : UInt8} {writer : Writer} (hr : r ≤ r')
    (h : InPlace since ⟨u, r⟩ writer) : InPlace since ⟨u, r'⟩ writer := by
  cases writer with
  | control => exact h
  | report => exact h.imp_right fun h => ⟨h.1, Nat.lt_of_lt_of_le h.2 hr⟩

/-- The places, writer by writer. -/
theorem InPlace.endpoint {since r : Nat} {u : UInt8} {writer : Writer}
    (h : InPlace since ⟨u, r⟩ writer) :
    (writer = .control → u = endpointControlEP) ∧
      (writer = .report → u = reportEP ∨ (u = endpointControlEP ∧ since < r)) := by
  refine ⟨fun hwriter => ?_, fun hwriter => ?_⟩ <;> subst hwriter <;> exact h

namespace WrittenInPlace

variable {s t t' : Firmware}

/-- Nothing has been written. -/
theorem refl (s : Firmware) : WrittenInPlace s s := ⟨Nat.le_refl _, [], by simp, by simp⟩

/-- One more action of the main program. -/
theorem main (h : WrittenInPlace s t) (ht : WritesInPlace s.resets t t') :
    WrittenInPlace s t' := by
  obtain ⟨hresets, hwrites⟩ := ht
  obtain ⟨new, hnew, hplaces⟩ := h.written
  refine ⟨hresets ▸ h.resets, ?_⟩
  rw [hresets]
  rcases hwrites with hsame | ⟨writer, data, hwritten, hplace⟩
  · exact ⟨new, hsame ▸ hnew, hplaces⟩
  · refine ⟨new ++ [⟨writer, t.uenum, data⟩], by rw [hwritten, hnew, List.append_assoc], ?_⟩
    intro b hb
    rcases List.mem_append.mp hb with hb | hb
    · exact hplaces b hb
    · obtain rfl := List.mem_singleton.mp hb
      exact hplace

/-- One more signal around it. -/
theorem signal (h : WrittenInPlace s t) (ht : t.EnoughMemory) (e : Signal) :
    WrittenInPlace s (t.signal e) := by
  have hresets : t.resets ≤ (t.signal e).resets := by
    rcases signal_selection ht e with hsame | ⟨_, hlt⟩
    · exact Nat.le_of_eq (congrArg Selection.resets hsame).symm
    · exact Nat.le_of_lt hlt
  obtain ⟨new, hnew, hplaces⟩ := h.written
  refine ⟨Nat.le_trans h.resets hresets, new, ?_, fun b hb => (hplaces b hb).later hresets⟩
  rw [signal_written, hnew]

end WrittenInPlace

/-- A program that keeps to the contract writes in place, however it is
interrupted. -/
theorem writtenInPlace_execute {α : Type} {p : FwProg α} {s : Firmware}
    {Q : Selection → Prop} (hp : p.wp (discipline s.resets) (fun _ => Q) s.selection)
    {turns : List (Turn Signal)}
    (hturns : InterruptsAllowed signal (fun s _ => s.EnoughMemory) p s turns) :
    WrittenInPlace s (execute signal p s turns).state :=
  wp_invariant (discipline_moves s.resets) (WrittenInPlace s) (fun _ _ h => h.main)
    (fun _ e ht h => h.signal ht e) (.refl s) hp hturns

/-- **Reports are written in place.**  In one call of the report task from any
state, interrupted in any way, bytes of control requests go to the control
endpoint and bytes of reports to the report endpoint or, if a reset has been
served during the call, possibly to the control endpoint. -/
theorem report_task_writes_in_place (s : Firmware) (turns : List (Turn Signal))
    (hturns : InterruptsAllowed signal (fun s _ => s.EnoughMemory) hidDeviceUSBTask s turns) :
    let s' := (execute signal hidDeviceUSBTask s turns).state
    ∃ new, s'.written = s.written ++ new ∧ ∀ b ∈ new,
      (b.writer = .control → b.endpoint = endpointControlEP) ∧
      (b.writer = .report → b.endpoint = reportEP ∨
        (b.endpoint = endpointControlEP ∧ s.resets < s'.resets)) := by
  intro s'
  have hstart : Settled s.uenum s.resets s.selection := ⟨Nat.le_refl _, Or.inl rfl⟩
  obtain ⟨new, hnew, hplaces⟩ :=
    (writtenInPlace_execute (hidDeviceUSBTask_leads _ hstart) hturns).written
  exact ⟨new, hnew, fun b hb => (hplaces b hb).endpoint⟩

/-- A configured device with both endpoints free. -/
def idleDevice : Firmware where
  ports := quietBoard
  usbDeviceState := .configured
  udfnum := 1
  udien := { susp := true, eorst := true }
  endpoints _ := { uecfg0x := epdirBit, epen := true, txini := true, rwal := true }

/-- A reset in the middle of a report sends the rest to the control endpoint. -/
theorem report_task_writes_in_place_reset :
    let turns := List.replicate 21 .program ++ [.interrupt .busReset, .interrupt .interrupt,
      .interrupt (.endpoint 0 { rwal := true })] ++ List.replicate 3 .program
    let s' := (execute signal hidDeviceUSBTask idleDevice turns).state
    s'.written.map (·.endpoint) = [1, 1, 0] ∧
      ∃ new, s'.written = idleDevice.written ++ new ∧ ∀ b ∈ new,
        (b.writer = .control → b.endpoint = endpointControlEP) ∧
        (b.writer = .report → b.endpoint = reportEP ∨
          (b.endpoint = endpointControlEP ∧ idleDevice.resets < s'.resets)) :=
  ⟨by decide +kernel, report_task_writes_in_place _ _
    (enoughMemory_throughout (Keeps.keeps (P := fun _ => True) () trivial) (fun _ => rfl)
      (by simp))⟩

/-- The control requests of the main loop. -/
theorem usbUSBTask_settled :
    usbUSBTask.Leads (discipline 0) (Settled endpointControlEP 0)
      (Settled endpointControlEP 0) := by
  intro v hv
  have hplace : v.uenum = endpointControlEP ∨ v.uenum = endpointControlEP ∨
      v.uenum = reportEP := hv.2
  have hsmall : v.uenum < 8 := by
    rcases hplace with h | h | h <;> (rw [h]; decide)
  refine Prog.wp_mono (fun _ v' hv' => ?_)
    (usbUSBTask_leads hsmall v (r := v.resets) (Or.inl ⟨rfl, Nat.le_refl _⟩))
  exact ⟨Nat.zero_le _, (hv'.settled hplace).2⟩

instance : Keeps (discipline 0) (Settled endpointControlEP 0) mainLoop := by
  have hbody : Keeps (discipline 0) (Settled endpointControlEP 0)
      (hidDeviceUSBTask >>= fun _ => usbUSBTask) :=
    ⟨.bind hidDeviceUSBTask_leads fun _ => usbUSBTask_settled⟩
  exact inferInstanceAs (Keeps _ _ (Prog.forever _))

/-- The control endpoint is selected after `USB_Init`. -/
theorem usbInit_uenum {s : Firmware} (hs : s.EnoughMemory) :
    (usbInit s).uenum = endpointControlEP := by
  unfold usbInit
  dsimp only
  rw [configureControlEndpoint_uenum]
  exact hs

section Start

variable (ports : Ports) {fits : UInt8 → Bool} (signature : UInt8 → UInt8)
variable (stack : Nat → UInt8) (vbus : Bool)

/-- Nothing before the main loop takes memory away. -/
theorem beforeMainLoop_fits :
    (beforeMainLoop ports fits signature stack vbus).fits = fits := by
  unfold beforeMainLoop
  rw [(usbInit_access _).rest]

/-- Where the main loop starts. -/
theorem beforeMainLoop_selection (hfits : ∀ n, fits n = true) :
    (beforeMainLoop ports fits signature stack vbus).selection = ⟨endpointControlEP, 0⟩ ∧
      (beforeMainLoop ports fits signature stack vbus).written = [] := by
  have huenum := usbInit_uenum (s :=
    { ports := buttonsInit (ledsInit ports)
      fits := fits, signature := signature, stack := stack, vbus := vbus }) hfits
  unfold beforeMainLoop selection
  dsimp only
  rw [huenum, (usbInit_access _).rest]
  exact ⟨rfl, rfl⟩

end Start

/-- **Bytes reach their endpoints.**  In every run of the main loop, bytes of
control requests go to the control endpoint, and bytes of reports to the report
endpoint or, once the bus has been reset, to the control endpoint. -/
theorem bytes_reach_their_endpoints (ports : Ports) {fits : UInt8 → Bool}
    (hfits : ∀ n, fits n = true) (signature : UInt8 → UInt8) (stack : Nat → UInt8)
    (vbus : Bool) (turns : List (Turn Signal))
    (hturns : InterruptsAllowed signal (fun s _ => s.EnoughMemory) mainLoop
      (beforeMainLoop ports fits signature stack vbus) turns) :
    let s := (beforeMainLoop ports fits signature stack vbus).after turns
    ∀ b ∈ s.written,
      (b.writer = .control → b.endpoint = endpointControlEP) ∧
      (b.writer = .report → b.endpoint = reportEP ∨
        (b.endpoint = endpointControlEP ∧ 0 < s.resets)) := by
  intro s b hb
  obtain ⟨hselection, hwritten⟩ := beforeMainLoop_selection ports signature stack vbus hfits
  have hresets : (beforeMainLoop ports fits signature stack vbus).resets = 0 :=
    congrArg Selection.resets hselection
  have hloop : mainLoop.wp
      (discipline (beforeMainLoop ports fits signature stack vbus).resets)
      (fun _ => Settled endpointControlEP 0)
      (beforeMainLoop ports fits signature stack vbus).selection := by
    rw [hresets, hselection]
    exact Keeps.keeps _ ⟨Nat.le_refl _, Or.inl rfl⟩
  obtain ⟨new, hnew, hplaces⟩ := (writtenInPlace_execute hloop hturns).written
  rw [hwritten, List.nil_append] at hnew
  have hplace := hplaces b (hnew ▸ hb)
  rw [hresets] at hplace
  exact hplace.endpoint

/-- A request for the configuration number, right after a reset. -/
theorem bytes_reach_their_endpoints_request :
    let start := beforeMainLoop quietBoard (fun _ => true) (fun _ => 0) (fun _ => 0) true
    let turns := [.interrupt (.vbus true), .interrupt .busReset, .interrupt .interrupt,
      .interrupt (.endpoint 0 { rxstpi := true, bank := [0x80, 8, 0, 0, 0, 0, 1, 0] })] ++
      List.replicate 30 .program
    (start.after turns).written = [⟨.control, 0, 0⟩] ∧
      ∀ b ∈ (start.after turns).written,
        (b.writer = .control → b.endpoint = endpointControlEP) ∧
        (b.writer = .report → b.endpoint = reportEP ∨
          (b.endpoint = endpointControlEP ∧ 0 < (start.after turns).resets)) := by
  refine ⟨by decide +kernel, bytes_reach_their_endpoints _ (fun _ => rfl) _ _ _ _
    (enoughMemory_throughout (Keeps.keeps (P := fun _ => True) () trivial) ?_ (by simp))⟩
  intro n
  rw [beforeMainLoop_fits]

/-- **Control requests give the selection back.**  When `USB_USBTask` returns,
the endpoint that was selected when it was called is selected again, or the
control endpoint because a reset has been served meanwhile.  This holds however
the call is interrupted, as long as the controller has memory for all its
endpoints at every interrupt. -/
theorem usbTask_restores_selection (s : Firmware) (hsmall : s.uenum < 8)
    (turns : List (Turn Signal))
    (hturns : InterruptsAllowed signal (fun s _ => s.EnoughMemory) usbUSBTask s turns)
    (hend : (execute signal usbUSBTask s turns).prog = .done ()) :
    let s' := (execute signal usbUSBTask s turns).state
    s'.uenum = s.uenum ∨ (s'.uenum = endpointControlEP ∧ s.resets < s'.resets) := by
  intro s'
  have hstart : Holding s.uenum s.resets s.selection := Or.inl ⟨rfl, Nat.le_refl _⟩
  have hresult : Holding s.uenum s.resets s'.selection :=
    wp_result (discipline_moves 0) (usbUSBTask_leads hsmall _ hstart) hturns hend
  exact hresult.imp_left And.left

/-- A request for the configuration number waits at the control endpoint while the
report endpoint is selected. -/
def requestWaiting : Firmware :=
  { idleDevice with
    uenum := 1
    endpoints := fun n => if n = 0
      then { rxstpi := true, txini := true, bank := [0x80, 8, 0, 0, 0, 0, 1, 0] }
      else idleDevice.endpoints n }

/-- The request is processed, and a reset is served between its reply and the
host's acknowledgement: the report endpoint is selected again. -/
theorem usbTask_restores_selection_request :
    let turns := List.replicate 25 .program ++ [.interrupt .busReset, .interrupt .interrupt,
      .interrupt (.endpoint 0 { rxouti := true })] ++ List.replicate 20 .program
    let s' := (execute signal usbUSBTask requestWaiting turns).state
    s'.written = [⟨.control, 0, 0⟩] ∧ s'.resets = 1 ∧
      (s'.uenum = 1 ∨ (s'.uenum = endpointControlEP ∧ 0 < s'.resets)) :=
  ⟨by decide +kernel, by decide +kernel,
    usbTask_restores_selection requestWaiting (by decide) _
      (enoughMemory_throughout (Keeps.keeps (P := fun _ => True) () trivial) (fun _ => rfl)
        (by simp)) (Prog.eq_done (by decide +kernel))⟩

end Firmware

end AvrJoystick
