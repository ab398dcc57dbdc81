import AvrJoystick.FirmwareInvariants
import AvrJoystick.Framing

/-!
# Control streams under any timing

The stream functions of the control endpoint read one flag at a time, and the
host may act between any two of these reads.  It may also lose interest: a new
SETUP packet ends a stream, and its bytes overwrite those in the bank.

`Endpoint_Write_Control_Stream_LE` is described twice.  As a function of polls,
each round of its loops reads one consistent set of flags; as a program, it
reads them one after the other.  A completed run of the program releases the
packets of the function for polls that find the bank free once for each packet,
and then what made the run end.  At most one further packet holds bytes of a
SETUP packet, and only if the host has aborted the request.  A host that waits
for its data gets it (`control_write_refines`).  In particular the packets of a
descriptor are framed so that the host can tell where it ends
(`descriptor_sent_in_packets`).

`Endpoint_Read_Control_Stream_LE` stores what the host sends.  Unless the host
aborts the request, each packet that comes in is taken once and in its turn, or
is still waiting at the end, and no packet more is taken than needed
(`control_read_takes_packets`).
-/

namespace AvrJoystick

open Interleave Relation

/-- More packets before those of a write. -/
def ControlWrite.after (packets : List (List UInt8)) (w : ControlWrite) : ControlWrite :=
  { w with packets := packets ++ w.packets }

/-- The bank is free. -/
def readyPoll : EndpointPoll := { inReady := true }

/-- The poll that ends a control write. -/
def endingPoll : ControlStreamError → EndpointPoll
  | .noError => { outReceived := some [] }
  | .hostAborted => { setupReceived := true }
  | .deviceDisconnected => { deviceState := .unattached }
  | .busSuspended => { deviceState := .suspended }

/-- The bank is free once for each packet, and then the write ends. -/
def writePolls (packets : List (List UInt8)) (error : ControlStreamError) : List EndpointPoll :=
  packets.map (fun _ => readyPoll) ++ [endingPoll error]

/-- With the bank free for each of the packets, `run` has sent them and goes on as
`cont`. -/
def Follows (run : List EndpointPoll → ControlWrite) (packets : List (List UInt8))
    (cont : List EndpointPoll → ControlWrite) : Prop :=
  ∀ polls, run (packets.map (fun _ => readyPoll) ++ polls) = (cont polls).after packets

section Follows

variable {run cont cont' : List EndpointPoll → ControlWrite} {packets : List (List UInt8)}

/-- Nothing has been sent yet. -/
theorem Follows.refl (run : List EndpointPoll → ControlWrite) : Follows run [] run :=
  fun _ => rfl

/-- One more packet. -/
theorem Follows.step (h : Follows run packets cont) {p : List UInt8}
    (hp : ∀ polls, cont (readyPoll :: polls) = (cont' polls).after [p]) :
    Follows run (packets ++ [p]) cont' := by
  intro polls
  rw [List.map_append, List.append_assoc, List.map_singleton, List.singleton_append, h, hp]
  simp [ControlWrite.after, List.append_assoc]

end Follows

/-- With nothing left to send, only the status stage is waited for. -/
theorem writeControlLoop_done (bank : List UInt8) (polls : List EndpointPoll) :
    writeControlLoop bank [] false polls = ⟨[], awaitOUTReceived polls⟩ := by
  cases polls with
  | nil => rfl
  | cons p polls => simp [writeControlLoop]

/-- One packet of the loop. -/
theorem writeControlLoop_ready (bank : List UInt8) {data : List UInt8} {full : Bool}
    (hmore : ¬ (data = [] ∧ full = false)) (polls : List EndpointPoll) :
    writeControlLoop bank data full (readyPoll :: polls) =
      (writeControlLoop [] (data.drop (fixedControlEndpointSize - bank.length))
        ((bank ++ data.take (fixedControlEndpointSize - bank.length)).length ==
          fixedControlEndpointSize) polls).after
        [bank ++ data.take (fixedControlEndpointSize - bank.length)] := by
  rw [writeControlLoop, if_neg hmore]
  rfl

/-- The poll that ends a write ends it at any point of the loop. -/
theorem writeControlLoop_ending (bank data : List UInt8) (full : Bool)
    (error : ControlStreamError) :
    writeControlLoop bank data full [endingPoll error] = ⟨[], some error⟩ := by
  by_cases hdone : data = [] ∧ full = false
  · rw [hdone.1, hdone.2, writeControlLoop_done]
    cases error <;> rfl
  · rw [writeControlLoop, if_neg hdone]
    cases error <;> rfl

/-- What a write has sent when it ends. -/
theorem Follows.ends {run : List EndpointPoll → ControlWrite} {packets : List (List UInt8)}
    {bank data : List UInt8} {full : Bool}
    (h : Follows run packets (writeControlLoop bank data full)) (error : ControlStreamError) :
    run (writePolls packets error) = ⟨packets, some error⟩ := by
  rw [writePolls, h, writeControlLoop_ending]
  simp [ControlWrite.after]

/-- The loop cuts its data into packets, and ends after the first short one. -/
theorem writeControlLoop_sends {bank : List UInt8} (hbank : bank.length ≤ fixedControlEndpointSize)
    (data : List UInt8) (full : Bool) (polls : List EndpointPoll) :
    Framing.Sends fixedControlEndpointSize (bank ++ data)
      (writeControlLoop bank data full polls).packets := by
  induction polls generalizing bank data full with
  | nil => trivial
  | cons p polls ih =>
      unfold writeControlLoop
      split
      · trivial
      split
      · trivial
      split
      · trivial
      split
      · trivial
      split
      · trivial
      split
      · -- the bank is filled up and released
        have hpacket : bank ++ data.take (fixedControlEndpointSize - bank.length) =
            (bank ++ data).take fixedControlEndpointSize := by
          rw [List.take_append, List.take_of_length_le hbank]
        have hrest : (bank ++ data).drop fixedControlEndpointSize =
            data.drop (fixedControlEndpointSize - bank.length) := by
          rw [List.drop_append, List.drop_eq_nil_of_le hbank, List.nil_append]
        have hempty : ([] : List UInt8).length ≤ fixedControlEndpointSize := Nat.zero_le _
        have hnext := ih hempty (data.drop (fixedControlEndpointSize - bank.length))
        refine ⟨hpacket, fun hshort => ?_, hrest ▸ hnext _⟩
        -- a short packet took all that was left
        have hall : data.drop (fixedControlEndpointSize - bank.length) = [] := by
          refine List.drop_eq_nil_of_le ?_
          rw [List.length_append, List.length_take] at hshort
          omega
        rw [hall, beq_false_of_ne (Nat.ne_of_lt hshort), writeControlLoop_done]
      · exact ih hbank data full

/-- So does the whole write. -/
theorem endpointWriteControlStreamLE_sends {bank : List UInt8}
    (hbank : bank.length ≤ fixedControlEndpointSize) (buffer : List UInt8) (wLength : Nat)
    (polls : List EndpointPoll) :
    Framing.Sends fixedControlEndpointSize (bank ++ buffer.take wLength)
      (endpointWriteControlStreamLE bank buffer wLength polls).packets := by
  unfold endpointWriteControlStreamLE
  split
  · exact writeControlLoop_sends hbank _ _ polls
  next hlength =>
    rw [List.take_of_length_le (Nat.not_lt.mp hlength)]
    split
    · next hempty =>
        rw [hempty, writeControlLoop_done, List.append_nil]
        exact ⟨(List.take_of_length_le hbank).symm, fun _ => rfl, trivial⟩
    · exact writeControlLoop_sends hbank _ _ polls

namespace Firmware

/-- The packets released from the control endpoint so far. -/
def sentPackets (s : Firmware) : List (List UInt8) :=
  (s.released.filter (fun p => p.1 == endpointControlEP)).map (·.2)

/-- The packets that have come in on the control endpoint so far. -/
def arrivedPackets (s : Firmware) : List (List UInt8) :=
  (s.arrived.filter (fun p => p.1 == endpointControlEP)).map (·.2)

/-- What a control stream depends on. -/
structure StreamView where
  uenum : UInt8
  setup : Bool
  out : Bool
  bank : List UInt8
  state : USBDeviceState
  sent : List (List UInt8)
  arrived : List (List UInt8)
  request : USBRequestHeader
  signature : UInt8 → UInt8

/-- What a control stream sees of the firmware. -/
def streamView (s : Firmware) : StreamView where
  uenum := s.uenum
  setup := (s.endpoints endpointControlEP).rxstpi
  out := (s.endpoints endpointControlEP).rxouti
  bank := (s.endpoints endpointControlEP).bank
  state := s.usbDeviceState
  sent := s.sentPackets
  arrived := s.arrivedPackets
  request := s.usbControlRequest
  signature := s.signature

/-- The OUT packet that waits in the bank, if there is one. -/
def StreamView.waiting (v : StreamView) : List (List UInt8) :=
  if v.out then [v.bank] else []

/-- A stream whose surroundings keep to `R`. -/
def streaming (R : StreamView → StreamView → Prop) : Contract Firmware StreamView where
  view := streamView
  rely := R
  guarantee _ _ := True

/-- With the control endpoint selected, its registers are those that are read. -/
theorem selected_stream {s : Firmware} (hs : s.streamView.uenum = endpointControlEP) :
    s.selected = s.endpoints endpointControlEP := by
  rw [selected, show s.uenum = endpointControlEP from hs]

section Checks

variable {R : StreamView → StreamView → Prop} {α β : Type} {P : StreamView → Prop}
  [Stable (streaming R) P] {v : StreamView}

/-- Reading changes nothing. -/
theorem streaming_read {f : Firmware → β} {k : β → FwProg α} {Q : α → StreamView → Prop}
    (hv : P v)
    (hk : ∀ s : Firmware, P s.streamView → (k (f s)).wp (streaming R) Q s.streamView) :
    (Prog.read f >>= k).wp (streaming R) Q v :=
  Prog.wp_read (fun _ => trivial) fun s hs => hk s (Stable.star hs hv)

/-- The checks at the start of a round. -/
theorem checks_wp (fail : ControlStreamError → α) {rest : FwProg α}
    {Q : α → StreamView → Prop} (hv : P v)
    (hbus : ∀ (s : Firmware) error, P s.streamView → busError s.usbDeviceState = some error →
      (pure (fail error) : FwProg α).wp (streaming R) Q s.streamView)
    (habort : ∀ s : Firmware, P s.streamView → s.selected.rxstpi = true →
      (pure (fail .hostAborted) : FwProg α).wp (streaming R) Q s.streamView)
    (hrest : ∀ s : Firmware, P s.streamView → s.selected.rxstpi = false →
      rest.wp (streaming R) Q s.streamView) :
    Prog.wp (streaming R) (do
      let error := busError (← deviceState)
      if error.isSome then pure (fail (error.getD .noError))
      else do
        if ← endpointIsSETUPReceived then pure (fail .hostAborted)
        else rest) Q v := by
  refine streaming_read hv ?_
  intro s₁ hs₁
  cases herror : busError s₁.usbDeviceState with
  | some error => exact hbus s₁ error hs₁ herror
  | none =>
      refine streaming_read hs₁ ?_
      intro s₂ hs₂
      cases hsetup : s₂.selected.rxstpi with
      | true => exact habort s₂ hs₂ hsetup
      | false => exact hrest s₂ hs₂ hsetup

/-- The wait at the end of a stream. -/
theorem awaitControlEnd_wp {flag : Firmware → Bool} {abortable : Bool}
    {Q : ControlStreamError → StreamView → Prop} [∀ error, Stable (streaming R) (Q error)]
    (hv : P v) (hup : ∀ s : Firmware, P s.streamView → flag s = true → Q .noError s.streamView)
    (hbus : ∀ (s : Firmware) error, P s.streamView → busError s.usbDeviceState = some error →
      Q error s.streamView)
    (habort : ∀ s : Firmware, P s.streamView → s.selected.rxstpi = true → abortable = true →
      Q .hostAborted s.streamView) :
    (awaitControlEnd (Prog.read flag) abortable).wp (streaming R) Q v := by
  refine Prog.wp_untilSome hv ?_
  intro v hv
  refine streaming_read hv ?_
  intro s₁ hs₁
  cases hflag : flag s₁ with
  | true => exact Prog.wp_pure (P := Q .noError) (hup s₁ hs₁ hflag) fun _ h => h
  | false =>
      refine streaming_read hs₁ ?_
      intro s₂ hs₂
      cases herror : busError s₂.usbDeviceState with
      | some error => exact Prog.wp_pure (P := Q error) (hbus s₂ error hs₂ herror) fun _ h => h
      | none =>
          rw [if_neg (by simp)]
          cases abortable with
          | false => exact Prog.wp_pure hs₂ fun _ h => h
          | true =>
              refine streaming_read hs₂ ?_
              intro s₃ hs₃
              cases hsetup : s₃.selected.rxstpi with
              | true =>
                  exact Prog.wp_pure (P := Q .hostAborted) (habort s₃ hs₃ hsetup rfl) fun _ h => h
              | false => exact Prog.wp_pure hs₃ fun _ h => h

end Checks

/-- What the host may do during a control write.  Unless it starts another
request, it leaves the bank alone and does not take back a packet it has sent. -/
structure HostActs (v v' : StreamView) : Prop where
  uenum : v'.uenum = v.uenum
  sent : v'.sent = v.sent
  request : v'.request = v.request
  signature : v'.signature = v.signature
  setup : v.setup = true → v'.setup = true
  bank : v'.setup = false → v'.bank = v.bank
  out : v'.setup = false → v.out = true → v'.out = true

/-- A host that waits for its data, asked for at `w`: it starts no other request,
keeps the bus going, and moves on to the status stage when it has as much as it
wants or all there is. -/
structure HostWaits (w v v' : StreamView) : Prop where
  setup : v'.setup = v.setup
  state : busError v'.state = none
  out : v.out = false → v'.out = true →
    Framing.Satisfied fixedControlEndpointSize w.request.wLength.toNat
      (v'.sent.drop w.sent.length)

/-- A control write that answers what was asked at `w`; `patient` says that the host
waits for the answer. -/
abbrev writing (w : StreamView) (patient : Prop) : Contract Firmware StreamView :=
  streaming fun v v' => HostActs v v' ∧ (patient → HostWaits w v v')

/-- A call of the control write with something to send: what was asked, the bytes in
the bank and those of the buffer. -/
structure WriteCall where
  start : StreamView
  bank : List UInt8
  buffer : List UInt8
  patient : Prop
  room : bank.length ≤ fixedControlEndpointSize
  nonempty : buffer ≠ []

namespace WriteCall

/-- The number of bytes the host wants. -/
def wLength (c : WriteCall) : Nat := c.start.request.wLength.toNat

/-- The bytes that are to go out. -/
def payload (c : WriteCall) : List UInt8 := c.bank ++ c.buffer.take c.wLength

/-- The call as a function of polls. -/
def polled (c : WriteCall) : List EndpointPoll → ControlWrite :=
  AvrJoystick.endpointWriteControlStreamLE c.bank c.buffer c.wLength

/-- The contract of the call. -/
abbrev contract (c : WriteCall) : Contract Firmware StreamView := writing c.start c.patient

/-- The packets have been sent, and after an abort possibly a garbled one.  A
patient host has seen nothing but the packets, and has not moved on without
having what it wants. -/
structure Written (c : WriteCall) (packets garbled : List (List UInt8)) (v : StreamView) :
    Prop where
  uenum : v.uenum = endpointControlEP
  sent : v.sent = c.start.sent ++ packets ++ garbled
  request : v.request = c.start.request
  signature : v.signature = c.start.signature
  sends : Framing.Sends fixedControlEndpointSize c.payload packets
  single : garbled.length ≤ 1
  aborted : garbled ≠ [] → v.setup = true
  calm : c.patient → v.setup = false ∧ busError v.state = none ∧
    (v.out = true → c.payload.take c.wLength <+: packets.flatten)

variable {c : WriteCall} {packets garbled : List (List UInt8)} {v : StreamView}

/-- Without a SETUP packet nothing is garbled. -/
theorem Written.garbled_eq (hv : c.Written packets garbled v) (hsetup : v.setup = false) :
    garbled = [] := by
  by_contra hne
  exact Bool.noConfusion (hsetup.symm.trans (hv.aborted hne))

instance : Stable c.contract (c.Written packets garbled) where
  stable v v' hv h := by
    obtain ⟨hacts, hwaits⟩ := h
    have hsent : v'.sent = c.start.sent ++ packets ++ garbled := hacts.sent.trans hv.sent
    refine
      { hv with
        uenum := hacts.uenum.trans hv.uenum
        sent := hsent
        request := hacts.request.trans hv.request
        signature := hacts.signature.trans hv.signature
        aborted := fun hne => hacts.setup (hv.aborted hne)
        calm := fun hpatient => ?_ }
    obtain ⟨hsetup, _, henough⟩ := hv.calm hpatient
    have hwait := hwaits hpatient
    refine ⟨hwait.setup.trans hsetup, hwait.state, fun hout' => ?_⟩
    cases hout : v.out with
    | true => exact henough hout
    | false =>
        -- the host has moved on just now
        have hsatisfied := hwait.out hout hout'
        rw [hsent, hv.garbled_eq hsetup, List.append_nil, List.drop_left] at hsatisfied
        exact hv.sends.satisfied hsatisfied

/-- Nothing is garbled so far, and unless the host has aborted the request `B`
holds of the bank. -/
structure Clean (c : WriteCall) (packets : List (List UInt8)) (B : List UInt8 → Prop)
    (v : StreamView) : Prop extends c.Written packets [] v where
  bank : v.setup = false → B v.bank

instance {B : List UInt8 → Prop} : Stable c.contract (c.Clean packets B) where
  stable v v' hv h :=
    { Stable.stable (C := c.contract) (P := c.Written packets []) v v' hv.toWritten h with
      bank := fun hsetup => by
        have hbefore : v.setup = false :=
          Bool.eq_false_iff.mpr fun hup => Bool.eq_false_iff.mp hsetup (h.1.setup hup)
        rw [h.1.bank hsetup]
        exact hv.bank hbefore }

/-- The bank is written to. -/
theorem Clean.write {B : List UInt8 → Prop} {s : Firmware} (hs : c.Clean packets B s.streamView)
    (b : UInt8) :
    c.Clean packets (fun bank => ∃ before, B before ∧ bank = before ++ [b])
      (streamView { s.setEndpoint s.uenum fun r => { r with bank := r.bank ++ [b] } with
        written := s.written ++ [⟨.control, s.uenum, b⟩] }) := by
  have huenum : s.uenum = endpointControlEP := hs.uenum
  have hview : streamView { s.setEndpoint s.uenum fun r => { r with bank := r.bank ++ [b] } with
      written := s.written ++ [⟨.control, s.uenum, b⟩] } =
      { s.streamView with bank := s.streamView.bank ++ [b] } := by
    simp only [streamView, setEndpoint, huenum, if_true]
    rfl
  rw [hview]
  exact
    { hs with
      bank := fun hsetup => ⟨_, hs.bank hsetup, rfl⟩ }

/-- The inner loop, for any number of bytes it takes to be in the bank. -/
theorem fillControlBank_wp {B : List UInt8 → Prop} {data : List UInt8} {n : Nat}
    (hv : c.Clean packets B v) :
    (fillControlBank n data).wp c.contract
      (fun filled v' => filled = (data.drop (fixedControlEndpointSize - n),
          n + (data.take (fixedControlEndpointSize - n)).length) ∧
        c.Clean packets
          (fun bank => ∃ before, B before ∧
            bank = before ++ data.take (fixedControlEndpointSize - n)) v') v := by
  induction data generalizing n B v with
  | nil =>
      refine Prog.wp_pure hv ?_
      intro v' hv'
      exact ⟨by simp, { hv' with bank := fun hsetup => ⟨_, hv'.bank hsetup, by simp⟩ }⟩
  | cons b data ih =>
      unfold fillControlBank
      by_cases hroom : n < fixedControlEndpointSize
      · rw [if_pos hroom]
        have hone : fixedControlEndpointSize - n = fixedControlEndpointSize - (n + 1) + 1 := by
          omega
        refine Prog.wp_bind ?_
        intro s hs
        refine ⟨trivial, ?_⟩
        intro v' hv'
        have hwritten := Stable.star hv' ((Stable.star hs hv).write b)
        refine Prog.wp_mono ?_ (ih hwritten)
        rintro filled v'' ⟨rfl, hclean⟩
        rw [hone, List.drop_succ_cons, List.take_succ_cons, List.length_cons]
        refine ⟨Prod.ext rfl (by dsimp only; omega), { hclean with bank := fun hsetup => ?_ }⟩
        obtain ⟨_, ⟨before, hbefore, rfl⟩, hbank⟩ := hclean.bank hsetup
        exact ⟨before, hbefore, by simpa using hbank⟩
      · rw [if_neg hroom]
        have hzero : fixedControlEndpointSize - n = 0 := by omega
        refine Prog.wp_pure hv ?_
        intro v' hv'
        rw [hzero]
        exact ⟨by simp, { hv' with bank := fun hsetup => ⟨_, hv'.bank hsetup, by simp⟩ }⟩

/-- What is seen of a packet that is released. -/
theorem clearIN_view {s : Firmware} (hs : s.streamView.uenum = endpointControlEP) :
    streamView
      { s.setEndpoint s.uenum fun r => { r with txini := false, rwal := false, bank := [] } with
        released := s.released ++ [(s.uenum, s.selected.bank)] } =
      { s.streamView with bank := [], sent := s.streamView.sent ++ [s.streamView.bank] } := by
  have huenum : s.uenum = endpointControlEP := hs
  simp [streamView, setEndpoint, selected, sentPackets, arrivedPackets, huenum]

/-- A packet goes out after an abort. -/
theorem Clean.release_garbled {B : List UInt8 → Prop} (hv : c.Clean packets B v)
    (hsetup : v.setup = true) :
    c.Written packets [v.bank] { v with bank := [], sent := v.sent ++ [v.bank] } :=
  { hv with
    sent := by rw [hv.sent, List.append_nil]
    single := Nat.le_refl _
    aborted := fun _ => hsetup
    calm := fun hpatient => absurd (hv.calm hpatient).1 (by rw [hsetup]; decide) }

/-- A packet goes out as it should. -/
theorem Clean.release {B : List UInt8 → Prop} (hv : c.Clean packets B v)
    (hsends : Framing.Sends fixedControlEndpointSize c.payload (packets ++ [v.bank])) :
    c.Written (packets ++ [v.bank]) [] { v with bank := [], sent := v.sent ++ [v.bank] } :=
  { hv with
    sent := by
      rw [hv.sent]
      simp
    sends := hsends
    calm := fun hpatient => by
      obtain ⟨hcalm, hstate, henough⟩ := hv.calm hpatient
      refine ⟨hcalm, hstate, fun hout => (henough hout).trans ?_⟩
      rw [List.flatten_append]
      exact List.prefix_append _ _ }

/-- The packets sent are those of the call, which goes on with `rest` unless the
host has aborted it. -/
def Sending (c : WriteCall) (rest : List UInt8 × Bool) (v : StreamView) : Prop :=
  ∃ packets garbled bank data full, c.Written packets garbled v ∧
    Follows c.polled packets (writeControlLoop bank data full) ∧
    (v.setup = false → v.bank = bank ∧ rest = (data, full))

/-- The first loop is left. -/
def Underway (c : WriteCall) (v : StreamView) : Prop :=
  ∃ packets garbled bank data full, c.Written packets garbled v ∧
    Follows c.polled packets (writeControlLoop bank data full)

/-- The call has returned `error`, for a reason. -/
structure Sent (c : WriteCall) (packets garbled : List (List UInt8)) (error : ControlStreamError)
    (v : StreamView) : Prop extends c.Written packets garbled v where
  polls : c.polled (writePolls packets error) = ⟨packets, some error⟩
  abort : error = .hostAborted → v.setup = true
  status : error = .noError → v.out = true ∨ v.setup = true
  awake : c.patient → error = .noError ∨ error = .hostAborted

/-- The call has returned `error`. -/
def Returned (c : WriteCall) (error : ControlStreamError) (v : StreamView) : Prop :=
  ∃ packets garbled, c.Sent packets garbled error v

/-- How the first loop is left. -/
def FirstLoopLeft (c : WriteCall) : StreamExit → StreamView → Prop
  | .returned error, v => c.Returned error v
  | .finished, v => c.Underway v

instance {rest : List UInt8 × Bool} : Stable c.contract (c.Sending rest) where
  stable v v' hv h := by
    obtain ⟨packets, garbled, bank, data, full, hwritten, hfollows, htie⟩ := hv
    refine ⟨packets, garbled, bank, data, full, Stable.stable v v' hwritten h, hfollows, ?_⟩
    intro hsetup
    have hbefore : v.setup = false :=
      Bool.eq_false_iff.mpr fun hup => Bool.eq_false_iff.mp hsetup (h.1.setup hup)
    rw [h.1.bank hsetup]
    exact htie hbefore

instance : Stable c.contract c.Underway where
  stable v v' hv h := by
    obtain ⟨packets, garbled, bank, data, full, hwritten, hfollows⟩ := hv
    exact ⟨packets, garbled, bank, data, full, Stable.stable v v' hwritten h, hfollows⟩

instance {error : ControlStreamError} : Stable c.contract (c.Returned error) where
  stable v v' hv h := by
    obtain ⟨packets, garbled, hsent⟩ := hv
    refine ⟨packets, garbled,
      { Stable.stable (C := c.contract) (P := c.Written packets garbled) v v' hsent.toWritten h with
        polls := hsent.polls
        abort := fun herror => h.1.setup (hsent.abort herror)
        status := fun herror => ?_
        awake := hsent.awake }⟩
    cases hsetup : v'.setup with
    | true => exact Or.inr rfl
    | false =>
        rcases hsent.status herror with hout | hup
        · exact Or.inl (h.1.out hsetup hout)
        · exact absurd (h.1.setup hup) (by rw [hsetup]; decide)

instance {exit : StreamExit} : Stable c.contract (c.FirstLoopLeft exit) := by
  cases exit with
  | returned error => exact inferInstanceAs (Stable c.contract (c.Returned error))
  | finished => exact inferInstanceAs (Stable c.contract c.Underway)

/-- The bus goes away. -/
theorem Underway.bus {s : Firmware} (hs : c.Underway s.streamView) {error : ControlStreamError}
    (herror : busError s.usbDeviceState = some error) : c.Returned error s.streamView := by
  obtain ⟨packets, garbled, bank, data, full, hwritten, hfollows⟩ := hs
  have hbus : error ≠ .hostAborted ∧ error ≠ .noError := by
    cases hstate : s.usbDeviceState <;> rw [hstate] at herror <;> cases herror <;> decide
  refine ⟨packets, garbled,
    { hwritten with
      polls := hfollows.ends error
      abort := fun heq => absurd heq hbus.1
      status := fun heq => absurd heq hbus.2
      awake := fun hpatient => ?_ }⟩
  have hawake : busError s.usbDeviceState = none := (hwritten.calm hpatient).2.1
  rw [hawake] at herror
  cases herror

/-- The host aborts the request. -/
theorem Underway.abort {s : Firmware} (hs : c.Underway s.streamView)
    (hsetup : s.selected.rxstpi = true) : c.Returned .hostAborted s.streamView := by
  obtain ⟨packets, garbled, bank, data, full, hwritten, hfollows⟩ := hs
  rw [selected_stream hwritten.uenum] at hsetup
  exact ⟨packets, garbled,
    { hwritten with
      polls := hfollows.ends _
      abort := fun _ => hsetup
      status := nofun
      awake := fun _ => Or.inr rfl }⟩

/-- The host moves on to the status stage. -/
theorem Underway.status {s : Firmware} (hs : c.Underway s.streamView)
    (hout : s.selected.rxouti = true) : c.Returned .noError s.streamView := by
  obtain ⟨packets, garbled, bank, data, full, hwritten, hfollows⟩ := hs
  rw [selected_stream hwritten.uenum] at hout
  exact ⟨packets, garbled,
    { hwritten with
      polls := hfollows.ends _
      abort := nofun
      status := fun _ => Or.inl hout
      awake := fun _ => Or.inl rfl }⟩

/-- In the middle of the first loop. -/
theorem Sending.underway {rest : List UInt8 × Bool} (hv : c.Sending rest v) : c.Underway v := by
  obtain ⟨packets, garbled, bank, data, full, hwritten, hfollows, _⟩ := hv
  exact ⟨packets, garbled, bank, data, full, hwritten, hfollows⟩

/-- The packets that have gone out are properly framed. -/
theorem sends_of_follows {cont : List EndpointPoll → ControlWrite}
    (h : Follows c.polled packets cont) :
    Framing.Sends fixedControlEndpointSize c.payload packets := by
  have hsends := endpointWriteControlStreamLE_sends c.room c.buffer c.wLength
    (packets.map (fun _ => readyPoll) ++ [])
  have hpackets : (c.polled (packets.map (fun _ => readyPoll) ++ [])).packets =
      packets ++ (cont []).packets := by
    rw [h]
    rfl
  exact (hpackets ▸ hsends : Framing.Sends _ _ (packets ++ _)).of_append

/-- A packet of the loop is released; `n` is the number of bytes that the loop took
to be in the bank. -/
theorem releasePacket_wp {bank data : List UInt8} {full : Bool} {n : Nat}
    (hmore : ¬ (data = [] ∧ full = false))
    (hfollows : Follows c.polled packets (writeControlLoop bank data full))
    (hv : c.Clean packets (fun b => n = bank.length ∧
      b = bank ++ data.take (fixedControlEndpointSize - n)) v) :
    endpointClearIN.wp c.contract
      (fun _ => c.Sending (data.drop (fixedControlEndpointSize - n),
        n + (data.take (fixedControlEndpointSize - n)).length == fixedControlEndpointSize)) v := by
  intro s hs
  have hclean := Stable.star hs hv
  refine ⟨trivial, ?_⟩
  intro v' hv'
  refine Stable.star hv' ?_
  show c.Sending _ (streamView _)
  rw [clearIN_view hclean.uenum]
  cases hsetup : s.streamView.setup with
  | true =>
      exact ⟨packets, _, bank, data, full, hclean.release_garbled hsetup, hfollows,
        fun hdown => absurd (hsetup.symm.trans hdown) (by decide)⟩
  | false =>
      obtain ⟨rfl, hbank⟩ := hclean.bank hsetup
      have hstep := hfollows.step (writeControlLoop_ready bank hmore)
      rw [← hbank] at hstep
      refine ⟨_, [], [], _, _, hclean.release (sends_of_follows hstep), hstep, fun _ => ⟨rfl, ?_⟩⟩
      rw [hbank, List.length_append]

/-- One round of the first loop. -/
theorem writeControlRound_wp {rest : List UInt8 × Bool} (hv : c.Sending rest v) :
    (writeControlRound rest).wp c.contract
      (fun r v' => Sum.elim (c.Sending · v') (c.FirstLoopLeft · v') r) v := by
  unfold writeControlRound
  by_cases hdone : rest.1 = [] ∧ rest.2 = false
  · rw [if_pos hdone]
    exact Prog.wp_pure hv.underway fun _ h => h
  rw [if_neg hdone]
  refine checks_wp (fun error => Sum.inr (StreamExit.returned error)) hv ?_ ?_ ?_
  · intro s error hs herror
    exact Prog.wp_pure (hs.underway.bus herror) fun _ h => h
  · intro s hs hsetup
    exact Prog.wp_pure (hs.underway.abort hsetup) fun _ h => h
  intro s₁ hs₁ hsetup
  -- without a SETUP packet nothing is garbled, and the bank is as it should be
  obtain ⟨packets, garbled, bank, data, full, hwritten, hfollows, htie⟩ := hs₁
  rw [selected_stream hwritten.uenum] at hsetup
  obtain rfl := hwritten.garbled_eq hsetup
  obtain ⟨hbank, rfl⟩ := htie hsetup
  have hclean : c.Clean packets (· = bank) s₁.streamView := { hwritten with bank := fun _ => hbank }
  have hsending (v' : StreamView) (hv' : c.Clean packets (· = bank) v') :
      c.Sending (data, full) v' :=
    ⟨packets, [], bank, data, full, hv'.toWritten, hfollows, fun hdown => ⟨hv'.bank hdown, rfl⟩⟩
  refine streaming_read hclean ?_
  intro s₂ hs₂
  cases hout : s₂.selected.rxouti with
  | true => exact Prog.wp_pure (hsending _ hs₂).underway fun _ h => h
  | false =>
      refine streaming_read hs₂ ?_
      intro s₃ hs₃
      cases hready : s₃.selected.txini with
      | false => exact Prog.wp_pure hs₃ hsending
      | true =>
          refine streaming_read hs₃ ?_
          intro s₄ hs₄
          -- the number of bytes is read from the bank, whoever filled it
          have hcounted : c.Clean packets
              (fun b => b = bank ∧ s₄.selected.bank.length = bank.length) s₄.streamView :=
            { hs₄ with
              bank := fun hdown => by
                rw [selected_stream hs₄.uenum]
                exact ⟨hs₄.bank hdown, congrArg List.length (hs₄.bank hdown)⟩ }
          refine Prog.wp_bind (Prog.wp_mono ?_ (fillControlBank_wp hcounted))
          rintro filled v₅ ⟨rfl, hfilled⟩
          have hready : c.Clean packets (fun b => s₄.selected.bank.length = bank.length ∧
              b = bank ++ data.take (fixedControlEndpointSize - s₄.selected.bank.length)) v₅ :=
            { hfilled with
              bank := fun hdown => by
                obtain ⟨_, ⟨rfl, hlength⟩, hcontent⟩ := hfilled.bank hdown
                exact ⟨hlength, hcontent⟩ }
          refine Prog.wp_bind (Prog.wp_mono ?_ (releasePacket_wp hdone hfollows hready))
          intro _ v₆ hv₆
          exact Prog.wp_pure hv₆ fun _ h => h

/-- The wait for the end of the request. -/
theorem awaitOUT_wp (hv : c.Underway v) :
    (awaitControlEnd endpointIsOUTReceived true).wp c.contract c.Returned v := by
  refine awaitControlEnd_wp (P := c.Underway) hv ?_ ?_ ?_
  · intro s hs hout
    exact hs.status hout
  · intro s error hs herror
    exact hs.bus herror
  · intro s hs hsetup _
    exact hs.abort hsetup

/-- The data to send. -/
theorem controlData_wp (hv : c.Clean [] (· = c.bank) v) :
    (controlData c.buffer c.wLength).wp c.contract (fun data => c.Sending (data, false)) v := by
  -- the loop is entered with the bank as it is
  have henter (data : List UInt8) (hloop : c.polled = writeControlLoop c.bank data false) :
      (pure data : FwProg (List UInt8)).wp c.contract (fun data => c.Sending (data, false)) v := by
    refine Prog.wp_pure hv ?_
    intro v' hv'
    refine ⟨[], [], c.bank, data, false, hv'.toWritten, ?_, fun hdown => ⟨hv'.bank hdown, rfl⟩⟩
    rw [← hloop]
    exact Follows.refl c.polled
  unfold controlData
  by_cases hshort : c.wLength < c.buffer.length
  · rw [if_pos hshort]
    exact henter _ (funext fun polls => if_pos hshort)
  · rw [if_neg hshort, if_neg c.nonempty]
    refine henter _ (funext fun polls => ?_)
    rw [polled, AvrJoystick.endpointWriteControlStreamLE, if_neg hshort, if_neg c.nonempty]

/-- The whole call. -/
theorem endpointWriteControlStreamLE_wp (hv : c.Clean [] (· = c.bank) v) :
    (endpointWriteControlStreamLE c.buffer).wp c.contract c.Returned v := by
  refine streaming_read hv ?_
  intro s hs
  rw [show s.usbControlRequest = c.start.request from hs.request]
  refine Prog.wp_bind (Prog.wp_mono ?_ (controlData_wp hs))
  intro data v' hv'
  refine Prog.wp_bind (Prog.wp_mono ?_
    (Prog.wp_iterate (Q := c.FirstLoopLeft) c.Sending hv'
      (fun rest v hv => writeControlRound_wp hv) fun _ _ _ hv hmove => Stable.star hmove hv))
  intro exit v'' hv''
  cases exit with
  | finished => exact awaitOUT_wp hv''
  | returned error => exact Prog.wp_pure (P := c.Returned error) hv'' fun _ h => h

/-- What a patient host has in the end. -/
theorem Sent.complete {error : ControlStreamError} (hv : c.Sent packets garbled error v)
    (hpatient : c.patient) :
    error = .noError ∧ garbled = [] ∧ c.payload.take c.wLength <+: packets.flatten := by
  obtain ⟨hsetup, _, henough⟩ := hv.calm hpatient
  have hnot (hup : v.setup = true) : False := Bool.noConfusion (hup.symm.trans hsetup)
  have herror : error = .noError := by
    rcases hv.awake hpatient with herror | herror
    · exact herror
    · exact (hnot (hv.abort herror)).elim
  refine ⟨herror, hv.garbled_eq hsetup, henough ?_⟩
  rcases hv.status herror with hout | hup
  · exact hout
  · exact (hnot hup).elim

end WriteCall

/-- The surroundings act as a host may during a control write. -/
def HostMoves (s : Firmware) (e : Signal) : Prop :=
  HostActs s.streamView (s.signal e).streamView

/-- The host waits for what it has asked for at `start`. -/
def HostIsPatient (start s : Firmware) (e : Signal) : Prop :=
  HostWaits start.streamView s.streamView (s.signal e).streamView

/-- Hosts of both kinds keep to the contract. -/
theorem writing_moves (s : Firmware) (patient : Prop) :
    (writing s.streamView patient).Moves signal
      (fun t e => HostMoves t e ∧ (patient → HostIsPatient s t e)) :=
  fun _ _ h => .single h

/-- A device in the middle of a request, with its bank free. -/
def deviceAnswering (request : USBRequestHeader) : Firmware where
  ports := quietBoard
  usbDeviceState := .configured
  usbControlRequest := request
  endpoints n := if n = endpointControlEP then { txini := true } else {}

/-- The host acts once, after some actions of the program. -/
def hostActsAfter (before : Nat) (flags : EndpointFlags) (after : Nat) : List (Turn Signal) :=
  List.replicate before .program ++
    .interrupt (.endpoint endpointControlEP flags) :: List.replicate after .program

/-- One action of the host, in the state the program has reached by then. -/
theorem hostActsAfter_allowed {α : Type} {p : FwProg α} {s : Firmware}
    {A : Firmware → Signal → Prop} {before after : Nat} {flags : EndpointFlags}
    (h : A (execute signal p s (List.replicate before .program)).state
      (.endpoint endpointControlEP flags)) :
    InterruptsAllowed signal A p s (hostActsAfter before flags after) := by
  refine interruptsAllowed_append (interruptsAllowed_programs _ _ _)
    ⟨?_, interruptsAllowed_programs _ _ _⟩
  intro e he
  obtain rfl := Turn.interrupt.inj he
  exact h

/-- An OUT packet for the status stage, with the bank empty. -/
theorem hostMoves_status {s : Firmware} (hsetup : (s.endpoints endpointControlEP).rxstpi = false)
    (hbank : (s.endpoints endpointControlEP).bank = []) :
    HostMoves s (.endpoint endpointControlEP { rxouti := true }) where
  uenum := rfl
  sent := rfl
  request := rfl
  signature := rfl
  setup hup := absurd (hsetup.symm.trans hup) Bool.false_ne_true
  bank _ := hbank.symm
  out _ _ := rfl

/-- A SETUP packet. -/
theorem hostMoves_abort (s : Firmware) (packet : List UInt8) :
    HostMoves s (.endpoint endpointControlEP { rxstpi := true, bank := packet }) where
  uenum := rfl
  sent := rfl
  request := rfl
  signature := rfl
  setup _ := rfl
  bank hdown := Bool.noConfusion hdown
  out hdown := Bool.noConfusion hdown

/-- The descriptor that a GET_DESCRIPTOR asks for. -/
def StreamView.descriptor (v : StreamView) : List UInt8 :=
  if v.request.wValue = (dtypeString.toUInt16 <<< 8) ||| useInternalSerial then
    internalSerialDescriptor v.signature
  else callbackUSBGetDescriptor v.request.wValue v.request.wIndex.toUInt8

/-- The request has been asked and nothing has been sent.  A patient host that
wants anything has not moved on. -/
structure Asked (w : StreamView) (patient : Prop) (v : StreamView) : Prop where
  uenum : v.uenum = endpointControlEP
  sent : v.sent = w.sent
  request : v.request = w.request
  signature : v.signature = w.signature
  calm : patient → busError v.state = none ∧ (v.out = true → w.request.wLength.toNat = 0)

/-- Since `w` the data, or part of it, has been sent, properly framed, and after an
abort possibly a garbled packet.  A patient host has got all of it. -/
def Framed (w : StreamView) (patient : Prop) (data : List UInt8) (v : StreamView) : Prop :=
  ∃ packets garbled, v.sent = w.sent ++ packets ++ garbled ∧
    Framing.Sends fixedControlEndpointSize data packets ∧ garbled.length ≤ 1 ∧
    (garbled ≠ [] → v.setup = true) ∧ (patient → garbled = [] ∧ packets.flatten = data)

section Descriptors

variable {patient : Prop} {v w : StreamView}

instance : Stable (writing w patient) (Asked w patient) where
  stable v v' hv h := by
    obtain ⟨hacts, hwaits⟩ := h
    refine ⟨hacts.uenum.trans hv.uenum, hacts.sent.trans hv.sent, hacts.request.trans hv.request,
      hacts.signature.trans hv.signature, fun hpatient => ⟨(hwaits hpatient).state, ?_⟩⟩
    intro hout'
    cases hout : v.out with
    | true => exact (hv.calm hpatient).2 hout
    | false =>
        -- nothing has been sent, so the host wants nothing
        have hsatisfied := (hwaits hpatient).out hout hout'
        rw [hacts.sent, hv.sent, List.drop_length] at hsatisfied
        simpa [Framing.Satisfied] using hsatisfied

instance {data : List UInt8} : Stable (writing w patient) (Framed w patient data) where
  stable v v' hv h := by
    obtain ⟨packets, garbled, hsent, hsends, hsingle, haborted, hall⟩ := hv
    exact ⟨packets, garbled, h.1.sent.trans hsent, hsends, hsingle,
      fun hne => h.1.setup (haborted hne), hall⟩

/-- The stream that sends a descriptor. -/
abbrev descriptorCall (w : StreamView) (patient : Prop) {descriptor : List UInt8}
    (hsome : descriptor ≠ []) : WriteCall :=
  ⟨w, [], descriptor, patient, Nat.zero_le _, hsome⟩

/-- What is seen of a SETUP packet that is acknowledged. -/
theorem clearSETUP_view {s : Firmware} (hs : s.streamView.uenum = endpointControlEP) :
    streamView (s.setEndpoint s.uenum fun r => { r with rxstpi := false, bank := [] }) =
      { s.streamView with setup := false, bank := [] } := by
  have huenum : s.uenum = endpointControlEP := hs
  simp only [streamView, setEndpoint, huenum, if_true]
  rfl

/-- The SETUP packet is acknowledged. -/
theorem Asked.clearSETUP {s : Firmware} {c : WriteCall}
    (hs : Asked c.start c.patient s.streamView) :
    c.Clean [] (· = []) (streamView
      (s.setEndpoint s.uenum fun r => { r with rxstpi := false, bank := [] })) := by
  rw [clearSETUP_view hs.uenum]
  exact
    { hs with
      sent := by
        rw [hs.sent]
        simp
      sends := trivial
      single := Nat.zero_le 1
      aborted := fun hne => absurd rfl hne
      calm := fun hpatient => by
        obtain ⟨hawake, hnothing⟩ := hs.calm hpatient
        refine ⟨rfl, hawake, fun hout => ?_⟩
        have hwants : c.wLength = 0 := hnothing hout
        rw [hwants, List.take_zero]
        exact List.nil_prefix
      bank := fun _ => rfl }

/-- `sendDescriptor` for a request that has been asked. -/
theorem sendDescriptor_wp {descriptor : List UInt8} (hsome : descriptor ≠ [])
    (hv : Asked w patient v) :
    (sendDescriptor descriptor).wp (writing w patient)
      (fun _ => Framed w patient (descriptor.take w.request.wLength.toNat)) v := by
  refine Prog.wp_bind ?_
  intro s hs
  refine ⟨trivial, ?_⟩
  intro v₁ hv₁
  have hasked : Asked w patient s.streamView := Stable.star hs hv
  have hcleared := Stable.star (C := (descriptorCall w patient hsome).contract) hv₁
    (Asked.clearSETUP (c := descriptorCall w patient hsome) hasked)
  refine Prog.wp_bind (Prog.wp_mono ?_ (WriteCall.endpointWriteControlStreamLE_wp hcleared))
  rintro error v₂ ⟨packets, garbled, hsent⟩
  have hframed : Framed w patient (descriptor.take w.request.wLength.toNat) v₂ := by
    refine ⟨packets, garbled, hsent.sent, hsent.sends, hsent.single, hsent.aborted, ?_⟩
    intro hpatient
    obtain ⟨_, hclean, hbegins⟩ := hsent.complete hpatient
    refine ⟨hclean, ?_⟩
    have hpayload : (descriptorCall w patient hsome).payload.take
        (descriptorCall w patient hsome).wLength = descriptor.take w.request.wLength.toNat :=
      List.take_take.trans (by rw [Nat.min_self]; rfl)
    rw [hpayload] at hbegins
    exact List.IsPrefix.eq_of_length_le hsent.sends.flatten_prefix hbegins.length_le
  -- acknowledging the status stage changes nothing of this
  intro s₃ hs₃
  refine ⟨trivial, ?_⟩
  intro v₄ hv₄
  refine Stable.star hv₄ ?_
  obtain ⟨packets, garbled, hsent, hsends, hsingle, haborted, hall⟩ := Stable.star hs₃ hframed
  refine ⟨packets, garbled, hsent, hsends, hsingle, fun hne => ?_, hall⟩
  have hsetup : (s₃.endpoints endpointControlEP).rxstpi = true := haborted hne
  show (if endpointControlEP = s₃.uenum then _ else s₃.endpoints endpointControlEP).rxstpi = true
  split <;> exact hsetup

/-- The whole request. -/
theorem usbDeviceGetDescriptor_wp (hv : Asked w patient v) :
    usbDeviceGetDescriptor.wp (writing w patient)
      (fun _ => Framed w patient (w.descriptor.take w.request.wLength.toNat)) v := by
  refine streaming_read hv ?_
  intro s hs
  rw [show s.usbControlRequest = w.request from hs.request]
  unfold StreamView.descriptor
  split
  · refine streaming_read hs ?_
    intro s₁ hs₁
    rw [show s₁.signature = w.signature from hs₁.signature]
    exact sendDescriptor_wp (List.cons_ne_nil _ _) hs₁
  · split
    · next hnone =>
        refine Prog.wp_pure hs ?_
        intro v' hv'
        rw [hnone, List.take_nil]
        exact ⟨[], [], by simp [hv'.sent], trivial, Nat.zero_le 1, fun hne => absurd rfl hne,
          fun _ => ⟨rfl, rfl⟩⟩
    · next hsome => exact sendDescriptor_wp hsome hs

end Descriptors

end Firmware

/-- The poll that ends a control read. -/
def readEndingPoll : ControlStreamError → EndpointPoll
  | .noError => { inReady := true }
  | .hostAborted => { setupReceived := true }
  | .deviceDisconnected => { deviceState := .unattached }
  | .busSuspended => { deviceState := .suspended }

/-- The packets come in one after the other, and then the read ends. -/
def readPolls (taken : List (List UInt8)) (error : ControlStreamError) : List EndpointPoll :=
  taken.map (fun p => { outReceived := some p }) ++ [readEndingPoll error]

/-- The wait at the end of a read passes over packets. -/
theorem awaitINReady_readPolls (taken : List (List UInt8)) {error : ControlStreamError}
    (herror : error ≠ .hostAborted) : awaitINReady (readPolls taken error) = some error := by
  induction taken with
  | nil => cases error <;> first | rfl | exact absurd rfl herror
  | cons p taken ih => exact ih

/-- What a read stores of these packets, and how it returns. -/
theorem endpointReadControlStreamLE_readPolls (taken : List (List UInt8)) (length : Nat)
    {error : ControlStreamError} (herror : error ≠ .hostAborted)
    (hlength : error = .noError → length ≤ taken.flatten.length) :
    endpointReadControlStreamLE (readPolls taken error) length =
      ⟨taken.flatten.take length, some error⟩ := by
  induction taken generalizing length with
  | nil =>
      cases length with
      | zero =>
          rw [endpointReadControlStreamLE, awaitINReady_readPolls _ herror]
          rfl
      | succ length =>
          cases error with
          | noError => exact absurd (hlength rfl) (by simp)
          | hostAborted => exact absurd rfl herror
          | deviceDisconnected => rfl
          | busSuspended => rfl
  | cons p taken ih =>
      cases length with
      | zero =>
          rw [endpointReadControlStreamLE, awaitINReady_readPolls _ herror, List.take_zero]
      | succ length =>
          have hrest := ih (length + 1 - p.length) fun hno => by
            have hle := hlength hno
            rw [List.flatten_cons, List.length_append] at hle
            omega
          have hstep : endpointReadControlStreamLE (readPolls (p :: taken) error) (length + 1) =
              ⟨p.take (length + 1) ++ (endpointReadControlStreamLE (readPolls taken error)
                (length + 1 - p.length)).received,
                (endpointReadControlStreamLE (readPolls taken error)
                  (length + 1 - p.length)).outcome⟩ := by
            rw [readPolls, List.map_cons, List.cons_append, endpointReadControlStreamLE]
            simp only [drainBank_eq]
            rfl
          rw [hstep, hrest, List.flatten_cons, List.take_append]

namespace Firmware

/-- What the host may do during a control read.  Every packet that comes in is
noted down.  Unless the host starts another request, a packet that waits stays
where it is. -/
structure Delivers (v v' : StreamView) : Prop where
  uenum : v'.uenum = v.uenum
  setup : v.setup = true → v'.setup = true
  waits : v'.setup = false → v.out = true → v'.out = true ∧ v'.bank = v.bank
  arrived : v'.arrived = v.arrived ++ (if v.out then [] else v'.waiting)

/-- A control read; `awake` says that the bus is kept going. -/
abbrev reading (awake : Prop) : Contract Firmware StreamView :=
  streaming fun v v' => Delivers v v' ∧ (awake → busError v'.state = none)

/-- The packets that have come in since `w`. -/
def StreamView.since (w v : StreamView) : List (List UInt8) := v.arrived.drop w.arrived.length

/-- The account of the packets since `w`.  Unless the host has aborted the request,
those that waited then or have come in since are those taken, of which `F`
holds, and the one that waits now. -/
structure Accounted (awake : Prop) (w : StreamView) (F : List (List UInt8) → Prop)
    (v : StreamView) : Prop where
  uenum : v.uenum = endpointControlEP
  arrived : w.arrived <+: v.arrived
  calm : awake → busError v.state = none
  account : v.setup = false → ∃ taken, w.waiting ++ w.since v = taken ++ v.waiting ∧ F taken

/-- A packet is being taken.  Unless the host has aborted the request, `F` holds of
the packets taken before, this one and what is left of it in the bank. -/
structure Draining (awake : Prop) (w : StreamView)
    (F : List (List UInt8) → List UInt8 → List UInt8 → Prop) (v : StreamView) : Prop where
  uenum : v.uenum = endpointControlEP
  arrived : w.arrived <+: v.arrived
  calm : awake → busError v.state = none
  account : v.setup = false → v.out = true ∧
    ∃ taken packet, w.waiting ++ w.since v = taken ++ [packet] ∧ F taken packet v.bank

section Read

variable {awake : Prop} {v v' w : StreamView}

/-- A packet waits. -/
theorem waiting_out (h : v.out = true) : v.waiting = [v.bank] := if_pos h

/-- No packet waits. -/
theorem waiting_none (h : v.out = false) : v.waiting = [] := if_neg (by rw [h]; decide)

/-- Without a SETUP packet now there was none before. -/
theorem Delivers.before (h : Delivers v v') (hsetup : v'.setup = false) : v.setup = false :=
  Bool.eq_false_iff.mpr fun hup => Bool.eq_false_iff.mp hsetup (h.setup hup)

/-- The packets that have come in are still on record. -/
theorem Delivers.arrived_mono (h : Delivers v v') (hbegins : w.arrived <+: v.arrived) :
    w.arrived <+: v'.arrived := by
  rw [h.arrived]
  exact hbegins.trans (List.prefix_append _ _)

/-- The packets that have come in since, after one more move. -/
theorem Delivers.since (h : Delivers v v') (hbegins : w.arrived <+: v.arrived) :
    w.since v' = w.since v ++ (if v.out then [] else v'.waiting) := by
  rw [StreamView.since, h.arrived, List.drop_append_of_le_length hbegins.length_le]
  rfl

instance {F : List (List UInt8) → Prop} : Stable (reading awake) (Accounted awake w F) where
  stable v v' hv h := by
    obtain ⟨hmove, hawake⟩ := h
    refine ⟨hmove.uenum.trans hv.uenum, hmove.arrived_mono hv.arrived, hawake, fun hsetup => ?_⟩
    obtain ⟨taken, haccount, hF⟩ := hv.account (hmove.before hsetup)
    refine ⟨taken, ?_, hF⟩
    rw [hmove.since hv.arrived, ← List.append_assoc, haccount]
    cases hout : v.out with
    | true =>
        obtain ⟨hout', hbank⟩ := hmove.waits hsetup hout
        rw [if_pos rfl, List.append_nil, waiting_out hout, waiting_out hout', hbank]
    | false => rw [if_neg Bool.false_ne_true, waiting_none hout, List.append_nil]

instance {F : List (List UInt8) → List UInt8 → List UInt8 → Prop} :
    Stable (reading awake) (Draining awake w F) where
  stable v v' hv h := by
    obtain ⟨hmove, hawake⟩ := h
    refine ⟨hmove.uenum.trans hv.uenum, hmove.arrived_mono hv.arrived, hawake, fun hsetup => ?_⟩
    obtain ⟨hout, taken, packet, haccount, hF⟩ := hv.account (hmove.before hsetup)
    obtain ⟨hout', hbank⟩ := hmove.waits hsetup hout
    refine ⟨hout', taken, packet, ?_, hbank ▸ hF⟩
    rw [hmove.since hv.arrived, hout, if_pos rfl, List.append_nil, haccount]

/-- A packet that has come in is in the bank. -/
theorem Accounted.draining {F : List (List UInt8) → Prop} (hv : Accounted awake w F v)
    (hout : v.out = true) :
    Draining awake w (fun taken packet rest => F taken ∧ rest = packet) v := by
  refine ⟨hv.uenum, hv.arrived, hv.calm, fun hsetup => ⟨hout, ?_⟩⟩
  obtain ⟨taken, haccount, hF⟩ := hv.account hsetup
  exact ⟨taken, v.bank, by rw [haccount, waiting_out hout], hF, rfl⟩

/-- What is known of a packet that is being taken. -/
theorem Draining.mono {F F' : List (List UInt8) → List UInt8 → List UInt8 → Prop}
    (hv : Draining awake w F v)
    (hF : ∀ taken packet, F taken packet v.bank → F' taken packet v.bank) :
    Draining awake w F' v :=
  { hv with
    account := fun hsetup => by
      obtain ⟨hout, taken, packet, haccount, hheld⟩ := hv.account hsetup
      exact ⟨hout, taken, packet, haccount, hF taken packet hheld⟩ }

/-- A byte is taken out of the bank. -/
theorem Draining.read8 {F : List (List UInt8) → List UInt8 → List UInt8 → Prop} {s : Firmware}
    (hs : Draining awake w F s.streamView) :
    Draining awake w (fun taken packet rest => ∃ before, F taken packet before ∧
        before = s.selected.bank ∧ rest = before.tail)
      (streamView (s.setEndpoint s.uenum fun r => { r with bank := r.bank.tail })) := by
  have huenum : s.uenum = endpointControlEP := hs.uenum
  have hview : streamView (s.setEndpoint s.uenum fun r => { r with bank := r.bank.tail }) =
      { s.streamView with bank := s.streamView.bank.tail } := by
    simp only [streamView, setEndpoint, huenum, if_true]
    rfl
  rw [hview, selected_stream hs.uenum]
  refine ⟨hs.uenum, hs.arrived, hs.calm, fun hsetup => ?_⟩
  obtain ⟨hout, taken, packet, haccount, hF⟩ := hs.account hsetup
  exact ⟨hout, taken, packet, haccount, _, hF, rfl, rfl⟩

/-- Clearing the flag takes the packet that waits. -/
theorem clearOUT_view {s : Firmware} (hs : s.streamView.uenum = endpointControlEP) :
    streamView (s.setEndpoint s.uenum fun r => { r with rxouti := false, bank := [] }) =
      { s.streamView with out := false, bank := [] } := by
  have huenum : s.uenum = endpointControlEP := hs
  simp only [streamView, setEndpoint, huenum, if_true]
  rfl

/-- The packet has been taken. -/
theorem Draining.clearOUT {F : List (List UInt8) → List UInt8 → List UInt8 → Prop}
    {F' : List (List UInt8) → Prop} {s : Firmware} (hs : Draining awake w F s.streamView)
    (hF : ∀ taken packet rest, F taken packet rest → F' (taken ++ [packet])) :
    Accounted awake w F'
      (streamView (s.setEndpoint s.uenum fun r => { r with rxouti := false, bank := [] })) := by
  rw [clearOUT_view hs.uenum]
  refine ⟨hs.uenum, hs.arrived, hs.calm, fun hsetup => ?_⟩
  obtain ⟨_, taken, packet, haccount, hheld⟩ := hs.account hsetup
  refine ⟨taken ++ [packet], ?_, hF _ _ _ hheld⟩
  have hnone : StreamView.waiting { s.streamView with out := false, bank := [] } = [] := rfl
  rw [hnone, List.append_nil]
  exact haccount

/-- How far the inner loop has come with a packet, of which the rest is left: the
bytes stored and the length left, beginning with `received` and `length`. -/
structure PartlyTaken (received : List UInt8) (length : Nat) (r : List UInt8 × Nat)
    (packet rest : List UInt8) : Prop where
  stored : r.1 ++ rest.take r.2 = received ++ packet.take length
  left : r.2 - rest.length = length - packet.length

section Packet

variable {received packet rest : List UInt8} {length : Nat} {r : List UInt8 × Nat}

/-- All that is wanted has been taken. -/
theorem PartlyTaken.full (h : PartlyTaken received length r packet rest) (hlength : r.2 = 0) :
    r = (received ++ packet.take length, length - packet.length) := by
  obtain ⟨hstored, hleft⟩ := h
  rw [hlength, List.take_zero, List.append_nil] at hstored
  rw [hlength, Nat.zero_sub] at hleft
  exact Prod.ext hstored (hlength.trans hleft)

/-- The packet has been taken to its end. -/
theorem PartlyTaken.drained (h : PartlyTaken received length r packet []) :
    r = (received ++ packet.take length, length - packet.length) := by
  obtain ⟨hstored, hleft⟩ := h
  rw [List.take_nil, List.append_nil] at hstored
  exact Prod.ext hstored hleft

/-- One more byte is taken. -/
theorem PartlyTaken.next {b : UInt8} (h : PartlyTaken received length r packet (b :: rest))
    (hlength : r.2 ≠ 0) : PartlyTaken received length (r.1 ++ [b], r.2 - 1) packet rest := by
  obtain ⟨n, hn⟩ := Nat.exists_eq_succ_of_ne_zero hlength
  constructor
  · rw [← h.stored, hn]
    simp
  · have hleft := h.left
    rw [List.length_cons] at hleft
    show r.2 - 1 - rest.length = _
    omega

end Packet

/-- The inner loop takes as much of the packet as is wanted. -/
theorem takeBank_wp {F : List (List UInt8) → Prop} {received : List UInt8} {length : Nat}
    (hv : Draining awake w (fun taken packet rest => F taken ∧ rest = packet) v) :
    (Prog.iterate (received, length) takeBankRound).wp (reading awake)
      (fun r => Draining awake w fun taken packet _ => F taken ∧
        r = (received ++ packet.take length, length - packet.length)) v := by
  refine Prog.wp_iterate
    (fun r => Draining awake w fun taken packet rest => F taken ∧
      PartlyTaken received length r packet rest) ?_ ?_ ?_
  · refine hv.mono ?_
    rintro taken packet ⟨hF, hrest⟩
    rw [hrest]
    exact ⟨hF, rfl, rfl⟩
  · intro r v' hv'
    unfold takeBankRound
    by_cases hlength : r.2 = 0
    · rw [if_pos hlength]
      refine Prog.wp_pure hv' ?_
      intro v'' hv''
      refine hv''.mono ?_
      rintro taken packet ⟨hF, htaken⟩
      exact ⟨hF, htaken.full hlength⟩
    rw [if_neg hlength]
    refine streaming_read hv' ?_
    intro s₁ hs₁
    have hbank : s₁.selected.bank = s₁.streamView.bank := by
      rw [selected_stream hs₁.uenum]
      rfl
    rw [hbank]
    by_cases hempty : s₁.streamView.bank.length = 0
    · rw [if_pos hempty]
      have hdone : Draining awake w (fun taken packet _ => F taken ∧
          r = (received ++ packet.take length, length - packet.length)) s₁.streamView := by
        refine hs₁.mono ?_
        rintro taken packet ⟨hF, htaken⟩
        rw [List.eq_nil_of_length_eq_zero hempty] at htaken
        exact ⟨hF, htaken.drained⟩
      exact Prog.wp_pure hdone fun _ h => h
    · rw [if_neg hempty]
      have hsome : Draining awake w (fun taken packet rest => rest ≠ [] ∧ F taken ∧
          PartlyTaken received length r packet rest) s₁.streamView := by
        refine hs₁.mono ?_
        intro taken packet hF
        exact ⟨fun hnil => hempty (congrArg List.length hnil), hF⟩
      refine Prog.wp_bind ?_
      intro s₂ hs₂
      refine ⟨trivial, ?_⟩
      intro v₃ hv₃
      refine Prog.wp_pure (Stable.star hv₃ (Stable.star hs₂ hsome).read8) ?_
      intro v₄ hv₄
      refine hv₄.mono ?_
      rintro taken packet ⟨before, ⟨hne, hF, htaken⟩, hbefore, hrest⟩
      obtain ⟨b, rest, rfl⟩ := List.exists_cons_of_ne_nil hne
      have hhead : s₂.selected.bank.headD 0 = b := by rw [← hbefore, List.headD_cons]
      rw [hrest, List.tail_cons]
      refine ⟨hF, ?_⟩
      show PartlyTaken received length (r.1 ++ [s₂.selected.bank.headD 0], r.2 - 1) packet rest
      rw [hhead]
      exact htaken.next hlength
  · intro r v' v'' hv' hmove
    exact Stable.star hmove hv'

/-- How far a read has come with the packets taken: the bytes stored and the length
left.  No packet is taken once all has been stored. -/
structure Storing (length : Nat) (r : List UInt8 × Nat) (taken : List (List UInt8)) : Prop where
  received : r.1 = taken.flatten.take length
  left : r.2 = length - taken.flatten.length
  needed : 0 < length → taken ≠ [] → taken.dropLast.flatten.length < length

/-- The read has returned `error`, for a reason. -/
structure Stored (awake : Prop) (w : StreamView) (length : Nat) (received : List UInt8)
    (error : ControlStreamError) (v : StreamView) : Prop where
  account : Accounted awake w (fun taken => (∃ left, Storing length (received, left) taken) ∧
    (error = .noError → length ≤ taken.flatten.length)) v
  abort : error = .hostAborted → v.setup = true
  awake : awake → error = .noError ∨ error = .hostAborted

/-- The read goes on waiting, or has returned. -/
def ReadLoopLeft (awake : Prop) (w : StreamView) (length : Nat) (received : List UInt8) :
    StreamExit → StreamView → Prop
  | .finished, v => Accounted awake w (Storing length (received, 0)) v
  | .returned error, v => Stored awake w length received error v

variable {length : Nat}

instance {received : List UInt8} {error : ControlStreamError} :
    Stable (reading awake) (Stored awake w length received error) where
  stable v v' hv h :=
    { account := Stable.stable v v' hv.account h
      abort := fun herror => h.1.setup (hv.abort herror)
      awake := hv.awake }

instance {received : List UInt8} {exit : StreamExit} :
    Stable (reading awake) (ReadLoopLeft awake w length received exit) := by
  cases exit with
  | finished => exact inferInstanceAs (Stable _ (Accounted awake w (Storing length (received, 0))))
  | returned error => exact inferInstanceAs (Stable _ (Stored awake w length received error))

/-- Weaker facts about the packets taken. -/
theorem Accounted.mono {F F' : List (List UInt8) → Prop} (hv : Accounted awake w F v)
    (hF : ∀ taken, F taken → F' taken) : Accounted awake w F' v :=
  { hv with
    account := fun hsetup => by
      obtain ⟨taken, haccount, hheld⟩ := hv.account hsetup
      exact ⟨taken, haccount, hF taken hheld⟩ }

/-- The bus goes away. -/
theorem Accounted.bus {r : List UInt8 × Nat} {s : Firmware}
    (hs : Accounted awake w (Storing length r) s.streamView) {error : ControlStreamError}
    (herror : busError s.usbDeviceState = some error) :
    Stored awake w length r.1 error s.streamView := by
  have hbus : error ≠ .hostAborted ∧ error ≠ .noError := by
    cases hstate : s.usbDeviceState <;> rw [hstate] at herror <;> cases herror <;> decide
  refine
    { account := hs.mono fun taken h => ⟨⟨r.2, h⟩, fun heq => absurd heq hbus.2⟩
      abort := fun heq => absurd heq hbus.1
      awake := fun hawake => ?_ }
  have hnone : busError s.usbDeviceState = none := hs.calm hawake
  rw [hnone] at herror
  cases herror

/-- The host aborts the request. -/
theorem Accounted.abort {r : List UInt8 × Nat} {s : Firmware}
    (hs : Accounted awake w (Storing length r) s.streamView)
    (hsetup : s.selected.rxstpi = true) :
    Stored awake w length r.1 .hostAborted s.streamView := by
  rw [selected_stream hs.uenum] at hsetup
  exact
    { account := hs.mono fun taken h => ⟨⟨r.2, h⟩, nofun⟩
      abort := fun _ => hsetup
      awake := fun _ => Or.inr rfl }

/-- One round of a control read. -/
theorem readControlRound_wp {r : List UInt8 × Nat}
    (hv : Accounted awake w (Storing length r) v) :
    (readControlRound r).wp (reading awake)
      (fun x v' => Sum.elim (fun r' => Accounted awake w (Storing length r') v')
        (fun done => ReadLoopLeft awake w length done.1 done.2 v') x) v := by
  unfold readControlRound
  by_cases hdone : r.2 = 0
  · rw [if_pos hdone]
    refine Prog.wp_pure hv ?_
    intro v' hv'
    exact hv'.mono fun taken h => ⟨h.received, hdone ▸ h.left, h.needed⟩
  rw [if_neg hdone]
  refine checks_wp (fun error => Sum.inr (r.1, StreamExit.returned error)) hv ?_ ?_ ?_
  · intro s error hs herror
    exact Prog.wp_pure (hs.bus herror) fun _ h => h
  · intro s hs hsetup
    exact Prog.wp_pure (hs.abort hsetup) fun _ h => h
  intro s₁ hs₁ _
  refine streaming_read hs₁ ?_
  intro s₂ hs₂
  cases hout : s₂.selected.rxouti with
  | false => exact Prog.wp_pure hs₂ fun _ h => h
  | true =>
      rw [selected_stream hs₂.uenum] at hout
      refine Prog.wp_bind (Prog.wp_mono ?_ (takeBank_wp (hs₂.draining hout)))
      intro r' v₃ hv₃
      refine Prog.wp_bind ?_
      intro s₄ hs₄
      refine ⟨trivial, ?_⟩
      intro v₅ hv₅
      have hcleared : Accounted awake w (Storing length r') (streamView
          (s₄.setEndpoint s₄.uenum fun r => { r with rxouti := false, bank := [] })) := by
        refine (Stable.star hs₄ hv₃).clearOUT ?_
        rintro taken packet _ ⟨hstoring, rfl⟩
        have hleft := hstoring.left
        constructor
        · rw [hstoring.received, hleft, List.flatten_append, List.flatten_singleton,
            List.take_append]
        · rw [hleft, List.flatten_append, List.flatten_singleton, List.length_append]
          show length - taken.flatten.length - packet.length = _
          omega
        · intro _ _
          rw [List.dropLast_concat]
          omega
      exact Prog.wp_pure (Stable.star hv₅ hcleared) fun _ h => h

/-- A read of nothing takes the packet that waits. -/
theorem clearUnwantedOUT_wp (hv : Accounted awake w (· = []) v) :
    (clearUnwantedOUT length).wp (reading awake)
      (fun _ => Accounted awake w (Storing length ([], length))) v := by
  unfold clearUnwantedOUT
  split
  · next hzero =>
      intro s hs
      refine ⟨trivial, ?_⟩
      intro v' hv'
      have hs := Stable.star hs hv
      refine Stable.star hv' ?_
      show Accounted awake w _ (streamView _)
      rw [clearOUT_view hs.uenum]
      refine ⟨hs.uenum, hs.arrived, hs.calm, fun hsetup => ?_⟩
      refine ⟨w.waiting ++ w.since s.streamView, (List.append_nil _).symm, ?_⟩
      subst hzero
      exact ⟨by simp, by simp, fun hpos => absurd hpos (Nat.lt_irrefl 0)⟩
  · refine Prog.wp_pure hv ?_
    intro v' hv'
    refine hv'.mono ?_
    rintro taken rfl
    exact ⟨by simp, by simp, fun _ hne => absurd rfl hne⟩

/-- The wait for the end of the request. -/
theorem awaitIN_wp {received : List UInt8}
    (hv : Accounted awake w (Storing length (received, 0)) v) :
    (awaitControlEnd endpointIsINReady false).wp (reading awake)
      (Stored awake w length received) v := by
  refine awaitControlEnd_wp (P := Accounted awake w (Storing length (received, 0))) hv ?_ ?_ ?_
  · intro s hs _
    refine
      { account := hs.mono fun taken h => ⟨⟨0, h⟩, fun _ => ?_⟩
        abort := nofun
        awake := fun _ => Or.inl rfl }
    have hleft : 0 = length - taken.flatten.length := h.left
    omega
  · intro s error hs herror
    exact hs.bus herror
  · intro s hs _ habortable
    exact Bool.noConfusion habortable

/-- The whole read. -/
theorem endpointReadControlStreamLE_wp (hv : Accounted awake w (· = []) v) :
    (endpointReadControlStreamLE length).wp (reading awake)
      (fun result => Stored awake w length result.1 result.2) v := by
  refine Prog.wp_bind (Prog.wp_mono ?_ (clearUnwantedOUT_wp hv))
  intro _ v₁ hv₁
  refine Prog.wp_bind (Prog.wp_mono ?_
    (Prog.wp_iterate (Q := fun done => ReadLoopLeft awake w length done.1 done.2)
      (fun r => Accounted awake w (Storing length r)) hv₁
      (fun r v hv => readControlRound_wp hv) fun _ _ _ hv hmove => Stable.star hmove hv))
  intro done v₂ hv₂
  have hwait : (StreamExit.andThen done.2 (awaitControlEnd endpointIsINReady false)).wp
      (reading awake) (Stored awake w length done.1) v₂ := by
    cases hexit : done.2 with
    | finished =>
        rw [hexit] at hv₂
        exact awaitIN_wp hv₂
    | returned error =>
        rw [hexit] at hv₂
        exact Prog.wp_pure (P := Stored awake w length done.1 error) hv₂ fun _ h => h
  refine Prog.wp_bind (Prog.wp_mono ?_ hwait)
  intro error v₃ hv₃
  exact Prog.wp_pure (P := Stored awake w length done.1 error) hv₃ fun _ h => h

end Read

/-- The surroundings leave the selection alone and, unless a SETUP packet has come,
the packet that waits. -/
structure LeavesPacket (s : Firmware) (e : Signal) : Prop where
  uenum : (s.signal e).uenum = s.uenum
  setup : (s.endpoints endpointControlEP).rxstpi = true →
    ((s.signal e).endpoints endpointControlEP).rxstpi = true
  packet : ((s.signal e).endpoints endpointControlEP).rxstpi = false →
    (s.endpoints endpointControlEP).rxouti = true →
    ((s.signal e).endpoints endpointControlEP).rxouti = true ∧
      ((s.signal e).endpoints endpointControlEP).bank = (s.endpoints endpointControlEP).bank

/-- The bus is neither suspended nor gone. -/
def StaysAwake (s : Firmware) (e : Signal) : Prop :=
  busError (s.signal e).usbDeviceState = none

/-- The handler takes in no packet. -/
theorem usbGenVect_takesNothing (s : Firmware) :
    s.usbGenVect.arrived = s.arrived ∧
      ∀ n, EndpointQuiet (s.endpoints n) (s.usbGenVect.endpoints n) := by
  cases hpending : s.udint.eorst && s.udien.eorst with
  | false =>
      rw [(usbGenVect_quiet hpending).rest]
      exact ⟨rfl, fun _ => .refl _⟩
  | true =>
      obtain ⟨t, hframe, hserved⟩ := usbGenVect_reset hpending
      have harrived : t.arrived = s.arrived := by rw [hframe.rest]
      have hendpoints : t.endpoints = s.endpoints := by rw [hframe.rest]
      have haccess := configureControlEndpoint_access
        { t with
          usbDeviceState := .default, usbDeviceConfigurationNumber := 0
          udint := { t.udint with eorst := false, susp := false }
          udien := { t.udien with susp := false, wakeup := true }
          resets := t.resets + 1 }
      rw [hserved]
      refine ⟨?_, fun n => hendpoints ▸ haccess.quiet n⟩
      rw [haccess.rest]
      exact harrived

/-- Every packet that comes in is noted down, and nothing else is. -/
theorem signal_arrived (s : Firmware) (e : Signal) :
    (s.signal e).streamView.arrived = s.streamView.arrived ++
      (if s.streamView.out then [] else (s.signal e).streamView.waiting) := by
  -- where nothing comes in there is nothing to note down
  have hnothing (s' : Firmware) (hsame : s'.arrivedPackets = s.arrivedPackets)
      (hraised : (s'.endpoints endpointControlEP).rxouti = true →
        (s.endpoints endpointControlEP).rxouti = true) :
      s'.streamView.arrived = s.streamView.arrived ++
        (if s.streamView.out then [] else s'.streamView.waiting) := by
    cases hout : s.streamView.out with
    | true =>
        rw [if_pos rfl, List.append_nil]
        exact hsame
    | false =>
        have hout' : s'.streamView.out = false :=
          Bool.eq_false_iff.mpr fun h => Bool.eq_false_iff.mp hout (hraised h)
        rw [if_neg Bool.false_ne_true, waiting_none hout', List.append_nil]
        exact hsame
  cases e with
  | interrupt =>
      obtain ⟨harrived, hquiet⟩ := usbGenVect_takesNothing s
      exact hnothing _ (by rw [signal, arrivedPackets, harrived]; rfl)
        (hquiet endpointControlEP).out
  | endpoint n f =>
      by_cases hn : n = endpointControlEP
      · subst hn
        have hwaiting : (s.signal (.endpoint endpointControlEP f)).streamView.waiting =
            if f.rxouti then [f.bank] else [] := by
          simp [StreamView.waiting, streamView, signal, setEndpoint]
        rw [hwaiting]
        simp only [streamView, arrivedPackets, signal]
        by_cases hout : (s.endpoints endpointControlEP).rxouti = true
        · simp [hout]
        · by_cases hnew : f.rxouti = true <;> simp [hout, hnew]
      · have hother : (s.signal (.endpoint n f)).endpoints endpointControlEP =
            s.endpoints endpointControlEP := if_neg (Ne.symm hn)
        refine hnothing _ ?_ (by rw [hother]; exact id)
        simp only [arrivedPackets, signal]
        split
        · simp [hn]
        · rfl
  | memory fits => exact hnothing _ rfl id
  | frame number => exact hnothing _ rfl id
  | flags udint => exact hnothing _ rfl id
  | vbus level => exact hnothing _ rfl id
  | busReset => exact hnothing _ rfl id
  | pinB level => exact hnothing _ rfl id
  | stack content => exact hnothing _ rfl id

/-- The host and the bus keep to the contract of a read. -/
theorem reading_moves (awake : Prop) :
    (reading awake).Moves signal (fun t e => LeavesPacket t e ∧ (awake → StaysAwake t e)) :=
  fun t e h => .single ⟨⟨h.1.uenum, h.1.setup, h.1.packet, signal_arrived t e⟩, h.2⟩

/-- **Control reads at any timing.**  Unless a SETUP packet is there at the end of a
completed read, the packets that waited at its start or came in since are, in
this order, those that it has taken and the one that waits at its end: none is
lost and none is taken twice.  The bytes stored are the first of those taken, and
the function of polls stores them and returns the same error if these packets
come in and the read then ends with it.  No packet is taken beyond the length
asked for, and if all is well there are as many bytes.  The read only returns that
the host has aborted the request with a SETUP packet there, and nothing else but
that all is well unless the bus is suspended or goes away. -/
theorem control_read_takes_packets (s : Firmware) (length : Nat)
    (hselected : s.uenum = endpointControlEP) (turns : List (Turn Signal))
    (hturns : InterruptsAllowed signal LeavesPacket (endpointReadControlStreamLE length) s turns)
    (received : List UInt8) (error : ControlStreamError)
    (hend : (execute signal (endpointReadControlStreamLE length) s turns).prog =
      .done (received, error)) :
    let s' := (execute signal (endpointReadControlStreamLE length) s turns).state
    ∃ new, s'.arrivedPackets = s.arrivedPackets ++ new ∧
      ((s'.endpoints endpointControlEP).rxstpi = false → ∃ taken,
        s.streamView.waiting ++ new = taken ++ s'.streamView.waiting ∧
        received = taken.flatten.take length ∧
        AvrJoystick.endpointReadControlStreamLE (readPolls taken error) length =
          ⟨received, some error⟩ ∧
        (0 < length → taken ≠ [] → taken.dropLast.flatten.length < length) ∧
        (error = .noError → length ≤ taken.flatten.length)) ∧
      (error = .hostAborted → (s'.endpoints endpointControlEP).rxstpi = true) ∧
      (InterruptsAllowed signal StaysAwake (endpointReadControlStreamLE length) s turns →
        busError s.usbDeviceState = none → error = .noError ∨ error = .hostAborted) := by
  intro s'
  let awake : Prop :=
    InterruptsAllowed signal StaysAwake (endpointReadControlStreamLE length) s turns ∧
      busError s.usbDeviceState = none
  have hstart : Accounted awake s.streamView (· = []) s.streamView :=
    { uenum := hselected
      arrived := List.prefix_rfl
      calm := And.right
      account := fun _ => ⟨[], by simp [StreamView.since], rfl⟩ }
  have hstored : Stored awake s.streamView length received error s'.streamView :=
    wp_result (reading_moves awake) (endpointReadControlStreamLE_wp hstart)
      (hturns.and_imp fun h : awake => h.1) hend
  obtain ⟨new, hnew⟩ := hstored.account.arrived
  refine ⟨new, hnew.symm, ?_, hstored.abort, fun hstays hawake => hstored.awake ⟨hstays, hawake⟩⟩
  intro hsetup
  obtain ⟨taken, haccount, ⟨left, hstoring⟩, hlength⟩ := hstored.account.account hsetup
  have hsince : s.streamView.since s'.streamView = new := by
    rw [StreamView.since, ← hnew, List.drop_left]
  have herror : error ≠ .hostAborted := by
    intro habort
    exact Bool.noConfusion ((hstored.abort habort).symm.trans hsetup)
  have hreceived : received = taken.flatten.take length := hstoring.received
  refine ⟨taken, hsince ▸ haccount, hreceived, ?_, hstoring.needed, hlength⟩
  rw [hreceived]
  exact endpointReadControlStreamLE_readPolls taken length herror hlength

/-- A device to which the host has sent two bytes. -/
def deviceReceiving : Firmware where
  ports := quietBoard
  usbDeviceState := .configured
  endpoints n :=
    if n = endpointControlEP then { rxouti := true, txini := true, bank := [7, 8] } else {}

/-- Three bytes are read out of two packets of two, the second of which comes in
during the read. -/
theorem control_read_takes_packets_two :
    let turns := hostActsAfter 14 { rxouti := true, txini := true, bank := [9, 10] } 11
    let s' := (execute signal (endpointReadControlStreamLE 3) deviceReceiving turns).state
    s'.arrivedPackets = [[9, 10]] ∧
      ∃ taken, [[7, 8], [9, 10]] = taken ++ s'.streamView.waiting ∧
        [7, 8, 9] = taken.flatten.take 3 ∧ 3 ≤ taken.flatten.length := by
  intro turns s'
  have hturns : InterruptsAllowed signal LeavesPacket (endpointReadControlStreamLE 3)
      deviceReceiving turns :=
    hostActsAfter_allowed ⟨rfl, by decide +kernel, by decide +kernel⟩
  obtain ⟨new, hnew, htaken, _, _⟩ :=
    control_read_takes_packets deviceReceiving 3 rfl turns hturns [7, 8, 9] .noError
      (Prog.eq_done (by decide +kernel))
  have harrived : s'.arrivedPackets = [[9, 10]] := by decide +kernel
  obtain ⟨taken, haccount, hreceived, _, _, hlength⟩ := htaken (by decide +kernel)
  have hone : new = [[9, 10]] := hnew.symm.trans harrived
  subst hone
  exact ⟨harrived, taken, haccount, hreceived, hlength rfl⟩

end Firmware

end AvrJoystick
