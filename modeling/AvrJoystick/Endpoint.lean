import AvrJoystick.Descriptors

/-!
# Endpoint streams

The USB library's stream functions, each a busy loop around the endpoint flags.
What the loop sees is data of the environment: one `EndpointPoll` for every
time round, holding the device state and the flags read there.  A loop whose
polls run out has not returned yet, and its outcome is `none`.

Three streams are used by the joystick.  A control read collects the data
stage of a SET_REPORT and stops early when the bus goes away or a new SETUP
arrives.  A control write sends the data stage of a GET_REPORT in packets of
the control endpoint's size.  A stream write fills the bank of the interrupt
endpoint, releasing it whenever it is full.
-/

namespace AvrJoystick

/-- `USB_DeviceState`. -/
inductive USBDeviceState
  | unattached
  | powered
  | default
  | addressed
  | configured
  | suspended
  deriving DecidableEq, Repr

/-- What one turn of a control endpoint loop reads: the device state, whether
a new SETUP packet is there, the OUT packet in the bank if there is one, and
whether the IN bank is free. -/
structure EndpointPoll where
  deviceState : USBDeviceState := .configured
  setupReceived : Bool := false
  outReceived : Option (List UInt8) := none
  inReady : Bool := false
  deriving DecidableEq, Repr

/-- `Endpoint_ControlStream_RW_ErrorCodes_t`. -/
inductive ControlStreamError
  | noError
  | hostAborted
  | deviceDisconnected
  | busSuspended
  deriving DecidableEq, Repr

/-- The loop that waits for the IN bank at the end of a control read. -/
def awaitINReady : List EndpointPoll → Option ControlStreamError
  | [] => none
  | p :: polls =>
      if p.inReady then some .noError
      else if p.deviceState = .unattached then some .deviceDisconnected
      else if p.deviceState = .suspended then some .busSuspended
      else awaitINReady polls

/-- The inner loop: move bytes out of the bank while the caller wants more and
the bank has any.  Returns them with the length still wanted. -/
def drainBank : List UInt8 → Nat → List UInt8 × Nat
  | b :: bank, length + 1 =>
      let rest := drainBank bank length
      (b :: rest.1, rest.2)
  | _, length => ([], length)

/-- The bytes a control read stored, in order, and how it returned. -/
structure ControlRead where
  received : List UInt8
  outcome : Option ControlStreamError

/-- `Endpoint_Read_Control_Stream_LE` for `length` bytes.  Whatever is left in
the bank when the last byte has been taken is dropped with the packet. -/
def endpointReadControlStreamLE : List EndpointPoll → Nat → ControlRead
  | polls, 0 => ⟨[], awaitINReady polls⟩
  | [], _ + 1 => ⟨[], none⟩
  | p :: polls, length + 1 =>
      if p.deviceState = .unattached then ⟨[], some .deviceDisconnected⟩
      else if p.deviceState = .suspended then ⟨[], some .busSuspended⟩
      else if p.setupReceived then ⟨[], some .hostAborted⟩
      else
        match p.outReceived with
        | none => endpointReadControlStreamLE polls (length + 1)
        | some packet =>
            let drained := drainBank packet (length + 1)
            let rest := endpointReadControlStreamLE polls drained.2
            ⟨drained.1 ++ rest.received, rest.outcome⟩

/-- The poll makes a control read give up. -/
def EndpointPoll.Aborts (p : EndpointPoll) : Prop :=
  p.deviceState = .unattached ∨ p.deviceState = .suspended ∨
    p.setupReceived = true

instance (p : EndpointPoll) : Decidable p.Aborts := by
  unfold EndpointPoll.Aborts; infer_instance

/-- The payload the host delivers: the bytes of the OUT packets seen before
the data stage is aborted. -/
def payload : List EndpointPoll → List UInt8
  | [] => []
  | p :: polls =>
      if p.Aborts then [] else p.outReceived.getD [] ++ payload polls

theorem drainBank_eq (bank : List UInt8) (length : Nat) :
    drainBank bank length = (bank.take length, length - bank.length) := by
  induction bank generalizing length with
  | nil => simp [drainBank]
  | cons b bank ih =>
      cases length with
      | zero => simp [drainBank]
      | succ length => simp [drainBank, ih]

/-- **What a control read stores.**  The delivered payload, cut to the length
asked for. -/
theorem endpointReadControlStreamLE_received
    (polls : List EndpointPoll) (length : Nat) :
    (endpointReadControlStreamLE polls length).received =
      (payload polls).take length := by
  induction polls generalizing length with
  | nil => cases length <;> simp [endpointReadControlStreamLE, payload]
  | cons p polls ih =>
      cases length with
      | zero => simp [endpointReadControlStreamLE]
      | succ length =>
          unfold endpointReadControlStreamLE payload
          by_cases hgone : p.deviceState = .unattached
          · simp [EndpointPoll.Aborts, hgone]
          by_cases hasleep : p.deviceState = .suspended
          · simp [EndpointPoll.Aborts, hasleep]
          by_cases hsetup : p.setupReceived = true
          · simp [EndpointPoll.Aborts, hgone, hasleep, hsetup]
          have hgo : ¬ p.Aborts := by
            simp [EndpointPoll.Aborts, hgone, hasleep, hsetup]
          rw [if_neg hgone, if_neg hasleep, if_neg hsetup, if_neg hgo]
          cases hout : p.outReceived with
          | none => simpa using ih (length + 1)
          | some packet =>
              simp only [drainBank_eq, ih, Option.getD_some, List.take_append]

/-- The loop that waits for the status stage at the end of a control write. -/
def awaitOUTReceived : List EndpointPoll → Option ControlStreamError
  | [] => none
  | p :: polls =>
      if p.outReceived.isSome then some .noError
      else if p.deviceState = .unattached then some .deviceDisconnected
      else if p.deviceState = .suspended then some .busSuspended
      else if p.setupReceived then some .hostAborted
      else awaitOUTReceived polls

/-- The packets a control write released, and how it returned. -/
structure ControlWrite where
  packets : List (List UInt8)
  outcome : Option ControlStreamError

/-- The loop of `Endpoint_Write_Control_Stream_LE`.  `bank` is what the
endpoint holds already, `full` is `LastPacketFull`: a full last packet is
followed by an empty one. -/
def writeControlLoop (bank data : List UInt8) (full : Bool) :
    List EndpointPoll → ControlWrite
  | [] => ⟨[], none⟩
  | p :: polls =>
      if data = [] ∧ full = false then ⟨[], awaitOUTReceived (p :: polls)⟩
      else if p.deviceState = .unattached then ⟨[], some .deviceDisconnected⟩
      else if p.deviceState = .suspended then ⟨[], some .busSuspended⟩
      else if p.setupReceived then ⟨[], some .hostAborted⟩
      else if p.outReceived.isSome then ⟨[], awaitOUTReceived (p :: polls)⟩
      else if p.inReady then
        let room := fixedControlEndpointSize - bank.length
        let packet := bank ++ data.take room
        let rest := writeControlLoop [] (data.drop room)
          (packet.length == fixedControlEndpointSize) polls
        { rest with packets := packet :: rest.packets }
      else writeControlLoop bank data full polls

/-- `Endpoint_Write_Control_Stream_LE` for the bytes `data`, answering a
request for `wLength` bytes, with `bank` already in the endpoint.  Asked to
send nothing, it releases the bank at once. -/
def endpointWriteControlStreamLE (bank data : List UInt8) (wLength : Nat)
    (polls : List EndpointPoll) : ControlWrite :=
  if wLength < data.length then
    writeControlLoop bank (data.take wLength) false polls
  else if data = [] then
    let rest := writeControlLoop [] [] false polls
    { rest with packets := bank :: rest.packets }
  else writeControlLoop bank data false polls

/-- How many packets the host is ready to collect before the data stage is
aborted or the host moves on to the status stage. -/
def readyPolls : List EndpointPoll → Nat
  | [] => 0
  | p :: polls =>
      if p.Aborts ∨ p.outReceived.isSome = true then 0
      else p.inReady.toNat + readyPolls polls

/-- The loop sends as many bytes as the packets collected can hold. -/
theorem writeControlLoop_packets (data : List UInt8) (full : Bool)
    (polls : List EndpointPoll) :
    (writeControlLoop [] data full polls).packets.flatten =
      data.take (fixedControlEndpointSize * readyPolls polls) := by
  induction polls generalizing data full with
  | nil => simp [writeControlLoop, readyPolls]
  | cons p polls ih =>
      unfold writeControlLoop readyPolls
      by_cases hdone : data = [] ∧ full = false
      · simp [hdone]
      by_cases hgone : p.deviceState = .unattached
      · simp [EndpointPoll.Aborts, hgone, hdone]
      by_cases hasleep : p.deviceState = .suspended
      · simp [EndpointPoll.Aborts, hasleep, hdone]
      by_cases hsetup : p.setupReceived = true
      · simp [EndpointPoll.Aborts, hgone, hasleep, hsetup, hdone]
      by_cases hout : p.outReceived.isSome = true
      · simp [hgone, hasleep, hsetup, hout, hdone]
      have hgo : ¬ (p.Aborts ∨ p.outReceived.isSome = true) := by
        simpa [EndpointPoll.Aborts, hgone, hasleep, hsetup] using hout
      rw [if_neg hdone, if_neg hgone, if_neg hasleep, if_neg hsetup,
        if_neg hout, if_neg hgo]
      by_cases hready : p.inReady = true
      · simp only [hready, if_true, List.length_nil, Nat.sub_zero,
          List.nil_append, List.flatten_cons, ih, Bool.toNat_true]
        rw [Nat.mul_add, Nat.mul_one, List.take_add]
      · simp [hready, ih]

/-- **What a control write sends.**  Asked for all of the data, it sends as
much of it as the host collects. -/
theorem endpointWriteControlStreamLE_packets
    {data : List UInt8} {wLength : Nat} (hlength : data.length ≤ wLength)
    (hdata : data ≠ []) (polls : List EndpointPoll) :
    (endpointWriteControlStreamLE [] data wLength polls).packets.flatten =
      data.take (fixedControlEndpointSize * readyPolls polls) := by
  rw [endpointWriteControlStreamLE, if_neg (Nat.not_lt.mpr hlength),
    if_neg hdata, writeControlLoop_packets]

/-- `Endpoint_ClearStatusStage` has returned: the other side took part in the
status stage, or the device was unplugged. -/
def statusStageCleared (deviceToHost : Bool) (polls : List EndpointPoll) : Bool :=
  polls.any (fun p =>
    (if deviceToHost then p.outReceived.isSome else p.inReady) ||
      p.deviceState == .unattached)

/-- The interrupt IN endpoint with its single bank.  `busy` holds from the
release of a packet until the host has collected it. -/
structure INEndpoint where
  isConfigured : Bool := false
  isStalled : Bool := false
  busy : Bool := false
  bank : List UInt8 := []
  deriving DecidableEq, Repr

/-- `Endpoint_IsReadWriteAllowed`: the controller never sets the flag for a
stalled endpoint. -/
def INEndpoint.isReadWriteAllowed (ep : INEndpoint) : Bool :=
  ep.isConfigured && !ep.isStalled && !ep.busy &&
    decide (ep.bank.length < joystickINEPSize)

/-- `Endpoint_ClearIN`: hand the bank to the controller. -/
def INEndpoint.clearIN (ep : INEndpoint) : INEndpoint :=
  { ep with busy := true, bank := [] }

/-- `Endpoint_WaitUntilReady_ErrorCodes_t`, as the wait for a busy bank
returns them. -/
inductive ReadyWait
  | noError
  | endpointStalled
  | deviceDisconnected
  | busSuspended
  | timeout
  deriving DecidableEq, Repr

/-- Write bytes while the bank takes them. -/
def fillBank : INEndpoint → List UInt8 → INEndpoint × List UInt8
  | ep, [] => (ep, [])
  | ep, b :: data =>
      if ep.isReadWriteAllowed then
        fillBank { ep with bank := ep.bank ++ [b] } data
      else (ep, b :: data)

/-- The endpoint after a stream write, and the packets released on the way. -/
structure StreamWrite where
  endpoint : INEndpoint
  packets : List (List UInt8)

/-- The loop of `Endpoint_Write_Stream_LE`: fill the bank; while bytes remain,
release it and wait for the controller to free it.  `waits` holds the results
of those waits; the re-entered `USB_USBTask` does not touch this endpoint. -/
def writeStreamLoop (ep : INEndpoint) (data : List UInt8) :
    List ReadyWait → StreamWrite
  | [] =>
      let filled := fillBank ep data
      if filled.2 = [] then ⟨filled.1, []⟩
      else ⟨filled.1.clearIN, [filled.1.bank]⟩
  | wait :: waits =>
      let filled := fillBank ep data
      if filled.2 = [] then ⟨filled.1, []⟩
      else if wait = .noError then
        let rest := writeStreamLoop { filled.1.clearIN with busy := false }
          filled.2 waits
        { rest with packets := filled.1.bank :: rest.packets }
      else ⟨filled.1.clearIN, [filled.1.bank]⟩

/-- `Endpoint_Write_Stream_LE`.  The first wait returns at once when the bank
is free, and otherwise with the first of `waits`. -/
def endpointWriteStreamLE (ep : INEndpoint) (data : List UInt8)
    (waits : List ReadyWait) : StreamWrite :=
  if ep.busy = false then writeStreamLoop ep data waits
  else
    match waits with
    | .noError :: waits => writeStreamLoop { ep with busy := false } data waits
    | _ => ⟨ep, []⟩

/-- Data that fits into the bank is taken whole. -/
theorem fillBank_fits {ep : INEndpoint} {data : List UInt8}
    (hconfigured : ep.isConfigured = true) (hstalled : ep.isStalled = false)
    (hbusy : ep.busy = false)
    (hfits : ep.bank.length + data.length ≤ joystickINEPSize) :
    fillBank ep data = ({ ep with bank := ep.bank ++ data }, []) := by
  induction data generalizing ep with
  | nil => simp [fillBank]
  | cons b data ih =>
      have hroom : ep.bank.length < joystickINEPSize := by
        simp only [List.length_cons] at hfits
        omega
      have hallowed : ep.isReadWriteAllowed = true := by
        simp [INEndpoint.isReadWriteAllowed, hconfigured, hstalled, hbusy, hroom]
      have htail := @ih { ep with bank := ep.bank ++ [b] }
        hconfigured hstalled hbusy (by simp at hfits ⊢; omega)
      simp [fillBank, hallowed, htail]

/-- **One bank, one packet.**  Data that fits into an empty bank is written
without releasing it, whatever the waits would have returned. -/
theorem endpointWriteStreamLE_fits {ep : INEndpoint} {data : List UInt8}
    (hready : ep.isReadWriteAllowed = true) (hempty : ep.bank = [])
    (hfits : data.length ≤ joystickINEPSize) (waits : List ReadyWait) :
    endpointWriteStreamLE ep data waits = ⟨{ ep with bank := data }, []⟩ := by
  have hflags : ((ep.isConfigured = true ∧ ep.isStalled = false) ∧
      ep.busy = false) ∧ ep.bank.length < joystickINEPSize := by
    simpa [INEndpoint.isReadWriteAllowed] using hready
  obtain ⟨⟨⟨hconfigured, hstalled⟩, hbusy⟩, _⟩ := hflags
  have hfill : fillBank ep data = ({ ep with bank := ep.bank ++ data }, []) :=
    fillBank_fits hconfigured hstalled hbusy (by simpa [hempty] using hfits)
  rw [hempty, List.nil_append] at hfill
  cases waits <;> simp [endpointWriteStreamLE, hbusy, writeStreamLoop, hfill]

end AvrJoystick
