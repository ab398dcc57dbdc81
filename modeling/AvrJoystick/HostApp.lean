import AvrJoystick.LossyFifo
import AvrJoystick.Hidraw
import AvrJoystick.Transmit

/-!
# The host application and the device

The main loop of `host_app/linux.c`: read a report if one is there, count, and
write thirty-two bytes that all hold the second byte of the counter.  Composed
with the device, every step of either side comes at any time.

The device hands the byte it has latched back in the Y byte of its reports.
Between a report and the read that returns it lie the endpoint and the queue
of hidraw, which keep the order but may lose reports.  Stamping each report
with the iteration whose write the device had latched makes this a lossy
first-in first-out channel with a growing stamp; so the echoes the host reads
never go backwards (`echoes_never_go_backwards`).
-/

namespace AvrJoystick

open LossyFifo

/-- `byte` of the main loop, as `memset` stores it. -/
def hostByte (count : UInt32) : UInt8 := ((count &&& 0xFF00) >>> 8).toUInt8

/-- The part of `buf` that is written. -/
def hostBuffer (count : UInt32) : List UInt8 :=
  (List.replicate 256 (hostByte count)).take 32

/-- The main loop between two calls.  `iteration` is the number of iterations
completed, which the program itself only keeps modulo the width of `count`;
`hasRead` tells whether the next call is `write`. -/
structure Host where
  iteration : Nat := 0
  count : UInt32 := 0
  hasRead : Bool := false

/-- The host after one more iteration. -/
def Host.next (h : Host) : Host :=
  { iteration := h.iteration + 1, count := h.count + 1 }

/-- Data that was read or written, with the iteration it happened in. -/
structure Transaction where
  iteration : Nat
  data : List UInt8

/-- What a SET_REPORT meets on the wire. -/
structure Wire where
  polls : List EndpointPoll
  stack : Nat → UInt8

/-- The request that writing the buffer issues. -/
def Wire.transfer (wire : Wire) (buffer : List UInt8) : ControlTransfer where
  header := hidrawHeader buffer
  polls := wire.polls
  stack := wire.stack

/-- The request reaches the device, and completely so. -/
def Wire.Completes (wire : Wire) (buffer : List UInt8) : Prop :=
  (wire.transfer buffer).delivered = hidrawData buffer ∧
    (wire.transfer buffer).dataStage.outcome = some .noError

instance (wire : Wire) (buffer : List UInt8) :
    Decidable (wire.Completes buffer) := by
  unfold Wire.Completes; infer_instance

theorem Wire.Completes.writes {wire : Wire} {buffer : List UInt8}
    (h : wire.Completes buffer) : (wire.transfer buffer).Writes buffer :=
  ⟨rfl, rfl, h.1, h.2⟩

/-- Host and device.  `queue` holds the reports on their way from the device
to the host, `reads` what the host has read and `writes` what it has written
successfully, all oldest first. -/
structure System where
  observed : Observed
  host : Host := {}
  queue : List (List UInt8) := []
  reads : List Transaction := []
  writes : List Transaction := []

/-- A step of the composed system: one of the two calls of the main loop, a
step of the device, or the loss of a report on its way. -/
inductive SystemEvent
  | hostRead
  | hostWrite (wire : Wire)
  | device (event : Event)
  | lose (index : Nat)

/-- `read`, which does not block. -/
def System.hostRead (s : System) : System :=
  if s.host.hasRead then s
  else
    { s with
      host := { s.host with hasRead := true }
      queue := s.queue.drop 1
      reads := s.reads ++
        (s.queue.take 1).map (fun r => ⟨s.host.iteration + 1, r.take 32⟩) }

/-- The rest of the iteration.  The device has processed the request when
`write` returns, or else the request has not reached it. -/
def System.hostWrite (s : System) (wire : Wire) : System :=
  if s.host.hasRead then
    let buffer := hostBuffer s.host.next.count
    if wire.Completes buffer then
      { s with
        observed := s.observed.step (.controlRequest (wire.transfer buffer))
        host := s.host.next
        writes := s.writes ++ [⟨s.host.next.iteration, buffer⟩] }
    else { s with host := s.host.next }
  else s

/-- A step of the device.  Output reports come from the host application
only. -/
def System.deviceStep (s : System) (e : Event) : System :=
  if e.outputReport = none then
    { s with
      observed := s.observed.step e
      queue := s.queue ++
        (s.observed.device.step e).2.filterMap Observation.packet }
  else s

def System.step (s : System) : SystemEvent → System
  | .hostRead => s.hostRead
  | .hostWrite wire => s.hostWrite wire
  | .device e => s.deviceStep e
  | .lose i => { s with queue := s.queue.eraseIdx i }

/-- A freshly reset device and a host that has just entered its loop. -/
def System.start (ports : Ports) : System := { observed := started ports }

/-- The system after a run. -/
def System.after (ports : Ports) (es : List SystemEvent) : System :=
  Runs.run System.step (System.start ports) es

/-- The byte written in iteration `k`; for the state after reset, `k` is
zero. -/
def iterationByte (k : Nat) : UInt8 :=
  UInt8.ofNat (((k % 2 ^ 32) &&& 0xFF00) >>> 8)

theorem hostByte_ofNat (k : Nat) :
    hostByte (UInt32.ofNat k) = iterationByte k := by
  apply UInt8.toNat_inj.mp
  simp [hostByte, iterationByte]

theorem hostBuffer_eq (count : UInt32) :
    hostBuffer count = hostByte count :: List.replicate 31 (hostByte count) := rfl

/-- The report echoes what was written in iteration `k`. -/
def Echoes (report : List UInt8) (k : Nat) : Prop :=
  report[1]? = some (iterationByte k)

/-- The iteration of the last successful write. -/
def lastWritten (writes : List Transaction) : Nat :=
  (writes.getLast?.map Transaction.iteration).getD 0

/-- The system follows the stamps: the latch holds the byte of the current
stamp, and every report in the queue or read carries the byte of its own. -/
structure System.Follows (s : System) (c : Stamps) : Prop where
  bankEmpty : s.observed.device.BankEmpty
  count : s.host.count = UInt32.ofNat s.host.iteration
  now_le : c.now ≤ s.host.iteration
  now_eq : c.now = lastWritten s.writes
  saved : s.observed.device.saved = iterationByte c.now
  portD : s.writes ≠ [] → s.observed.device.ports.portD = iterationByte c.now
  genuine : ∀ k ∈ c.received ++ c.inFlight ++ [c.now],
    k = 0 ∨ ∃ w ∈ s.writes, w.iteration = k
  queue : List.Forall₂ Echoes s.queue c.inFlight
  reads : List.Forall₂ (fun read k => Echoes read.data k ∧ k < read.iteration)
    s.reads c.received

theorem System.start_follows (ports : Ports) :
    (System.start ports).Follows .start where
  bankEmpty := mainBeforeLoop_bankEmpty ports
  count := rfl
  now_le := Nat.le_refl 0
  now_eq := rfl
  saved := show (0 : UInt8) = iterationByte 0 by decide
  portD := fun h => absurd rfl h
  genuine := by simp [Stamps.start]
  queue := List.Forall₂.nil
  reads := List.Forall₂.nil

namespace System.Follows

variable {s : System} {c : Stamps}

/-- Reading takes the oldest report with its stamp. -/
theorem hostRead (h : s.Follows c) :
    s.hostRead.Follows (if s.host.hasRead then c else c.receive) := by
  unfold System.hostRead
  split
  · exact h
  · have hlt : ∀ k ∈ c.inFlight, k < s.host.iteration + 1 := fun k hk =>
      Nat.lt_succ_of_le
        (Nat.le_trans (c.le_now k (List.mem_append_right _ hk)) h.now_le)
    have hread : List.Forall₂
        (fun read k => Echoes read.data k ∧ k < read.iteration)
        ((s.queue.take 1).map
          (fun r => (⟨s.host.iteration + 1, r.take 32⟩ : Transaction)))
        (c.inFlight.take 1) := by
      rw [List.forall₂_map_left_iff]
      refine (List.forall₂_take 1 (matched_and h.queue hlt)).imp ?_
      rintro r k ⟨hecho, hk⟩
      exact ⟨by simpa [Echoes, List.getElem?_take] using hecho, hk⟩
    exact
      { bankEmpty := h.bankEmpty
        count := h.count
        now_le := h.now_le
        now_eq := h.now_eq
        saved := h.saved
        portD := h.portD
        genuine := by
          rw [Stamps.receive, List.append_assoc c.received,
            List.take_append_drop]
          exact h.genuine
        queue := List.forall₂_drop 1 h.queue
        reads := List.rel_append h.reads hread }

theorem next_count (h : s.Follows c) :
    s.host.next.count = UInt32.ofNat s.host.next.iteration := by
  show s.host.count + 1 = UInt32.ofNat (s.host.iteration + 1)
  rw [UInt32.ofNat_add, ← h.count]
  rfl

/-- A write that does not reach the device only counts. -/
theorem hostWrite_fails (h : s.Follows c) :
    { s with host := s.host.next }.Follows c where
  bankEmpty := h.bankEmpty
  count := h.next_count
  now_le := Nat.le_succ_of_le h.now_le
  now_eq := h.now_eq
  saved := h.saved
  portD := h.portD
  genuine := h.genuine
  queue := h.queue
  reads := h.reads

/-- What a write that reaches the device does to it. -/
theorem hostWrite_step (h : s.Follows c) {wire : Wire}
    (hwire : wire.Completes (hostBuffer s.host.next.count)) :
    s.observed.device.step
        (.controlRequest (wire.transfer (hostBuffer s.host.next.count))) =
      ({ s.observed.device with
          saved := iterationByte s.host.next.iteration
          ports := { s.observed.device.ports with
            portD := iterationByte s.host.next.iteration } }, []) := by
  have hwrites := hwire.writes
  rw [hostBuffer_eq] at hwrites ⊢
  rw [hwrites.step_eq (by simp), ← hostByte_ofNat, ← h.next_count]
  rfl

/-- A write that reaches the device moves the stamp to its iteration. -/
theorem hostWrite_succeeds (h : s.Follows c) {wire : Wire}
    (hwire : wire.Completes (hostBuffer s.host.next.count)) :
    { s with
      observed := s.observed.step
        (.controlRequest (wire.transfer (hostBuffer s.host.next.count)))
      host := s.host.next
      writes := s.writes ++
        [Transaction.mk s.host.next.iteration
          (hostBuffer s.host.next.count)] }.Follows
      (c.advance s.host.next.iteration (Nat.le_succ_of_le h.now_le)) where
  bankEmpty := Device.step_bankEmpty h.bankEmpty _
  count := h.next_count
  now_le := Nat.le_refl _
  now_eq := by simp [lastWritten, Stamps.advance]
  saved := congrArg (·.1.saved) (h.hostWrite_step hwire)
  portD := fun _ => congrArg (·.1.ports.portD) (h.hostWrite_step hwire)
  genuine := by
    intro k hk
    rcases List.mem_append.mp hk with hold | hnew
    · rcases h.genuine k (List.mem_append_left _ hold) with hzero | ⟨w, hw, hwk⟩
      · exact Or.inl hzero
      · exact Or.inr ⟨w, List.mem_append_left _ hw, hwk⟩
    · rw [List.mem_singleton.mp hnew]
      exact Or.inr ⟨_, List.mem_append_right _ List.mem_cons_self, rfl⟩
  queue := h.queue
  reads := h.reads

/-- A step of the device leaves the latch alone, and a report it sends carries
the current stamp. -/
theorem deviceStep (h : s.Follows c) {e : Event} (he : e.outputReport = none) :
    (s.deviceStep e).Follows
      (if (s.observed.device.sentReport e).isSome then c.send else c) := by
  obtain ⟨hsaved, hportD⟩ :=
    Device.step_latch_of_not_outputReport he s.observed.device
  have hpackets := (Device.step_reports h.bankEmpty e).2
  unfold System.deviceStep
  rw [if_pos he, hpackets]
  cases hsent : s.observed.device.sentReport e with
  | none =>
      exact
        { bankEmpty := Device.step_bankEmpty h.bankEmpty e
          count := h.count
          now_le := h.now_le
          now_eq := h.now_eq
          saved := hsaved.trans h.saved
          portD := fun hne => hportD.trans (h.portD hne)
          genuine := h.genuine
          queue := by simpa using h.queue
          reads := h.reads }
  | some report =>
      have hecho : Echoes report c.now := by
        rw [Device.eq_currentReport_of_sentReport hsent, Echoes, ← h.saved]
        exact s.observed.device.currentReport_getElem?.2
      exact
        { bankEmpty := Device.step_bankEmpty h.bankEmpty e
          count := h.count
          now_le := h.now_le
          now_eq := h.now_eq
          saved := hsaved.trans h.saved
          portD := fun hne => hportD.trans (h.portD hne)
          genuine := by
            intro k hk
            apply h.genuine k
            simp only [Option.isSome_some, if_true, Stamps.send] at hk
            simp only [List.mem_append] at hk ⊢
            grind
          queue := matched_concat h.queue hecho
          reads := h.reads }

/-- A report is lost together with its stamp. -/
theorem lose (h : s.Follows c) (i : Nat) :
    { s with queue := s.queue.eraseIdx i }.Follows (c.lose i) where
  bankEmpty := h.bankEmpty
  count := h.count
  now_le := h.now_le
  now_eq := h.now_eq
  saved := h.saved
  portD := h.portD
  genuine := by
    intro k hk
    apply h.genuine k
    refine (List.Sublist.append ?_ (List.Sublist.refl _)).subset hk
    exact List.Sublist.append (List.Sublist.refl _) (List.eraseIdx_sublist _ _)
  queue := matched_eraseIdx h.queue i
  reads := h.reads

/-- **Every step of the system is a step of the stamps.** -/
theorem step (h : s.Follows c) (e : SystemEvent) :
    ∃ c', (s.step e).Follows c' := by
  cases e with
  | hostRead => exact ⟨_, h.hostRead⟩
  | hostWrite wire =>
      show ∃ c', (s.hostWrite wire).Follows c'
      unfold System.hostWrite
      split
      · by_cases hwire : wire.Completes (hostBuffer s.host.next.count)
        · exact ⟨_, by simpa [hwire] using h.hostWrite_succeeds hwire⟩
        · exact ⟨c, by simpa [hwire] using h.hostWrite_fails⟩
      · exact ⟨c, h⟩
  | device e =>
      by_cases he : e.outputReport = none
      · exact ⟨_, h.deviceStep he⟩
      · exact ⟨c, by simpa [System.step, System.deviceStep, he] using h⟩
  | lose i => exact ⟨_, h.lose i⟩

end System.Follows

/-- After any run there are stamps that the system follows. -/
theorem System.after_follows (ports : Ports) (es : List SystemEvent) :
    ∃ c, (System.after ports es).Follows c :=
  Runs.run_invariant (fun s : System => ∃ c, s.Follows c)
    (fun _ e ⟨_, h⟩ => h.step e) ⟨_, System.start_follows ports⟩ es

/-- **Host and device agree, and echoes never go backwards.**  In every run of
the main loop against a freshly reset device, whatever the order of steps, the
writes that fail and the reports that are lost: since the last successful
write, in iteration `k` say, both `saved` and port D hold the byte written in
iteration `k`; and the Y bytes the host has read match a sequence of
iterations that never goes backwards, each of them zero or the iteration of a
successful write earlier than the read. -/
theorem echoes_never_go_backwards (ports : Ports) (es : List SystemEvent) :
    (∀ w, (System.after ports es).writes.getLast? = some w →
      (System.after ports es).observed.device.saved =
          iterationByte w.iteration ∧
        (System.after ports es).observed.device.ports.portD =
          iterationByte w.iteration) ∧
    ∃ ks : List Nat, ks.Pairwise (· ≤ ·) ∧
      List.Forall₂
        (fun read k => read.data[1]? = some (iterationByte k) ∧
          k < read.iteration ∧
          (k = 0 ∨ ∃ w ∈ (System.after ports es).writes, w.iteration = k))
        (System.after ports es).reads ks := by
  generalize hs : System.after ports es = s
  obtain ⟨c, h⟩ : ∃ c, s.Follows c := hs ▸ System.after_follows ports es
  constructor
  · intro w hw
    have hnow : c.now = w.iteration := by
      rw [h.now_eq, lastWritten, hw]
      rfl
    have hne : s.writes ≠ [] := by
      intro hnil
      rw [hnil] at hw
      cases hw
    rw [← hnow]
    exact ⟨h.saved, h.portD hne⟩
  · refine ⟨c.received, c.pairwise_received, ?_⟩
    have hgenuine := matched_and h.reads (fun k hk =>
      h.genuine k (List.mem_append_left _ (List.mem_append_left _ hk)))
    exact hgenuine.imp (fun _ _ ⟨⟨hecho, hlt⟩, hgen⟩ => ⟨hecho, hlt, hgen⟩)

/-- The wire on which a buffer of thirty-two equal bytes arrives in four
packets. -/
def fourPackets (b : UInt8) : Wire where
  polls := List.replicate 4 { outReceived := some (List.replicate 8 b) } ++
    [{ inReady := true }]
  stack := fun _ => 0

/-- The first 255 writes do not reach the device.  The next one does, the device is
configured and sends a report, and the host reads it. -/
def lateSuccess : List SystemEvent :=
  (List.replicate 255 [.hostRead, .hostWrite ⟨[], fun _ => 0⟩]).flatten ++
    [.hostRead, .hostWrite (fourPackets 1),
      .device (.configurationChanged true), .device (.stateChange .configured),
      .device (.usbTask ⟨1, 1, []⟩), .hostRead]

/-- The byte of iteration 256 is latched, and the host reads it back as the echo of
that iteration. -/
theorem echoes_never_go_backwards_lateSuccess :
    ((System.after quietBoard lateSuccess).observed.device.saved = 1 ∧
      (System.after quietBoard lateSuccess).observed.device.ports.portD = 1) ∧
    (System.after quietBoard lateSuccess).reads.map (fun r => (r.iteration, r.data[1]?)) =
      [(257, some 1)] ∧
    ∃ ks : List Nat, ks.Pairwise (· ≤ ·) ∧
      List.Forall₂ (fun read k => read.data[1]? = some (iterationByte k) ∧ k < read.iteration)
        (System.after quietBoard lateSuccess).reads ks := by
  obtain ⟨hlast, ks, hsorted, hks⟩ := echoes_never_go_backwards quietBoard lateSuccess
  have hwrites : (System.after quietBoard lateSuccess).writes.getLast?.map
      Transaction.iteration = some 256 := by decide +kernel
  obtain ⟨w, hw, hiteration⟩ := Option.map_eq_some_iff.mp hwrites
  obtain ⟨hsaved, hportD⟩ := hlast w hw
  have hbyte : iterationByte 256 = 1 := by decide
  rw [hiteration, hbyte] at hsaved hportD
  refine ⟨⟨hsaved, hportD⟩, by decide +kernel, ks, hsorted, hks.imp ?_⟩
  rintro read k ⟨hecho, hbefore, _⟩
  exact ⟨hecho, hbefore⟩

end AvrJoystick
