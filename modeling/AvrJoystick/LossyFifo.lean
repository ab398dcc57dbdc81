import Mathlib.Data.List.Forall2

/-!
# Stamps on a lossy first-in first-out channel

A sender's stamp only ever grows.  Each message is stamped when it is sent;
the channel delivers messages in the order in which they were sent and may
lose any of them, but neither duplicates nor reorders them.  Then the stamps
of the messages received never go backwards, and none is ahead of the sender.

`Stamps` carries this order as a field, so the argument is made once, where
the operations are defined.  A system is related to it by matching its own
messages with stamps, one for one.
-/

namespace LossyFifo

/-- The stamps of the messages received and of those in flight, oldest first,
and the stamp the next message will get. -/
structure Stamps where
  received : List Nat
  inFlight : List Nat
  now : Nat
  ordered : (received ++ inFlight ++ [now]).Pairwise (· ≤ ·)

namespace Stamps

/-- Nothing sent yet, and the stamp at zero. -/
def start : Stamps := ⟨[], [], 0, by simp⟩

/-- No stamp is ahead of the sender's. -/
theorem le_now (c : Stamps) : ∀ k ∈ c.received ++ c.inFlight, k ≤ c.now := by
  intro k hk
  exact (List.pairwise_append.mp c.ordered).2.2 k hk c.now List.mem_cons_self

theorem pairwise_stamped (c : Stamps) :
    (c.received ++ c.inFlight).Pairwise (· ≤ ·) :=
  (List.pairwise_append.mp c.ordered).1

/-- **The stamps received never go backwards.** -/
theorem pairwise_received (c : Stamps) : c.received.Pairwise (· ≤ ·) :=
  (List.pairwise_append.mp c.pairwise_stamped).1

/-- The sender's stamp grows. -/
def advance (c : Stamps) (k : Nat) (hk : c.now ≤ k) : Stamps where
  received := c.received
  inFlight := c.inFlight
  now := k
  ordered := by
    refine List.pairwise_append.mpr
      ⟨c.pairwise_stamped, List.pairwise_singleton _ _, ?_⟩
    intro a ha b hb
    rw [List.mem_singleton.mp hb]
    exact Nat.le_trans (c.le_now a ha) hk

/-- A message is sent. -/
def send (c : Stamps) : Stamps where
  received := c.received
  inFlight := c.inFlight ++ [c.now]
  now := c.now
  ordered := by
    rw [← List.append_assoc]
    refine List.pairwise_append.mpr
      ⟨c.ordered, List.pairwise_singleton _ _, ?_⟩
    intro a ha b hb
    rw [List.mem_singleton.mp hb]
    rcases List.mem_append.mp ha with hold | hnew
    · exact c.le_now a hold
    · exact Nat.le_of_eq (List.mem_singleton.mp hnew)

/-- The oldest message in flight is received, if there is one. -/
def receive (c : Stamps) : Stamps where
  received := c.received ++ c.inFlight.take 1
  inFlight := c.inFlight.drop 1
  now := c.now
  ordered := by
    rw [List.append_assoc c.received, List.take_append_drop]
    exact c.ordered

/-- A message in flight is lost. -/
def lose (c : Stamps) (i : Nat) : Stamps where
  received := c.received
  inFlight := c.inFlight.eraseIdx i
  now := c.now
  ordered := by
    refine c.ordered.sublist (List.Sublist.append ?_ (List.Sublist.refl _))
    exact List.Sublist.append (List.Sublist.refl _) (List.eraseIdx_sublist _ _)

end Stamps

section Matching

variable {α : Type} {R : α → Nat → Prop} {messages : List α} {stamps : List Nat}

/-- Appending a message with its stamp keeps the lists matched. -/
theorem matched_concat (h : List.Forall₂ R messages stamps) {m : α} {k : Nat}
    (hm : R m k) : List.Forall₂ R (messages ++ [m]) (stamps ++ [k]) :=
  List.rel_append h (List.Forall₂.cons hm List.Forall₂.nil)

/-- What holds of every stamp holds along the matching. -/
theorem matched_and {P : Nat → Prop} (h : List.Forall₂ R messages stamps)
    (hP : ∀ k ∈ stamps, P k) :
    List.Forall₂ (fun m k => R m k ∧ P k) messages stamps := by
  induction h with
  | nil => exact List.Forall₂.nil
  | cons hm _ ih =>
      obtain ⟨hk, hrest⟩ := List.forall_mem_cons.mp hP
      exact List.Forall₂.cons ⟨hm, hk⟩ (ih hrest)

/-- Losing a message together with its stamp keeps the lists matched. -/
theorem matched_eraseIdx (h : List.Forall₂ R messages stamps) (i : Nat) :
    List.Forall₂ R (messages.eraseIdx i) (stamps.eraseIdx i) := by
  rw [List.eraseIdx_eq_take_drop_succ, List.eraseIdx_eq_take_drop_succ]
  exact List.rel_append (List.forall₂_take i h) (List.forall₂_drop (i + 1) h)

end Matching

end LossyFifo
