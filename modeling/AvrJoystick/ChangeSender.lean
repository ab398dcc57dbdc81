import AvrJoystick.Runs

/-!
# Sending a value whenever it changes

A sender is offered the current value of something again and again and sends
it only when it has to: when the value differs from the one it remembers, or
when a refresh is due.  The receiver is to know, after every offer, the value
that was offered.

That works as long as the remembered value is the one last sent.  It may fail
to be in three ways.  The session restarts, so that nothing has been sent in
it; a refresh is due then, and must stay due until it has been served.  The
remembered value is one that can never be offered, so that the next offer is
sent anyway.  Or somebody else overwrites the remembered value, which is
harmless only when it changes nothing or when a refresh is due.  `Coherent`
allows the first two and `Op.Safe` is what it takes to stay coherent.
-/

namespace ChangeSender

universe u

variable {α : Type u}

/-- The value remembered for comparison, the latest value sent in the current
session, and whether a refresh is due. -/
structure Sender (α : Type u) where
  remembered : α
  sent : Option α
  due : Bool

/-- What can happen to a sender. -/
inductive Op (α : Type u)
  | offer (value : α)
  | overwrite (value : α)
  | arm
  | disarm
  | restart
  | skip

/-- One operation.  An offer that is sent serves the refresh. -/
def Sender.step [DecidableEq α] (s : Sender α) : Op α → Sender α
  | .offer v =>
      if v ≠ s.remembered ∨ s.due = true then ⟨v, some v, false⟩ else s
  | .overwrite v => { s with remembered := v }
  | .arm => { s with due := true }
  | .disarm => { s with due := false }
  | .restart => { s with sent := none, due := true }
  | .skip => s

variable (Offered : α → Prop)

/-- The remembered value is the latest one sent, or the next offer will be
sent in any case. -/
def Sender.Coherent (s : Sender α) : Prop :=
  s.sent = some s.remembered ∨ s.due = true ∨ ¬ Offered s.remembered

/-- The operation cannot hide a value that has not been sent. -/
def Op.Safe (s : Sender α) : Op α → Prop
  | .offer v => Offered v
  | .overwrite v => v = s.remembered ∨ s.due = true
  | .disarm => s.sent = some s.remembered ∨ ¬ Offered s.remembered
  | _ => True

variable [DecidableEq α] {Offered}

/-- **An offer to a coherent sender gets through.** -/
theorem Sender.Coherent.offer_sent {s : Sender α} (h : s.Coherent Offered)
    {v : α} (hv : Offered v) :
    (s.step (.offer v)).sent = some v := by
  by_cases hsend : v ≠ s.remembered ∨ s.due = true
  · simp [Sender.step, hsend]
  · have hsame : v = s.remembered :=
      Classical.byContradiction (fun hne => hsend (Or.inl hne))
    have hnotdue : s.due ≠ true := fun hdue => hsend (Or.inr hdue)
    rcases h with hsent | hdue | hnever
    · have hkeep : s.step (.offer v) = s := if_neg hsend
      rw [hkeep, hsent, hsame]
    · exact absurd hdue hnotdue
    · exact absurd (hsame ▸ hv) hnever

/-- **Safe operations keep a sender coherent.** -/
theorem Sender.Coherent.step {s : Sender α} (h : s.Coherent Offered)
    {op : Op α} (hsafe : op.Safe Offered s) :
    (s.step op).Coherent Offered := by
  cases op with
  | offer v =>
      by_cases hsend : v ≠ s.remembered ∨ s.due = true
      · exact Or.inl (by simp [Sender.step, hsend])
      · simpa [Sender.step, hsend] using h
  | overwrite v =>
      rcases hsafe with hsame | hdue
      · simpa [Sender.step, hsame] using h
      · exact Or.inr (Or.inl hdue)
  | arm => exact Or.inr (Or.inl rfl)
  | disarm =>
      rcases hsafe with hsent | hnever
      · exact Or.inl hsent
      · exact Or.inr (Or.inr hnever)
  | restart => exact Or.inr (Or.inl rfl)
  | skip => exact h

/-- **An unsafe overwrite hides its value.**  The next offer of the value that
was written over the remembered one is not sent, and the receiver is left with
another value. -/
theorem Sender.overwrite_hides {s : Sender α} {v : α}
    (hsent : s.sent = some s.remembered) (hne : v ≠ s.remembered)
    (hdue : s.due = false) :
    ((s.step (.overwrite v)).step (.offer v)).sent ≠ some v := by
  have hquiet : (s.step (.overwrite v)).step (.offer v) =
      s.step (.overwrite v) := by
    simp [Sender.step, hdue]
  rw [hquiet]
  show s.sent ≠ some v
  rw [hsent]
  intro heq
  exact hne (Option.some.inj heq).symm

/-- **A refresh cancelled too early hides the remembered value.** -/
theorem Sender.disarm_hides {s : Sender α}
    (hsent : s.sent ≠ some s.remembered) :
    ((s.step .disarm).step (.offer s.remembered)).sent ≠
      some s.remembered := by
  have hquiet : (s.step .disarm).step (.offer s.remembered) =
      s.step .disarm := by
    simp [Sender.step]
  rw [hquiet]
  exact hsent

end ChangeSender
