import AvrJoystick.Runs
import Mathlib.Logic.Relation

/-!
# Programs that can be interrupted

A program over a shared state is a sequence of atomic actions and loops.
Between any two of its actions the surroundings may change the state: an
interrupt is served, a device raises a flag.  A run is a list of turns, each
taken by the program or by the surroundings, in any order and of any length;
nothing is assumed about fairness.

A program is checked against a `Contract`.  Assertions are about a `view` of
the state; the surroundings may move the view along `rely` at any time, and
every action of the program has to respect `guarantee`.  `wp` is the weakest
precondition in this sense: what has been shown of the view before an action is
only ever used up to moves of the surroundings (`wp_execute`).

Most programs just keep some property of the view all the way through.  For
those, `Keeps` is a class whose instances follow the shape of a program, down
to its actions; an action says what it `Does`, and the contract whether it
`Allows` that.

An interrupt service routine is itself a program, but one that nothing
interrupts: `uninterrupted` runs it in one go.
-/

namespace Interleave

open Relation

/-- A program over the state `σ` with results of a given type.  An action reads
and writes the state at one instant and hands a value to what follows.  A loop
carries a value from round to round until its body returns one to leave with. -/
inductive Prog (σ : Type) : Type → Type 1
  | done {α : Type} (a : α) : Prog σ α
  | act {α β : Type} (f : σ → β × σ) (next : β → Prog σ α) : Prog σ α
  | loop {α β γ : Type} (body : γ → Prog σ (γ ⊕ β)) (init : γ)
      (next : β → Prog σ α) : Prog σ α

namespace Prog

variable {σ : Type}

def bind {α β : Type} : Prog σ α → (α → Prog σ β) → Prog σ β
  | .done a, k => k a
  | .act f next, k => .act f (fun b => (next b).bind k)
  | .loop body init next, k => .loop body init (fun b => (next b).bind k)

instance : Monad (Prog σ) where
  pure := .done
  bind := .bind

/-- One atomic action. -/
def atomic {β : Type} (f : σ → β × σ) : Prog σ β := .act f .done

/-- Read something off the state. -/
def read {β : Type} (f : σ → β) : Prog σ β := atomic (fun s => (f s, s))

/-- Change the state. -/
def modify (f : σ → σ) : Prog σ Unit := atomic (fun s => ((), f s))

/-- A loop with a value carried from round to round. -/
def iterate {β γ : Type} (init : γ) (body : γ → Prog σ (γ ⊕ β)) : Prog σ β :=
  .loop body init .done

/-- Repeat a program until it returns a value. -/
def untilSome {β : Type} (body : Prog σ (Option β)) : Prog σ β :=
  iterate () (fun _ => body.bind (fun r => .done (r.elim (.inl ()) .inr)))

/-- Repeat a program for ever. -/
def forever (body : Prog σ Unit) : Prog σ Empty :=
  iterate () (fun _ => body.bind (fun _ => .done (.inl ())))

/-- The program run in one go.  A program with a loop in it has no such run. -/
def uninterrupted {α : Type} : Prog σ α → σ → Option (α × σ)
  | .done a, s => some (a, s)
  | .act f next, s => (next (f s).1).uninterrupted (f s).2
  | .loop _ _ _, _ => none

/-- Two programs one after the other. -/
theorem uninterrupted_bind {α β : Type} (p : Prog σ α) (k : α → Prog σ β) (s : σ) :
    (p >>= k).uninterrupted s =
      (p.uninterrupted s).bind (fun r => (k r.1).uninterrupted r.2) := by
  change (p.bind k).uninterrupted s = _
  induction p generalizing s with
  | done a => rfl
  | act f next ih => exact ih _ k _
  | loop body init next _ _ => rfl

@[simp]
theorem uninterrupted_read {β : Type} (f : σ → β) (s : σ) :
    (read f).uninterrupted s = some (f s, s) := rfl

@[simp]
theorem uninterrupted_modify (f : σ → σ) (s : σ) :
    (modify f).uninterrupted s = some ((), f s) := rfl

end Prog

/-- A program in the middle of its execution. -/
structure Config (σ α : Type) where
  prog : Prog σ α
  state : σ

/-- Whose turn it is. -/
inductive Turn (ε : Type)
  | program
  | interrupt (e : ε)

variable {σ ε α β γ : Type}

/-- One step of a program.  Entering a round of a loop is a step of its own
that leaves the state alone. -/
def Prog.step : Prog σ α → σ → Config σ α
  | .done a, s => ⟨.done a, s⟩
  | .act f next, s => ⟨next (f s).1, (f s).2⟩
  | .loop body init next, s =>
      ⟨(body init).bind (Sum.elim (fun x => .loop body x next) next), s⟩

/-- One turn of the whole system. -/
def turn (env : σ → ε → σ) (c : Config σ α) : Turn ε → Config σ α
  | .program => c.prog.step c.state
  | .interrupt e => ⟨c.prog, env c.state e⟩

/-- The configuration reached by a program from a state. -/
def execute (env : σ → ε → σ) (p : Prog σ α) (s : σ) (turns : List (Turn ε)) :
    Config σ α :=
  Runs.run (turn env) ⟨p, s⟩ turns

/-- Every interrupt of the run comes in a state that allows it. -/
def InterruptsAllowed (env : σ → ε → σ) (A : σ → ε → Prop) (p : Prog σ α) (s : σ)
    (turns : List (Turn ε)) : Prop :=
  Runs.Along (turn env) (fun c t => ∀ e, t = .interrupt e → A c.state e) ⟨p, s⟩ turns

/-- The value of a program that has ended. -/
def Prog.result {α : Type} : Prog σ α → Option α
  | .done a => some a
  | .act _ _ => none
  | .loop _ _ _ => none

/-- A program with a result is at its end. -/
theorem Prog.eq_done {p : Prog σ α} {a : α} (h : p.result = some a) : p = .done a := by
  cases p with
  | done b => rw [Option.some.inj h]
  | act _ _ => cases h
  | loop _ _ _ => cases h

/-- Where everything is allowed. -/
theorem interruptsAllowed_of_forall {env : σ → ε → σ} {A : σ → ε → Prop}
    (hA : ∀ s e, A s e) (p : Prog σ α) (s : σ) (turns : List (Turn ε)) :
    InterruptsAllowed env A p s turns := by
  induction turns generalizing p s with
  | nil => trivial
  | cons t turns ih => exact ⟨fun e _ => hA s e, ih _ _⟩

/-- Nothing interrupts the program. -/
theorem interruptsAllowed_programs {env : σ → ε → σ} {A : σ → ε → Prop} (p : Prog σ α) (s : σ)
    (n : Nat) : InterruptsAllowed env A p s (List.replicate n .program) := by
  induction n generalizing p s with
  | zero => trivial
  | succ n ih => exact ⟨nofun, ih _ _⟩

/-- One list of turns after the other. -/
theorem interruptsAllowed_append {env : σ → ε → σ} {A : σ → ε → Prop} {p : Prog σ α} {s : σ}
    {turns turns' : List (Turn ε)} (h : InterruptsAllowed env A p s turns)
    (h' : InterruptsAllowed env A (execute env p s turns).prog (execute env p s turns).state
      turns') : InterruptsAllowed env A p s (turns ++ turns') :=
  Runs.along_append.mpr ⟨h, h'⟩

/-- Interrupts that are allowed in one sense, and under a condition in another. -/
theorem InterruptsAllowed.and_imp {env : σ → ε → σ} {A B : σ → ε → Prop} {P : Prop}
    {p : Prog σ α} {s : σ} {turns : List (Turn ε)} (hA : InterruptsAllowed env A p s turns)
    (hB : P → InterruptsAllowed env B p s turns) :
    InterruptsAllowed env (fun s e => A s e ∧ (P → B s e)) p s turns := by
  induction turns generalizing p s with
  | nil => trivial
  | cons t turns ih =>
      exact ⟨fun e he => ⟨hA.1 e he, fun hP => (hB hP).1 e he⟩, ih hA.2 fun hP => (hB hP).2⟩

/-- What a program relies on and what it promises. -/
structure Contract (σ V : Type) where
  view : σ → V
  rely : V → V → Prop
  guarantee : σ → σ → Prop

section WP

variable {V : Type} (C : Contract σ V)

/-- The program, started when the view is `v`, respects the guarantee, and if
it ends then with `Q`, whatever moves the surroundings make of the view in
between.  A loop is given an invariant of the view. -/
def Prog.wp : ∀ {α : Type}, Prog σ α → (α → V → Prop) → V → Prop
  | _, .done a, Q, v => ∀ v', ReflTransGen C.rely v v' → Q a v'
  | _, .act f next, Q, v => ∀ s, ReflTransGen C.rely v (C.view s) →
      C.guarantee s (f s).2 ∧ (next (f s).1).wp Q (C.view (f s).2)
  | _, .loop body init next, Q, v => ∃ I : _ → V → Prop, I init v ∧ ∀ x v', I x v' →
      (body x).wp
        (fun r v'' => Sum.elim (I · v'') (fun b => (next b).wp Q v'') r) v'

variable {C}

/-- A weaker postcondition. -/
theorem Prog.wp_mono {p : Prog σ α} {Q Q' : α → V → Prop}
    (hQ : ∀ a v, Q a v → Q' a v) {v : V} (hp : p.wp C Q v) : p.wp C Q' v := by
  induction p generalizing v with
  | done a => exact fun v' hv' => hQ a v' (hp v' hv')
  | act f next ih => exact fun s hs => ⟨(hp s hs).1, ih _ hQ (hp s hs).2⟩
  | loop body init next ihbody ih =>
      obtain ⟨I, hI, hbody⟩ := hp
      refine ⟨I, hI, fun x v' hv' => ihbody x (fun r v'' hr => ?_) (hbody x v' hv')⟩
      cases r with
      | inl y => exact hr
      | inr b => exact ih b hQ hr

/-- What holds of a program's start still holds after moves of the view. -/
theorem Prog.wp_stable {p : Prog σ α} {Q : α → V → Prop} {v v' : V}
    (hv : ReflTransGen C.rely v v') (hp : p.wp C Q v) : p.wp C Q v' := by
  induction p generalizing v v' with
  | done a => exact fun v'' hv'' => hp v'' (hv.trans hv'')
  | act f next _ => exact fun s hs => hp s (hv.trans hs)
  | loop body init next ihbody _ =>
      -- the invariant is weakened to what can be reached from it
      obtain ⟨I, hI, hbody⟩ := hp
      refine ⟨fun x z => ∃ y, I x y ∧ ReflTransGen C.rely y z, ⟨v, hI, hv⟩, ?_⟩
      rintro x z ⟨y, hy, hyz⟩
      refine Prog.wp_mono (fun r v'' hr => ?_) (ihbody x hyz (hbody x y hy))
      cases r with
      | inl y => exact ⟨v'', hr, .refl⟩
      | inr b => exact hr

/-- The second program starts where the first one ends. -/
theorem Prog.wp_bind {p : Prog σ α} {k : α → Prog σ β} {Q : β → V → Prop} {v : V}
    (hp : p.wp C (fun a => (k a).wp C Q) v) : (p >>= k).wp C Q v := by
  change (p.bind k).wp C Q v
  induction p generalizing v with
  | done a => exact hp v .refl
  | act f next ih => exact fun s hs => ⟨(hp s hs).1, ih _ (hp s hs).2⟩
  | loop body init next _ ih =>
      obtain ⟨I, hI, hbody⟩ := hp
      refine ⟨I, hI, fun x v' hv' => Prog.wp_mono (fun r v'' hr => ?_) (hbody x v' hv')⟩
      cases r with
      | inl y => exact hr
      | inr b => exact ih b hr

/-- A program that goes on with a value it has read. -/
theorem Prog.wp_read {f : σ → β} {k : β → Prog σ α} {Q : α → V → Prop} {v : V}
    (hread : ∀ s, C.guarantee s s)
    (hk : ∀ s, ReflTransGen C.rely v (C.view s) → (k (f s)).wp C Q (C.view s)) :
    (Prog.read f >>= k).wp C Q v :=
  Prog.wp_bind fun s hs => ⟨hread s, fun _ hv' => Prog.wp_stable hv' (hk s hs)⟩

/-- A loop, with an invariant that each round either keeps or leaves for the
postcondition. -/
theorem Prog.wp_iterate {body : γ → Prog σ (γ ⊕ β)} {init : γ} {Q : β → V → Prop} {v : V}
    (I : γ → V → Prop) (hinit : I init v)
    (hbody : ∀ x v', I x v' → (body x).wp C (fun r v'' => Sum.elim (I · v'') (Q · v'') r) v')
    (hQ : ∀ b v' v'', Q b v' → ReflTransGen C.rely v' v'' → Q b v'') :
    (Prog.iterate init body).wp C Q v := by
  refine ⟨I, hinit, fun x v' hv' => Prog.wp_mono (fun r v'' hr => ?_) (hbody x v' hv')⟩
  cases r with
  | inl y => exact hr
  | inr b => exact fun w hw => hQ b v'' w hr hw

/-- One action of the program keeps what is known of the rest. -/
theorem Prog.wp_step {p : Prog σ α} {Q : α → V → Prop} {s : σ}
    (hp : p.wp C Q (C.view s)) :
    (p.step s).prog.wp C Q (C.view (p.step s).state) ∧
      ((p.step s).state = s ∨ C.guarantee s (p.step s).state) := by
  cases p with
  | done a => exact ⟨hp, Or.inl rfl⟩
  | act f next => exact ⟨(hp s .refl).2, Or.inr (hp s .refl).1⟩
  | loop body init next =>
      obtain ⟨I, hI, hbody⟩ := hp
      refine ⟨Prog.wp_bind (Prog.wp_mono (fun r v' hr => ?_) (hbody init _ hI)),
        Or.inl rfl⟩
      cases r with
      | inl x => exact ⟨I, hr, hbody⟩
      | inr b => exact hr

/-- The surroundings, as far as they are allowed to act, move the view as the
contract relies on. -/
def Contract.Moves (C : Contract σ V) (env : σ → ε → σ) (A : σ → ε → Prop) : Prop :=
  ∀ s e, A s e → ReflTransGen C.rely (C.view s) (C.view (env s e))

variable {env : σ → ε → σ} {A : σ → ε → Prop}

/-- Every run keeps what is known of the rest, however it is interrupted. -/
theorem wp_execute (henv : C.Moves env A) {p : Prog σ α} {Q : α → V → Prop} {s : σ}
    (hp : p.wp C Q (C.view s)) {turns : List (Turn ε)}
    (hturns : InterruptsAllowed env A p s turns) :
    (execute env p s turns).prog.wp C Q (C.view (execute env p s turns).state) := by
  induction turns generalizing p s with
  | nil => exact hp
  | cons t turns ih =>
      obtain ⟨hallowed, hrest⟩ := hturns
      cases t with
      | program => exact ih (Prog.wp_step hp).1 hrest
      | interrupt e =>
          exact ih (Prog.wp_stable (henv s e (hallowed e rfl)) hp) hrest

/-- **Interrupted programs meet their postcondition** whenever they end. -/
theorem wp_result (henv : C.Moves env A) {p : Prog σ α} {Q : α → V → Prop} {s : σ}
    (hp : p.wp C Q (C.view s)) {turns : List (Turn ε)}
    (hturns : InterruptsAllowed env A p s turns) {a : α}
    (hend : (execute env p s turns).prog = .done a) :
    Q a (C.view (execute env p s turns).state) := by
  have h := wp_execute henv hp hturns
  rw [hend] at h
  exact h _ .refl

/-- **Invariants of interrupted programs.**  What neither an action that
respects the guarantee nor an allowed interrupt breaks holds throughout every
run. -/
theorem wp_invariant (henv : C.Moves env A) (J : σ → Prop)
    (hguarantee : ∀ s s', J s → C.guarantee s s' → J s')
    (hJenv : ∀ s e, A s e → J s → J (env s e))
    {p : Prog σ α} {Q : α → V → Prop} {s : σ} (hs : J s) (hp : p.wp C Q (C.view s))
    {turns : List (Turn ε)} (hturns : InterruptsAllowed env A p s turns) :
    J (execute env p s turns).state := by
  induction turns generalizing p s with
  | nil => exact hs
  | cons t turns ih =>
      obtain ⟨hallowed, hrest⟩ := hturns
      cases t with
      | program =>
          obtain ⟨hnext, hstep⟩ := Prog.wp_step hp
          refine ih ?_ hnext hrest
          rcases hstep with hsame | hmove
          · exact hsame.symm ▸ hs
          · exact hguarantee _ _ hs hmove
      | interrupt e =>
          exact ih (hJenv s e (hallowed e rfl) hs)
            (Prog.wp_stable (henv s e (hallowed e rfl)) hp) hrest

/-- A run in one go is a run. -/
theorem wp_uninterrupted (J : σ → Prop) (hguarantee : ∀ s s', J s → C.guarantee s s' → J s')
    {p : Prog σ α} {Q : α → V → Prop} {s s' : σ} {a : α} (hs : J s) (hp : p.wp C Q (C.view s))
    (hrun : p.uninterrupted s = some (a, s')) : J s' ∧ Q a (C.view s') := by
  induction p generalizing s with
  | done b =>
      obtain ⟨rfl, rfl⟩ := Prod.mk.inj (Option.some.inj hrun)
      exact ⟨hs, hp _ .refl⟩
  | act f next ih =>
      obtain ⟨hstep, hnext⟩ := hp s .refl
      exact ih _ (hguarantee _ _ hs hstep) hnext hrun
  | loop body init next _ _ => exact absurd hrun (by simp [Prog.uninterrupted])

end WP

section Keeps

variable {V : Type}

/-- The surroundings cannot break the property. -/
class Stable (C : Contract σ V) (P : V → Prop) : Prop where
  stable : ∀ v v', P v → C.rely v v' → P v'

/-- The program is a single action that relates the states before and after it
by `E`. -/
class Does (E : outParam (σ → σ → Prop)) (p : Prog σ α) : Prop where
  does : ∃ f : σ → α × σ, p = .atomic f ∧ ∀ s, E s (f s).2

/-- An action of this kind respects the guarantee and keeps the property. -/
class Allows (C : Contract σ V) (P : V → Prop) (E : σ → σ → Prop) : Prop where
  allows : ∀ s s', P (C.view s) → E s s' → C.guarantee s s' ∧ P (C.view s')

/-- Started with `P`, the program has `Q` at its end. -/
def Prog.Leads (C : Contract σ V) (P : V → Prop) (p : Prog σ α) (Q : V → Prop) : Prop :=
  ∀ v, P v → p.wp C (fun _ => Q) v

/-- Started with the property, the program has it at its end. -/
class Keeps (C : Contract σ V) (P : V → Prop) (p : Prog σ α) : Prop where
  keeps : p.Leads C P P

variable {C : Contract σ V} {P : V → Prop}

/-- A stable property survives any number of moves. -/
theorem Stable.star [Stable C P] {v v' : V} (h : ReflTransGen C.rely v v') (hv : P v) :
    P v' := by
  induction h with
  | refl => exact hv
  | tail _ hstep ih => exact Stable.stable _ _ ih hstep

/-- A program at its end has what is stable. -/
theorem Prog.wp_pure [Stable C P] {a : α} {Q : α → V → Prop} {v : V} (hv : P v)
    (hQ : ∀ v', P v' → Q a v') : (pure a : Prog σ α).wp C Q v :=
  fun v' hv' => hQ v' (Stable.star hv' hv)

/-- A loop without state: `P` holds before every round. -/
theorem Prog.wp_untilSome [Stable C P] {body : Prog σ (Option β)} {Q : β → V → Prop}
    [∀ b, Stable C (Q b)] {v : V} (hv : P v)
    (hbody : ∀ v', P v' → body.wp C (fun r v'' => r.elim (P v'') (Q · v'')) v') :
    (Prog.untilSome body).wp C Q v := by
  refine Prog.wp_iterate (fun _ => P) hv (fun _ v' hv' => Prog.wp_bind ?_)
    fun _ _ _ hQ hmove => Stable.star hmove hQ
  refine Prog.wp_mono (fun r v'' hr => ?_) (hbody v' hv')
  cases r with
  | none => exact Prog.wp_pure (P := P) hr fun _ h => h
  | some b => exact Prog.wp_pure (P := Q b) hr fun _ h => h

/-- An action that does not change the state. -/
def Unchanged (s s' : σ) : Prop := s' = s

instance (f : σ → β) : Does Unchanged (Prog.read f) := ⟨_, rfl, fun _ => rfl⟩

/-- A program of one action, by what the action does. -/
theorem wp_does {E : σ → σ → Prop} {p : Prog σ α} [hp : Does E p] {Q : α → V → Prop} {v : V}
    (h : ∀ s s', ReflTransGen C.rely v (C.view s) → E s s' →
      C.guarantee s s' ∧ ∀ a v', ReflTransGen C.rely (C.view s') v' → Q a v') :
    p.wp C Q v := by
  obtain ⟨f, rfl, hf⟩ := hp.does
  exact fun s hs => ⟨(h s _ hs (hf s)).1, fun v' hv' => (h s _ hs (hf s)).2 _ v' hv'⟩

instance [Stable C P] {E : σ → σ → Prop} (p : Prog σ α) [Does E p] [Allows C P E] :
    Keeps C P p where
  keeps _ hv := wp_does fun s s' hs hE =>
    have h := Allows.allows s s' (Stable.star hs hv) hE
    ⟨h.1, fun _ _ hv' => Stable.star hv' h.2⟩

instance [Stable C P] (a : α) : Keeps C P (pure a : Prog σ α) where
  keeps _ hv _ hv' := Stable.star hv' hv

instance (p : Prog σ α) (k : α → Prog σ β) [Keeps C P p] [∀ a, Keeps C P (k a)] :
    Keeps C P (p >>= k) where
  keeps v hv := Prog.wp_bind (Prog.wp_mono (fun _ v' hv' => Keeps.keeps v' hv')
    (Keeps.keeps v hv))

instance (c : Prop) [Decidable c] (p q : Prog σ α) [Keeps C P p] [Keeps C P q] :
    Keeps C P (if c then p else q) := by
  split <;> infer_instance

instance [Stable C P] (init : γ) (body : γ → Prog σ (γ ⊕ β)) [∀ x, Keeps C P (body x)] :
    Keeps C P (Prog.iterate init body) where
  keeps _ hv := Prog.wp_iterate (fun _ => P) hv
    (fun _ v' hv' => Prog.wp_mono (fun r _ hr => by cases r <;> exact hr)
      (Keeps.keeps v' hv'))
    (fun _ _ _ hv' h => Stable.star h hv')

instance [Stable C P] (body : Prog σ (Option β)) [Keeps C P body] :
    Keeps C P (Prog.untilSome body) :=
  inferInstanceAs (Keeps C P (Prog.iterate () fun _ =>
    body >>= fun r => (pure (r.elim (.inl ()) .inr) : Prog σ (Unit ⊕ β))))

instance [Stable C P] (body : Prog σ Unit) [Keeps C P body] :
    Keeps C P (Prog.forever body) :=
  inferInstanceAs (Keeps C P (Prog.iterate () fun _ =>
    body >>= fun _ => (pure (.inl ()) : Prog σ (Unit ⊕ Empty))))

namespace Prog.Leads

variable {P' Q Q' R : V → Prop} {p : Prog σ α}

theorem of_keeps [Keeps C P p] : p.Leads C P P := Keeps.keeps

/-- A stronger start and a weaker end. -/
theorem mono (hP : ∀ v, P' v → P v) (hQ : ∀ v, Q v → Q' v) (hp : p.Leads C P Q) :
    p.Leads C P' Q' :=
  fun v hv => Prog.wp_mono (fun _ => hQ) (hp v (hP v hv))

/-- One stage after the other. -/
theorem bind {k : α → Prog σ β} (hp : p.Leads C P R) (hk : ∀ a, (k a).Leads C R Q) :
    (p >>= k).Leads C P Q :=
  fun v hv => Prog.wp_bind (Prog.wp_mono (fun a v' hv' => hk a v' hv') (hp v hv))

/-- Both branches. -/
theorem ite {c : Prop} [Decidable c] {q : Prog σ α} (hp : p.Leads C P Q)
    (hq : q.Leads C P Q) : (if c then p else q).Leads C P Q := by
  split
  · exact hp
  · exact hq

/-- A program of one action. -/
theorem of_does {E : σ → σ → Prop} [Does E p] [Stable C P] [Stable C Q]
    (h : ∀ s s', P (C.view s) → E s s' → C.guarantee s s' ∧ Q (C.view s')) :
    p.Leads C P Q :=
  fun _ hv => wp_does fun s s' hs hE =>
    have hstep := h s s' (Stable.star hs hv) hE
    ⟨hstep.1, fun _ _ hv' => Stable.star hv' hstep.2⟩

/-- A change of the state. -/
theorem of_modify {g : σ → σ} [Stable C P] [Stable C Q]
    (h : ∀ s, P (C.view s) → C.guarantee s (g s) ∧ Q (C.view (g s))) :
    (Prog.modify g).Leads C P Q :=
  fun _ hv s hs =>
    have hstep := h s (Stable.star hs hv)
    ⟨hstep.1, fun _ hv' => Stable.star hv' hstep.2⟩

/-- What is read is the value in some state with the property. -/
theorem read_at {f : σ → β} {k : β → Prog σ α} [Stable C P] (hread : ∀ s, C.guarantee s s)
    (hk : ∀ s, P (C.view s) → (k (f s)).wp C (fun _ => Q) (C.view s)) :
    (Prog.read f >>= k).Leads C P Q :=
  fun _ hv => Prog.wp_read hread fun s hs => hk s (Stable.star hs hv)

/-- What is read is the value in some state with the property, which may be gone by the
time it is used. -/
theorem read_bind {f : σ → β} {k : β → Prog σ α} [Stable C P]
    (hread : ∀ s, C.guarantee s s) (hk : ∀ s, P (C.view s) → (k (f s)).Leads C P Q) :
    (Prog.read f >>= k).Leads C P Q :=
  read_at hread fun s hs => hk s hs _ hs

end Prog.Leads

end Keeps

section Restrict

variable {V : Type}

/-- Surroundings that keep to one thing more. -/
def Contract.restrict (C : Contract σ V) (R : V → V → Prop) : Contract σ V :=
  { C with rely := fun v v' => C.rely v v' ∧ R v v' }

variable {C : Contract σ V} {R : V → V → Prop} {P : V → Prop}

instance [Stable C P] : Stable (C.restrict R) P :=
  ⟨fun v v' hv h => Stable.stable (C := C) v v' hv h.1⟩

/-- Moves of the restricted surroundings are moves of the others. -/
theorem Contract.restrict_star {v v' : V} (h : ReflTransGen (C.restrict R).rely v v') :
    ReflTransGen C.rely v v' :=
  h.lift id fun _ _ hstep => hstep.1

/-- What a program does in spite of its surroundings it does in spite of fewer. -/
theorem Prog.wp_restrict {p : Prog σ α} {Q : α → V → Prop} {v : V} (hp : p.wp C Q v) :
    p.wp (C.restrict R) Q v := by
  induction p generalizing v with
  | done a => exact fun v' hv' => hp v' (Contract.restrict_star hv')
  | act f next ih =>
      intro s hs
      obtain ⟨hstep, hnext⟩ := hp s (Contract.restrict_star hs)
      exact ⟨hstep, ih _ hnext⟩
  | loop body init next ihbody ih =>
      obtain ⟨I, hI, hbody⟩ := hp
      refine ⟨I, hI, ?_⟩
      intro x v' hv'
      refine Prog.wp_mono ?_ (ihbody x (hbody x v' hv'))
      intro r v'' hr
      cases r with
      | inl y => exact hr
      | inr b => exact ih b hr

end Restrict

section Both

variable {V W : Type}

/-- The views of two contracts, side by side. -/
def Contract.both (C : Contract σ V) (D : Contract σ W) : Contract σ (V × W) where
  view s := (C.view s, D.view s)
  rely v v' := C.rely v.1 v'.1 ∧ D.rely v.2 v'.2
  guarantee s s' := C.guarantee s s' ∧ D.guarantee s s'

/-- A property of each view. -/
def Together (P : V → Prop) (Q : W → Prop) (v : V × W) : Prop := P v.1 ∧ Q v.2

variable {C : Contract σ V} {D : Contract σ W} {P : V → Prop} {Q : W → Prop}

instance [Stable C P] [Stable D Q] : Stable (C.both D) (Together P Q) :=
  ⟨fun _ _ hv h => ⟨Stable.stable _ _ hv.1 h.1, Stable.stable _ _ hv.2 h.2⟩⟩

/-- Moves under both contracts are moves under each. -/
theorem Contract.both_star {v v' : V × W} (h : ReflTransGen (C.both D).rely v v') :
    ReflTransGen C.rely v.1 v'.1 ∧ ReflTransGen D.rely v.2 v'.2 :=
  ⟨h.lift Prod.fst fun _ _ hstep => hstep.1, h.lift Prod.snd fun _ _ hstep => hstep.2⟩

/-- What is known of a program under each of two contracts holds under both. -/
theorem Prog.wp_both {p : Prog σ α} {Q : α → V → Prop} {R : α → W → Prop} {v : V × W}
    (hC : p.wp C Q v.1) (hD : p.wp D R v.2) :
    p.wp (C.both D) (fun a v' => Q a v'.1 ∧ R a v'.2) v := by
  induction p generalizing v with
  | done a =>
      intro v' hv'
      obtain ⟨hleft, hright⟩ := Contract.both_star hv'
      exact ⟨hC _ hleft, hD _ hright⟩
  | act f next ih =>
      intro s hs
      obtain ⟨hleft, hright⟩ := Contract.both_star hs
      exact ⟨⟨(hC s hleft).1, (hD s hright).1⟩, ih _ (hC s hleft).2 (hD s hright).2⟩
  | loop body init next ihbody ih =>
      -- the invariants of the two proofs hold together
      obtain ⟨I, hI, hbodyC⟩ := hC
      obtain ⟨J, hJ, hbodyD⟩ := hD
      refine ⟨fun x v' => I x v'.1 ∧ J x v'.2, ⟨hI, hJ⟩, fun x v' hv' => ?_⟩
      refine Prog.wp_mono (fun r v'' hr => ?_)
        (ihbody x (hbodyC x v'.1 hv'.1) (hbodyD x v'.2 hv'.2))
      cases r with
      | inl y => exact hr
      | inr b => exact ih b hr.1 hr.2

/-- Stages under two contracts. -/
theorem Prog.Leads.both {p : Prog σ α} {P' : V → Prop} {Q' : W → Prop}
    (hC : p.Leads C P P') (hD : p.Leads D Q Q') :
    p.Leads (C.both D) (Together P Q) (Together P' Q') :=
  fun _ hv => Prog.wp_both (hC _ hv.1) (hD _ hv.2)

end Both

end Interleave
