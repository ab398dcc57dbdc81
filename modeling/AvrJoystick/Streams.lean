import AvrJoystick.Runs
import Mathlib.Data.List.Basic

/-!
# Events on independent streams

The surroundings of a program act on its state through events of several
streams.  Events of one stream keep their order.  Events of different streams
act on different things, so it does not matter which of them comes first: two
histories that agree on every stream are the same history.

A program that runs meanwhile looks at each stream at a moment of its own.  A
`Stage` of it says for which streams that moment is over.  Events of such a
stream can be taken to happen after the program, all others before it, so that
the program as a whole happens at one moment between them.
-/

namespace Streams

variable {σ ε κ β : Type}

/-- Events that act on a state, each on its stream. -/
structure System (σ ε κ : Type) where
  next : σ → ε → σ
  stream : ε → κ
  commute : ∀ s e e', stream e ≠ stream e' → next (next s e) e' = next (next s e') e

namespace System

variable {S : System σ ε κ}

/-- The state reached by a history. -/
abbrev run (S : System σ ε κ) (s : σ) (h : List ε) : σ := Runs.run S.next s h

/-- One history after another. -/
theorem run_append (s : σ) (before after : List ε) :
    S.run s (before ++ after) = S.run (S.run s before) after :=
  Runs.run_append S.next s before after

/-- An event may be moved to the front of events of other streams. -/
theorem run_move {l : List ε} {e : ε} (hother : ∀ e' ∈ l, S.stream e' ≠ S.stream e) (s : σ) :
    S.next (S.run s l) e = S.run (S.next s e) l := by
  induction l generalizing s with
  | nil => rfl
  | cons e' l ih =>
      have hne : S.stream e' ≠ S.stream e := hother e' List.mem_cons_self
      have hrest := ih (fun e'' he'' => hother e'' (List.mem_cons_of_mem _ he'')) (S.next s e')
      calc S.next (S.run s (e' :: l)) e
          = S.run (S.next (S.next s e') e) l := hrest
        _ = S.run (S.next (S.next s e) e') l := by rw [S.commute s e' e hne]

/-- What no event of the history changes. -/
theorem run_observe {l : List ε} (o : σ → β) (ho : ∀ e ∈ l, ∀ s, o (S.next s e) = o s) (s : σ) :
    o (S.run s l) = o s := by
  induction l generalizing s with
  | nil => rfl
  | cons e l ih =>
      exact (ih (fun e' he' => ho e' (List.mem_cons_of_mem _ he')) _).trans
        (ho e List.mem_cons_self s)

/-- A change of the state that no event of the history interferes with. -/
theorem run_act {l : List ε} (g : σ → σ)
    (hg : ∀ e ∈ l, ∀ s, g (S.next s e) = S.next (g s) e) (s : σ) :
    g (S.run s l) = S.run (g s) l := by
  induction l generalizing s with
  | nil => rfl
  | cons e l ih =>
      have hrest := ih (fun e' he' => hg e' (List.mem_cons_of_mem _ he')) (S.next s e)
      rw [hg e List.mem_cons_self] at hrest
      exact hrest

variable [DecidableEq κ]

/-- The histories agree on every stream. -/
def Same (S : System σ ε κ) (h h' : List ε) : Prop :=
  ∀ k, h.filter (fun e => S.stream e = k) = h'.filter (fun e => S.stream e = k)

/-- Every history is the same as itself. -/
theorem Same.refl (h : List ε) : S.Same h h := fun _ => rfl

/-- Histories that are the same as a third. -/
theorem Same.trans {h h' h'' : List ε} (hsame : S.Same h h') (hsame' : S.Same h' h'') :
    S.Same h h'' :=
  fun k => (hsame k).trans (hsame' k)

/-- Histories one after the other. -/
theorem Same.append {h h' l l' : List ε} (hsame : S.Same h h') (hsame' : S.Same l l') :
    S.Same (h ++ l) (h' ++ l') := by
  intro k
  rw [List.filter_append, List.filter_append, hsame k, hsame' k]

/-- Moving an event past those of other streams gives the same history. -/
theorem same_move {l : List ε} {e : ε} (hother : ∀ e' ∈ l, S.stream e' ≠ S.stream e) :
    S.Same (l ++ [e]) (e :: l) := by
  intro k
  rw [List.filter_append]
  by_cases hk : S.stream e = k
  · have hnone : l.filter (fun e' => S.stream e' = k) = [] := by
      rw [List.filter_eq_nil_iff]
      intro e' he'
      simpa [← hk] using hother e' he'
    simp [hnone, hk]
  · simp [hk]

/-- How far a program has come.  Of the streams in `later` it has seen what it
wants to see.  `holds` is what it has found out about the state, and `effect`
what it has done to it; the other streams do not interfere with either. -/
structure Stage (S : System σ ε κ) where
  later : κ → Prop
  holds : σ → Prop
  effect : σ → σ
  keeps : ∀ e s, ¬ later (S.stream e) → holds s → holds (S.next s e)
  commutes : ∀ e s, ¬ later (S.stream e) → holds s → effect (S.next s e) = S.next (effect s) e

/-- The program is at the stage: the history `h` since `start`, put in order,
has led to a state in which the program acts, and on from there to `s`. -/
def Stage.At (T : S.Stage) (start : σ) (h : List ε) (s : σ) : Prop :=
  ∃ before after, S.Same h (before ++ after) ∧ (∀ e ∈ after, T.later (S.stream e)) ∧
    T.holds (S.run start before) ∧ s = S.run (T.effect (S.run start before)) after

variable {T T' : S.Stage} {start s : σ} {h : List ε}

/-- Nothing has been done yet. -/
theorem Stage.At.begin (hholds : ∀ s, T.holds s) (heffect : ∀ s, T.effect s = s) :
    T.At start [] start :=
  ⟨[], [], Same.refl _, nofun, hholds _, (heffect start).symm⟩

/-- An event goes to the front or to the back. -/
theorem Stage.At.event (hT : T.At start h s) (e : ε) : T.At start (h ++ [e]) (S.next s e) := by
  obtain ⟨before, after, hsame, hlater, hholds, rfl⟩ := hT
  by_cases he : T.later (S.stream e)
  · refine ⟨before, after ++ [e], ?_, ?_, hholds, ?_⟩
    · rw [← List.append_assoc]
      exact hsame.append (Same.refl _)
    · intro e' he'
      rcases List.mem_append.mp he' with hmem | hmem
      · exact hlater e' hmem
      · exact List.mem_singleton.mp hmem ▸ he
    · exact (run_append _ after [e]).symm
  · have hother : ∀ e' ∈ after, S.stream e' ≠ S.stream e :=
      fun e' he' heq => he (heq ▸ hlater e' he')
    have hbefore : S.run start (before ++ [e]) = S.next (S.run start before) e :=
      run_append _ before [e]
    refine ⟨before ++ [e], after, ?_, hlater, ?_, ?_⟩
    · refine (hsame.append (Same.refl [e])).trans ?_
      rw [List.append_assoc, List.append_assoc]
      exact (Same.refl before).append (same_move hother)
    · rw [hbefore]
      exact T.keeps e _ he hholds
    · rw [hbefore, T.commutes e _ he hholds, run_move hother]

/-- Events do not end a stage. -/
theorem Stage.At.events (hT : T.At start h s) (l : List ε) :
    T.At start (h ++ l) (S.run s l) := by
  induction l generalizing h s with
  | nil => rwa [List.append_nil]
  | cons e l ih =>
      have hrest := ih (hT.event e)
      rwa [List.append_assoc] at hrest

/-- The program changes the state. -/
theorem Stage.At.act (hT : T.At start h s) (g : σ → σ)
    (hg : ∀ e s, T.later (S.stream e) → g (S.next s e) = S.next (g s) e)
    (hlater : ∀ k, T.later k → T'.later k) (hholds : ∀ s, T.holds s → T'.holds s)
    (heffect : ∀ s, T.holds s → T'.effect s = g (T.effect s)) : T'.At start h (g s) := by
  obtain ⟨before, after, hsame, hafter, hbefore, rfl⟩ := hT
  refine ⟨before, after, hsame, fun e he => hlater _ (hafter e he), hholds _ hbefore, ?_⟩
  rw [heffect _ hbefore]
  exact run_act g (fun e he s => hg e s (hafter e he)) _

/-- What the program sees of a state that only later events have changed since. -/
theorem Stage.At.seen (hT : T.At start h s) (o : σ → β)
    (ho : ∀ e s, T.later (S.stream e) → o (S.next s e) = o s) :
    ∃ x, T.holds x ∧ o s = o (T.effect x) := by
  obtain ⟨before, after, _, hafter, hbefore, rfl⟩ := hT
  exact ⟨_, hbefore, run_observe o (fun e he s => ho e s (hafter e he)) _⟩

/-- The program looks at the state. -/
theorem Stage.At.look (hT : T.At start h s) (o : σ → β)
    (ho : ∀ e s, T.later (S.stream e) → o (S.next s e) = o s)
    (hlater : ∀ k, T.later k → T'.later k)
    (hlook : ∀ x, T.holds x → o s = o (T.effect x) → T'.holds x ∧ T'.effect x = T.effect x) :
    T'.At start h s := by
  obtain ⟨before, after, hsame, hafter, hbefore, rfl⟩ := hT
  have hseen :
      o (S.run (T.effect (S.run start before)) after) = o (T.effect (S.run start before)) :=
    run_observe o (fun e he s => ho e s (hafter e he)) _
  obtain ⟨hholds, heffect⟩ := hlook _ hbefore hseen
  exact ⟨before, after, hsame, fun e he => hlater _ (hafter e he), hholds, by rw [heffect]⟩

end System

end Streams
