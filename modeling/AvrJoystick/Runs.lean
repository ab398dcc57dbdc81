/-!
# Runs of a step function

A system is given by a total function `step : σ → ε → σ` on its states and
events; an event that is not enabled leaves the state as it is.  A run is the
left fold of `step` over a finite list of events.

Two notions are enough for the safety arguments built on top.  `Along` says
that something holds at every step of a run, of the state just before the step
and of its event: it states both what is assumed of an environment and what is
promised of a system.  Two rules read one component off a run: `run_component`
when its next value depends on nothing else of the state, and `run_register`
when every event overwrites it or leaves it alone, so that it holds the last
value written.
-/

namespace Runs

universe u v w

variable {σ : Type u} {ε : Type v} (step : σ → ε → σ)

/-- The state reached from `s` by the events `es`, taken in order. -/
def run (s : σ) (es : List ε) : σ := es.foldl step s

@[simp] theorem run_nil (s : σ) : run step s [] = s := rfl

@[simp] theorem run_cons (s : σ) (e : ε) (es : List ε) :
    run step s (e :: es) = run step (step s e) es := rfl

theorem run_append (s : σ) (before after : List ε) :
    run step s (before ++ after) = run step (run step s before) after := by
  simp [run]

/-- `P` holds at every step of the run: `P s e` speaks about the state `s`
reached just before the event `e` is taken. -/
def Along (P : σ → ε → Prop) : σ → List ε → Prop
  | _, [] => True
  | s, e :: es => P s e ∧ Along P (step s e) es

instance Along.decidable {P : σ → ε → Prop} [∀ s e, Decidable (P s e)] :
    ∀ s es, Decidable (Along step P s es)
  | _, [] => .isTrue trivial
  | s, e :: es =>
      @instDecidableAnd (P s e) (Along step P (step s e) es) inferInstance
        (Along.decidable (step s e) es)

variable {step}

theorem along_append {P : σ → ε → Prop} {s : σ} {before after : List ε} :
    Along step P s (before ++ after) ↔
      Along step P s before ∧ Along step P (run step s before) after := by
  induction before generalizing s with
  | nil => simp [Along]
  | cons e before ih => simp [Along, ih, and_assoc]

/-- An invariant kept by every step holds after every run. -/
theorem run_invariant (Inv : σ → Prop)
    (hstep : ∀ s e, Inv s → Inv (step s e))
    {s : σ} (hs : Inv s) (es : List ε) :
    Inv (run step s es) := by
  induction es generalizing s with
  | nil => exact hs
  | cons e es ih => exact ih (hstep s e hs)

/-- **From an invariant to a promise at every step.**  If guarded steps keep
the invariant and the invariant makes each of them keep the promise `Q`, then
a run whose steps all meet the guard keeps the promise throughout. -/
theorem along_of_invariant (Inv : σ → Prop) {G Q : σ → ε → Prop}
    (hstep : ∀ s e, Inv s → G s e → Inv (step s e))
    (hQ : ∀ s e, Inv s → G s e → Q s e)
    {s : σ} {es : List ε} (hs : Inv s) (hG : Along step G s es) :
    Along step Q s es := by
  induction es generalizing s with
  | nil => trivial
  | cons e es ih =>
      exact ⟨hQ s e hs hG.1, ih (hstep s e hs hG.1) hG.2⟩

section Register

variable {α : Type w}

/-- A component that each step moves by itself makes a run of its own. -/
theorem run_component (get : σ → α) {step' : α → ε → α}
    (hstep : ∀ s e, get (step s e) = step' (get s) e) (s : σ) (es : List ε) :
    get (run step s es) = run step' (get s) es := by
  induction es generalizing s with
  | nil => rfl
  | cons e es ih => rw [run_cons, ih, hstep, run_cons]

/-- **A register holds the last value written to it.**  Every event of the run
either writes a value, which `get` then returns, or keeps `get` as it was. -/
theorem run_register (get : σ → α) (writes : ε → Option α) {es : List ε}
    (hstep : ∀ s, ∀ e ∈ es, get (step s e) = (writes e).getD (get s)) (s : σ) :
    get (run step s es) = (es.filterMap writes).getLast?.getD (get s) := by
  induction es generalizing s with
  | nil => rfl
  | cons e es ih =>
      have hhead := hstep s e List.mem_cons_self
      have htail := ih (fun t e' he' => hstep t e' (List.mem_cons_of_mem _ he'))
        (step s e)
      rw [run_cons, htail, hhead]
      cases hw : writes e with
      | none => simp [List.filterMap_cons_none hw]
      | some a => simp [List.filterMap_cons_some hw, List.getLast?_cons]

end Register

end Runs
