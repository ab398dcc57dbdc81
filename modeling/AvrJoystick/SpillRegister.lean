import AvrJoystick.Runs

/-!
# A cell that is written by accident

An event overwrites a cell, updates it in place, or is meant to leave it alone.
In the last case a faulty implementation may spill: it stores a value of its
own.  The run that was intended and the actual run are compared here.

An overwrite makes the two agree whatever happened before it, and an injective
update neither mends a difference nor makes one.  So only the last spill can
show at the end, and it does unless an overwrite follows it or the value it
stored is the one that the cell should have had anyway
(`run_actual_eq_run_intended_iff`).
-/

namespace SpillRegister

open Runs

universe u v

/-- What an event does to the cell. -/
inductive Op (α : Type u)
  | overwrite (a : α)
  | update (f : α → α) (injective : Function.Injective f)
  | spill (a : α)

variable {α : Type u} {ε : Type v} (op : ε → Op α)

/-- The cell as it should be: a spill was meant to leave it alone. -/
def intended (x : α) (e : ε) : α :=
  match op e with
  | .overwrite a => a
  | .update f _ => f x
  | .spill _ => x

/-- The cell as it is. -/
def actual (x : α) (e : ε) : α :=
  match op e with
  | .overwrite a => a
  | .update f _ => f x
  | .spill a => a

variable {op}

theorem actual_of_no_spill {e : ε} (he : ∀ a, op e ≠ .spill a) (x : α) :
    actual op x e = intended op x e := by
  cases hop : op e with
  | overwrite a => simp [actual, intended, hop]
  | update f hf => simp [actual, intended, hop]
  | spill a => exact absurd hop (he a)

theorem run_actual_of_no_spill {es : List ε} (hes : ∀ e ∈ es, ∀ a, op e ≠ .spill a)
    (x : α) : run (actual op) x es = run (intended op) x es := by
  induction es generalizing x with
  | nil => rfl
  | cons e es ih =>
      obtain ⟨he, hrest⟩ := List.forall_mem_cons.mp hes
      rw [run_cons, run_cons, actual_of_no_spill he]
      exact ih hrest (intended op x e)

/-- Two intended runs of the same events meet exactly when one of the events
overwrites the cell, unless they never differed. -/
theorem run_intended_eq_iff (es : List ε) (x y : α) :
    run (intended op) x es = run (intended op) y es ↔
      (∃ e ∈ es, ∃ a, op e = .overwrite a) ∨ x = y := by
  induction es generalizing x y with
  | nil => simp
  | cons e es ih =>
      rw [run_cons, run_cons, ih]
      cases hop : op e with
      | overwrite a => simp [intended, hop]
      | update f hf => simp [intended, hop, hf.eq_iff]
      | spill a => simp [intended, hop]

/-- The last spill of a run that has one. -/
theorem exists_last_spill {es : List ε} (h : ∃ e ∈ es, ∃ a, op e = .spill a) :
    ∃ before e after a, es = before ++ e :: after ∧ op e = .spill a ∧
      ∀ e' ∈ after, ∀ b, op e' ≠ .spill b := by
  induction es with
  | nil => simp at h
  | cons e es ih =>
      by_cases hrest : ∃ e' ∈ es, ∃ a, op e' = .spill a
      · obtain ⟨before, e', after, a, hes, hop, hafter⟩ := ih hrest
        exact ⟨e :: before, e', after, a, by rw [hes, List.cons_append], hop, hafter⟩
      · obtain ⟨e', he', a, hop⟩ := h
        rcases List.mem_cons.mp he' with rfl | he'
        · exact ⟨[], e', es, a, rfl, hop, fun e he b hb => hrest ⟨e, he, b, hb⟩⟩
        · exact absurd ⟨e', he', a, hop⟩ hrest

theorem run_actual_eq_iff_of_last_spill {before after : List ε} {e : ε} {a : α}
    (hop : op e = .spill a) (hafter : ∀ e' ∈ after, ∀ b, op e' ≠ .spill b) (x : α) :
    run (actual op) x (before ++ e :: after) =
        run (intended op) x (before ++ e :: after) ↔
      (∃ e' ∈ after, ∃ b, op e' = .overwrite b) ∨ a = run (intended op) x before := by
  have hactual : run (actual op) x (before ++ e :: after) =
      run (intended op) a after := by
    rw [run_append, run_cons, actual, hop]
    exact run_actual_of_no_spill hafter a
  have hintended : run (intended op) x (before ++ e :: after) =
      run (intended op) (run (intended op) x before) after := by
    rw [run_append, run_cons, intended, hop]
  rw [hactual, hintended, run_intended_eq_iff]

/-- **When a spill shows.**  The cell ends as intended exactly when the last
spill, if there is one, was overwritten later or stored the right value. -/
theorem run_actual_eq_run_intended_iff (es : List ε) (x : α) :
    run (actual op) x es = run (intended op) x es ↔
      ∀ before e after a, es = before ++ e :: after → op e = .spill a →
        (∀ e' ∈ after, ∀ b, op e' ≠ .spill b) →
          (∃ e' ∈ after, ∃ b, op e' = .overwrite b) ∨
            a = run (intended op) x before := by
  constructor
  · rintro heq before e after a rfl hop hafter
    exact (run_actual_eq_iff_of_last_spill hop hafter x).mp heq
  · intro h
    by_cases hspill : ∃ e ∈ es, ∃ a, op e = .spill a
    · obtain ⟨before, e, after, a, rfl, hop, hafter⟩ := exists_last_spill hspill
      exact (run_actual_eq_iff_of_last_spill hop hafter x).mpr
        (h before e after a rfl hop hafter)
    · exact run_actual_of_no_spill (fun e he a ha => hspill ⟨e, he, a, ha⟩) x

end SpillRegister
