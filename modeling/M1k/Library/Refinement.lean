import M1k.Library.Runs

/-! # One machine seen as another

A machine refines another through a view of its state when each of its steps is, in that view, what
the other machine does on the events that the step stands for.  Then each of its runs is one of the
other's, and what holds of all of those holds of the view at every moment. -/

namespace M1k.Library.Runs

variable {σ τ ρ ε δ γ : Type*}

/-- Each step of a state that meets `invariant` is what `target` does on the events of `means`. -/
structure Refines (step : σ → ε → σ) (target : τ → δ → τ) (invariant : σ → Prop) (view : σ → τ)
    (means : σ → ε → List δ) : Prop where
  keeps : ∀ s e, invariant s → invariant (step s e)
  agrees : ∀ s e, invariant s → view (step s e) = run target (view s) (means s e)

/-- The events that a run stands for -/
def translate (step : σ → ε → σ) (means : σ → ε → List δ) : σ → List ε → List δ
  | _, [] => []
  | s, e :: es => means s e ++ translate step means (step s e) es

@[simp] theorem translate_nil (step : σ → ε → σ) (means : σ → ε → List δ) (s : σ) :
    translate step means s [] = [] := rfl

@[simp] theorem translate_cons (step : σ → ε → σ) (means : σ → ε → List δ) (s : σ) (e : ε)
    (es : List ε) :
    translate step means s (e :: es) = means s e ++ translate step means (step s e) es := rfl

/-- A machine that takes every event of a run as another one does stands for the same events. -/
theorem translate_congr {step step' : σ → ε → σ} {means : σ → ε → List δ} {s : σ} {es : List ε}
    (same : Throughout step (fun s e => step' s e = step s e) s es) :
    translate step' means s es = translate step means s es := by
  induction es generalizing s with
  | nil => rfl
  | cons e es inductionHypothesis =>
    rw [throughout_cons] at same
    rw [translate_cons, translate_cons, same.1, inductionHypothesis same.2]

section Refines

variable {step : σ → ε → σ} {target : τ → δ → τ} {invariant : σ → Prop} {view : σ → τ}
  {means : σ → ε → List δ} (refines : Refines step target invariant view means)

include refines

theorem Refines.invariant_run {s : σ} (start : invariant s) (es : List ε) :
    invariant (run step s es) := by
  induction es generalizing s with
  | nil => exact start
  | cons e es inductionHypothesis => exact inductionHypothesis (refines.keeps s e start)

/-- A run is, in the view, the run of the events that it stands for. -/
theorem Refines.run {s : σ} (start : invariant s) (es : List ε) :
    view (run step s es) = Runs.run target (view s) (translate step means s es) := by
  induction es generalizing s with
  | nil => rfl
  | cons e es inductionHypothesis =>
    rw [run_cons, translate_cons, run_append, ← refines.agrees s e start]
    exact inductionHypothesis (refines.keeps s e start)

/-- Every event meets a condition exactly when what it stands for does. -/
theorem Refines.throughout {C : σ → ε → Prop} {C' : τ → δ → Prop}
    (same : ∀ s e, invariant s → (C s e ↔ Throughout target C' (view s) (means s e))) {s : σ}
    (start : invariant s) (es : List ε) :
    Throughout step C s es ↔ Throughout target C' (view s) (translate step means s es) := by
  induction es generalizing s with
  | nil => simp
  | cons e es inductionHypothesis =>
    rw [throughout_cons, translate_cons, throughout_append, ← refines.agrees s e start,
      same s e start, inductionHypothesis (refines.keeps s e start)]

end Refines

/-! ## Related states -/

/-- From related states, each allowed step of the one machine leads to what is related to where the
    events that it stands for lead the other. -/
structure Simulates (step : σ → ε → σ) (target : τ → δ → τ) (related : σ → τ → Prop)
    (allowed : σ → ε → Prop) (means : σ → ε → List δ) : Prop where
  agrees : ∀ s t e, related s t → allowed s e → related (step s e) (run target t (means s e))

/-- A run of allowed steps ends in a state that is related to that of the run it stands for. -/
theorem Simulates.run {step : σ → ε → σ} {target : τ → δ → τ} {related : σ → τ → Prop}
    {allowed : σ → ε → Prop} {means : σ → ε → List δ}
    (simulates : Simulates step target related allowed means) {s : σ} {t : τ} (start : related s t)
    {es : List ε} (within : Throughout step allowed s es) :
    related (Runs.run step s es) (Runs.run target t (translate step means s es)) := by
  induction es generalizing s t with
  | nil => exact start
  | cons e es inductionHypothesis =>
    rw [throughout_cons] at within
    rw [run_cons, translate_cons, run_append]
    exact inductionHypothesis (simulates.agrees s t e start within.1) within.2

/-! ## Machines that are started over -/

/-- The machine with one more event, which starts it over -/
def restartable (step : σ → ε → σ) (start : σ) (s : σ) : Option ε → σ
  | some e => step s e
  | none => start

theorem run_restartable_some (step : σ → ε → σ) (start s : σ) (es : List ε) :
    run (restartable step start) s (es.map some) = run step s es := by
  induction es generalizing s with
  | nil => rfl
  | cons e es inductionHypothesis => exact inductionHypothesis (step s e)

/-- The events since the last start -/
def sinceStart : List (Option ε) → List ε → List ε
  | [], since => since
  | some e :: es, since => sinceStart es (since ++ [e])
  | none :: es, _ => sinceStart es []

/-- Where the machine has been started over, only what came after counts. -/
theorem run_restartable (step : σ → ε → σ) (start : σ) (es : List (Option ε)) (since : List ε) :
    run (restartable step start) (run step start since) es = run step start (sinceStart es since) := by
  induction es generalizing since with
  | nil => rfl
  | cons e es inductionHypothesis =>
    cases e with
    | some e =>
      have later := inductionHypothesis (since ++ [e])
      rw [run_concat] at later
      exact later
    | none => exact inductionHypothesis []

end M1k.Library.Runs
