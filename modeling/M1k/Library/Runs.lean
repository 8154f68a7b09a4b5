import Mathlib.Data.List.Infix

/-! # Runs of an event-driven machine

A machine is a step function `σ → ε → σ`: the event decides which agent moves.
A run is the list of its events, so every interleaving of the agents is one list.
`Always` says what holds at every moment of a run, `Throughout` what every event
of a run meets when it happens; the rules below carry a step lemma to whole runs. -/

namespace M1k.Library.Runs

variable {σ ε : Type*}

/-- The state reached after the events of a run. -/
def run (step : σ → ε → σ) : σ → List ε → σ := List.foldl step

@[simp] theorem run_nil (step : σ → ε → σ) (state : σ) : run step state [] = state := rfl

@[simp] theorem run_cons (step : σ → ε → σ) (state : σ) (event : ε) (events : List ε) :
    run step state (event :: events) = run step (step state event) events := rfl

theorem run_append (step : σ → ε → σ) (state : σ) (first second : List ε) :
    run step state (first ++ second) = run step (run step state first) second :=
  List.foldl_append

theorem run_concat (step : σ → ε → σ) (state : σ) (events : List ε) (event : ε) :
    run step state (events ++ [event]) = step (run step state events) event := by
  rw [run_append]; rfl

/-- `P` holds at every moment of the run, the first and the last included. -/
def Always (step : σ → ε → σ) (P : σ → Prop) (state : σ) (events : List ε) : Prop :=
  ∀ done, done <+: events → P (run step state done)

/-- Every event of the run meets `C` in the state in which it happens. -/
def Throughout (step : σ → ε → σ) (C : σ → ε → Prop) (state : σ) (events : List ε) : Prop :=
  ∀ done event, done ++ [event] <+: events → C (run step state done) event

theorem Always.last {step : σ → ε → σ} {P : σ → Prop} {state : σ} {events : List ε}
    (always : Always step P state events) : P (run step state events) :=
  always events (List.prefix_refl events)

theorem Always.first {step : σ → ε → σ} {P : σ → Prop} {state : σ} {events : List ε}
    (always : Always step P state events) : P state :=
  always [] (List.nil_prefix)

theorem Always.mono {step : σ → ε → σ} {P Q : σ → Prop} {state : σ} {events : List ε}
    (always : Always step P state events) (weaker : ∀ s, P s → Q s) : Always step Q state events :=
  fun done isPrefix => weaker _ (always done isPrefix)

@[simp] theorem always_nil (step : σ → ε → σ) (P : σ → Prop) (state : σ) :
    Always step P state [] ↔ P state := by
  simp [Always]

@[simp] theorem throughout_nil (step : σ → ε → σ) (C : σ → ε → Prop) (state : σ) :
    Throughout step C state [] := by
  intro done event isPrefix
  simp at isPrefix

theorem always_cons (step : σ → ε → σ) (P : σ → Prop) (state : σ) (event : ε) (events : List ε) :
    Always step P state (event :: events) ↔ P state ∧ Always step P (step state event) events := by
  constructor
  · intro always
    refine ⟨always.first, fun done isPrefix => ?_⟩
    exact always (event :: done) (List.cons_prefix_cons.mpr ⟨rfl, isPrefix⟩)
  · rintro ⟨now, later⟩ done isPrefix
    cases done with
    | nil => exact now
    | cons head tail =>
      obtain ⟨rfl, tailPrefix⟩ := List.cons_prefix_cons.mp isPrefix
      exact later tail tailPrefix

theorem throughout_cons (step : σ → ε → σ) (C : σ → ε → Prop) (state : σ) (event : ε)
    (events : List ε) :
    Throughout step C state (event :: events) ↔
      C state event ∧ Throughout step C (step state event) events := by
  constructor
  · intro meets
    refine ⟨meets [] event (by simp), fun done next isPrefix => ?_⟩
    exact meets (event :: done) next (List.cons_prefix_cons.mpr ⟨rfl, isPrefix⟩)
  · rintro ⟨now, later⟩ done next isPrefix
    cases done with
    | nil =>
      obtain ⟨rfl, -⟩ := List.cons_prefix_cons.mp isPrefix
      exact now
    | cons head tail =>
      obtain ⟨rfl, tailPrefix⟩ := List.cons_prefix_cons.mp isPrefix
      exact later tail next tailPrefix

theorem always_append (step : σ → ε → σ) (P : σ → Prop) (state : σ) (first second : List ε) :
    Always step P state (first ++ second) ↔
      Always step P state first ∧ Always step P (run step state first) second := by
  induction first generalizing state with
  | nil =>
    rw [List.nil_append, run_nil, always_nil]
    exact ⟨fun always => ⟨always.first, always⟩, fun both => both.2⟩
  | cons event first inductionHypothesis =>
    rw [List.cons_append, always_cons, always_cons, run_cons, inductionHypothesis, and_assoc]

theorem throughout_append (step : σ → ε → σ) (C : σ → ε → Prop) (state : σ) (first second : List ε) :
    Throughout step C state (first ++ second) ↔
      Throughout step C state first ∧ Throughout step C (run step state first) second := by
  induction first generalizing state with
  | nil =>
    rw [List.nil_append, run_nil]
    exact (and_iff_right (throughout_nil step C state)).symm
  | cons event first inductionHypothesis =>
    rw [List.cons_append, throughout_cons, throughout_cons, run_cons, inductionHypothesis, and_assoc]

/-- The invariant rule: what holds at the start and is kept by every step that meets `C`
    holds at every moment of a run whose steps all meet `C`. -/
theorem always_of_step {step : σ → ε → σ} {P : σ → Prop} {C : σ → ε → Prop}
    (keeps : ∀ s e, P s → C s e → P (step s e)) {state : σ} {events : List ε}
    (start : P state) (meets : Throughout step C state events) : Always step P state events := by
  induction events generalizing state with
  | nil => simpa using start
  | cons event events inductionHypothesis =>
    rw [throughout_cons] at meets
    rw [always_cons]
    exact ⟨start, inductionHypothesis (keeps state event start meets.1) meets.2⟩

/-- The invariant rule for a condition on the events alone. -/
theorem always_of_events {step : σ → ε → σ} {P : σ → Prop} {C : ε → Prop}
    (keeps : ∀ s e, P s → C e → P (step s e)) {state : σ} {events : List ε}
    (start : P state) (meets : ∀ event ∈ events, C event) : Always step P state events := by
  refine always_of_step (C := fun _ event => C event) keeps start ?_
  intro done event isPrefix
  exact meets event (isPrefix.subset (by simp))

/-- The exact rule: in a run whose steps all meet `D`, under an invariant `I` of such steps, when one
    of them keeps `P` exactly if it meets `C`, the run keeps `P` at every moment exactly if all of
    its steps meet `C`. -/
theorem always_iff_throughout_within {step : σ → ε → σ} {I P : σ → Prop} {C D : σ → ε → Prop}
    (invariant : ∀ s e, I s → D s e → I (step s e))
    (exact : ∀ s e, I s → P s → D s e → (P (step s e) ↔ C s e))
    {state : σ} {events : List ε} (start : I state) (holds : P state)
    (within : Throughout step D state events) :
    Always step P state events ↔ Throughout step C state events := by
  induction events generalizing state with
  | nil => simp [holds]
  | cons event events inductionHypothesis =>
    rw [throughout_cons] at within
    rw [always_cons, throughout_cons]
    have now := exact state event start holds within.1
    have next := invariant state event start within.1
    constructor
    · rintro ⟨-, later⟩
      have kept : P (step state event) := later.first
      exact ⟨now.mp kept, (inductionHypothesis next kept within.2).mp later⟩
    · rintro ⟨met, later⟩
      have kept : P (step state event) := now.mpr met
      exact ⟨holds, (inductionHypothesis next kept within.2).mpr later⟩

/-- The exact rule for runs of any steps. -/
theorem always_iff_throughout {step : σ → ε → σ} {I P : σ → Prop} {C : σ → ε → Prop}
    (invariant : ∀ s e, I s → I (step s e))
    (exact : ∀ s e, I s → P s → (P (step s e) ↔ C s e))
    {state : σ} {events : List ε} (start : I state) (holds : P state) :
    Always step P state events ↔ Throughout step C state events :=
  always_iff_throughout_within (D := fun _ _ => True) (fun s e inv _ => invariant s e inv)
    (fun s e inv now _ => exact s e inv now) start holds fun _ _ _ => trivial

/-! ## Machines that agree -/

section Agree

variable {step step' : σ → ε → σ} {state : σ} {events : List ε}

/-- A machine that takes every event of a run as another one does runs as that one. -/
theorem run_congr (same : Throughout step (fun s e => step' s e = step s e) state events) :
    run step' state events = run step state events := by
  induction events generalizing state with
  | nil => rfl
  | cons event events inductionHypothesis =>
    rw [throughout_cons] at same
    rw [run_cons, run_cons, same.1]
    exact inductionHypothesis same.2

theorem always_congr (P : σ → Prop)
    (same : Throughout step (fun s e => step' s e = step s e) state events) :
    Always step' P state events ↔ Always step P state events := by
  induction events generalizing state with
  | nil => rw [always_nil, always_nil]
  | cons event events inductionHypothesis =>
    rw [throughout_cons] at same
    rw [always_cons, always_cons, same.1, inductionHypothesis same.2]

theorem throughout_congr (C : σ → ε → Prop)
    (same : Throughout step (fun s e => step' s e = step s e) state events) :
    Throughout step' C state events ↔ Throughout step C state events := by
  induction events generalizing state with
  | nil => simp
  | cons event events inductionHypothesis =>
    rw [throughout_cons] at same
    rw [throughout_cons, throughout_cons, same.1, inductionHypothesis same.2]

end Agree

/-! ## Checking a run -/

section Decide

variable {step : σ → ε → σ}

instance decidableAlways {P : σ → Prop} [DecidablePred P] :
    ∀ state events, Decidable (Always step P state events)
  | state, [] => decidable_of_iff (P state) (always_nil step P state).symm
  | state, event :: events =>
    have := decidableAlways (P := P) (step state event) events
    decidable_of_iff _ (always_cons step P state event events).symm

instance decidableThroughout {C : σ → ε → Prop} [∀ s e, Decidable (C s e)] :
    ∀ state events, Decidable (Throughout step C state events)
  | state, [] => .isTrue (throughout_nil step C state)
  | state, event :: events =>
    have := decidableThroughout (C := C) (step state event) events
    decidable_of_iff _ (throughout_cons step C state event events).symm

end Decide

end M1k.Library.Runs
