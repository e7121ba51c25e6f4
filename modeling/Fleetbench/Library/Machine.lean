/-
This file is about machines that take inputs one after the other and answer
each, or stop. Two of them give the same answers if a relation between their
states is kept by every input that the run allows.
-/

import Mathlib.Tactic.Common

namespace Fleetbench.Library

variable {State Other Input Output : Type*}

/-! ### Runs -/

/-- The answers to some inputs, and the state behind them. -/
def runAll (step : State → Input → Option (Output × State)) (state : State) :
    List Input → Option (List Output × State)
  | [] => some ([], state)
  | input :: inputs =>
    (step state input).bind fun (output, next) =>
      (runAll step next inputs).map fun (outputs, last) => (output :: outputs, last)

/-- Every input of a run is allowed in the state that it meets. -/
def Throughout (step : State → Input → Option (Output × State))
    (allowed : State → Input → Prop) (state : State) : List Input → Prop
  | [] => True
  | input :: inputs =>
    allowed state input ∧ ∀ output next, step state input = some (output, next) →
      Throughout step allowed next inputs

section Runs

variable {step : State → Input → Option (Output × State)} {allowed : State → Input → Prop}

theorem runAll_cons_eq_some {state last : State} {input : Input} {inputs : List Input}
    {answers : List Output} :
    runAll step state (input :: inputs) = some (answers, last) ↔
      ∃ output next outputs, step state input = some (output, next) ∧
        runAll step next inputs = some (outputs, last) ∧ answers = output :: outputs := by
  rw [runAll, Option.bind_eq_some_iff]
  constructor
  · rintro ⟨⟨output, next⟩, stepped, rest⟩
    obtain ⟨⟨outputs, _⟩, ran, same⟩ := Option.map_eq_some_iff.mp rest
    cases same
    exact ⟨output, next, outputs, stepped, ran, rfl⟩
  · rintro ⟨output, next, outputs, stepped, ran, rfl⟩
    exact ⟨(output, next), stepped, congrArg (Option.map _) ran⟩

theorem runAll_concat {state last : State} {inputs : List Input} {input : Input}
    {answers : List Output} (ran : runAll step state (inputs ++ [input]) = some (answers, last)) :
    ∃ outputs between output, runAll step state inputs = some (outputs, between) ∧
      step between input = some (output, last) := by
  induction inputs generalizing state answers with
  | nil =>
    obtain ⟨output, next, outputs, stepped, rest, -⟩ := runAll_cons_eq_some.mp ran
    cases rest
    exact ⟨[], state, output, rfl, stepped⟩
  | cons first inputs inductionHypothesis =>
    obtain ⟨output, next, outputs, stepped, rest, -⟩ := runAll_cons_eq_some.mp ran
    obtain ⟨outputs', between, output', before, last⟩ := inductionHypothesis rest
    exact ⟨output :: outputs', between, output',
      runAll_cons_eq_some.mpr ⟨output, next, outputs', stepped, before, rfl⟩, last⟩

theorem runAll_invariant {invariant : State → Prop}
    (kept : ∀ state input output next, invariant state → allowed state input →
      step state input = some (output, next) → invariant next)
    {state last : State} {inputs : List Input} {answers : List Output} (holds : invariant state)
    (throughout : Throughout step allowed state inputs)
    (ran : runAll step state inputs = some (answers, last)) : invariant last := by
  induction inputs generalizing state answers with
  | nil =>
    cases ran
    exact holds
  | cons input inputs inductionHypothesis =>
    obtain ⟨output, next, outputs, stepped, rest, -⟩ := runAll_cons_eq_some.mp ran
    exact inductionHypothesis (kept _ _ _ _ holds throughout.1 stepped)
      (throughout.2 _ _ stepped) rest

theorem throughout_of_forall {state : State} {inputs : List Input}
    (allows : ∀ state, ∀ input ∈ inputs, allowed state input) :
    Throughout step allowed state inputs := by
  induction inputs generalizing state with
  | nil => trivial
  | cons first inputs inductionHypothesis =>
    exact ⟨allows state first List.mem_cons_self, fun _ _ _ =>
      inductionHypothesis fun state input member =>
        allows state input (List.mem_cons_of_mem first member)⟩

theorem throughout_concat {state : State} {inputs : List Input} {input : Input} :
    Throughout step allowed state (inputs ++ [input]) ↔
      Throughout step allowed state inputs ∧
        ∀ answers last, runAll step state inputs = some (answers, last) → allowed last input := by
  induction inputs generalizing state with
  | nil =>
    refine ⟨fun throughout => ⟨trivial, ?_⟩,
      fun last => ⟨last.2 [] state rfl, fun _ _ _ => trivial⟩⟩
    rintro answers last ran
    cases ran
    exact throughout.1
  | cons first inputs inductionHypothesis =>
    constructor
    · rintro ⟨allows, later⟩
      refine ⟨⟨allows, fun output next stepped =>
        (inductionHypothesis.mp (later output next stepped)).1⟩, fun answers last ran => ?_⟩
      obtain ⟨output, next, outputs, stepped, rest, -⟩ := runAll_cons_eq_some.mp ran
      exact (inductionHypothesis.mp (later output next stepped)).2 _ _ rest
    · rintro ⟨⟨allows, later⟩, last⟩
      refine ⟨allows, fun output next stepped =>
        inductionHypothesis.mpr ⟨later output next stepped, fun answers state' rest => ?_⟩⟩
      exact last _ state' (runAll_cons_eq_some.mpr ⟨output, next, answers, stepped, rest, rfl⟩)

end Runs

/-! ### Two machines -/

/-- Two steps give the same output and lead to related states, or neither goes on. -/
def SameStep (related : State → Other → Prop) (first : Option (Output × State))
    (second : Option (Output × Other)) : Prop :=
  Option.Rel (fun a b => a.1 = b.1 ∧ related a.2 b.2) first second

theorem SameStep.map_fst {related : State → Other → Prop} {first : Option (Output × State)}
    {second : Option (Output × Other)} (same : SameStep related first second) :
    first.map Prod.fst = second.map Prod.fst := by
  cases same with
  | none => rfl
  | some same => exact congrArg some same.1

/-- Steps that were taken lead to states that are related in a second way. -/
theorem SameStep.imp {related related' : State → Other → Prop} {first : Option (Output × State)}
    {second : Option (Output × Other)} (same : SameStep related first second)
    (implies : ∀ output next other, first = some (output, next) → second = some (output, other) →
      related next other → related' next other) : SameStep related' first second := by
  cases same with
  | none => exact .none
  | @some a b same =>
    obtain ⟨output, next⟩ := a
    obtain ⟨_, other⟩ := b
    obtain ⟨rfl, holds⟩ := same
    exact .some ⟨rfl, implies output next other rfl rfl holds⟩

/-- Steps that are made of related results. -/
theorem sameStep_map {Result Result' : Type*} {sameResult : Result → Result' → Prop}
    {related : State → Other → Prop} {answer : Result → Output × State}
    {answer' : Result' → Output × Other}
    (answers : ∀ result result', sameResult result result' →
      (answer result).1 = (answer' result').1 ∧ related (answer result).2 (answer' result').2)
    {called : Option Result} {called' : Option Result'}
    (same : Option.Rel sameResult called called') :
    SameStep related (called.map answer) (called'.map answer') := by
  cases same with
  | none => exact .none
  | some same => exact .some (answers _ _ same)

theorem runAll_related {step : State → Input → Option (Output × State)}
    {step' : Other → Input → Option (Output × Other)} {related : State → Other → Prop}
    {allowed : State → Input → Prop}
    (kept : ∀ state other input, related state other → allowed state input →
      SameStep related (step state input) (step' other input))
    {state : State} {other : Other} {inputs : List Input} (holds : related state other)
    (throughout : Throughout step allowed state inputs) :
    SameStep related (runAll step state inputs) (runAll step' other inputs) := by
  induction inputs generalizing state other with
  | nil => exact .some ⟨rfl, holds⟩
  | cons input inputs inductionHypothesis =>
    have same := kept state other input holds throughout.1
    have later := throughout.2
    unfold runAll
    generalize step state input = first at same later
    generalize step' other input = second at same
    cases same with
    | none => exact .none
    | @some a b same =>
      obtain ⟨output, next⟩ := a
      obtain ⟨_, next'⟩ := b
      obtain ⟨rfl, holds'⟩ := same
      have rest := inductionHypothesis holds' (later output next rfl)
      show SameStep related ((runAll step next inputs).map _) ((runAll step' next' inputs).map _)
      generalize runAll step next inputs = ran at rest
      generalize runAll step' next' inputs = ran' at rest
      cases rest with
      | none => exact .none
      | some rest => exact .some ⟨congrArg _ rest.1, rest.2⟩

end Fleetbench.Library
