/-
This file says when a computation that may fail succeeds on a whole list: when
it succeeds on every element.
-/

import Mathlib.Tactic.Common
import Mathlib.Data.List.Forall2

namespace Fleetbench.Library

variable {Input Output : Type*} {compute : Input → Option Output}

theorem mapM_eq_some_iff {inputs : List Input} {outputs : List Output} :
    inputs.mapM compute = some outputs ↔
      List.Forall₂ (fun input output => compute input = some output) inputs outputs := by
  induction inputs generalizing outputs with
  | nil => cases outputs <;> simp
  | cons input rest inductionHypothesis =>
    rw [List.mapM_cons]
    cases outputs with
    | nil =>
      cases compute input <;> cases rest.mapM compute <;> simp
    | cons output others =>
      rw [List.forall₂_cons, ← inductionHypothesis]
      cases compute input <;> cases rest.mapM compute <;> simp

theorem mapM_eq_some_map {inputs : List Input} {value : Input → Output}
    (computes : ∀ input ∈ inputs, compute input = some (value input)) :
    inputs.mapM compute = some (inputs.map value) :=
  mapM_eq_some_iff.mpr (List.forall₂_map_right_iff.mpr (List.forall₂_same.mpr computes))

theorem exists_of_forall₂ {related : Input → Output → Prop} {inputs : List Input}
    {outputs : List Output} (pairs : List.Forall₂ related inputs outputs) {input : Input}
    (member : input ∈ inputs) : ∃ output ∈ outputs, related input output := by
  induction pairs with
  | nil => cases member
  | cons found _ inductionHypothesis =>
    rcases List.mem_cons.mp member with rfl | inRest
    · exact ⟨_, List.mem_cons_self, found⟩
    · obtain ⟨output, isOutput, found⟩ := inductionHypothesis inRest
      exact ⟨output, List.mem_cons_of_mem _ isOutput, found⟩

/-- What is computed for an element is among the results. -/
theorem mem_of_mapM_eq_some {inputs : List Input} {outputs : List Output}
    (computes : inputs.mapM compute = some outputs) {input : Input} (member : input ∈ inputs) :
    ∃ output ∈ outputs, compute input = some output :=
  exists_of_forall₂ (mapM_eq_some_iff.mp computes) member

theorem mapM_eq_none_of_mem {inputs : List Input} {input : Input} (member : input ∈ inputs)
    (fails : compute input = none) : inputs.mapM compute = none := by
  refine Option.eq_none_iff_forall_ne_some.mpr fun outputs computes => ?_
  obtain ⟨output, _, found⟩ := mem_of_mapM_eq_some computes member
  rw [fails] at found
  cases found

/-- A computation that succeeds on every element succeeds on the list. -/
theorem mapM_isSome_iff {inputs : List Input} :
    (∃ outputs, inputs.mapM compute = some outputs) ↔
      ∀ input ∈ inputs, ∃ output, compute input = some output := by
  constructor
  · rintro ⟨outputs, computes⟩ input member
    obtain ⟨output, _, found⟩ := mem_of_mapM_eq_some computes member
    exact ⟨output, found⟩
  · intro each
    induction inputs with
    | nil => exact ⟨[], rfl⟩
    | cons input rest inductionHypothesis =>
      obtain ⟨output, found⟩ := each input List.mem_cons_self
      obtain ⟨others, rest⟩ := inductionHypothesis
        fun other member => each other (List.mem_cons_of_mem _ member)
      exact ⟨output :: others, mapM_eq_some_iff.mpr (.cons found (mapM_eq_some_iff.mp rest))⟩

/-- What every step keeps, the whole loop keeps. -/
theorem foldlM_induction {State : Type*} {step : State → Input → Option State}
    {kept : State → Prop}
    (steps : ∀ state input next, kept state → step state input = some next → kept next)
    {inputs : List Input} {state final : State} (start : kept state)
    (runs : inputs.foldlM step state = some final) : kept final := by
  induction inputs generalizing state with
  | nil =>
    cases runs
    exact start
  | cons input rest inductionHypothesis =>
    rw [List.foldlM_cons] at runs
    obtain ⟨next, first, runs⟩ := Option.bind_eq_some_iff.mp runs
    exact inductionHypothesis (steps state input next start first) runs

/-- Only the steps for the inputs matter. -/
theorem foldlM_congr_of_mem {State : Type*} {step other : State → Input → Option State}
    {inputs : List Input} (same : ∀ state, ∀ input ∈ inputs, step state input = other state input)
    (state : State) : inputs.foldlM step state = inputs.foldlM other state := by
  induction inputs generalizing state with
  | nil => rfl
  | cons input rest inductionHypothesis =>
    rw [List.foldlM_cons, List.foldlM_cons, same state input List.mem_cons_self]
    refine congrArg _ (funext fun next => inductionHypothesis (fun state input member => ?_) next)
    exact same state input (List.mem_cons_of_mem _ member)

/-- A loop whose steps first compute something of the input only. -/
theorem foldlM_eq_map_foldl {State : Type*} {step : State → Input → Option State}
    {update : State → Output → State}
    (steps : ∀ state input, step state input = (compute input).map (update state))
    (inputs : List Input) (state : State) :
    inputs.foldlM step state =
      (inputs.mapM compute).map fun outputs => outputs.foldl update state := by
  induction inputs generalizing state with
  | nil => rfl
  | cons input rest inductionHypothesis =>
    rw [List.foldlM_cons, List.mapM_cons, steps]
    cases compute input with
    | none => rfl
    | some output =>
      refine (inductionHypothesis (update state output)).trans ?_
      cases rest.mapM compute <;> rfl

/-- A loop that counts up ends with the step of the last index. -/
theorem foldlM_range_succ {State : Type*} (step : State → Nat → Option State) (count : Nat)
    (state : State) : (List.range (count + 1)).foldlM step state =
      ((List.range count).foldlM step state).bind fun next => step next count := by
  rw [List.range_succ, List.foldlM_append]
  refine congrArg (Option.bind _) (funext fun next => ?_)
  rw [List.foldlM_cons]
  exact Option.bind_fun_some _

/-- Nested loops are one loop over all inner inputs. -/
theorem foldlM_flatMap {State : Type*} (inner : Input → List Output)
    (step : State → Output → Option State) (inputs : List Input) (state : State) :
    (inputs.flatMap inner).foldlM step state =
      inputs.foldlM (fun state input => (inner input).foldlM step state) state := by
  induction inputs generalizing state with
  | nil => rfl
  | cons input rest inductionHypothesis =>
    rw [List.flatMap_cons, List.foldlM_append, List.foldlM_cons]
    exact congrArg _ (funext inductionHypothesis)

/-- A computation that looks its inputs up first. -/
theorem mapM_filterMap {Key : Type*} {get : Key → Option Input} {whole : Key → Option Output}
    {keys : List Key}
    (all : ∀ key ∈ keys, ∃ input, get key = some input ∧ whole key = compute input) :
    keys.mapM whole = (keys.filterMap get).mapM compute := by
  induction keys with
  | nil => rfl
  | cons key keys inductionHypothesis =>
    obtain ⟨⟨input, found, computes⟩, others⟩ := List.forall_mem_cons.mp all
    rw [List.mapM_cons, computes, inductionHypothesis others, List.filterMap_cons_some found,
      List.mapM_cons]

/-! ### Computations that succeed less often -/

section

variable {often : Input → Option Output}

theorem filterMap_sublist (less : ∀ input, compute input = none ∨ compute input = often input)
    (inputs : List Input) : (inputs.filterMap compute).Sublist (inputs.filterMap often) := by
  induction inputs with
  | nil => exact .slnil
  | cons input rest inductionHypothesis =>
    rw [List.filterMap_cons, List.filterMap_cons]
    rcases less input with fails | same
    · rw [fails]
      cases often input with
      | none => exact inductionHypothesis
      | some output => exact inductionHypothesis.cons output
    · rw [same]
      cases often input with
      | none => exact inductionHypothesis
      | some output => exact inductionHypothesis.cons_cons output

theorem filterMap_eq_iff (less : ∀ input, compute input = none ∨ compute input = often input)
    {inputs : List Input} : inputs.filterMap compute = inputs.filterMap often ↔
      ∀ input ∈ inputs, compute input = often input := by
  induction inputs with
  | nil => exact ⟨fun _ _ member => (nomatch member), fun _ => rfl⟩
  | cons input rest inductionHypothesis =>
    rw [List.filterMap_cons, List.filterMap_cons, List.forall_mem_cons]
    rcases less input with fails | same
    · rw [fails]
      cases often input with
      | none => exact inductionHypothesis.trans (and_iff_right rfl).symm
      | some output =>
        refine ⟨fun longer => ?_, fun ⟨impossible, _⟩ => nomatch impossible⟩
        have shorter := (filterMap_sublist less rest).length_le
        have lengths : (rest.filterMap compute).length = (rest.filterMap often).length + 1 :=
          congrArg List.length longer
        omega
    · rw [same]
      cases often input with
      | none => exact inductionHypothesis.trans (and_iff_right rfl).symm
      | some output =>
        rw [List.cons_inj_right, inductionHypothesis]
        exact (and_iff_right rfl).symm

end

end Fleetbench.Library
