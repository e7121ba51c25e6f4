/-
This file is about transition systems over an arbitrary type of states: the
invariant rule for reachable states, and goals that every run reaches. A goal
is inevitable when every run, however its steps are chosen, gets there: no run
is stuck before the goal and none goes on for ever.
-/

import Mathlib.Logic.Relation
import Mathlib.Algebra.BigOperators.Group.List.Basic
import Mathlib.Logic.Function.Basic
import Mathlib.Algebra.Ring.Nat

namespace Fleetbench.Library

variable {State : Type*} {step : State → State → Prop} {goal : State → Prop}

/-! ### Invariants -/

theorem reachable_invariant {invariant : State → Prop} {start state : State}
    (initially : invariant start)
    (kept : ∀ before after, invariant before → step before after → invariant after)
    (reachable : Relation.ReflTransGen step start state) : invariant state := by
  induction reachable with
  | refl => exact initially
  | tail _ last inductionHypothesis => exact kept _ _ inductionHypothesis last

/-! ### Goals that every run reaches -/

/-- Every run from the state meets the goal after finitely many steps. -/
inductive Inevitable (step : State → State → Prop) (goal : State → Prop) : State → Prop where
  | here {state : State} (reached : goal state) : Inevitable step goal state
  | later {state : State} (possible : ∃ next, step state next)
      (every : ∀ next, step state next → Inevitable step goal next) : Inevitable step goal state

/-- A measure that every step decreases and an invariant under which no state is stuck before
the goal make the goal inevitable. -/
theorem inevitable_of_measure {invariant : State → Prop} (measure : State → Nat)
    (kept : ∀ before after, invariant before → step before after → invariant after)
    (decreases : ∀ before after, invariant before → step before after →
      measure after < measure before)
    (progress : ∀ state, invariant state → ¬ goal state → ∃ next, step state next)
    {state : State} (holds : invariant state) : Inevitable step goal state := by
  generalize bound : measure state = size
  induction size using Nat.strongRecOn generalizing state with
  | ind size inductionHypothesis =>
    by_cases reached : goal state
    · exact .here reached
    · refine .later (progress state holds reached) fun next taken => ?_
      have smaller := decreases state next holds taken
      rw [bound] at smaller
      exact inductionHypothesis _ smaller (kept state next holds taken) rfl

/-- What is inevitable has a state that witnesses it. -/
theorem Inevitable.reachable {state : State} (inevitable : Inevitable step goal state) :
    ∃ final, Relation.ReflTransGen step state final ∧ goal final := by
  induction inevitable with
  | here reached => exact ⟨_, .refl, reached⟩
  | later possible _ inductionHypothesis =>
    obtain ⟨next, taken⟩ := possible
    obtain ⟨final, run, reached⟩ := inductionHypothesis next taken
    exact ⟨final, .head taken run, reached⟩

/-! ### Sums over the parties of a system -/

/-- Changing the share of one party changes the sum by the difference. -/
theorem sum_map_update {Party : Type*} [DecidableEq Party] {parties : List Party}
    (distinct : parties.Nodup) {party : Party} (member : party ∈ parties) (share : Party → Nat)
    (new : Nat) :
    (parties.map (Function.update share party new)).sum + share party =
      (parties.map share).sum + new := by
  induction parties with
  | nil => cases member
  | cons first rest inductionHypothesis =>
    rw [List.nodup_cons] at distinct
    rw [List.map_cons, List.map_cons, List.sum_cons, List.sum_cons]
    by_cases same : first = party
    · subst same
      have others : rest.map (Function.update share first new) = rest.map share := by
        refine List.map_congr_left fun other inRest => ?_
        rw [Function.update_of_ne]
        rintro rfl
        exact distinct.1 inRest
      rw [others, Function.update_self]
      omega
    · have inRest : party ∈ rest := by
        rcases List.mem_cons.mp member with head | tail
        · exact absurd head.symm same
        · exact tail
      have shorter := inductionHypothesis distinct.2 inRest
      rw [Function.update_of_ne same]
      omega

end Fleetbench.Library
