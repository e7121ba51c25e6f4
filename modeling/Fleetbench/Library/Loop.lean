/-
This file is about loops that run a body until it stops them. A loop is given
fuel for its rounds; one that ends does so with the same result for any fuel
that is enough.

The rank that shows that a loop ends belongs to the invariant, so it can be
about things that the state of the loop does not hold.
-/

import Mathlib.Order.WellFounded

namespace Fleetbench.Library

universe u v w

variable {State : Type u} {Result : Type v} {Rank : Type w}

/-- What one round of a loop leads to. -/
inductive Round (State : Type u) (Result : Type v) where
  | again (state : State)
  | stop (result : Result)

def loop (body : State → Round State Result) : Nat → State → Option Result
  | 0, _ => none
  | fuel + 1, state =>
    match body state with
    | .again next => loop body fuel next
    | .stop result => some result

theorem loop_again {body : State → Round State Result} {state next : State} (fuel : Nat)
    (round : body state = .again next) : loop body (fuel + 1) state = loop body fuel next := by
  rw [loop, round]

theorem loop_stop {body : State → Round State Result} {state : State} {result : Result}
    (fuel : Nat) (round : body state = .stop result) :
    loop body (fuel + 1) state = some result := by
  rw [loop, round]

/-- More fuel changes no result. -/
theorem loop_of_le {body : State → Round State Result} {fuel more : Nat} {state : State}
    {result : Result} (runs : loop body fuel state = some result) (enough : fuel ≤ more) :
    loop body more state = some result := by
  induction fuel generalizing state more with
  | zero => cases runs
  | succ fuel inductionHypothesis =>
    obtain ⟨more, rfl⟩ := Nat.exists_eq_add_of_le' (Nat.le_trans (Nat.le_add_left 1 fuel) enough)
    cases round : body state with
    | again next =>
      rw [loop_again _ round] at runs ⊢
      exact inductionHypothesis runs (Nat.le_of_succ_le_succ enough)
    | stop final =>
      rw [loop_stop _ round] at runs ⊢
      exact runs

/-- The loop has this result as soon as there is enough fuel. -/
def Ends (body : State → Round State Result) (state : State) (result : Result) : Prop :=
  ∃ enough, ∀ fuel, enough ≤ fuel → loop body fuel state = some result

theorem ends_of_stop {body : State → Round State Result} {state : State} {result : Result}
    (round : body state = .stop result) : Ends body state result := by
  refine ⟨1, fun fuel enough => ?_⟩
  obtain ⟨fuel, rfl⟩ := Nat.exists_eq_add_of_le' enough
  exact loop_stop fuel round

theorem ends_of_again {body : State → Round State Result} {state next : State} {result : Result}
    (round : body state = .again next) (ends : Ends body next result) : Ends body state result := by
  obtain ⟨enough, run⟩ := ends
  refine ⟨enough + 1, fun fuel more => ?_⟩
  obtain ⟨fuel, rfl⟩ := Nat.exists_eq_add_of_le' (Nat.le_trans (Nat.le_add_left 1 enough) more)
  rw [loop_again fuel round]
  exact run fuel (Nat.le_of_succ_le_succ more)

/-- What a loop returns, if every round keeps the invariant. -/
theorem loop_invariant {body : State → Round State Result} {invariant : State → Prop}
    {post : Result → Prop}
    (again : ∀ state next, invariant state → body state = .again next → invariant next)
    (stop : ∀ state result, invariant state → body state = .stop result → post result)
    {fuel : Nat} {state : State} {result : Result} (holds : invariant state)
    (runs : loop body fuel state = some result) : post result := by
  induction fuel generalizing state with
  | zero => cases runs
  | succ fuel inductionHypothesis =>
    cases round : body state with
    | again next =>
      rw [loop_again fuel round] at runs
      exact inductionHypothesis (again state next holds round) runs
    | stop final =>
      rw [loop_stop fuel round] at runs
      cases runs
      exact stop state result holds round

theorem Ends.returns {body : State → Round State Result} {state : State} {result : Result}
    (ends : Ends body state result) : ∃ fuel, loop body fuel state = some result :=
  ends.imp fun enough run => run enough (Nat.le_refl enough)

/-- Every round keeps the invariant at a smaller rank, or stops with what is wanted. -/
theorem ends_of_invariant [LT Rank] [WellFoundedLT Rank] {body : State → Round State Result}
    {invariant : Rank → State → Prop} {post : Result → Prop}
    (step : ∀ rank state, invariant rank state →
      (∃ next smaller, body state = .again next ∧ smaller < rank ∧ invariant smaller next) ∨
        ∃ result, body state = .stop result ∧ post result)
    {rank : Rank} {state : State} (holds : invariant rank state) :
    ∃ result, Ends body state result ∧ post result := by
  induction rank using WellFoundedLT.induction generalizing state with
  | ind rank inductionHypothesis =>
    rcases step rank state holds with
      ⟨next, smaller, round, below, holds'⟩ | ⟨result, round, wanted⟩
    · obtain ⟨result, ends, wanted⟩ := inductionHypothesis smaller below holds'
      exact ⟨result, ends_of_again round ends, wanted⟩
    · exact ⟨result, ends_of_stop round, wanted⟩

end Fleetbench.Library
