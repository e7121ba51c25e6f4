/-
This file is about an inner loop that is run again and again: each sweep
prepares the state and then goes through the same rounds, and the whole may be
stopped between two rounds. What every round hands to the next one holds
whenever it is stopped.
-/

import Mathlib.Tactic.Common

namespace Fleetbench.Library

universe u

variable {State : Type u}

/-- Run a number of rounds from round `index` on. Sweeps without rounds do nothing but prepare. -/
def sweep (rounds : Nat) (prepare : State → State) (round : Nat → State → Option State) :
    Nat → Nat → State → Option State
  | 0, _, state => some state
  | budget + 1, index, state =>
    if rounds = 0 then some (prepare state)
    else do
      let next ← round index (if index = 0 then prepare state else state)
      sweep rounds prepare round budget (if index + 1 = rounds then 0 else index + 1) next

variable {rounds : Nat} {prepare : State → State} {round : Nat → State → Option State}

theorem sweep_succ {budget index : Nat} {state next : State} (positive : rounds ≠ 0)
    (runs : round index (if index = 0 then prepare state else state) = some next) :
    sweep rounds prepare round (budget + 1) index state =
      sweep rounds prepare round budget (if index + 1 = rounds then 0 else index + 1) next := by
  rw [sweep, if_neg positive, runs]
  rfl

theorem next_mod (positive : rounds ≠ 0) (done : Nat) :
    (if done % rounds + 1 = rounds then 0 else done % rounds + 1) = (done + 1) % rounds := by
  have inside := Nat.mod_lt done (Nat.pos_of_ne_zero positive)
  rw [← Nat.mod_add_mod done rounds 1]
  split
  · rename_i last
    rw [last, Nat.mod_self]
  · rename_i notLast
    exact (Nat.mod_eq_of_lt (by omega)).symm

/-- What every round keeps, if the rounds are numbered over all sweeps. -/
theorem sweep_invariant {invariant : Nat → State → Prop} (positive : rounds ≠ 0)
    (step : ∀ done state, invariant done state → ∃ next,
      round (done % rounds) (if done % rounds = 0 then prepare state else state) = some next ∧
        invariant (done + 1) next)
    (budget : Nat) {done : Nat} {state : State} (holds : invariant done state) : ∃ final,
      sweep rounds prepare round budget (done % rounds) state = some final ∧
        invariant (done + budget) final := by
  induction budget generalizing done state with
  | zero => exact ⟨state, rfl, holds⟩
  | succ budget inductionHypothesis =>
    obtain ⟨next, runs, holds'⟩ := step done state holds
    rw [sweep_succ positive runs, next_mod positive]
    obtain ⟨final, later, ends⟩ := inductionHypothesis holds'
    exact ⟨final, later, by rwa [Nat.add_right_comm] at ends⟩

end Fleetbench.Library
