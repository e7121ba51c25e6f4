/-
This file is about tables that keep what was computed for a key. An entry that
counts as absent is computed when it is asked for, and then stays.
-/

import Mathlib.Tactic.Common
import Mathlib.Logic.Function.Basic

namespace Fleetbench.Library

variable {Key Value : Type*} [DecidableEq Key] {absent : Value → Prop} [DecidablePred absent]

/-- The value for a key, and the table behind that. -/
def fetch (absent : Value → Prop) [DecidablePred absent] (table : Key → Value) (key : Key)
    (compute : Option Value) : Option (Value × (Key → Value)) :=
  if absent (table key) then compute.map fun value => (value, Function.update table key value)
  else some (table key, table)

/-- All entries that are present are good for their keys. -/
def Stores (absent : Value → Prop) (good : Key → Value → Prop) (table : Key → Value) : Prop :=
  ∀ key, ¬ absent (table key) → good key (table key)

variable {good : Key → Value → Prop} {table next : Key → Value} {key : Key}
  {compute : Option Value} {value : Value}

omit [DecidableEq Key] [DecidablePred absent] in
theorem stores_of_absent (none : ∀ key, absent (table key)) : Stores absent good table :=
  fun key present => absurd (none key) present

/-- Nothing has to be computed for a value that is there. -/
theorem exists_fetch (absent : Value → Prop) [DecidablePred absent] (table : Key → Value)
    (key : Key) (available : absent (table key) → ∃ value, compute = some value) :
    ∃ outcome, fetch absent table key compute = some outcome := by
  unfold fetch
  split
  · rename_i isAbsent
    obtain ⟨value, computes⟩ := available isAbsent
    exact ⟨_, Option.map_eq_some_iff.mpr ⟨value, computes, rfl⟩⟩
  · exact ⟨_, rfl⟩

/-- A good value is returned and kept, and nothing else changes. -/
theorem fetch_spec (stores : Stores absent good table)
    (computes : ∀ value, compute = some value → good key value)
    (fetches : fetch absent table key compute = some (value, next)) :
    good key value ∧ Stores absent good next ∧ next key = value ∧
      (∀ other, other ≠ key → next other = table other) ∧
      (¬ absent (table key) → next = table ∧ value = table key) := by
  unfold fetch at fetches
  split at fetches
  · rename_i isAbsent
    obtain ⟨found, isFound, same⟩ := Option.map_eq_some_iff.mp fetches
    cases same
    have isGood := computes value isFound
    refine ⟨isGood, fun other present => ?_, Function.update_self key value table,
      fun other different => Function.update_of_ne different value table,
      fun present => absurd isAbsent present⟩
    by_cases same : other = key
    · subst same
      rwa [Function.update_self]
    · rw [Function.update_of_ne same] at present ⊢
      exact stores other present
  · rename_i present
    cases fetches
    exact ⟨stores key present, stores, rfl, fun _ _ => rfl, fun _ => ⟨rfl, rfl⟩⟩

end Fleetbench.Library
