/-
This file models how `ParallelBench` computes the probabilities of benchmarks:
`_AdjustRuntime`, `_AdjustProbabilities` and `_ComputeBenchmarkWeights`. Numbers
are exact rationals. Of the metrics of a run only its total duration is read.

A division by zero has no number as its result, nor has an exception.
-/

import Fleetbench.Library.Dict
import Mathlib.Algebra.Field.Rat
import Mathlib.Algebra.Order.Field.Rat
import Mathlib.Algebra.BigOperators.Group.List.Basic

namespace Fleetbench.Parallel

open Library

/-! ### Runtimes -/

def divide (dividend divisor : ℚ) : Option ℚ :=
  if divisor = 0 then none else some (dividend / divisor)

theorem divide_eq_some {dividend divisor : ℚ} (nonzero : divisor ≠ 0) :
    divide dividend divisor = some (dividend / divisor) :=
  if_neg nonzero

/-- The total durations in `self.runtimes`. -/
abbrev Durations := Dict String (List ℚ)

/-- `times[1:][-10:]` -/
def lastWallTimes (times : List ℚ) : List ℚ := times.tail.drop (times.tail.length - 10)

/-- The local variables of `_AdjustRuntime`; an index is there as soon as there is valid data. -/
structure Adjusting where
  validIndex : Option Nat
  currentRuntimes : List ℚ
  needAdjustment : List Nat

/-- What the first loop does with the history of one benchmark. -/
def readHistory (locals : Adjusting) (times : List ℚ) : Option Adjusting :=
  let index := locals.currentRuntimes.length
  if lastWallTimes times ≠ [] then do
    let mean ← divide (lastWallTimes times).sum (lastWallTimes times).length
    return { locals with
      validIndex := some index
      currentRuntimes := locals.currentRuntimes ++ [mean] }
  else do
    let fake ← times.head?
    return { locals with
      currentRuntimes := locals.currentRuntimes ++ [fake]
      needAdjustment := locals.needAdjustment ++ [index] }

/-- What the second loop does with one index. -/
def scaleRuntime (validIndex : Nat) (currentRuntimes : List ℚ) (index : Nat) :
    Option (List ℚ) := do
  let fake ← currentRuntimes[index]?
  let valid ← currentRuntimes[validIndex]?
  return currentRuntimes.set index (fake * valid)

/-- `_AdjustRuntime` -/
def adjustRuntime (runtimes : Durations) : Option (List ℚ) := do
  let locals ← (runtimes.entries.map Prod.snd).foldlM readHistory ⟨none, [], []⟩
  match locals.validIndex with
  | none => return locals.currentRuntimes
  | some validIndex =>
    locals.needAdjustment.foldlM (scaleRuntime validIndex) locals.currentRuntimes

/-! ### Probabilities -/

/-- `_AdjustProbabilities` -/
def adjustProbabilities (targetRatios currentRuntime : List ℚ) : Option (List ℚ) :=
  if targetRatios.length ≠ currentRuntime.length then none
  else
    match targetRatios, currentRuntime with
    | firstRatio :: ratios, firstRuntime :: runtimes => do
      let others ← (ratios.zip runtimes).mapM fun (ratio, runtime) =>
        divide (firstRuntime * ratio) (runtime * firstRatio)
      let probabilities := 1 :: others
      probabilities.mapM (divide · probabilities.sum)
    | _, _ => [1].mapM (divide · 1)

/-- The path of `_ComputeBenchmarkWeights` for runtimes that are not all `1.0`. -/
def generalWeights (currentRuntimes targetRatios : List ℚ) : Option (List ℚ) := do
  let currentRtRatios ← currentRuntimes.mapM (divide · currentRuntimes.sum)
  adjustProbabilities targetRatios currentRtRatios

/-- What `_ComputeBenchmarkWeights` makes of the runtimes that have been adjusted. -/
def weightsOf (currentRuntimes targetRatios : List ℚ) : Option (List ℚ) :=
  if ¬ ∀ runtime ∈ currentRuntimes, runtime = 1 then generalWeights currentRuntimes targetRatios
  else targetRatios.mapM (divide · targetRatios.sum)

/-- `_ComputeBenchmarkWeights` -/
def computeBenchmarkWeights (runtimes : Durations) (targetRatios : List ℚ) :
    Option (List ℚ) := do
  weightsOf (← adjustRuntime runtimes) targetRatios

end Fleetbench.Parallel
