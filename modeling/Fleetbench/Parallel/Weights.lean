/-
This file models `parallel/weights.py`: how custom weights are parsed and how
`GetBenchmarkWeights` weighs benchmarks for each scheduling strategy. Weights
are exact rationals.

The functions of Python that convert strings are parameters, and so is the
order in which a set yields its members. An exception leaves no result.
-/

import Fleetbench.Parallel.Probabilities
import Fleetbench.Parallel.Run
import Mathlib.Data.List.Infix

namespace Fleetbench.Parallel

open Library

inductive SchedulingStrategy where
  | bmWeighted
  | workloadWeighted
  | dctaxWeighted
  deriving DecidableEq, Repr

/-- What the functions need of the language. -/
structure Python where
  /-- `str.upper` -/
  upper : String → String
  /-- `float`, with nothing for a `ValueError`. -/
  float : String → Option ℚ

/-- `Workload`, or nothing for an `IndexError`. -/
def Benchmark.workload (benchmark : Benchmark) : Option String :=
  ((benchmark.benchmarkName.toList.splitOn '_')[1]?).map String.ofList

namespace Python

variable (python : Python)

/-! ### Custom weights -/

/-- The weight in one string, if it is valid. -/
def parseWeight (weights : String) : Option (String × ℚ) :=
  match weights.toList.splitOn ':' with
  | [key, value] => do
    let weight ← python.float (String.ofList value)
    return (python.upper (String.ofList key), weight)
  | _ => none

/-- `_ParseBenchmarkWeights`; invalid strings are skipped, and a keyword that comes again replaces
its weight. -/
def parseBenchmarkWeights (benchmarkWeightsList : List String) : Dict String ℚ :=
  .ofEntries (benchmarkWeightsList.filterMap python.parseWeight)

/-- Whether a keyword is in the name of a benchmark. -/
def matchesKeyword (benchmark : Benchmark) (keyword : String) : Bool :=
  keyword.toList <:+: (python.upper benchmark.benchmarkName).toList

/-! ### Workloads -/

/-- The loop over the custom weights for one benchmark. -/
def scaleBenchmark (customWeights : Dict String ℚ) (benchmarkWeights : Dict String ℚ)
    (benchmark : Benchmark) : Option (Dict String ℚ) :=
  customWeights.entries.foldlM (fun benchmarkWeights (keyword, weight) =>
    if python.matchesKeyword benchmark keyword then do
      let old ← benchmarkWeights.get? benchmark.benchmarkName
      return benchmarkWeights.set benchmark.benchmarkName (old * weight)
    else return benchmarkWeights) benchmarkWeights

/-- What `_UpdateWorkloadWeights` does for one workload. -/
def updateWorkload (customWeights : Dict String ℚ) (benchmarkWeights : Dict String ℚ)
    (benchmarks : List Benchmark) : Option (Dict String ℚ) :=
  if benchmarks.length = 1 then return benchmarkWeights
  else do
    let scaled ← benchmarks.foldlM (python.scaleBenchmark customWeights) benchmarkWeights
    let weights ← benchmarks.mapM fun benchmark => scaled.get? benchmark.benchmarkName
    benchmarks.foldlM (fun benchmarkWeights benchmark => do
      let old ← benchmarkWeights.get? benchmark.benchmarkName
      let share ← divide old weights.sum
      return benchmarkWeights.set benchmark.benchmarkName share) scaled

/-- `_UpdateWorkloadWeights` -/
def updateWorkloadWeights (benchmarkWeights : Dict String ℚ)
    (workloadBenchmark : List (List Benchmark)) (customWeights : Dict String ℚ) :
    Option (Dict String ℚ) :=
  workloadBenchmark.foldlM (python.updateWorkload customWeights) benchmarkWeights

end Python

/-- The equal weights that the benchmarks of one workload start with. -/
def weighWorkload (benchmarkWeights : Dict String ℚ) (benchmarks : List Benchmark) :
    Option (Dict String ℚ) :=
  benchmarks.foldlM (fun benchmarkWeights benchmark => do
    let weight ← divide 1 benchmarks.length
    return benchmarkWeights.set benchmark.benchmarkName weight) benchmarkWeights

/-- `GetBenchmarkWeights`, given the order of the set of workloads and the weights in the file for
`DCTAX_WEIGHTED`. -/
def getBenchmarkWeights (python : Python) (workload : Benchmark → Option String)
    (visited : List String) (dctaxWeights : Dict String ℚ) (benchmarks : List Benchmark)
    (schedulingStrategy : SchedulingStrategy) (customWeightStrings : List String) :
    Option (Dict String ℚ) :=
  let customWeights := python.parseBenchmarkWeights customWeightStrings
  match schedulingStrategy with
  | .bmWeighted =>
    let benchmarkWeights := Dict.ofEntries
      (benchmarks.map fun benchmark => (benchmark.benchmarkName, (1 : ℚ)))
    return customWeights.entries.foldl (fun benchmarkWeights entry =>
      benchmarkWeights.set entry.1 entry.2) benchmarkWeights
  | .workloadWeighted =>
    if ∃ benchmark ∈ benchmarks, workload benchmark = none then none
    else do
      let workloadBenchmark := visited.map fun name =>
        benchmarks.filter fun benchmark => workload benchmark = some name
      let benchmarkWeights ← workloadBenchmark.foldlM weighWorkload .empty
      if customWeights.entries ≠ [] then
        python.updateWorkloadWeights benchmarkWeights workloadBenchmark customWeights
      else return benchmarkWeights
  | .dctaxWeighted => return dctaxWeights

/-- The `target_ratios` of `_PreRun`, or nothing for a `KeyError`. -/
def targetRatios (benchmarkWeights : Dict String ℚ) (benchmarks : List Benchmark) :
    Option (List ℚ) :=
  benchmarks.mapM fun benchmark => benchmarkWeights.get? benchmark.benchmarkName

end Fleetbench.Parallel
