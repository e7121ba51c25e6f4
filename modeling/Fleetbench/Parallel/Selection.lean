/-
This file models how benchmarks are selected: `parallel/benchmark.py` and the
selection in `SetWeights`. The binary is a parameter: it lists names for a
filter, or fails. An exception leaves no result.

The benchmarks of every selection have different names, as the keys of the
dictionary are made from them.
-/

import Fleetbench.Parallel.Weights
import Fleetbench.Library.Traverse

namespace Fleetbench.Parallel

open Library

/-- A benchmark binary: the base name of its path, and the lines it prints for
`--benchmark_list_tests`, given a `--benchmark_filter`. -/
structure Target where
  name : String
  listTests : String → Option (List String)

/-- A `Benchmark` of a target, with what `Name()` and `BenchmarkName()` return. -/
def Target.benchmark (target : Target) (benchmarkFilter : String) : Benchmark where
  name := target.name ++ " (" ++ benchmarkFilter ++ ")"
  benchmarkName := benchmarkFilter

namespace Target

variable (python : Python) (target : Target)

/-- `GetSubBenchmarks` -/
def getSubBenchmarks (workload : String) : Option (List String) :=
  if workload = "" then target.listTests "multi"
  else if workload = "all" then target.listTests "all"
  else target.listTests ("BM_" ++ python.upper workload)

/-- The group of `BM_(?P<workload>[^_]+)` where it first matches. -/
def extractWorkload : List Char → Option (List Char)
  | [] => none
  | c :: rest =>
    let workload := ((c :: rest).drop 3).takeWhile (· ≠ '_')
    if ['B', 'M', '_'] <+: c :: rest ∧ workload ≠ [] then some workload else extractWorkload rest

/-- `GetWorkloads`; the list stands for a set. -/
def getWorkloads : Option (List String) := do
  let benchmarks ← target.getSubBenchmarks python "all"
  return benchmarks.filterMap fun benchmark =>
    (extractWorkload benchmark.toList).map String.ofList

/-- `_CreateBenchmarks` -/
def createBenchmarks (names : List String) : Dict String Benchmark :=
  .ofEntries (names.map fun name => ((target.benchmark name).name, target.benchmark name))

/-- `_CreateMatchingBenchmarks` -/
def createMatchingBenchmarks (bmFilter : String) (bmCandidates : List String) :
    Option (Dict String Benchmark) :=
  let matchingBmNames := bmCandidates.filter fun name => bmFilter.toList <:+: name.toList
  if matchingBmNames = [] then none else some (target.createBenchmarks matchingBmNames)

/-- `benchmarks.update(_CreateMatchingBenchmarks(..))` -/
def addMatching (bmCandidates : List String) (benchmarks : Dict String Benchmark)
    (bmFilter : String) : Option (Dict String Benchmark) := do
  let others ← target.createMatchingBenchmarks bmFilter bmCandidates
  return others.entries.foldl (fun benchmarks entry => benchmarks.set entry.1 entry.2) benchmarks

/-- `GetDefaultBenchmarks` -/
def getDefaultBenchmarks (benchmarkFilters : List String) : Option (Dict String Benchmark) := do
  let subBenchmarks ← target.getSubBenchmarks python ""
  if benchmarkFilters = [] then return target.createBenchmarks subBenchmarks
  else benchmarkFilters.foldlM (target.addMatching subBenchmarks) .empty

/-- What `GetWorkloadBenchmarks` does for one filter. -/
def addWorkload (workloads : List String) (benchmarks : Dict String Benchmark)
    (workloadFilter : String) : Option (Dict String Benchmark) :=
  match (workloadFilter.toList.splitOn ',').map String.ofList with
  | [] => none
  | workload :: bmFilters =>
    if python.upper workload ∉ workloads then none
    else do
      let workloadBms ← target.getSubBenchmarks python workload
      if bmFilters = ["all"] then
        target.addMatching workloadBms benchmarks (python.upper workload)
      else bmFilters.foldlM (target.addMatching workloadBms) benchmarks

/-- `GetWorkloadBenchmarks` -/
def getWorkloadBenchmarks (workloadFilters : List String) : Option (Dict String Benchmark) := do
  let workloads ← target.getWorkloads python
  workloadFilters.foldlM (target.addWorkload python workloads) .empty

/-- The values of `self.benchmarks` behind `SetWeights`. -/
def selectBenchmarks (benchmarkFilter workloadFilter : List String) : Option (List Benchmark) :=
  (if workloadFilter ≠ [] then target.getWorkloadBenchmarks python workloadFilter
    else target.getDefaultBenchmarks python benchmarkFilter).map fun benchmarks =>
      benchmarks.entries.map (·.2)

/-! ### Names -/

/-- The key of every benchmark is made from its filter. -/
def Keyed (benchmarks : Dict String Benchmark) : Prop :=
  ∀ entry ∈ benchmarks.entries, entry.1 = (target.benchmark entry.2.benchmarkName).name

variable {python target}

theorem keyed_createBenchmarks (names : List String) :
    target.Keyed (target.createBenchmarks names) := by
  intro entry member
  obtain ⟨name, -, rfl⟩ := List.mem_map.mp (Dict.mem_of_mem_ofEntries entry member)
  rfl

theorem keyed_empty : target.Keyed .empty :=
  fun _ member => nomatch member

theorem Keyed.addMatching {benchmarks next : Dict String Benchmark} {bmCandidates : List String}
    {bmFilter : String} (keyed : target.Keyed benchmarks)
    (added : target.addMatching bmCandidates benchmarks bmFilter = some next) :
    target.Keyed next := by
  obtain ⟨others, matching, added⟩ := Option.bind_eq_some_iff.mp added
  cases added
  rw [createMatchingBenchmarks] at matching
  split at matching
  · cases matching
  · cases matching
    intro entry member
    rcases Dict.mem_entries_foldl_set member with old | isNew
    · exact keyed entry old
    · exact keyed_createBenchmarks _ entry isNew

theorem Keyed.addWorkload {benchmarks next : Dict String Benchmark} {workloads : List String}
    {workloadFilter : String} (keyed : target.Keyed benchmarks)
    (added : target.addWorkload python workloads benchmarks workloadFilter = some next) :
    target.Keyed next := by
  rw [Target.addWorkload] at added
  split at added
  · cases added
  · split at added
    · cases added
    · obtain ⟨workloadBms, -, added⟩ := Option.bind_eq_some_iff.mp added
      split at added
      · exact keyed.addMatching added
      · exact foldlM_induction (fun _ _ _ keyed added => keyed.addMatching added) keyed added

/-- The selected benchmarks have different names. -/
theorem selectBenchmarks_distinct {benchmarkFilter workloadFilter : List String}
    {benchmarks : List Benchmark}
    (selected : target.selectBenchmarks python benchmarkFilter workloadFilter = some benchmarks) :
    (benchmarks.map Benchmark.benchmarkName).Nodup := by
  obtain ⟨dict, chosen, rfl⟩ := Option.map_eq_some_iff.mp selected
  have keyed : target.Keyed dict := by
    split at chosen
    · obtain ⟨workloads, -, chosen⟩ := Option.bind_eq_some_iff.mp chosen
      exact foldlM_induction (fun _ _ _ keyed added => keyed.addWorkload added) keyed_empty chosen
    · obtain ⟨subBenchmarks, -, chosen⟩ := Option.bind_eq_some_iff.mp chosen
      split at chosen
      · cases chosen
        exact keyed_createBenchmarks subBenchmarks
      · exact foldlM_induction (fun _ _ _ keyed added => keyed.addMatching added) keyed_empty chosen
  have keys : dict.entries.map (·.1) =
      ((dict.entries.map (·.2)).map Benchmark.benchmarkName).map fun name =>
        (target.benchmark name).name := by
    rw [List.map_map, List.map_map]
    exact List.map_congr_left keyed
  exact List.Nodup.of_map _ (keys ▸ dict.distinct)

end Target

end Fleetbench.Parallel
