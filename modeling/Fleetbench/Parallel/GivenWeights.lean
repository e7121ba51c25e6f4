/-
This file proves what custom weights as they are written make of the weights
under `WORKLOAD_WEIGHTED`. The strings are read here by their format, and not by
the parser of the code, which skips names with a colon.
-/

import Fleetbench.Parallel.Specs

namespace Fleetbench.Parallel

open Library

/-! ### The weights that are given -/

/-- The weights in a list of strings, under their keywords in upper case. A keyword that is given
again replaces its weight. -/
def givenWeights (python : Python) (strings : List String) : Dict String ℚ :=
  .ofEntries (strings.filterMap (upperSpecOf python))

/-- With different keywords, all weights are kept. -/
theorem entries_givenWeights {python : Python} {strings : List String}
    (keywords : ((strings.filterMap (upperSpecOf python)).map Prod.fst).Nodup) :
    (givenWeights python strings).entries = strings.filterMap (upperSpecOf python) :=
  Dict.entries_ofEntries keywords

theorem exists_isSpec_of_mem {python : Python} {strings : List String} {entry : String × ℚ}
    (member : entry ∈ (givenWeights python strings).entries) :
    ∃ spec ∈ strings, ∃ given, IsSpec python.float spec given ∧
      entry = (python.upper given.1, given.2) := by
  obtain ⟨spec, isString, found⟩ := List.mem_filterMap.mp (Dict.mem_of_mem_ofEntries entry member)
  obtain ⟨given, isGiven, same⟩ := Option.map_eq_some_iff.mp found
  exact ⟨spec, isString, given, specOf_eq_some_iff.mp isGiven, same.symm⟩

/-- If no keyword has a colon, the parser reads what is given. -/
theorem parseBenchmarkWeights_eq_given {python : Python} {strings : List String}
    (plain : ∀ spec ∈ strings, ∀ entry, IsSpec python.float spec entry → ':' ∉ entry.1.toList) :
    python.parseBenchmarkWeights strings = givenWeights python strings := by
  refine congrArg Dict.ofEntries (List.filterMap_congr fun spec member => ?_)
  exact (parseWeight_eq_iff python spec).mpr (plain spec member)

/-! ### The weights of workloads -/

/-- Both runs give the same weights. -/
def SameWeights (first second : Option (Dict String ℚ)) : Prop :=
  ∃ one other, first = some one ∧ second = some other ∧ ∀ name, one.get? name = other.get? name

/-- All workloads count the same, each benchmark has its share of the given weights in its workload,
and no order matters. -/
theorem workloadWeighted_shares (python : Python) (workload : Benchmark → Option String)
    (visited : List String) (dctaxWeights : Dict String ℚ) (benchmarks : List Benchmark)
    (customWeightStrings : List String)
    (distinct : (benchmarks.map Benchmark.benchmarkName).Nodup)
    (assigned : ∀ benchmark ∈ benchmarks, workload benchmark ≠ none) (isSet : visited.Nodup)
    (covers : ∀ name, name ∈ visited ↔ ∃ benchmark ∈ benchmarks, workload benchmark = some name)
    (positive : ∀ spec ∈ customWeightStrings, ∀ entry, IsSpec python.float spec entry →
      0 < entry.2)
    (plain : ∀ spec ∈ customWeightStrings, ∀ entry, IsSpec python.float spec entry →
      ':' ∉ entry.1.toList) :
    (∃ weights, getBenchmarkWeights python workload visited dctaxWeights benchmarks
        .workloadWeighted customWeightStrings = some weights ∧
      WeighsWorkloads python workload benchmarks
        (givenWeights python customWeightStrings).entries weights) ∧
    ∀ order strings, order.Perm visited → strings.Perm customWeightStrings →
      (strings = customWeightStrings ∨
        ((customWeightStrings.filterMap (upperSpecOf python)).map Prod.fst).Nodup) →
      SameWeights
        (getBenchmarkWeights python workload order dctaxWeights benchmarks .workloadWeighted
          strings)
        (getBenchmarkWeights python workload visited dctaxWeights benchmarks .workloadWeighted
          customWeightStrings) := by
  have parsed := parseBenchmarkWeights_eq_given plain
  have entriesPos : ∀ entry ∈ (givenWeights python customWeightStrings).entries, 0 < entry.2 := by
    intro entry member
    obtain ⟨spec, isString, given, isSpec, rfl⟩ := exists_isSpec_of_mem member
    exact positive spec isString given isSpec
  obtain ⟨weights, computes, shares, noOthers⟩ :=
    @getBenchmarkWeights_eq python workload visited dctaxWeights benchmarks customWeightStrings
      distinct assigned isSet covers (parsed ▸ entriesPos)
  rw [parsed] at shares
  refine ⟨⟨weights, computes, weighsWorkloads_of_shares distinct entriesPos shares noOthers⟩,
    fun order strings isOrder isStrings keywords => ?_⟩
  have parsedAgain : python.parseBenchmarkWeights strings = givenWeights python strings :=
    parseBenchmarkWeights_eq_given fun spec member => plain spec (isStrings.subset member)
  have entriesPerm : (givenWeights python strings).entries.Perm
      (givenWeights python customWeightStrings).entries := by
    rcases keywords with rfl | keywords
    · rfl
    · have given := isStrings.filterMap (upperSpecOf python)
      rw [entries_givenWeights keywords,
        entries_givenWeights ((given.map Prod.fst).nodup_iff.mpr keywords)]
      exact given
  obtain ⟨again, computesAgain, sharesAgain, noOthersAgain⟩ :=
    @getBenchmarkWeights_eq python workload order dctaxWeights benchmarks strings distinct assigned
      (isOrder.nodup_iff.mpr isSet) (fun name => isOrder.mem_iff.trans (covers name))
      (parsedAgain ▸ fun entry member => entriesPos entry (entriesPerm.subset member))
  rw [parsedAgain] at sharesAgain
  refine ⟨again, weights, computesAgain, computes, fun name => ?_⟩
  by_cases isName : name ∈ benchmarks.map Benchmark.benchmarkName
  · obtain ⟨benchmark, member, rfl⟩ := List.mem_map.mp isName
    rw [sharesAgain benchmark member, shares benchmark member,
      workloadShare_perm python entriesPerm]
  · rw [noOthersAgain name isName, noOthers name isName]

/-- `Arena` is in the names of two benchmarks, each in a workload of its own. -/
theorem workloadWeighted_shares_three :
    (∃ weights, getBenchmarkWeights asciiPython Benchmark.workload ["Swissmap", "Proto"] .empty
        threeBenchmarks .workloadWeighted ["arena:3", "heap:2", "bm"] = some weights ∧
      WeighsWorkloads asciiPython Benchmark.workload threeBenchmarks
        [("ARENA", 3), ("HEAP", 2)] weights) ∧
    SameWeights
      (getBenchmarkWeights asciiPython Benchmark.workload ["Proto", "Swissmap"] .empty
        threeBenchmarks .workloadWeighted ["bm", "heap:2", "arena:3"])
      (getBenchmarkWeights asciiPython Benchmark.workload ["Swissmap", "Proto"] .empty
        threeBenchmarks .workloadWeighted ["arena:3", "heap:2", "bm"]) := by
  have workloads : threeBenchmarks.map Benchmark.workload =
      [some "Proto", some "Proto", some "Swissmap"] := by
    decide +kernel
  have given : ["arena:3", "heap:2", "bm"].filterMap (upperSpecOf asciiPython) =
      [("ARENA", 3), ("HEAP", 2)] := by
    decide +kernel
  have keywords : (([("ARENA", 3), ("HEAP", 2)] : List (String × ℚ)).map Prod.fst).Nodup := by
    decide
  have entries : (givenWeights asciiPython ["arena:3", "heap:2", "bm"]).entries =
      [("ARENA", 3), ("HEAP", 2)] := by
    rw [entries_givenWeights (by rw [given]; exact keywords), given]
  have wellFormed : ∀ spec ∈ ["arena:3", "heap:2", "bm"], ∀ entry,
      IsSpec asciiPython.float spec entry → 0 < entry.2 ∧ ':' ∉ entry.1.toList := by
    simp only [← specOf_eq_some_iff]
    decide +kernel
  have law := workloadWeighted_shares asciiPython Benchmark.workload ["Swissmap", "Proto"] .empty
    threeBenchmarks ["arena:3", "heap:2", "bm"] (by decide) (by decide +kernel) (by decide)
    (fun name => ?_) (fun spec member entry isSpec => (wellFormed spec member entry isSpec).1)
    (fun spec member entry isSpec => (wellFormed spec member entry isSpec).2)
  · rw [entries] at law
    refine ⟨law.1, law.2 _ _ (by decide) (by decide) (.inr ?_)⟩
    rw [given]
    exact keywords
  · have named : (∃ benchmark ∈ threeBenchmarks, benchmark.workload = some name) ↔
        some name ∈ threeBenchmarks.map Benchmark.workload :=
      List.mem_map.symm
    rw [named, workloads]
    simp only [List.mem_cons, Option.some_inj, List.not_mem_nil, or_false, or_self_left]
    exact or_comm

/-- A keyword that is given twice counts once, with the later weight. -/
theorem not_workloadWeighted_twice :
    (getBenchmarkWeights asciiPython Benchmark.workload ["Proto"] .empty
        [⟨"bench", "BM_Proto_Arena"⟩, ⟨"bench", "BM_Proto_Heap"⟩] .workloadWeighted
        ["arena:2", "ARENA:3"]).map (·.entries) =
      some [("BM_Proto_Arena", 3 / 4), ("BM_Proto_Heap", 1 / 4)] ∧
    ¬ ∃ weights, getBenchmarkWeights asciiPython Benchmark.workload ["Proto"] .empty
        [⟨"bench", "BM_Proto_Arena"⟩, ⟨"bench", "BM_Proto_Heap"⟩] .workloadWeighted
        ["arena:2", "ARENA:3"] = some weights ∧
      WeighsWorkloads asciiPython Benchmark.workload
        [⟨"bench", "BM_Proto_Arena"⟩, ⟨"bench", "BM_Proto_Heap"⟩]
        (["arena:2", "ARENA:3"].filterMap (upperSpecOf asciiPython)) weights := by
  have entries : (getBenchmarkWeights asciiPython Benchmark.workload ["Proto"] .empty
      [⟨"bench", "BM_Proto_Arena"⟩, ⟨"bench", "BM_Proto_Heap"⟩] .workloadWeighted
      ["arena:2", "ARENA:3"]).map (·.entries) =
      some [("BM_Proto_Arena", 3 / 4), ("BM_Proto_Heap", 1 / 4)] := by
    decide +kernel
  refine ⟨entries, fun ⟨weights, computes, weighs⟩ => ?_⟩
  rw [computes] at entries
  have isEntries : weights.entries = [("BM_Proto_Arena", 3 / 4), ("BM_Proto_Heap", 1 / 4)] :=
    Option.some_inj.mp entries
  obtain ⟨one, other, isOne, isOther, ratio⟩ := weighs.ratio _ List.mem_cons_self _
    (List.mem_cons_of_mem _ List.mem_cons_self) (by decide +kernel)
  rw [Dict.get?, isEntries] at isOne isOther
  cases isOne
  cases isOther
  exact absurd ratio (by decide +kernel)

end Fleetbench.Parallel
