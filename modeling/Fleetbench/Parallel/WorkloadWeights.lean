/-
This file proves what the benchmarks weigh under `WORKLOAD_WEIGHTED`: their
shares of the custom weights in their workload. The loops of one workload leave
the weights of the others alone, so the order of the workloads plays no part.
-/

import Fleetbench.Parallel.Weights
import Fleetbench.Library.Shares
import Fleetbench.Library.Traverse
import Mathlib.Algebra.Order.BigOperators.Ring.List

namespace Fleetbench.Parallel

open Library

/-! ### One benchmark -/

/-- The product of the weights whose keyword is in the name of a benchmark. -/
def customWeight (python : Python) (customWeights : List (String × ℚ)) (benchmark : Benchmark) :
    ℚ :=
  ((customWeights.filter fun entry => python.matchesKeyword benchmark entry.1).map Prod.snd).prod

@[simp] theorem customWeight_nil (python : Python) (benchmark : Benchmark) :
    customWeight python [] benchmark = 1 :=
  rfl

theorem customWeight_cons (python : Python) (entry : String × ℚ) (rest : List (String × ℚ))
    (benchmark : Benchmark) :
    customWeight python (entry :: rest) benchmark =
      if python.matchesKeyword benchmark entry.1 then
        entry.2 * customWeight python rest benchmark
      else customWeight python rest benchmark := by
  rw [customWeight, List.filter_cons]
  split
  · rw [List.map_cons, List.prod_cons]
    rfl
  · rfl

theorem customWeight_pos {python : Python} {customWeights : List (String × ℚ)}
    (positive : ∀ entry ∈ customWeights, 0 < entry.2) (benchmark : Benchmark) :
    0 < customWeight python customWeights benchmark := by
  induction customWeights with
  | nil => exact zero_lt_one
  | cons entry rest inductionHypothesis =>
    have restPos := inductionHypothesis fun entry member =>
      positive entry (List.mem_cons_of_mem _ member)
    rw [customWeight_cons]
    split
    · exact mul_pos (positive entry List.mem_cons_self) restPos
    · exact restPos

theorem customWeight_perm (python : Python) {first second : List (String × ℚ)}
    (perm : first.Perm second) (benchmark : Benchmark) :
    customWeight python first benchmark = customWeight python second benchmark :=
  ((perm.filter _).map _).prod_eq

/-- All custom weights that match are multiplied in. -/
theorem scaleBenchmark_updates (python : Python) (customWeights : Dict String ℚ) :
    Dict.Updates (python.scaleBenchmark customWeights) Benchmark.benchmarkName
      fun benchmark old => old * customWeight python customWeights.entries benchmark := by
  intro weights benchmark present
  rw [Python.scaleBenchmark]
  induction customWeights.entries generalizing weights with
  | nil =>
    refine ⟨weights, rfl, fun other => ?_⟩
    simp only [customWeight_nil, mul_one, Option.map_id', ite_self]
  | cons entry rest inductionHypothesis =>
    rw [List.foldlM_cons]
    simp only [customWeight_cons]
    by_cases isMatch : python.matchesKeyword benchmark entry.1 = true
    · simp only [if_pos isMatch]
      obtain ⟨next, stepped, entries⟩ := Dict.updates_set Benchmark.benchmarkName
        (fun _ old => old * entry.2) weights benchmark present
      obtain ⟨scaled, scales, others⟩ :=
        inductionHypothesis next ((Dict.mem_keys_of_changed entries).mpr present)
      refine ⟨scaled, Option.bind_eq_some_iff.mpr ⟨next, stepped, scales⟩, fun other => ?_⟩
      rw [others, entries]
      split
      · rw [Option.map_map]
        refine congrFun (congrArg Option.map ?_) _
        exact funext fun old => mul_assoc old _ _
      · rfl
    · simp only [if_neg isMatch]
      exact inductionHypothesis weights present

/-! ### One workload -/

/-- Every benchmark of a workload starts with an equal share. -/
theorem weighWorkload_settles :
    Dict.Settles weighWorkload Benchmark.benchmarkName (fun _ _ => True)
      fun benchmarks _ => 1 / (benchmarks.length : ℚ) := by
  intro weights benchmarks distinct _
  rw [weighWorkload]
  cases benchmarks with
  | nil => exact ⟨weights, rfl, fun _ member => (nomatch member), fun _ _ => rfl⟩
  | cons first rest =>
    have nonzero : ((first :: rest).length : ℚ) ≠ 0 :=
      Nat.cast_ne_zero.mpr (List.length_pos_of_mem List.mem_cons_self).ne'
    rw [divide_eq_some nonzero]
    exact Dict.foldlM_set distinct (fun _ => 1 / ((first :: rest).length : ℚ)) weights

/-- The share of a benchmark of the custom weights in its workload. -/
def workloadShare (python : Python) (customWeights : List (String × ℚ))
    (benchmarks : List Benchmark) (benchmark : Benchmark) : ℚ :=
  customWeight python customWeights benchmark /
    (benchmarks.map (customWeight python customWeights)).sum

theorem sum_customWeight_nil (python : Python) (benchmarks : List Benchmark) :
    (benchmarks.map (customWeight python [])).sum = (benchmarks.length : ℚ) := by
  have ones : benchmarks.map (customWeight python []) = List.replicate benchmarks.length 1 :=
    List.map_const'
  rw [ones, List.sum_replicate, nsmul_eq_mul, mul_one]

theorem workloadShare_nil (python : Python) (benchmarks : List Benchmark) (benchmark : Benchmark) :
    workloadShare python [] benchmarks benchmark = 1 / (benchmarks.length : ℚ) := by
  rw [workloadShare, sum_customWeight_nil, customWeight_nil]

theorem workloadShare_perm (python : Python) {first second : List (String × ℚ)}
    (perm : first.Perm second) (benchmarks : List Benchmark) (benchmark : Benchmark) :
    workloadShare python first benchmarks benchmark =
      workloadShare python second benchmarks benchmark := by
  have same : customWeight python first = customWeight python second :=
    funext (customWeight_perm python perm)
  rw [workloadShare, workloadShare, same]

section

variable {python : Python} {customWeights : List (String × ℚ)}
  (positive : ∀ entry ∈ customWeights, 0 < entry.2)

include positive

theorem sum_customWeight_pos {benchmarks : List Benchmark} {benchmark : Benchmark}
    (member : benchmark ∈ benchmarks) :
    0 < (benchmarks.map (customWeight python customWeights)).sum := by
  refine List.sum_pos _ (List.forall_mem_map.mpr fun other _ => customWeight_pos positive other) ?_
  exact List.ne_nil_of_mem (List.mem_map_of_mem member)

end

/-- The last loop divides the weights of a workload by their sum. -/
theorem normalise_updates {total : ℚ} (nonzero : total ≠ 0) :
    Dict.Updates (fun (benchmarkWeights : Dict String ℚ) (benchmark : Benchmark) => do
      let old ← benchmarkWeights.get? benchmark.benchmarkName
      let share ← divide old total
      return benchmarkWeights.set benchmark.benchmarkName share) Benchmark.benchmarkName
      fun _ old => old / total := by
  simp only [divide_eq_some nonzero]
  exact Dict.updates_set Benchmark.benchmarkName fun _ old => old / total

/-- The custom weights of a workload of several benchmarks cancel out. -/
def SumsToZero (python : Python) (customWeights : List (String × ℚ))
    (benchmarks : List Benchmark) : Prop :=
  benchmarks ≠ [] ∧ benchmarks.length ≠ 1 ∧
    (benchmarks.map (customWeight python customWeights)).sum = 0

section

variable {python : Python} {customWeights weights : Dict String ℚ} {benchmarks : List Benchmark}
  (distinct : (benchmarks.map Benchmark.benchmarkName).Nodup)
  (ready : ∀ benchmark ∈ benchmarks,
    weights.get? benchmark.benchmarkName = some (1 / (benchmarks.length : ℚ)))

include distinct ready

/-- Before they are divided, the weights are the custom weights, all scaled alike. -/
theorem scaleWorkload_eq :
    ∃ scaled, benchmarks.foldlM (python.scaleBenchmark customWeights) weights = some scaled ∧
      (∀ benchmark ∈ benchmarks, scaled.get? benchmark.benchmarkName =
        some (1 / (benchmarks.length : ℚ) *
          customWeight python customWeights.entries benchmark)) ∧
      ∀ other, other ∉ benchmarks.map Benchmark.benchmarkName →
        scaled.get? other = weights.get? other := by
  obtain ⟨scaled, scales, products, unscaled⟩ :=
    Dict.foldlM_updates (scaleBenchmark_updates python customWeights) distinct
      fun benchmark member => Dict.get?_isSome_iff.mp ⟨_, ready benchmark member⟩
  refine ⟨scaled, scales, fun benchmark member => ?_, unscaled⟩
  rw [products benchmark member, ready benchmark member, Option.map_some]

/-- If the custom weights cancel out, the first division is by zero. -/
theorem updateWorkload_eq_none (zero : SumsToZero python customWeights.entries benchmarks) :
    python.updateWorkload customWeights weights benchmarks = none := by
  obtain ⟨nonempty, several, noSum⟩ := zero
  obtain ⟨scaled, scales, products, -⟩ := @scaleWorkload_eq python customWeights _ _ distinct ready
  rw [Python.updateWorkload, if_neg several, scales, Option.bind_eq_bind, Option.bind_some,
    mapM_eq_some_map products, Option.bind_eq_bind, Option.bind_some, List.sum_map_mul_left, noSum,
    mul_zero]
  cases benchmarks with
  | nil => exact absurd rfl nonempty
  | cons first rest =>
    rw [List.foldlM_cons, products first List.mem_cons_self]
    rfl

end

/-- What a benchmark weighs in the end; one on its own keeps its weight. -/
def settledWeight (python : Python) (customWeights : List (String × ℚ))
    (benchmarks : List Benchmark) (benchmark : Benchmark) : ℚ :=
  if benchmarks.length = 1 then 1 else workloadShare python customWeights benchmarks benchmark

/-- The updates of one workload turn equal shares into shares of the custom weights, unless it has
one benchmark only. -/
theorem updateWorkload_settles_or (python : Python) (customWeights : Dict String ℚ) :
    Dict.Settles (python.updateWorkload customWeights) Benchmark.benchmarkName
      (fun benchmarks weight => weight = some (1 / (benchmarks.length : ℚ)) ∧
        ¬ SumsToZero python customWeights.entries benchmarks)
      (settledWeight python customWeights.entries) := by
  intro weights benchmarks distinct ready
  rw [Python.updateWorkload]
  split
  · rename_i single
    refine ⟨weights, rfl, fun benchmark member => ?_, fun _ _ => rfl⟩
    rw [(ready benchmark member).1, settledWeight, if_pos single, single, Nat.cast_one, div_one]
  · rename_i several
    cases benchmarks with
    | nil =>
      refine ⟨weights, rfl, fun benchmark member => ?_, fun _ _ => rfl⟩
      cases member
    | cons first rest =>
      have nonempty := List.cons_ne_nil first rest
      have noZero := (ready first List.mem_cons_self).2
      generalize first :: rest = benchmarks at *
      have atLeastOne : (benchmarks.length : ℚ) ≠ 0 :=
        Nat.cast_ne_zero.mpr (List.length_pos_iff.mpr nonempty).ne'
      obtain ⟨scaled, scales, products, unscaled⟩ := @scaleWorkload_eq python customWeights _ _
        distinct fun benchmark member => (ready benchmark member).1
      have sum := List.sum_map_mul_left benchmarks
        (customWeight python customWeights.entries) (1 / (benchmarks.length : ℚ))
      have nonzero := mul_ne_zero (one_div_ne_zero atLeastOne)
        fun zero => noZero ⟨nonempty, several, zero⟩
      rw [← sum] at nonzero
      obtain ⟨settled, settles, quotients, unchanged⟩ :=
        Dict.foldlM_updates (normalise_updates nonzero) distinct
          fun benchmark member => Dict.get?_isSome_iff.mp ⟨_, products benchmark member⟩
      rw [scales, Option.bind_eq_bind, Option.bind_some, mapM_eq_some_map products,
        Option.bind_eq_bind, Option.bind_some]
      refine ⟨settled, settles, fun benchmark member => ?_, fun other outside => ?_⟩
      · rw [quotients benchmark member, products benchmark member, Option.map_some, sum,
          mul_div_mul_left _ _ (one_div_ne_zero atLeastOne), settledWeight, if_neg several,
          workloadShare]
      · rw [unchanged other outside, unscaled other outside]

/-- Positive weights do not cancel out, and a benchmark on its own has the whole share. -/
theorem updateWorkload_settles {python : Python} {customWeights : Dict String ℚ}
    (positive : ∀ entry ∈ customWeights.entries, 0 < entry.2) :
    Dict.Settles (python.updateWorkload customWeights) Benchmark.benchmarkName
      (fun benchmarks weight => weight = some (1 / (benchmarks.length : ℚ)))
      (workloadShare python customWeights.entries) := by
  intro weights benchmarks distinct ready
  have sumPos := fun benchmark member =>
    @sum_customWeight_pos python _ positive benchmarks benchmark member
  obtain ⟨settled, settles, values, unchanged⟩ :=
    updateWorkload_settles_or python customWeights weights benchmarks distinct
      fun benchmark member => ⟨ready benchmark member, fun zero =>
        (sumPos benchmark member).ne' zero.2.2⟩
  refine ⟨settled, settles, fun benchmark member => (values benchmark member).trans ?_, unchanged⟩
  rw [settledWeight]
  split
  · rename_i single
    obtain ⟨only, rfl⟩ := List.length_eq_one_iff.mp single
    have nonzero := (@customWeight_pos python _ positive benchmark).ne'
    rw [workloadShare]
    rw [List.mem_singleton.mp member] at nonzero ⊢
    rw [List.map_singleton, List.sum_singleton, div_self nonzero]
  · rfl

/-! ### All workloads -/

/-- The benchmarks of a workload. -/
def benchmarksOf (workload : Benchmark → Option String) (benchmarks : List Benchmark)
    (name : Option String) : List Benchmark :=
  benchmarks.filter fun benchmark => workload benchmark = name

theorem mem_benchmarksOf {workload : Benchmark → Option String} {benchmarks : List Benchmark}
    {name : Option String} {benchmark : Benchmark} :
    benchmark ∈ benchmarksOf workload benchmarks name ↔
      benchmark ∈ benchmarks ∧ workload benchmark = name := by
  rw [benchmarksOf, List.mem_filter, decide_eq_true_iff]

section

variable {python : Python} {workload : Benchmark → Option String} {visited : List String}
  {dctaxWeights : Dict String ℚ} {benchmarks : List Benchmark} {customWeightStrings : List String}
  (distinct : (benchmarks.map Benchmark.benchmarkName).Nodup)
  (assigned : ∀ benchmark ∈ benchmarks, workload benchmark ≠ none)
  (isSet : visited.Nodup)
  (covers : ∀ name, name ∈ visited ↔ ∃ benchmark ∈ benchmarks, workload benchmark = some name)

include distinct isSet

/-- No benchmark is in two workloads. -/
theorem nodup_groups :
    ((visited.map fun name => benchmarksOf workload benchmarks (some name)).flatten.map
      Benchmark.benchmarkName).Nodup := by
  have apart : (visited.map fun name => benchmarksOf workload benchmarks (some name)).Pairwise
      List.Disjoint := by
    rw [List.pairwise_map]
    refine isSet.imp fun {first second} different benchmark inFirst inSecond => different ?_
    rw [mem_benchmarksOf] at inFirst inSecond
    exact Option.some_inj.mp (inFirst.2.symm.trans inSecond.2)
  refine List.Nodup.map_on ?_ (List.nodup_flatten.mpr ⟨?_, apart⟩)
  · intro first inFirst second inSecond same
    obtain ⟨firstGroup, isGroup, inFirst⟩ := List.mem_flatten.mp inFirst
    obtain ⟨secondGroup, isGroup', inSecond⟩ := List.mem_flatten.mp inSecond
    obtain ⟨_, -, rfl⟩ := List.mem_map.mp isGroup
    obtain ⟨_, -, rfl⟩ := List.mem_map.mp isGroup'
    exact List.inj_on_of_nodup_map distinct (mem_benchmarksOf.mp inFirst).1
      (mem_benchmarksOf.mp inSecond).1 same
  · rw [List.forall_mem_map]
    exact fun name _ => (distinct.of_map _).filter _

omit distinct isSet

theorem mem_names_of_mem_flatten {other : String}
    (member : other ∈ (visited.map fun name =>
      benchmarksOf workload benchmarks (some name)).flatten.map Benchmark.benchmarkName) :
    other ∈ benchmarks.map Benchmark.benchmarkName := by
  obtain ⟨benchmark, inGroups, rfl⟩ := List.mem_map.mp member
  obtain ⟨group, isGroup, inGroup⟩ := List.mem_flatten.mp inGroups
  obtain ⟨name, -, rfl⟩ := List.mem_map.mp isGroup
  exact List.mem_map_of_mem (mem_benchmarksOf.mp inGroup).1

include assigned

/-- Before the custom weights are looked at, the benchmarks of each workload weigh the same. -/
theorem exists_equal (distinct : (benchmarks.map Benchmark.benchmarkName).Nodup)
    (isSet : visited.Nodup) : ∃ equal : Dict String ℚ,
      getBenchmarkWeights python workload visited dctaxWeights benchmarks .workloadWeighted
          customWeightStrings =
        (if (python.parseBenchmarkWeights customWeightStrings).entries ≠ [] then
          python.updateWorkloadWeights equal
            (visited.map fun name => benchmarksOf workload benchmarks (some name))
            (python.parseBenchmarkWeights customWeightStrings)
        else some equal) ∧
      (∀ group ∈ visited.map fun name => benchmarksOf workload benchmarks (some name),
        ∀ benchmark ∈ group, equal.get? benchmark.benchmarkName =
          some (1 / (group.length : ℚ))) ∧
      ∀ other, other ∉ (visited.map fun name =>
        benchmarksOf workload benchmarks (some name)).flatten.map Benchmark.benchmarkName →
          equal.get? other = none := by
  obtain ⟨equal, weighs, equals, noOthers⟩ :=
    weighWorkload_settles.foldlM (@nodup_groups workload _ _ distinct isSet) .empty
      fun _ _ _ _ => trivial
  have workloads : ¬ ∃ benchmark ∈ benchmarks, workload benchmark = none :=
    fun ⟨benchmark, member, isNone⟩ => assigned benchmark member isNone
  refine ⟨equal, ?_, equals, noOthers⟩
  rw [getBenchmarkWeights]
  simp only [if_neg workloads]
  exact (congrArg (Option.bind · _) weighs).trans (Option.bind_some _ _)

include covers

theorem benchmarksOf_mem_groups {benchmark : Benchmark} (member : benchmark ∈ benchmarks) :
    benchmarksOf workload benchmarks (workload benchmark) ∈
        visited.map (fun name => benchmarksOf workload benchmarks (some name)) ∧
      benchmark ∈ benchmarksOf workload benchmarks (workload benchmark) := by
  obtain ⟨name, isWorkload⟩ := Option.ne_none_iff_exists'.mp (assigned benchmark member)
  refine ⟨List.mem_map.mpr ⟨name, (covers name).mpr ⟨benchmark, member, isWorkload⟩, ?_⟩,
    mem_benchmarksOf.mpr ⟨member, rfl⟩⟩
  rw [isWorkload]

include distinct isSet

/-- Every benchmark weighs its share of the custom weights in its workload. -/
theorem getBenchmarkWeights_eq (positive : ∀ entry ∈ (python.parseBenchmarkWeights
      customWeightStrings).entries, 0 < entry.2) :
    ∃ weights, getBenchmarkWeights python workload visited dctaxWeights benchmarks
        .workloadWeighted customWeightStrings = some weights ∧
      (∀ benchmark ∈ benchmarks, weights.get? benchmark.benchmarkName =
        some (workloadShare python (python.parseBenchmarkWeights customWeightStrings).entries
          (benchmarksOf workload benchmarks (workload benchmark)) benchmark)) ∧
      ∀ other, other ∉ benchmarks.map Benchmark.benchmarkName → weights.get? other = none := by
  obtain ⟨equal, computes, equals, noOthers⟩ :=
    @exists_equal python _ _ dctaxWeights _ customWeightStrings assigned distinct isSet
  rw [computes]
  generalize python.parseBenchmarkWeights customWeightStrings = customWeights at positive ⊢
  by_cases noCustom : customWeights.entries = []
  · refine ⟨equal, if_neg (not_not.mpr noCustom), fun benchmark member => ?_,
      fun other outside => ?_⟩
    · obtain ⟨isGroup, inGroup⟩ := benchmarksOf_mem_groups assigned covers member
      rw [equals _ isGroup _ inGroup, noCustom, workloadShare_nil]
    · exact noOthers other fun inGroups => outside (mem_names_of_mem_flatten inGroups)
  · obtain ⟨settled, settles, shares, unchanged⟩ :=
      (@updateWorkload_settles python _ positive).foldlM
        (@nodup_groups workload _ _ distinct isSet) equal
        fun group isGroup benchmark inGroup => equals group isGroup benchmark inGroup
    refine ⟨settled, (if_pos noCustom).trans settles, fun benchmark member => ?_,
      fun other outside => ?_⟩
    · obtain ⟨isGroup, inGroup⟩ := benchmarksOf_mem_groups assigned covers member
      exact shares _ isGroup _ inGroup
    · have outGroups := fun inGroups =>
        outside (@mem_names_of_mem_flatten workload visited _ _ inGroups)
      rw [unchanged other outGroups]
      exact noOthers other outGroups

end

/-- What the weights of benchmarks have to be if all workloads count the same. -/
structure WeighsWorkloads (python : Python) (workload : Benchmark → Option String)
    (benchmarks : List Benchmark) (customWeights : List (String × ℚ)) (weights : Dict String ℚ) :
    Prop where
  keys : weights.keys.Perm (benchmarks.map Benchmark.benchmarkName)
  positive : ∀ entry ∈ weights.entries, 0 < entry.2
  total : ∀ first ∈ benchmarks, ∃ values,
    (benchmarksOf workload benchmarks (workload first)).mapM
        (fun benchmark => weights.get? benchmark.benchmarkName) = some values ∧ values.sum = 1
  ratio : ∀ first ∈ benchmarks, ∀ second ∈ benchmarks, workload first = workload second →
    ∃ one other, weights.get? first.benchmarkName = some one ∧
      weights.get? second.benchmarkName = some other ∧
      one / other = customWeight python customWeights first /
        customWeight python customWeights second

section

variable {python : Python} {workload : Benchmark → Option String} {benchmarks : List Benchmark}
  {customWeights : List (String × ℚ)} {weights : Dict String ℚ}
  (distinct : (benchmarks.map Benchmark.benchmarkName).Nodup)
  (positive : ∀ entry ∈ customWeights, 0 < entry.2)
  (shares : ∀ benchmark ∈ benchmarks, weights.get? benchmark.benchmarkName =
    some (workloadShare python customWeights
      (benchmarksOf workload benchmarks (workload benchmark)) benchmark))
  (noOthers : ∀ other, other ∉ benchmarks.map Benchmark.benchmarkName → weights.get? other = none)

include distinct positive shares noOthers

theorem weighsWorkloads_of_shares :
    WeighsWorkloads python workload benchmarks customWeights weights := by
  have sumPos : ∀ benchmark ∈ benchmarks, 0 < ((benchmarksOf workload benchmarks
      (workload benchmark)).map (customWeight python customWeights)).sum :=
    fun benchmark member => sum_customWeight_pos positive (mem_benchmarksOf.mpr ⟨member, rfl⟩)
  have named : ∀ name, name ∈ weights.keys ↔ name ∈ benchmarks.map Benchmark.benchmarkName := by
    intro name
    constructor
    · intro inside
      by_contra outside
      exact Dict.get?_eq_none_iff.mp (noOthers name outside) inside
    · intro member
      obtain ⟨benchmark, inside, rfl⟩ := List.mem_map.mp member
      exact Dict.get?_isSome_iff.mp ⟨_, shares benchmark inside⟩
  constructor
  case keys => exact (List.perm_ext_iff_of_nodup weights.distinct distinct).mpr named
  case positive =>
    rintro ⟨name, weight⟩ member
    have isName := (named name).mp (List.mem_map_of_mem member)
    obtain ⟨benchmark, inside, rfl⟩ := List.mem_map.mp isName
    have isWeight := Dict.get?_eq_some_iff.mpr member
    rw [shares benchmark inside] at isWeight
    cases isWeight
    exact div_pos (customWeight_pos positive benchmark) (sumPos benchmark inside)
  case total =>
    intro first member
    refine ⟨(benchmarksOf workload benchmarks (workload first)).map (workloadShare python
      customWeights (benchmarksOf workload benchmarks (workload first))),
      mapM_eq_some_map fun benchmark inside => ?_, ?_⟩
    · obtain ⟨isBenchmark, same⟩ := mem_benchmarksOf.mp inside
      rw [shares benchmark isBenchmark, same]
    · have sum := sum_shares (sumPos first member).ne'
      rw [Library.shares, List.map_map] at sum
      exact sum
  case ratio =>
    intro first isFirst second isSecond same
    refine ⟨_, _, shares first isFirst, shares second isSecond, ?_⟩
    rw [← same, workloadShare, workloadShare]
    exact div_div_div_cancel_right₀ (sumPos first isFirst).ne' _ _

end

/-- Upper case for ASCII letters, and numbers with one digit. -/
def asciiPython : Python where
  upper string := String.ofList (string.toList.map Char.toUpper)
  float string :=
    match string.toList with
    | [digit] => if digit.isDigit then some ((digit.toNat - '0'.toNat : Nat) : ℚ) else none
    | _ => none

def threeBenchmarks : List Benchmark :=
  [⟨"bench", "BM_Proto_Arena"⟩, ⟨"bench", "BM_Proto_Heap"⟩, ⟨"bench", "BM_Swissmap_Arena"⟩]

end Fleetbench.Parallel
