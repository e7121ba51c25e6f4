/-
This file proves when every selected benchmark finds its weight. Two strategies
build their weights from the selected benchmarks. The third reads a fixed file,
which knows only some names.
-/

import Fleetbench.Parallel.Selection
import Fleetbench.Parallel.BenchmarkWeights

namespace Fleetbench.Parallel

open Library

/-- Every selected benchmark has a weight, so the target ratios can be looked up. -/
def FindsWeights (benchmarks : List Benchmark) (weights : Dict String ℚ) : Prop :=
  (∀ benchmark ∈ benchmarks, benchmark.benchmarkName ∈ weights.keys) ∧
    ∃ ratios, targetRatios weights benchmarks = some ratios

theorem findsWeights_iff {benchmarks : List Benchmark} {weights : Dict String ℚ} :
    FindsWeights benchmarks weights ↔
      ∀ benchmark ∈ benchmarks, benchmark.benchmarkName ∈ weights.keys := by
  refine and_iff_left_of_imp fun present => mapM_isSome_iff.mpr fun benchmark member => ?_
  exact Dict.get?_isSome_iff.mpr (present benchmark member)

/-! ### Workloads -/

theorem not_sumsToZero_nil (python : Python) (benchmarks : List Benchmark) :
    ¬ SumsToZero python [] benchmarks := by
  rintro ⟨nonempty, -, zero⟩
  rw [sum_customWeight_nil] at zero
  exact nonempty (List.length_eq_zero_iff.mp (Nat.cast_eq_zero.mp zero))

section

variable {python : Python} {workload : Benchmark → Option String} {visited : List String}
  {dctaxWeights : Dict String ℚ} {benchmarks : List Benchmark} {strings : List String}
  (distinct : (benchmarks.map Benchmark.benchmarkName).Nodup) (isSet : visited.Nodup)

include distinct isSet

/-- With a workload for each benchmark, `GetBenchmarkWeights` returns unless custom weights cancel
out, and what it returns has all benchmarks. -/
theorem workloadWeighted_returns
    (assigned : ∀ benchmark ∈ benchmarks, workload benchmark ≠ none)
    (covers : ∀ name, name ∈ visited ↔ ∃ benchmark ∈ benchmarks, workload benchmark = some name) :
    ((getBenchmarkWeights python workload visited dctaxWeights benchmarks .workloadWeighted
        strings).isSome = true ↔ ∀ name ∈ visited,
      ¬ SumsToZero python (python.parseBenchmarkWeights strings).entries
        (benchmarksOf workload benchmarks (some name))) ∧
    ∀ weights, getBenchmarkWeights python workload visited dctaxWeights benchmarks
      .workloadWeighted strings = some weights → FindsWeights benchmarks weights := by
  have groupsDistinct := @nodup_groups workload _ _ distinct isSet
  obtain ⟨equal, computes, equals, -⟩ :=
    @exists_equal python _ _ dctaxWeights _ strings assigned distinct isSet
  rw [computes]
  generalize python.parseBenchmarkWeights strings = customWeights
  by_cases noCustom : customWeights.entries = []
  · rw [if_neg (not_not.mpr noCustom), noCustom]
    refine ⟨⟨fun _ _ _ => not_sumsToZero_nil python _, fun _ => rfl⟩, fun weights same => ?_⟩
    cases same
    refine findsWeights_iff.mpr fun benchmark member => ?_
    obtain ⟨isGroup, inGroup⟩ := benchmarksOf_mem_groups assigned covers member
    exact Dict.get?_isSome_iff.mp ⟨_, equals _ isGroup _ inGroup⟩
  · rw [if_pos noCustom]
    have returns := (updateWorkload_settles_or python customWeights).foldlM_isSome_iff
      (fun _ _ distinct ready => updateWorkload_eq_none distinct ready) groupsDistinct equal
      fun group isGroup benchmark inGroup => equals group isGroup benchmark inGroup
    refine ⟨returns.trans List.forall_mem_map, fun weights computes => ?_⟩
    obtain ⟨settled, settles, values, -⟩ := (updateWorkload_settles_or python customWeights).foldlM
      groupsDistinct equal fun group isGroup benchmark inGroup =>
        ⟨equals group isGroup benchmark inGroup,
          returns.mp (Option.isSome_iff_exists.mpr ⟨weights, computes⟩) group isGroup⟩
    cases settles.symm.trans computes
    refine findsWeights_iff.mpr fun benchmark member => ?_
    obtain ⟨isGroup, inGroup⟩ := benchmarksOf_mem_groups assigned covers member
    exact Dict.get?_isSome_iff.mp ⟨_, values _ isGroup _ inGroup⟩

end

/-- What `GetDCTaxWeights` reads from `weights.csv`. -/
def weightsCsv : Dict String ℚ :=
  .ofKeys ["BM_PROTO_Arena",
    "BM_SWISSMAP_InsertMiss_Hot<::absl::flat_hash_set, 64>/set_size:64/density:0",
    "BM_SWISSMAP_InsertMiss_Cold<::absl::flat_hash_set, 64>/set_size:64/density:0",
    "BM_LIBC_Memcpy_Fleet_LLC",
    "BM_LIBC_Memcpy_Fleet_Cold",
    "BM_LIBC_Memset_Fleet_LLC",
    "BM_LIBC_Memset_Fleet_Cold",
    "BM_LIBC_Memmove_Fleet_LLC",
    "BM_LIBC_Memmove_Fleet_Cold",
    "BM_LIBC_Memcmp_Fleet_LLC",
    "BM_LIBC_Memcmp_Fleet_Cold",
    "BM_LIBC_Bcmp_Fleet_LLC",
    "BM_LIBC_Bcmp_Fleet_Cold",
    "BM_TCMALLOC_5/real_time/threads:1",
    "BM_HASHING_Computecrc32c_Fleet_cold",
    "BM_HASHING_Extendcrc32cinternal_Fleet_cold",
    "BM_HASHING_Combine_contiguous_Fleet_cold",
    "BM_COMPRESSION_Brotli_COMPRESS_Fleet/compression_level:2/window_log:18",
    "BM_COMPRESSION_Brotli_DECOMPRESS_Fleet/compression_level:2/window_log:18",
    "BM_COMPRESSION_Flate_COMPRESS_Fleet/compression_level:6/window_log:15",
    "BM_COMPRESSION_Flate_DECOMPRESS_Fleet/compression_level:6/window_log:15",
    "BM_COMPRESSION_Snappy_COMPRESS_Fleet",
    "BM_COMPRESSION_Snappy_DECOMPRESS_Fleet",
    "BM_COMPRESSION_ZSTD_COMPRESS_Fleet/compression_level:-1/window_log:15",
    "BM_COMPRESSION_ZSTD_DECOMPRESS_Fleet/compression_level:0/window_log:0",
    "BM_CORD_Fleet"]
    (by decide +kernel) fun _ => 1

/-- The conditions under which `GetBenchmarkWeights` raises nothing. -/
def Returns (python : Python) (visited : List String) (benchmarks : List Benchmark)
    (strategy : SchedulingStrategy) (strings : List String) : Prop :=
  strategy = .workloadWeighted →
    (∀ benchmark ∈ benchmarks, benchmark.workload ≠ none) ∧ ∀ name ∈ visited,
      ¬ SumsToZero python (python.parseBenchmarkWeights strings).entries
        (benchmarksOf Benchmark.workload benchmarks (some name))

/-- For every selection, the weights that are returned have all benchmarks unless the strategy reads
them from a file in which one is missing. They are returned unless a benchmark has no workload or
the custom weights of a workload cancel out. -/
theorem findsWeights_iff_inFile (python : Python) (target : Target)
    (benchmarkFilter workloadFilter : List String) (benchmarks : List Benchmark)
    (selected : target.selectBenchmarks python benchmarkFilter workloadFilter = some benchmarks)
    (visited : List String) (isSet : visited.Nodup)
    (covers : ∀ name, name ∈ visited ↔
      ∃ benchmark ∈ benchmarks, benchmark.workload = some name)
    (dctaxWeights : Dict String ℚ) (strategy : SchedulingStrategy) (strings : List String) :
    ((∀ weights, getBenchmarkWeights python Benchmark.workload visited dctaxWeights benchmarks
        strategy strings = some weights → FindsWeights benchmarks weights) ↔
      (strategy = .dctaxWeighted →
        ∀ benchmark ∈ benchmarks, benchmark.benchmarkName ∈ dctaxWeights.keys)) ∧
    ((getBenchmarkWeights python Benchmark.workload visited dctaxWeights benchmarks strategy
        strings).isSome = true ↔ Returns python visited benchmarks strategy strings) := by
  have distinct := Target.selectBenchmarks_distinct selected
  cases strategy with
  | bmWeighted =>
    refine ⟨iff_of_true (fun weights computes => ?_) nofun, iff_of_true rfl nofun⟩
    obtain ⟨weights', computes', keys, -⟩ :=
      bmWeighted_eq python Benchmark.workload visited dctaxWeights benchmarks strings
    cases computes'.symm.trans computes
    exact findsWeights_iff.mpr fun benchmark member =>
      (keys _).mpr (.inl (List.mem_map_of_mem member))
  | workloadWeighted =>
    by_cases assigned : ∀ benchmark ∈ benchmarks, benchmark.workload ≠ none
    · obtain ⟨returns, finds⟩ := @workloadWeighted_returns python Benchmark.workload visited
        dctaxWeights benchmarks strings distinct isSet assigned covers
      refine ⟨iff_of_true finds nofun, returns.trans ?_⟩
      exact ⟨fun sums _ => ⟨assigned, sums⟩, fun both => (both rfl).2⟩
    · have raises : getBenchmarkWeights python Benchmark.workload visited dctaxWeights benchmarks
          .workloadWeighted strings = none := by
        refine if_pos ?_
        by_contra none
        exact assigned fun benchmark member isNone => none ⟨benchmark, member, isNone⟩
      rw [raises]
      exact ⟨iff_of_true nofun nofun, iff_of_false nofun fun both => assigned (both rfl).1⟩
  | dctaxWeighted =>
    refine ⟨⟨fun finds _ => findsWeights_iff.mp (finds dctaxWeights rfl),
      fun inFile weights same => ?_⟩, iff_of_true rfl nofun⟩
    cases same
    exact findsWeights_iff.mpr (inFile rfl)

/-- A binary with three benchmarks. The first is not among the default ones. -/
def libcTarget : Target where
  name := "fleetbench"
  listTests
    | "multi" => some ["BM_LIBC_Memcpy_Fleet_Cold", "BM_PROTO_Arena"]
    | "all" => some ["BM_LIBC_Memcpy_Fleet_L1", "BM_LIBC_Memcpy_Fleet_Cold", "BM_PROTO_Arena"]
    | "BM_LIBC" => some ["BM_LIBC_Memcpy_Fleet_L1", "BM_LIBC_Memcpy_Fleet_Cold"]
    | _ => some []

theorem findsWeights_iff_inFile_default :
    getBenchmarkWeights asciiPython Benchmark.workload ["LIBC", "PROTO"] weightsCsv
        (["BM_LIBC_Memcpy_Fleet_Cold", "BM_PROTO_Arena"].map libcTarget.benchmark) .dctaxWeighted
        ["proto:x"] = some weightsCsv ∧
      FindsWeights (["BM_LIBC_Memcpy_Fleet_Cold", "BM_PROTO_Arena"].map libcTarget.benchmark)
        weightsCsv := by
  have workloads : (["BM_LIBC_Memcpy_Fleet_Cold", "BM_PROTO_Arena"].map
      libcTarget.benchmark).map Benchmark.workload = [some "LIBC", some "PROTO"] := by
    decide +kernel
  have finds := findsWeights_iff_inFile asciiPython libcTarget [] []
    (["BM_LIBC_Memcpy_Fleet_Cold", "BM_PROTO_Arena"].map libcTarget.benchmark) (by decide +kernel)
    ["LIBC", "PROTO"] (by decide) (fun name => by
      rw [← List.mem_map (f := Benchmark.workload), workloads]
      simp only [List.mem_cons, Option.some_inj, List.not_mem_nil, or_false])
    weightsCsv .dctaxWeighted ["proto:x"]
  exact ⟨rfl, finds.1.mpr (fun _ => by decide +kernel) weightsCsv rfl⟩

/-- A benchmark outside of the default ones has no weight in the file. -/
theorem not_findsWeights_libc :
    libcTarget.selectBenchmarks asciiPython [] ["libc,Memcpy"] =
        some (["BM_LIBC_Memcpy_Fleet_L1", "BM_LIBC_Memcpy_Fleet_Cold"].map
          libcTarget.benchmark) ∧
      getBenchmarkWeights asciiPython Benchmark.workload ["LIBC"] weightsCsv
        (["BM_LIBC_Memcpy_Fleet_L1", "BM_LIBC_Memcpy_Fleet_Cold"].map libcTarget.benchmark)
        .dctaxWeighted [] = some weightsCsv ∧
      targetRatios weightsCsv
        (["BM_LIBC_Memcpy_Fleet_L1", "BM_LIBC_Memcpy_Fleet_Cold"].map libcTarget.benchmark) =
        none ∧
      ¬ FindsWeights
        (["BM_LIBC_Memcpy_Fleet_L1", "BM_LIBC_Memcpy_Fleet_Cold"].map libcTarget.benchmark)
        weightsCsv := by
  have missing : targetRatios weightsCsv (["BM_LIBC_Memcpy_Fleet_L1",
      "BM_LIBC_Memcpy_Fleet_Cold"].map libcTarget.benchmark) = none := by
    decide +kernel
  refine ⟨by decide +kernel, rfl, missing, ?_⟩
  rintro ⟨-, ratios, found⟩
  cases missing.symm.trans found

end Fleetbench.Parallel
