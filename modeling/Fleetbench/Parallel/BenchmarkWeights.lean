/-
This file proves when custom weights take effect under `BM_WEIGHTED`. There the
upper-cased keywords are looked up as names: one that is no name is added as a
name of its own, and a benchmark is found by its whole name only. A keyword with
a colon is not read at all.
-/

import Fleetbench.Parallel.GivenWeights

namespace Fleetbench.Parallel

open Library

/-- The custom weights whose keyword is in the name of a benchmark. -/
def matchingWeights (python : Python) (customWeights : Dict String ℚ) (benchmark : Benchmark) :
    List (String × ℚ) :=
  customWeights.entries.filter fun entry => python.matchesKeyword benchmark entry.1

/-- A benchmark has the one custom weight that matches, or `1` if none does. -/
def IsExpected (python : Python) (customWeights : Dict String ℚ) (benchmark : Benchmark)
    (weight : ℚ) : Prop :=
  (∀ entry, matchingWeights python customWeights benchmark = [entry] → weight = entry.2) ∧
    (matchingWeights python customWeights benchmark = [] → weight = 1)

/-- The weights are those of the benchmarks, and the target ratios are as expected. -/
structure TakesEffect (python : Python) (benchmarks : List Benchmark)
    (customWeights benchmarkWeights : Dict String ℚ) : Prop where
  keys : ∀ name, name ∈ benchmarkWeights.keys ↔ name ∈ benchmarks.map Benchmark.benchmarkName
  ratios : ∃ ratios, targetRatios benchmarkWeights benchmarks = some ratios ∧
    List.Forall₂ (fun benchmark ratio =>
      benchmarkWeights.get? benchmark.benchmarkName = some ratio ∧
        IsExpected python customWeights benchmark ratio) benchmarks ratios

/-- Every keyword without a colon is the name of a benchmark. Where a keyword is all that matches,
it has no colon and is the whole name, or it weighs `1`. -/
def NamesBenchmarks (python : Python) (benchmarks : List Benchmark)
    (customWeights : Dict String ℚ) : Prop :=
  (∀ keyword ∈ customWeights.keys, ':' ∉ keyword.toList →
      keyword ∈ benchmarks.map Benchmark.benchmarkName) ∧
    ∀ benchmark ∈ benchmarks, ∀ entry, matchingWeights python customWeights benchmark = [entry] →
      (':' ∉ entry.1.toList ∧ entry.1 = benchmark.benchmarkName) ∨ entry.2 = 1

/-- What is relied on of `str.upper`. -/
structure Python.Uppers (python : Python) : Prop where
  upper_upper : ∀ text, python.upper (python.upper text) = python.upper text
  colon : ∀ text, ':' ∈ (python.upper text).toList ↔ ':' ∈ text.toList

/-- The parser reads what is given under keywords without a colon. -/
theorem get?_parseBenchmarkWeights {python : Python} (uppers : python.Uppers)
    (strings : List String) (name : String) :
    (python.parseBenchmarkWeights strings).get? name =
      if ':' ∉ name.toList then (givenWeights python strings).get? name else none := by
  have read : strings.filterMap python.parseWeight =
      (strings.filterMap (upperSpecOf python)).filter fun entry =>
        decide (':' ∉ entry.1.toList) := by
    rw [List.filter_filterMap]
    refine List.filterMap_congr fun spec _ => ?_
    rw [parseWeight_eq, upperSpecOf]
    cases specOf python.float spec with
    | none => rfl
    | some entry =>
      rw [Option.bind_some, Option.map_some, Option.filter_some]
      simp only [uppers.colon, decide_not, Bool.not_eq_true', decide_eq_false_iff_not, ite_not]
  rw [Python.parseBenchmarkWeights, read,
    Dict.get?_ofEntries_filter fun keyword : String => decide (':' ∉ keyword.toList)]
  simp only [decide_eq_true_eq]
  rfl

theorem mem_keys_parseBenchmarkWeights {python : Python} (uppers : python.Uppers)
    {strings : List String} {name : String} :
    name ∈ (python.parseBenchmarkWeights strings).keys ↔
      ':' ∉ name.toList ∧ name ∈ (givenWeights python strings).keys := by
  rw [← Dict.get?_isSome_iff, ← Dict.get?_isSome_iff, get?_parseBenchmarkWeights uppers]
  split
  · rename_i plain
    exact (and_iff_right plain).symm
  · rename_i colon
    refine iff_of_false ?_ fun both => absurd both.1 colon
    rintro ⟨_, impossible⟩
    cases impossible

section

variable {python : Python} {workload : Benchmark → Option String} {visited : List String}
  {dctaxWeights : Dict String ℚ} {benchmarks : List Benchmark} {strings : List String}

/-- The weight of every name: the custom weight under exactly this name, else `1`. -/
theorem bmWeighted_eq (python : Python) (workload : Benchmark → Option String)
    (visited : List String) (dctaxWeights : Dict String ℚ) (benchmarks : List Benchmark)
    (strings : List String) :
    ∃ weights, getBenchmarkWeights python workload visited dctaxWeights benchmarks .bmWeighted
        strings = some weights ∧
      (∀ name, name ∈ weights.keys ↔ name ∈ benchmarks.map Benchmark.benchmarkName ∨
        name ∈ (python.parseBenchmarkWeights strings).keys) ∧
      ∀ benchmark ∈ benchmarks, weights.get? benchmark.benchmarkName =
        some (((python.parseBenchmarkWeights strings).get? benchmark.benchmarkName).getD 1) := by
  refine ⟨_, rfl, fun name => ?_, fun benchmark member => ?_⟩
  · rw [Dict.mem_keys_foldl_set, Dict.mem_keys_ofEntries, List.map_map]
    rfl
  · have start : (Dict.ofEntries (benchmarks.map fun benchmark =>
        (benchmark.benchmarkName, (1 : ℚ)))).get? benchmark.benchmarkName = some 1 := by
      have isKey : benchmark.benchmarkName ∈ (Dict.ofEntries (benchmarks.map fun benchmark =>
          (benchmark.benchmarkName, (1 : ℚ)))).keys := by
        rw [Dict.mem_keys_ofEntries, List.map_map]
        exact List.mem_map_of_mem member
      obtain ⟨weight, found⟩ := Dict.get?_isSome_iff.mpr isKey
      obtain ⟨other, -, same⟩ := List.mem_map.mp
        (Dict.mem_of_mem_ofEntries _ (Dict.get?_eq_some_iff.mp found))
      obtain rfl : 1 = weight := congrArg Prod.snd same
      exact found
    rw [Dict.get?_update, start]
    cases (python.parseBenchmarkWeights strings).get? benchmark.benchmarkName <;> rfl

/-- A keyword that is the name of a benchmark matches it. -/
theorem matches_of_named (uppers : python.Uppers) {benchmark : Benchmark} {weight : ℚ}
    (found : (givenWeights python strings).get? benchmark.benchmarkName = some weight) :
    (benchmark.benchmarkName, weight) ∈
      matchingWeights python (givenWeights python strings) benchmark := by
  have member := Dict.get?_eq_some_iff.mp found
  obtain ⟨_, -, given, -, same⟩ := exists_isSpec_of_mem member
  refine List.mem_filter.mpr ⟨member, decide_eq_true ?_⟩
  show benchmark.benchmarkName.toList <:+: (python.upper benchmark.benchmarkName).toList
  rw [show benchmark.benchmarkName = python.upper given.1 from congrArg Prod.fst same,
    uppers.upper_upper]

/-- A benchmark that is found by its name has what it should have. The others need a weight of `1`
where one keyword matches. -/
theorem isExpected_iff {customWeights : Dict String ℚ} {benchmark : Benchmark} {found : Option ℚ}
    {plain : Prop} (isFound : ∀ weight, found = some weight ↔
      plain ∧ customWeights.get? benchmark.benchmarkName = some weight)
    (named : ∀ weight, customWeights.get? benchmark.benchmarkName = some weight →
      (benchmark.benchmarkName, weight) ∈ matchingWeights python customWeights benchmark) :
    IsExpected python customWeights benchmark (found.getD 1) ↔
      ∀ entry, matchingWeights python customWeights benchmark = [entry] →
        (plain ∧ entry.1 = benchmark.benchmarkName) ∨ entry.2 = 1 := by
  cases found with
  | none =>
    refine ⟨fun expected entry single => .inr (expected.1 entry single).symm,
      fun whole => ⟨fun entry single => ?_, fun _ => rfl⟩⟩
    rcases whole entry single with ⟨isPlain, isName⟩ | isOne
    · have member : entry ∈ customWeights.entries :=
        List.mem_of_mem_filter (single ▸ List.mem_singleton_self entry)
      obtain ⟨name, weight⟩ := entry
      obtain rfl : name = benchmark.benchmarkName := isName
      exact nomatch (isFound weight).mpr ⟨isPlain, Dict.get?_eq_some_iff.mpr member⟩
    · exact isOne.symm
  | some weight =>
    obtain ⟨isPlain, isWeight⟩ := (isFound weight).mp rfl
    have member := named weight isWeight
    refine ⟨fun _ entry single => ?_, fun _ => ⟨fun entry single => ?_, fun empty => ?_⟩⟩
    · rw [single] at member
      exact .inl ⟨isPlain, (congrArg Prod.fst (List.mem_singleton.mp member)).symm⟩
    · rw [single] at member
      exact congrArg Prod.snd (List.mem_singleton.mp member)
    · rw [empty] at member
      cases member

end

/-- Custom weights take effect if and only if every keyword that is read is the name of a benchmark
and no other benchmark depends on one. -/
theorem takesEffect_iff (python : Python) (workload : Benchmark → Option String)
    (visited : List String) (dctaxWeights : Dict String ℚ) (benchmarks : List Benchmark)
    (strings : List String) (uppers : python.Uppers) :
    (∃ weights, getBenchmarkWeights python workload visited dctaxWeights benchmarks .bmWeighted
        strings = some weights ∧
      TakesEffect python benchmarks (givenWeights python strings) weights) ↔
    NamesBenchmarks python benchmarks (givenWeights python strings) := by
  obtain ⟨weights, computes, keys, values⟩ :=
    bmWeighted_eq python workload visited dctaxWeights benchmarks strings
  simp only [mem_keys_parseBenchmarkWeights uppers] at keys
  have expected (benchmark : Benchmark) :
      IsExpected python (givenWeights python strings) benchmark
        (((python.parseBenchmarkWeights strings).get? benchmark.benchmarkName).getD 1) ↔
        ∀ entry, matchingWeights python (givenWeights python strings) benchmark = [entry] →
          (':' ∉ entry.1.toList ∧ entry.1 = benchmark.benchmarkName) ∨ entry.2 = 1 := by
    refine (@isExpected_iff python _ benchmark _ (':' ∉ benchmark.benchmarkName.toList)
      (fun weight => ?_) fun _ => matches_of_named uppers).trans (forall₂_congr fun entry _ => ?_)
    · rw [get?_parseBenchmarkWeights uppers]
      split
      · rename_i plain
        exact (and_iff_right plain).symm
      · rename_i colon
        refine iff_of_false (fun impossible => ?_) fun both => absurd both.1 colon
        cases impossible
    · refine or_congr_left (and_congr_left fun isName => ?_)
      rw [isName]
  constructor
  · rintro ⟨_, same, effect⟩
    cases computes.symm.trans same
    obtain ⟨ratios, -, areExpected⟩ := effect.ratios
    refine ⟨fun keyword isKeyword plain =>
        (effect.keys keyword).mp ((keys keyword).mpr (.inr ⟨plain, isKeyword⟩)),
      fun benchmark member => (expected benchmark).mp ?_⟩
    obtain ⟨ratio, -, found, isExpected⟩ := exists_of_forall₂ areExpected member
    rw [values benchmark member] at found
    exact Option.some_inj.mp found ▸ isExpected
  · rintro ⟨areNames, whole⟩
    refine ⟨weights, computes, fun name => (keys name).trans (or_iff_left_of_imp ?_),
      _, mapM_eq_some_map values, ?_⟩
    · exact fun isRead => areNames name isRead.2 isRead.1
    · rw [List.forall₂_map_right_iff, List.forall₂_same]
      exact fun benchmark member =>
        ⟨values benchmark member, (expected benchmark).mpr (whole benchmark member)⟩

/-- Lower case letters are shifted to upper case ones, and all else stays. -/
theorem toUpper_cases (char : Char) :
    char.toUpper = char ∨ 97 ≤ char.val.toNat ∧ char.val.toNat ≤ 122 ∧
      char.toUpper.val.toNat + 32 = char.val.toNat := by
  by_cases lower : 'a'.val ≤ char.val ∧ char.val ≤ 'z'.val
  · have shifted : char.toUpper = ⟨char.val + ('A'.val - 'a'.val), _⟩ := dif_pos lower
    have upper : char.toUpper.val = char.val + ('A'.val - 'a'.val) := by rw [shifted]
    rw [UInt32.le_iff_toNat_le, UInt32.le_iff_toNat_le] at lower
    change 97 ≤ char.val.toNat ∧ char.val.toNat ≤ 122 at lower
    refine .inr ⟨lower.1, lower.2, ?_⟩
    rw [upper, UInt32.toNat_add]
    show (char.val.toNat + 4294967264) % 2 ^ 32 + 32 = char.val.toNat
    omega
  · exact .inl (dif_neg lower)

theorem toUpper_toUpper (char : Char) : char.toUpper.toUpper = char.toUpper := by
  rcases toUpper_cases char with same | ⟨low, high, shifted⟩
  · rw [same, same]
  · rcases toUpper_cases char.toUpper with same | ⟨low', high', -⟩
    · exact same
    · omega

theorem toUpper_eq_colon_iff (char : Char) : char.toUpper = ':' ↔ char = ':' := by
  rcases toUpper_cases char with same | ⟨low, high, shifted⟩
  · rw [same]
  · refine ⟨?_, ?_⟩
    · intro isColon
      rw [isColon] at shifted
      change 58 + 32 = char.val.toNat at shifted
      omega
    · rintro rfl
      change 97 ≤ 58 at low
      omega

theorem asciiPython_uppers : asciiPython.Uppers where
  upper_upper text := by
    have twice : Char.toUpper ∘ Char.toUpper = Char.toUpper := funext toUpper_toUpper
    show String.ofList ((String.ofList (text.toList.map Char.toUpper)).toList.map Char.toUpper) = _
    rw [String.toList_ofList, List.map_map]
    exact congrArg (fun toUpper => String.ofList (text.toList.map toUpper)) twice
  colon text := by
    show ':' ∈ (String.ofList (text.toList.map Char.toUpper)).toList ↔ _
    rw [String.toList_ofList, List.mem_map]
    simp only [toUpper_eq_colon_iff, exists_eq_right]

/-- A name that is spelled in upper case gets its weight, and the other benchmark keeps its own. -/
theorem takesEffect_arena : ∃ weights,
    getBenchmarkWeights asciiPython Benchmark.workload [] .empty
        [⟨"bench", "BM_PROTO_ARENA"⟩, ⟨"bench", "BM_PROTO_Heap"⟩] .bmWeighted
        ["bm_proto_arena:2"] = some weights ∧
      TakesEffect asciiPython [⟨"bench", "BM_PROTO_ARENA"⟩, ⟨"bench", "BM_PROTO_Heap"⟩]
        (givenWeights asciiPython ["bm_proto_arena:2"]) weights := by
  refine (takesEffect_iff asciiPython Benchmark.workload [] .empty
    [⟨"bench", "BM_PROTO_ARENA"⟩, ⟨"bench", "BM_PROTO_Heap"⟩] ["bm_proto_arena:2"]
    asciiPython_uppers).mpr ⟨by decide +kernel, ?_⟩
  have matching : [⟨"bench", "BM_PROTO_ARENA"⟩, ⟨"bench", "BM_PROTO_Heap"⟩].map
      (matchingWeights asciiPython (givenWeights asciiPython ["bm_proto_arena:2"])) =
      [[("BM_PROTO_ARENA", 2)], []] := by
    decide +kernel
  obtain ⟨onlyArena, noHeap⟩ := List.cons.inj matching
  rintro benchmark member entry single
  rcases List.mem_cons.mp member with rfl | member
  · rw [onlyArena] at single
    obtain rfl := (List.cons.inj single).1
    exact .inl ⟨by decide, rfl⟩
  · rw [List.mem_singleton.mp member, (List.cons.inj noHeap).1] at single
    exact nomatch single

/-- The whole name of a benchmark, as it is spelled, has no effect on it. -/
theorem not_takesEffect_lowerCase :
    (getBenchmarkWeights asciiPython Benchmark.workload [] .empty [⟨"bench", "BM_PROTO_Arena"⟩]
        .bmWeighted ["BM_PROTO_Arena:2"]).map (·.entries) =
      some [("BM_PROTO_Arena", 1), ("BM_PROTO_ARENA", 2)] ∧
    ¬ ∃ weights, getBenchmarkWeights asciiPython Benchmark.workload [] .empty
        [⟨"bench", "BM_PROTO_Arena"⟩] .bmWeighted ["BM_PROTO_Arena:2"] = some weights ∧
      TakesEffect asciiPython [⟨"bench", "BM_PROTO_Arena"⟩]
        (givenWeights asciiPython ["BM_PROTO_Arena:2"]) weights := by
  have entries : (getBenchmarkWeights asciiPython Benchmark.workload [] .empty
      [⟨"bench", "BM_PROTO_Arena"⟩] .bmWeighted ["BM_PROTO_Arena:2"]).map (·.entries) =
      some [("BM_PROTO_Arena", 1), ("BM_PROTO_ARENA", 2)] := by
    decide +kernel
  refine ⟨entries, fun ⟨weights, computes, effect⟩ => ?_⟩
  rw [computes] at entries
  have isEntries : weights.entries = [("BM_PROTO_Arena", 1), ("BM_PROTO_ARENA", 2)] :=
    Option.some_inj.mp entries
  have isKey : "BM_PROTO_ARENA" ∈ weights.keys := by
    rw [Dict.keys, isEntries]
    decide
  exact absurd ((effect.keys "BM_PROTO_ARENA").mp isKey) (by decide)

end Fleetbench.Parallel
