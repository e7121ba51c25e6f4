/-
This file models the registration of the compression benchmarks of a directory.
With explicit iteration counts the default pair of a level and a window is taken
out of the family and registered on its own, but only if the family is large
enough, while the loop over the pairs leaves it out in any case.

What the benchmark library runs of a family that has no arguments is a parameter:
nothing or a benchmark without arguments. A failed check leaves no result.
-/

import Mathlib.Data.List.Nodup
import Mathlib.Data.List.ProdSigma
import Mathlib.Tactic.Common
import Mathlib.Algebra.Ring.Nat

namespace Fleetbench.Compression

/-! ### Families -/

inductive Operation where
  | compress
  | decompress
  deriving DecidableEq, Repr

/-- A family of benchmarks, with what `RegisterBenchmark` is told. -/
structure BenchmarkFamily where
  name : String
  operation : Operation
  compressorType : String
  directoryName : String
  argNames : List String := []
  args : List (List Int) := []
  iterations : Option Nat := none
  deriving DecidableEq, Repr

/-- A benchmark that is run. -/
structure BenchmarkInstance where
  name : String
  compressorType : String
  args : List Int
  iterations : Option Nat
  deriving DecidableEq, Repr

section

variable (bare : List String → List (List Int))

/-- The arguments of a family without any depend on the library, given its `ArgNames`. -/
def BenchmarkFamily.instances (family : BenchmarkFamily) : List BenchmarkInstance :=
  (if family.args = [] then bare family.argNames else family.args).map fun args =>
    ⟨family.name, family.compressorType, args, family.iterations⟩

/-- The collection of names and arguments. -/
def registered (families : List BenchmarkFamily) : List (String × List Int) :=
  (families.flatMap (BenchmarkFamily.instances bare)).map fun benchmark =>
    (benchmark.name, benchmark.args)

/-- Without `Args` there is nothing to run with arguments. -/
def RunsBare : Prop := ∀ argNames, ∀ args ∈ bare argNames, args = []

/-- A family that has no names for its arguments either is run without arguments. -/
def bareArgs (argNames : List String) : List (List Int) := if argNames = [] then [[]] else []

theorem runsBare_bareArgs : RunsBare bareArgs := by
  intro argNames args member
  rw [bareArgs] at member
  split at member
  · exact List.mem_singleton.mp member
  · cases member

end

/-! ### Directories -/

structure DefaultBenchmarkEntry where
  compressionLevel : Option Int
  windowLog : Option Int
  iterationCount : Nat
  deriving DecidableEq, Repr

def kDefaultBenchmarks : List (String × DefaultBenchmarkEntry) :=
  [("BM_COMPRESSION_Brotli_COMPRESS_Fleet", ⟨some 2, some 18, 50000000⟩),
    ("BM_COMPRESSION_Brotli_DECOMPRESS_Fleet", ⟨some 2, some 18, 100000000⟩),
    ("BM_COMPRESSION_Flate_COMPRESS_Fleet", ⟨some 6, some 15, 20000000⟩),
    ("BM_COMPRESSION_Flate_DECOMPRESS_Fleet", ⟨some 6, some 15, 300000000⟩),
    ("BM_COMPRESSION_Snappy_COMPRESS_Fleet", ⟨none, none, 400000000⟩),
    ("BM_COMPRESSION_Snappy_DECOMPRESS_Fleet", ⟨none, none, 1000000000⟩),
    ("BM_COMPRESSION_ZSTD_COMPRESS_Fleet", ⟨some (-1), some 15, 200000000⟩),
    ("BM_COMPRESSION_ZSTD_DECOMPRESS_Fleet", ⟨some 0, some 0, 500000000⟩)]

/-- An entry of the list of algorithms. -/
structure AlgorithmsEntry where
  algorithm : String
  compressorType : String
  compressorSuffix : String
  compressWindowSizes : List Int
  defaultWindowSize : Int
  defaultCompressionLevel : Int

def algorithms : List AlgorithmsEntry :=
  [⟨"Snappy", "Snappy", "", [], 0, 0⟩,
    ⟨"ZSTD", "ZSTD", "", [15, 16], 0, 0⟩,
    ⟨"Flate", "ZLib", "", [15], 15, 6⟩,
    ⟨"Brotli", "Brotli", "", [18], 18, 2⟩]

/-- The name of a directory without its first two parts, of which there must be more. -/
def getBinary (directoryName : String) : Option String :=
  let v := directoryName.toList.splitOn '_'
  if 3 ≤ v.length then some (String.ofList (['_'].intercalate (v.drop 2))) else none

def argNames : List String := ["compression_level", "window_log"]

/-- The sizes of vectors are multiplied in `size_t`. -/
def pairCount (levels windowSizes : List Int) : Nat :=
  levels.length * windowSizes.length % 2 ^ 64

/-- Is this the pair that has been handled above? -/
def DefaultBenchmarkEntry.isPair (entry : Option DefaultBenchmarkEntry) (level windowLog : Int) :
    Bool :=
  match entry with
  | none => false
  | some entry => entry.compressionLevel = some level ∧ entry.windowLog = some windowLog

/-- The arguments that the loop over the levels and windows passes to `Args`. -/
def loopArgs (entry : Option DefaultBenchmarkEntry) (levels windowSizes : List Int) :
    List (List Int) :=
  levels.flatMap fun level =>
    (windowSizes.filter fun windowLog => ¬ DefaultBenchmarkEntry.isPair entry level windowLog).map
      fun windowLog => [level, windowLog]

/-- The benchmarks of a directory. The levels are those of its binary, if the algorithm has any;
`useExplicitIterationCounts` and the default entries decide about the default pair. -/
def registerDirectory (useExplicitIterationCounts : Bool)
    (defaultBenchmarks : String → Option DefaultBenchmarkEntry)
    (compressionLevelsMap : String → Option (String → List Int)) (entry : AlgorithmsEntry)
    (operation : Operation) (directoryName : String) : Option (List BenchmarkFamily) := do
  let benchmarkName := "BM_COMPRESSION_" ++ directoryName ++ entry.compressorSuffix
  let binary ← getBinary directoryName
  let levelsOf := compressionLevelsMap entry.algorithm
  let benchmark : BenchmarkFamily :=
    { name := benchmarkName, operation, compressorType := entry.compressorType, directoryName }
  let defaultBenchmarkEntry :=
    if useExplicitIterationCounts then defaultBenchmarks benchmarkName else none
  let (benchmark, separate) ←
    match defaultBenchmarkEntry with
    | none => some (benchmark, [])
    | some defaultEntry =>
      if operation = .compress ∧ levelsOf.any (fun levelsOf =>
          1 < pairCount (levelsOf binary) entry.compressWindowSizes) then do
        let level ← defaultEntry.compressionLevel
        let windowLog ← defaultEntry.windowLog
        some (benchmark, [{ benchmark with
          argNames
          args := [[level, windowLog]]
          iterations := some defaultEntry.iterationCount }])
      else some ({ benchmark with iterations := some defaultEntry.iterationCount }, [])
  match levelsOf with
  | none => return benchmark :: separate
  | some levelsOf =>
    let args :=
      match operation with
      | .compress => loopArgs defaultBenchmarkEntry (levelsOf binary) entry.compressWindowSizes
      | .decompress => [[entry.defaultCompressionLevel, entry.defaultWindowSize]]
    return { benchmark with argNames, args } :: separate

/-! ### Compressors -/

inductive Compressor where
  | snappy
  | zstd (compressionLevel windowLog : Int)
  | zlib (compressionLevel windowLog : Int)
  | brotli (compressionLevel windowLog : Int)
  deriving DecidableEq, Repr

/-- `CreateCompressor`, which reads its parameters from the arguments. -/
def createCompressor (compressorType : String) (args : List Int) : Option Compressor :=
  if compressorType = "Snappy" then some .snappy
  else do
    let compressionLevel ← args[0]?
    let windowLog ← args[1]?
    if compressorType = "ZSTD" then some (.zstd compressionLevel windowLog)
    else if compressorType = "ZLib" then some (.zlib compressionLevel windowLog)
    else if compressorType = "Brotli" then some (.brotli compressionLevel windowLog)
    else none

/-! ### Pairs -/

/-- Every level with every window. -/
def pairs (levels windowSizes : List Int) : List (List Int) :=
  (levels ×ˢ windowSizes).map fun pair => [pair.1, pair.2]

section

variable {levels windowSizes : List Int} {level windowLog : Int}

theorem mem_pairs_iff : [level, windowLog] ∈ pairs levels windowSizes ↔
    level ∈ levels ∧ windowLog ∈ windowSizes := by
  rw [← List.mem_product, pairs, List.mem_map]
  constructor
  · rintro ⟨pair, member, same⟩
    cases same
    exact member
  · exact fun member => ⟨_, member, rfl⟩

theorem nodup_pairs (distinctLevels : levels.Nodup) (distinctWindows : windowSizes.Nodup) :
    (pairs levels windowSizes).Nodup := by
  refine (distinctLevels.product distinctWindows).map fun first second same => ?_
  obtain ⟨sameLevel, sameWindow⟩ := List.cons.inj same
  exact Prod.ext sameLevel (List.cons.inj sameWindow).1

theorem length_pairs : (pairs levels windowSizes).length = levels.length * windowSizes.length := by
  rw [pairs, List.length_map, List.length_product]

theorem ne_nil_of_mem_pairs {args : List Int} (member : args ∈ pairs levels windowSizes) :
    args ≠ [] := by
  obtain ⟨pair, -, rfl⟩ := List.mem_map.mp member
  exact List.cons_ne_nil _ _

theorem loopArgs_eq_filter (entry : Option DefaultBenchmarkEntry) :
    loopArgs entry levels windowSizes = ((levels ×ˢ windowSizes).filter fun pair =>
      ¬ DefaultBenchmarkEntry.isPair entry pair.1 pair.2).map fun pair => [pair.1, pair.2] := by
  have isProduct : levels ×ˢ windowSizes =
      levels.flatMap fun level => windowSizes.map (Prod.mk level) := rfl
  rw [loopArgs, isProduct, List.filter_flatMap, List.map_flatMap]
  refine congrArg (List.flatMap · levels) (funext fun level => ?_)
  rw [List.filter_map, List.map_map]
  rfl

theorem loopArgs_none : loopArgs none levels windowSizes = pairs levels windowSizes := by
  rw [loopArgs_eq_filter, pairs]
  refine congrArg _ (List.filter_eq_self.mpr fun pair _ => ?_)
  rfl

/-- The loop leaves the default pair out. -/
theorem loopArgs_default (distinctLevels : levels.Nodup) (distinctWindows : windowSizes.Nodup)
    (iterationCount : Nat) :
    loopArgs (some ⟨some level, some windowLog, iterationCount⟩) levels windowSizes =
      (pairs levels windowSizes).erase [level, windowLog] := by
  rw [(nodup_pairs distinctLevels distinctWindows).erase_eq_filter, loopArgs_eq_filter, pairs,
    List.filter_map]
  refine congrArg _ (List.filter_congr fun pair _ => ?_)
  rw [Function.comp_apply, Bool.eq_iff_iff]
  simp only [DefaultBenchmarkEntry.isPair, Option.some.injEq, bne_iff_ne, ne_eq, List.cons.injEq,
    and_true, decide_eq_true_eq]
  tauto

end

theorem length_of_mem_loopArgs {entry : Option DefaultBenchmarkEntry}
    {levels windowSizes : List Int} {args : List Int}
    (member : args ∈ loopArgs entry levels windowSizes) : args.length = 2 := by
  obtain ⟨level, -, inside⟩ := List.mem_flatMap.mp member
  obtain ⟨windowLog, -, rfl⟩ := List.mem_map.mp inside
  rfl

/-- Two arguments are the parameters of a compressor. -/
theorem exists_createCompressor {entry : AlgorithmsEntry} (known : entry ∈ algorithms)
    {args : List Int} (two : args.length = 2) :
    ∃ compressor, createCompressor entry.compressorType args = some compressor := by
  obtain ⟨level, windowLog, rfl⟩ := List.length_eq_two.mp two
  simp only [algorithms, List.mem_cons, List.not_mem_nil, or_false] at known
  rcases known with rfl | rfl | rfl | rfl
  · exact ⟨.snappy, rfl⟩
  · exact ⟨.zstd level windowLog, rfl⟩
  · exact ⟨.zlib level windowLog, rfl⟩
  · exact ⟨.brotli level windowLog, rfl⟩

/-! ### A directory with a default pair -/

/-- The default pair of a directory is one of its pairs. -/
structure HasDefaultPair (defaultBenchmarks : String → Option DefaultBenchmarkEntry)
    (compressionLevelsMap : String → Option (String → List Int)) (entry : AlgorithmsEntry)
    (directoryName : String) (levels : List Int) (level windowLog : Int) (iterationCount : Nat) :
    Prop where
  hasLevels : ∃ binary levelsOf, getBinary directoryName = some binary ∧
    compressionLevelsMap entry.algorithm = some levelsOf ∧ levelsOf binary = levels
  isDefault : defaultBenchmarks ("BM_COMPRESSION_" ++ directoryName ++ entry.compressorSuffix) =
    some ⟨some level, some windowLog, iterationCount⟩
  inPairs : level ∈ levels ∧ windowLog ∈ entry.compressWindowSizes
  distinctLevels : levels.Nodup
  distinctWindows : entry.compressWindowSizes.Nodup

/-- Both runs register every pair once, and the one with explicit counts sets that of the default
pair. -/
structure RegistersAlike (bare : List String → List (List Int)) (benchmarkName : String)
    (allPairs : List (List Int)) (defaultPair : List Int) (iterationCount : Nat)
    (explicit automatic : List BenchmarkFamily) : Prop where
  same : (registered bare explicit).Perm (registered bare automatic)
  pairs : (registered bare explicit).Perm (allPairs.map fun args => (benchmarkName, args))
  once : (registered bare explicit).Nodup
  withArguments : ∀ benchmark ∈ registered bare explicit, benchmark.2 ≠ []
  counts : ∀ benchmark ∈ explicit.flatMap (BenchmarkFamily.instances bare),
    benchmark.iterations = if benchmark.args = defaultPair then some iterationCount else none

section

variable {bare : List String → List (List Int)}
  {defaultBenchmarks : String → Option DefaultBenchmarkEntry}
  {compressionLevelsMap : String → Option (String → List Int)} {entry : AlgorithmsEntry}
  {directoryName : String} {levels : List Int} {level windowLog : Int} {iterationCount : Nat}

/-- The family of a directory with the given arguments. -/
def familyOf (entry : AlgorithmsEntry) (directoryName : String) (args : List (List Int))
    (iterations : Option Nat) : BenchmarkFamily where
  name := "BM_COMPRESSION_" ++ directoryName ++ entry.compressorSuffix
  operation := .compress
  compressorType := entry.compressorType
  directoryName := directoryName
  argNames := argNames
  args := args
  iterations := iterations

variable (hasDefault : HasDefaultPair defaultBenchmarks compressionLevelsMap entry directoryName
  levels level windowLog iterationCount)

include hasDefault

theorem registerDirectory_automatic :
    registerDirectory false defaultBenchmarks compressionLevelsMap entry .compress directoryName =
      some [familyOf entry directoryName (pairs levels entry.compressWindowSizes) none] := by
  obtain ⟨binary, levelsOf, isBinary, isMapped, rfl⟩ := hasDefault.hasLevels
  simp only [registerDirectory, isBinary, isMapped, Option.bind_eq_bind, Option.bind_some,
    Bool.false_eq_true, if_false, loopArgs_none]
  rfl

/-- More than one pair: the default pair is registered on its own. -/
theorem registerDirectory_separate (large : 1 < pairCount levels entry.compressWindowSizes) :
    registerDirectory true defaultBenchmarks compressionLevelsMap entry .compress directoryName =
      some [familyOf entry directoryName
          ((pairs levels entry.compressWindowSizes).erase [level, windowLog]) none,
        familyOf entry directoryName [[level, windowLog]] (some iterationCount)] := by
  obtain ⟨binary, levelsOf, isBinary, isMapped, rfl⟩ := hasDefault.hasLevels
  rw [← loopArgs_default hasDefault.distinctLevels hasDefault.distinctWindows iterationCount]
  simp only [registerDirectory, isBinary, isMapped, Option.bind_eq_bind, Option.bind_some,
    if_true, hasDefault.isDefault, Option.any_some, large, decide_true, and_self]
  rfl

/-- Otherwise the family gets the count, and the loop still leaves the default pair out. -/
theorem registerDirectory_small (small : ¬ 1 < pairCount levels entry.compressWindowSizes) :
    registerDirectory true defaultBenchmarks compressionLevelsMap entry .compress directoryName =
      some [familyOf entry directoryName
        ((pairs levels entry.compressWindowSizes).erase [level, windowLog])
        (some iterationCount)] := by
  obtain ⟨binary, levelsOf, isBinary, isMapped, rfl⟩ := hasDefault.hasLevels
  rw [← loopArgs_default hasDefault.distinctLevels hasDefault.distinctWindows iterationCount]
  simp only [registerDirectory, isBinary, isMapped, Option.bind_eq_bind, Option.bind_some,
    if_true, hasDefault.isDefault, Option.any_some, small, decide_false, Bool.false_eq_true,
    and_false, if_false]
  rfl

omit hasDefault in
theorem registered_cons (family : BenchmarkFamily) (rest : List BenchmarkFamily) :
    registered bare (family :: rest) = registered bare [family] ++ registered bare rest := by
  rw [registered, List.flatMap_cons, List.map_append, registered, registered,
    List.flatMap_singleton]

omit hasDefault in
theorem registered_familyOf {args : List (List Int)} (nonempty : args ≠ [])
    (iterations : Option Nat) : registered bare [familyOf entry directoryName args iterations] =
      args.map fun args =>
        ("BM_COMPRESSION_" ++ directoryName ++ entry.compressorSuffix, args) := by
  have hasArgs : (familyOf entry directoryName args iterations).args ≠ [] := nonempty
  rw [registered, List.flatMap_singleton, BenchmarkFamily.instances, if_neg hasArgs, List.map_map]
  rfl

/-- The default pair is missing, whatever is run of a family without arguments. -/
theorem not_mem_registered_small (runsBare : RunsBare bare) (iterations : Option Nat) :
    ("BM_COMPRESSION_" ++ directoryName ++ entry.compressorSuffix, [level, windowLog]) ∉
      registered bare [familyOf entry directoryName
        ((pairs levels entry.compressWindowSizes).erase [level, windowLog]) iterations] := by
  intro member
  rw [registered, List.flatMap_singleton, BenchmarkFamily.instances, List.map_map] at member
  obtain ⟨args, inside, same⟩ := List.mem_map.mp member
  have isDefault : args = [level, windowLog] := congrArg Prod.snd same
  split at inside
  · exact List.cons_ne_nil _ _ (isDefault.symm.trans (runsBare _ _ inside))
  · have distinct := nodup_pairs hasDefault.distinctLevels hasDefault.distinctWindows
    exact (distinct.mem_erase_iff.mp inside).1 isDefault

theorem registersAlike_separate (large : 1 < pairCount levels entry.compressWindowSizes) :
    RegistersAlike bare ("BM_COMPRESSION_" ++ directoryName ++ entry.compressorSuffix)
      (pairs levels entry.compressWindowSizes) [level, windowLog] iterationCount
      [familyOf entry directoryName
          ((pairs levels entry.compressWindowSizes).erase [level, windowLog]) none,
        familyOf entry directoryName [[level, windowLog]] (some iterationCount)]
      [familyOf entry directoryName (pairs levels entry.compressWindowSizes) none] := by
  have isPair := mem_pairs_iff.mpr hasDefault.inPairs
  have distinct := nodup_pairs hasDefault.distinctLevels hasDefault.distinctWindows
  have others : (pairs levels entry.compressWindowSizes).erase [level, windowLog] ≠ [] := by
    refine List.length_pos_iff.mp ?_
    have many := Nat.lt_of_lt_of_le large (Nat.mod_le _ _)
    rw [List.length_erase_of_mem isPair, length_pairs]
    exact Nat.sub_pos_of_lt many
  have allPairs : (registered bare [familyOf entry directoryName
        ((pairs levels entry.compressWindowSizes).erase [level, windowLog]) none,
      familyOf entry directoryName [[level, windowLog]] (some iterationCount)]).Perm
      ((pairs levels entry.compressWindowSizes).map fun args =>
        ("BM_COMPRESSION_" ++ directoryName ++ entry.compressorSuffix, args)) := by
    rw [registered_cons, registered_familyOf others, registered_familyOf (List.cons_ne_nil _ _),
      ← List.map_append]
    exact (List.perm_append_comm.trans (List.perm_cons_erase isPair).symm).map _
  have unique : ((pairs levels entry.compressWindowSizes).map fun args =>
      ("BM_COMPRESSION_" ++ directoryName ++ entry.compressorSuffix, args)).Nodup :=
    distinct.map fun first second same => congrArg Prod.snd same
  refine ⟨?_, allPairs, allPairs.nodup_iff.mpr unique, fun benchmark member => ?_, ?_⟩
  · rw [registered_familyOf (List.ne_nil_of_mem isPair)]
    exact allPairs
  · obtain ⟨args, inside, rfl⟩ := List.mem_map.mp (allPairs.mem_iff.mp member)
    exact ne_nil_of_mem_pairs inside
  · intro benchmark member
    rw [List.flatMap_cons, List.flatMap_singleton] at member
    rcases List.mem_append.mp member with inFamily | isDefault
    · have hasArgs : (familyOf entry directoryName
          ((pairs levels entry.compressWindowSizes).erase [level, windowLog]) none).args ≠ [] :=
        others
      rw [BenchmarkFamily.instances, if_neg hasArgs] at inFamily
      obtain ⟨args, inside, rfl⟩ := List.mem_map.mp inFamily
      exact (if_neg (distinct.mem_erase_iff.mp inside).1).symm
    · cases List.mem_singleton.mp isDefault
      exact (if_pos rfl).symm

/-- Explicit counts change nothing else about the benchmarks, exactly if there is more than one
pair. -/
theorem registersAlike_iff (runsBare : RunsBare bare) :
    (∃ explicit automatic,
      registerDirectory true defaultBenchmarks compressionLevelsMap entry .compress
        directoryName = some explicit ∧
      registerDirectory false defaultBenchmarks compressionLevelsMap entry .compress
        directoryName = some automatic ∧
      RegistersAlike bare ("BM_COMPRESSION_" ++ directoryName ++ entry.compressorSuffix)
        (pairs levels entry.compressWindowSizes) [level, windowLog] iterationCount explicit
        automatic) ↔
      1 < pairCount levels entry.compressWindowSizes := by
  constructor
  · rintro ⟨explicit, automatic, isExplicit, -, alike⟩
    by_contra small
    rw [registerDirectory_small hasDefault small] at isExplicit
    cases isExplicit
    refine not_mem_registered_small hasDefault runsBare _ (alike.pairs.mem_iff.mpr ?_)
    exact List.mem_map_of_mem (mem_pairs_iff.mpr hasDefault.inPairs)
  · intro large
    exact ⟨_, _, registerDirectory_separate hasDefault large,
      registerDirectory_automatic hasDefault, registersAlike_separate hasDefault large⟩

end

/-! ### The directory of Flate -/

def flate : AlgorithmsEntry := ⟨"Flate", "ZLib", "", [15], 15, 6⟩

/-- A file of levels with one line for Flate. -/
def flateLevels (levels : List Int) (algorithm : String) : Option (String → List Int) :=
  if algorithm = "Flate" then some fun binary => if binary = "Fleet" then levels else []
  else none

example : flate ∈ algorithms := List.mem_of_getElem? (i := 2) rfl

theorem hasDefaultPair_flate {levels : List Int} (member : 6 ∈ levels) (distinct : levels.Nodup) :
    HasDefaultPair (kDefaultBenchmarks.lookup ·) (flateLevels levels) flate "Flate_COMPRESS_Fleet"
      levels 6 15 20000000 where
  hasLevels := by
    refine ⟨"Fleet", fun binary => if binary = "Fleet" then levels else [], ?_, rfl, if_pos rfl⟩
    decide +kernel
  isDefault := by
    decide +kernel
  inPairs := ⟨member, List.mem_singleton_self _⟩
  distinctLevels := distinct
  distinctWindows := List.nodup_singleton _

theorem registersAlike_twoLevels :
    ∃ explicit automatic,
      registerDirectory true (kDefaultBenchmarks.lookup ·) (flateLevels [1, 6]) flate .compress
        "Flate_COMPRESS_Fleet" = some explicit ∧
      registerDirectory false (kDefaultBenchmarks.lookup ·) (flateLevels [1, 6]) flate .compress
        "Flate_COMPRESS_Fleet" = some automatic ∧
      RegistersAlike bareArgs
        ("BM_COMPRESSION_" ++ "Flate_COMPRESS_Fleet" ++ flate.compressorSuffix)
        (pairs [1, 6] flate.compressWindowSizes) [6, 15] 20000000 explicit automatic :=
  (registersAlike_iff (hasDefaultPair_flate (by decide) (by decide)) runsBare_bareArgs).mpr
    (by decide)

/-- With a single level the benchmark of the default pair is lost. -/
theorem not_registersAlike_oneLevel :
    ¬ ∃ explicit automatic,
      registerDirectory true (kDefaultBenchmarks.lookup ·) (flateLevels [6]) flate .compress
        "Flate_COMPRESS_Fleet" = some explicit ∧
      registerDirectory false (kDefaultBenchmarks.lookup ·) (flateLevels [6]) flate .compress
        "Flate_COMPRESS_Fleet" = some automatic ∧
      RegistersAlike bareArgs
        ("BM_COMPRESSION_" ++ "Flate_COMPRESS_Fleet" ++ flate.compressorSuffix)
        (pairs [6] flate.compressWindowSizes) [6, 15] 20000000 explicit automatic := by
  rintro ⟨explicit, automatic, isExplicit, -, alike⟩
  have hasDefault := hasDefaultPair_flate (List.mem_singleton_self 6) (List.nodup_singleton 6)
  rw [registerDirectory_small hasDefault (by decide)] at isExplicit
  cases isExplicit
  refine not_mem_registered_small hasDefault runsBare_bareArgs _ (alike.pairs.mem_iff.mpr ?_)
  exact List.mem_map_of_mem (mem_pairs_iff.mpr hasDefault.inPairs)

end Fleetbench.Compression
