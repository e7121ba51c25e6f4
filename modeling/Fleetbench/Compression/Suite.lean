/-
This file models the registration of all compression benchmarks: for each
algorithm and each operation, of every directory of the corpus that matches.

No directory matches twice, so that none is registered for two algorithms or for
both operations, and every benchmark finds files to read.
-/

import Fleetbench.Compression.Corpus
import Fleetbench.Compression.Registration

namespace Fleetbench.Compression

open Library

/-! ### The registration -/

def Operation.name : Operation → String
  | .compress => "COMPRESS"
  | .decompress => "DECOMPRESS"

def operations : List Operation := [.compress, .decompress]

/-- How the names of the directories begin. -/
def directoryPrefix (entry : AlgorithmsEntry) (operation : Operation) : List Char :=
  (entry.algorithm ++ "_" ++ operation.name).toList

/-- What the three loops of `RegisterBenchmarks` go over. -/
def registrations (corpus : CompressionCorpus) : List ((AlgorithmsEntry × Operation) × List Char) :=
  (algorithms.flatMap fun entry => operations.map (Prod.mk entry)).flatMap fun key =>
    (corpus.getMatchingDirectories (directoryPrefix key.1 key.2)).map (Prod.mk key)

/-- `RegisterBenchmarks`. -/
def registerBenchmarks (useExplicitIterationCounts : Bool)
    (defaultBenchmarks : String → Option DefaultBenchmarkEntry)
    (compressionLevelsMap : String → Option (String → List Int)) (corpus : CompressionCorpus) :
    Option (List BenchmarkFamily) := do
  let families ← (registrations corpus).mapM fun ((entry, operation), directoryName) =>
    registerDirectory useExplicitIterationCounts defaultBenchmarks compressionLevelsMap entry
      operation (String.ofList directoryName)
  return families.flatten

/-! ### Directories -/

/-- The family is one of this directory, and its arguments are a level and a window each. -/
structure BenchmarkFamily.Runs (family : BenchmarkFamily) (entry : AlgorithmsEntry)
    (operation : Operation) (directoryName : String) : Prop where
  name : family.name = "BM_COMPRESSION_" ++ directoryName ++ entry.compressorSuffix
  operation : family.operation = operation
  compressorType : family.compressorType = entry.compressorType
  directoryName : family.directoryName = directoryName
  twoArgs : ∀ args ∈ family.args, args.length = 2

section

variable {defaultBenchmarks : String → Option DefaultBenchmarkEntry}
  {compressionLevelsMap : String → Option (String → List Int)} {entry : AlgorithmsEntry}
  {operation : Operation} {directoryName : String}

theorem registerDirectory_runs {useExplicitIterationCounts : Bool}
    {families : List BenchmarkFamily}
    (registers : registerDirectory useExplicitIterationCounts defaultBenchmarks
      compressionLevelsMap entry operation directoryName = some families) :
    families ≠ [] ∧ ∀ family ∈ families, family.Runs entry operation directoryName := by
  unfold registerDirectory at registers
  obtain ⟨binary, -, registers⟩ := Option.bind_eq_some_iff.mp registers
  generalize (if useExplicitIterationCounts = true then
    defaultBenchmarks ("BM_COMPRESSION_" ++ directoryName ++ entry.compressorSuffix)
    else none) = chosen at registers
  dsimp only at registers
  have own {argNames args iterations} (twoArgs : ∀ pair ∈ args, pair.length = 2) :
      BenchmarkFamily.Runs
        ⟨"BM_COMPRESSION_" ++ directoryName ++ entry.compressorSuffix, operation,
          entry.compressorType, directoryName, argNames, args, iterations⟩
        entry operation directoryName := ⟨rfl, rfl, rfl, rfl, twoArgs⟩
  have noArgs : ∀ pair ∈ ([] : List (List Int)), pair.length = 2 := nofun
  have one (level windowLog : Int) : ∀ pair ∈ [[level, windowLog]], pair.length = 2 :=
    List.forall_mem_singleton.mpr rfl
  have looped (chosen : Option DefaultBenchmarkEntry) (levelsOf : String → List Int) :
      ∀ pair ∈ (match operation with
        | .compress => loopArgs chosen (levelsOf binary) entry.compressWindowSizes
        | .decompress => [[entry.defaultCompressionLevel, entry.defaultWindowSize]]),
        pair.length = 2 := by
    cases operation with
    | compress => exact fun pair member => length_of_mem_loopArgs member
    | decompress => exact one _ _
  cases chosen with
  | none =>
    obtain ⟨_, found, registers⟩ := Option.bind_eq_some_iff.mp registers
    cases found
    split at registers <;> cases registers
    · exact ⟨List.cons_ne_nil _ _, List.forall_mem_singleton.mpr (own noArgs)⟩
    · exact ⟨List.cons_ne_nil _ _, List.forall_mem_singleton.mpr (own (looped _ _))⟩
  | some defaultEntry =>
    dsimp only at registers
    split at registers
    · obtain ⟨level, -, registers⟩ := Option.bind_eq_some_iff.mp registers
      obtain ⟨windowLog, -, registers⟩ := Option.bind_eq_some_iff.mp registers
      obtain ⟨_, found, registers⟩ := Option.bind_eq_some_iff.mp registers
      cases found
      split at registers <;> cases registers
      · exact ⟨List.cons_ne_nil _ _, List.forall_mem_cons.mpr
          ⟨own noArgs, List.forall_mem_singleton.mpr (own (one _ _))⟩⟩
      · exact ⟨List.cons_ne_nil _ _, List.forall_mem_cons.mpr
          ⟨own (looped _ _), List.forall_mem_singleton.mpr (own (one _ _))⟩⟩
    · obtain ⟨_, found, registers⟩ := Option.bind_eq_some_iff.mp registers
      cases found
      split at registers <;> cases registers
      · exact ⟨List.cons_ne_nil _ _, List.forall_mem_singleton.mpr (own noArgs)⟩
      · exact ⟨List.cons_ne_nil _ _, List.forall_mem_singleton.mpr (own (looped _ _))⟩

theorem getBinary_isSome_iff :
    (∃ binary, getBinary directoryName = some binary) ↔
      3 ≤ (directoryName.toList.splitOn '_').length := by
  unfold getBinary
  by_cases long : 3 ≤ (directoryName.toList.splitOn '_').length
  · rw [if_pos long]
    exact ⟨fun _ => long, fun _ => ⟨_, rfl⟩⟩
  · rw [if_neg long]
    exact ⟨fun ⟨_, found⟩ => (nomatch found), fun long' => absurd long' long⟩

theorem registerDirectory_automatic_eq :
    registerDirectory false defaultBenchmarks compressionLevelsMap entry operation directoryName =
      (getBinary directoryName).map fun binary => [{
        name := "BM_COMPRESSION_" ++ directoryName ++ entry.compressorSuffix
        operation
        compressorType := entry.compressorType
        directoryName
        argNames := ((compressionLevelsMap entry.algorithm).map fun _ => argNames).getD []
        args := ((compressionLevelsMap entry.algorithm).map fun levelsOf =>
          match operation with
          | .compress => loopArgs none (levelsOf binary) entry.compressWindowSizes
          | .decompress =>
            [[entry.defaultCompressionLevel, entry.defaultWindowSize]]).getD [] }] := by
  unfold registerDirectory
  cases getBinary directoryName with
  | none => rfl
  | some binary => cases compressionLevelsMap entry.algorithm <;> rfl

/-- Without explicit counts a directory gets one family, if its name has three parts. -/
theorem registerDirectory_isSome_iff :
    (∃ families, registerDirectory false defaultBenchmarks compressionLevelsMap entry operation
      directoryName = some families) ↔ 3 ≤ (directoryName.toList.splitOn '_').length := by
  rw [registerDirectory_automatic_eq, ← getBinary_isSome_iff]
  constructor
  · rintro ⟨families, registers⟩
    obtain ⟨binary, isBinary, -⟩ := Option.map_eq_some_iff.mp registers
    exact ⟨binary, isBinary⟩
  · rintro ⟨binary, isBinary⟩
    exact ⟨_, Option.map_eq_some_iff.mpr ⟨binary, isBinary, rfl⟩⟩

theorem length_registerDirectory {families : List BenchmarkFamily}
    (registers : registerDirectory false defaultBenchmarks compressionLevelsMap entry operation
      directoryName = some families) : families.length = 1 := by
  rw [registerDirectory_automatic_eq] at registers
  obtain ⟨binary, -, rfl⟩ := Option.map_eq_some_iff.mp registers
  rfl

end

/-! ### Prefixes -/

theorem mem_registrations {corpus : CompressionCorpus} {entry : AlgorithmsEntry}
    {operation : Operation} {directory : List Char} :
    ((entry, operation), directory) ∈ registrations corpus ↔
      entry ∈ algorithms ∧
        directory ∈ corpus.getMatchingDirectories (directoryPrefix entry operation) := by
  have all : operation ∈ operations := by cases operation <;> decide
  simp only [registrations, List.mem_flatMap, List.mem_map, Prod.mk.injEq, Prod.exists]
  constructor
  · rintro ⟨_, _, ⟨_, isEntry, _, _, rfl, rfl⟩, _, matching, ⟨rfl, rfl⟩, rfl⟩
    exact ⟨isEntry, matching⟩
  · rintro ⟨isEntry, matching⟩
    exact ⟨_, _, ⟨_, isEntry, _, all, rfl, rfl⟩, _, matching, ⟨rfl, rfl⟩, rfl⟩

/-- No prefix begins with another. -/
theorem directoryPrefix_alone :
    (algorithms.flatMap fun entry => operations.map (Prod.mk entry)).Pairwise
      fun first second => ¬ directoryPrefix first.1 first.2 <+: directoryPrefix second.1 second.2 ∧
        ¬ directoryPrefix second.1 second.2 <+: directoryPrefix first.1 first.2 := by
  decide

theorem map_snd_registrations (corpus : CompressionCorpus) :
    (registrations corpus).map Prod.snd =
      (algorithms.flatMap fun entry => operations.map (Prod.mk entry)).flatMap fun key =>
        corpus.getMatchingDirectories (directoryPrefix key.1 key.2) := by
  rw [registrations, List.map_flatMap]
  refine congrArg (fun inner => List.flatMap inner _) (funext fun key => ?_)
  rw [List.map_map]
  exact List.map_id _

section

variable {archive : ZipArchive} {corpus : CompressionCorpus} {files : List CorpusFile}

/-- No directory is registered twice. -/
theorem nodup_registrations (holds : corpus.Holds files) :
    ((registrations corpus).map Prod.snd).Nodup := by
  rw [map_snd_registrations]
  refine List.nodup_flatMap.mpr ⟨fun key _ => ?_, directoryPrefix_alone.imp fun alone => ?_⟩
  · rw [CompressionCorpus.getMatchingDirectories, takeWhile_lowerBound]
    exact corpus.directories.nodup.filter _
  · intro directory member member'
    obtain ⟨begins, -⟩ := (CompressionCorpus.mem_getMatchingDirectories holds).mp member
    obtain ⟨begins', -⟩ := (CompressionCorpus.mem_getMatchingDirectories holds).mp member'
    have one := List.prefix_or_prefix_of_prefix begins begins'
    exact one.elim alone.1 alone.2

/-- A directory of the archive that matches is gone over. -/
theorem exists_registrations_iff (holds : corpus.Holds files) {entry : AlgorithmsEntry}
    {operation : Operation} {directory : List Char} :
    ((entry, operation), directory) ∈ registrations corpus ↔ entry ∈ algorithms ∧
      directoryPrefix entry operation <+: directory ∧ ∃ file ∈ files, file.dirname = directory := by
  rw [mem_registrations, CompressionCorpus.mem_getMatchingDirectories holds]

/-! ### All benchmarks -/

/-- These are the benchmarks of the directories that match, each under the compressor of its
algorithm, which its arguments are enough to create, and with files of its directory to read. -/
structure Suite (archive : ZipArchive) (corpus : CompressionCorpus) (files : List CorpusFile)
    (families : List BenchmarkFamily) : Prop where
  known : ∀ family ∈ families, ∃ entry ∈ algorithms, ∃ operation, ∃ file ∈ files,
    directoryPrefix entry operation <+: file.dirname ∧
      family.Runs entry operation (String.ofList file.dirname)
  complete : ∀ entry ∈ algorithms, ∀ operation, ∀ file ∈ files,
    directoryPrefix entry operation <+: file.dirname →
      ∃ family ∈ families, family.Runs entry operation (String.ofList file.dirname)
  creates : ∀ family ∈ families, ∀ args ∈ family.args,
    ∃ compressor, createCompressor family.compressorType args = some compressor
  reads : ∀ family ∈ families, ∃ found : List CorpusFile, ∃ file ∈ found,
    corpus.getCorpora archive family.directoryName.toList =
      found.mapM (fun file => archive.zipFread file.entry.index file.entry.size) ∧
    String.ofList file.dirname = family.directoryName

theorem registerBenchmarks_suite (holds : corpus.Holds files) {useExplicitIterationCounts : Bool}
    {defaultBenchmarks : String → Option DefaultBenchmarkEntry}
    {compressionLevelsMap : String → Option (String → List Int)} {families : List BenchmarkFamily}
    (registers : registerBenchmarks useExplicitIterationCounts defaultBenchmarks
      compressionLevelsMap corpus = some families) : Suite archive corpus files families := by
  obtain ⟨lists, each, registers⟩ := Option.bind_eq_some_iff.mp registers
  cases registers
  have known : ∀ family ∈ lists.flatten, ∃ entry ∈ algorithms, ∃ operation, ∃ file ∈ files,
      directoryPrefix entry operation <+: file.dirname ∧
        family.Runs entry operation (String.ofList file.dirname) := by
    intro family member
    obtain ⟨list, isList, inside⟩ := List.mem_flatten.mp member
    obtain ⟨⟨⟨entry, operation⟩, directory⟩, isRegistered, registers⟩ :=
      exists_of_forall₂ (mapM_eq_some_iff.mp each).flip isList
    obtain ⟨isEntry, begins, file, isFile, rfl⟩ := (exists_registrations_iff holds).mp isRegistered
    exact ⟨entry, isEntry, operation, file, isFile, begins,
      (registerDirectory_runs registers).2 family inside⟩
  refine ⟨known, fun entry isEntry operation file isFile begins => ?_,
    fun family member args isArgs => ?_, fun family member => ?_⟩
  · have isRegistered := (exists_registrations_iff holds).mpr
      ⟨isEntry, begins, file, isFile, rfl⟩
    obtain ⟨list, isList, registers⟩ := mem_of_mapM_eq_some each isRegistered
    obtain ⟨nonempty, runs⟩ := registerDirectory_runs registers
    obtain ⟨family, inside⟩ := List.exists_mem_of_ne_nil list nonempty
    exact ⟨family, List.mem_flatten.mpr ⟨list, isList, inside⟩, runs family inside⟩
  · obtain ⟨entry, isEntry, operation, file, -, -, runs⟩ := known family member
    rw [runs.compressorType]
    exact exists_createCompressor isEntry (runs.twoArgs args isArgs)
  · obtain ⟨entry, -, operation, file, isFile, -, runs⟩ := known family member
    rw [runs.directoryName, String.toList_ofList]
    obtain ⟨found, ran, -, mem_iff⟩ := CompressionCorpus.getCorpora_eq holds archive file.dirname
    obtain ⟨latest, isLatest⟩ := CompressionCorpus.exists_latestAt isFile
    have samePath := (CompressionCorpus.path_of_latestAt isLatest).2
    refine ⟨found, latest, (mem_iff latest).mpr ⟨samePath ▸ isLatest, ?_⟩, ran,
      congrArg String.ofList (CompressionCorpus.dirname_eq_of_path_eq samePath)⟩
    exact samePath ▸ List.prefix_append _ _

section Automatic

variable {defaultBenchmarks : String → Option DefaultBenchmarkEntry}
  {compressionLevelsMap : String → Option (String → List Int)}

/-- Without explicit counts all directories are registered if the name of each has three parts. -/
theorem registerBenchmarks_isSome_iff (holds : corpus.Holds files) :
    (∃ families, registerBenchmarks false defaultBenchmarks compressionLevelsMap corpus =
        some families) ↔
      ∀ entry ∈ algorithms, ∀ operation, ∀ file ∈ files,
        directoryPrefix entry operation <+: file.dirname →
          3 ≤ (file.dirname.splitOn '_').length := by
  have succeeds : (∃ families, registerBenchmarks false defaultBenchmarks compressionLevelsMap
      corpus = some families) ↔ ∃ lists, (registrations corpus).mapM (fun key =>
        registerDirectory false defaultBenchmarks compressionLevelsMap key.1.1 key.1.2
          (String.ofList key.2)) = some lists := by
    refine ⟨fun ⟨_, registers⟩ => ?_, fun ⟨lists, each⟩ => ⟨lists.flatten, ?_⟩⟩
    · obtain ⟨lists, each, -⟩ := Option.bind_eq_some_iff.mp registers
      exact ⟨lists, each⟩
    · exact Option.bind_eq_some_iff.mpr ⟨lists, each, rfl⟩
  rw [succeeds, mapM_isSome_iff]
  simp only [registerDirectory_isSome_iff, String.toList_ofList]
  constructor
  · intro all entry isEntry operation file isFile begins
    exact all _ ((exists_registrations_iff holds).mpr ⟨isEntry, begins, file, isFile, rfl⟩)
  · rintro all ⟨⟨entry, operation⟩, directory⟩ isRegistered
    obtain ⟨isEntry, begins, file, isFile, rfl⟩ := (exists_registrations_iff holds).mp isRegistered
    exact all entry isEntry operation file isFile begins

/-- Then no two families have the same name. -/
theorem nodup_registerBenchmarks (holds : corpus.Holds files) {families : List BenchmarkFamily}
    (registers : registerBenchmarks false defaultBenchmarks compressionLevelsMap corpus =
      some families) : (families.map BenchmarkFamily.name).Nodup := by
  obtain ⟨lists, each, registers⟩ := Option.bind_eq_some_iff.mp registers
  cases registers
  have names : lists.flatten.map BenchmarkFamily.name =
      ((registrations corpus).map Prod.snd).map fun directory =>
        "BM_COMPRESSION_" ++ String.ofList directory ++ "" := by
    have suffixes : ∀ entry ∈ algorithms, entry.compressorSuffix = "" := by decide
    have known : ∀ key ∈ registrations corpus, key.1.1 ∈ algorithms := fun key member =>
      (mem_registrations.mp member).1
    have pairs := mapM_eq_some_iff.mp each
    clear each registers
    generalize registrations corpus = keys at pairs known
    induction pairs with
    | nil => rfl
    | @cons key list keys lists registers _ inductionHypothesis =>
      obtain ⟨isEntry, others⟩ := List.forall_mem_cons.mp known
      obtain ⟨family, rfl⟩ := List.length_eq_one_iff.mp (length_registerDirectory registers)
      have runs := (registerDirectory_runs registers).2 family List.mem_cons_self
      rw [List.flatten_cons, List.map_append, inductionHypothesis others, List.map_singleton,
        runs.name, suffixes _ isEntry]
      rfl
  rw [names]
  refine (nodup_registrations holds).map fun first second same => ?_
  have same := congrArg String.toList same
  simp only [String.append_empty, String.toList_append, String.toList_ofList] at same
  exact List.append_cancel_left same

end Automatic

end

/-- Of an archive that can be read, every matching directory is registered under the compressor of
its algorithm and finds files to read. Without explicit counts that succeeds if and only if the
names have three parts, and each directory is registered once. -/
theorem registerBenchmarks_archive {archive : ZipArchive} {files : List CorpusFile}
    (read : archive.files = some files)
    (defaultBenchmarks : String → Option DefaultBenchmarkEntry)
    (compressionLevelsMap : String → Option (String → List Int)) :
    ∃ corpus, CompressionCorpus.construct archive = some corpus ∧
      (∀ useExplicitIterationCounts families, registerBenchmarks useExplicitIterationCounts
          defaultBenchmarks compressionLevelsMap corpus = some families →
        Suite archive corpus files families ∧
        (useExplicitIterationCounts = false → (families.map BenchmarkFamily.name).Nodup)) ∧
      ((∃ families, registerBenchmarks false defaultBenchmarks compressionLevelsMap corpus =
          some families) ↔
        ∀ entry ∈ algorithms, ∀ operation, ∀ file ∈ files,
          directoryPrefix entry operation <+: file.dirname →
            3 ≤ (file.dirname.splitOn '_').length) := by
  obtain ⟨corpus, constructed, holds⟩ := CompressionCorpus.holds_construct read
  refine ⟨corpus, constructed, fun useExplicit families registers => ?_,
    registerBenchmarks_isSome_iff holds⟩
  refine ⟨registerBenchmarks_suite holds registers, ?_⟩
  rintro rfl
  exact nodup_registerBenchmarks holds registers

/-- One file in each of two directories, of which one begins with the name of the other. -/
theorem registerBenchmarks_twoDirectories :
    ∃ corpus, CompressionCorpus.construct CompressionCorpus.twoDirectories = some corpus ∧
      (∀ useExplicitIterationCounts families, registerBenchmarks useExplicitIterationCounts
          (kDefaultBenchmarks.lookup ·) (fun _ => none) corpus = some families →
        Suite CompressionCorpus.twoDirectories corpus CompressionCorpus.twoFiles families ∧
        (useExplicitIterationCounts = false → (families.map BenchmarkFamily.name).Nodup)) ∧
      ((∃ families, registerBenchmarks false (kDefaultBenchmarks.lookup ·) (fun _ => none) corpus =
          some families) ↔
        ∀ entry ∈ algorithms, ∀ operation, ∀ file ∈ CompressionCorpus.twoFiles,
          directoryPrefix entry operation <+: file.dirname →
            3 ≤ (file.dirname.splitOn '_').length) :=
  registerBenchmarks_archive rfl _ _

end Fleetbench.Compression
