/-
This file models `generate_corpus_chunks_lookup`: the dataset is cut into chunks,
which are compressed with all parameters and collected by their truncated ratios;
then the ratios of each parameters become the buckets of a table.

An exception leaves no result.
-/

import Fleetbench.Corpora.Chunks
import Fleetbench.Library.Traverse
import Fleetbench.Library.Vector
import Mathlib.Algebra.Order.Floor.Semiring
import Mathlib.Tactic.FieldSimp
import Mathlib.Tactic.Linarith

namespace Fleetbench.Corpora

open Library

/-! ### The dataset -/

/-- What is known of the chunks so far. -/
structure Scan where
  chunkId : Nat
  maxRatioLookup : Dict CompressionParameters ℚ
  ratioToChunk : Dict CompressionParameters (Dict ℚ (List CorpusChunk))

def truncatedRatio (compressionRatio : ℚ) : ℚ := toInt (compressionRatio * 10) / 10

/-- `random.shuffle`. -/
structure Shuffle where
  order : List CorpusChunk → List CorpusChunk
  perm : ∀ chunks, (order chunks).Perm chunks

namespace CorpusChunkManager

variable (manager : CorpusChunkManager)

/-- The body of the loop of `process_chunks`. -/
def processParameters (data : Bytes) (chunk : CorpusChunk) (scan : Scan)
    (parameters : CompressionParameters) : Option Scan := do
  let compressedData := manager.compress data (some parameters.compressionLevel)
  let compressionRatio ← (ratio manager.chunkSize compressedData).toOption
  let truncated := truncatedRatio compressionRatio
  let maxRatio ← scan.maxRatioLookup.get? parameters
  let ratioToChunk ← scan.ratioToChunk.get? parameters
  return { scan with
    maxRatioLookup := scan.maxRatioLookup.set parameters (max truncated maxRatio)
    ratioToChunk := scan.ratioToChunk.set parameters (ratioToChunk.addTo (truncated, chunk)) }

def processChunks (data : Bytes) (chunk : CorpusChunk) (scan : Scan) : Option Scan :=
  manager.parametersList.foldlM (manager.processParameters data chunk) scan

/-- The piece of a file from an index on, unless it is too short. -/
def scanPiece (file : String) (corpus : Bytes) (scan : Scan) (startIdx : Nat) : Option Scan :=
  let endIdx := startIdx + manager.chunkSize
  if corpus.length < endIdx then some scan
  else
    let tempData := (corpus.take endIdx).drop startIdx
    let corpusChunk : CorpusChunk := ⟨tempData, scan.chunkId, file⟩
    manager.processChunks tempData corpusChunk { scan with chunkId := scan.chunkId + 1 }

def scanFile (contents : String → Bytes) (scan : Scan) (file : String) : Option Scan :=
  let corpus := contents file
  if manager.chunkSize = 0 then none
  else (pyRange corpus.length manager.chunkSize).foldlM (manager.scanPiece file corpus) scan

/-- The dictionaries before the first chunk. -/
def initialScan : Scan where
  chunkId := 0
  maxRatioLookup := manager.parametersList.foldl (fun lookup parameters => lookup.set parameters 0)
    manager.maxRatioLookup
  ratioToChunk := manager.parametersList.foldl
    (fun lookup parameters => lookup.set parameters .empty) .empty

/-! ### The table -/

/-- `items[index] = item`. -/
def setItem {Item : Type} (items : List Item) (index : Int) (item : Item) : Option (List Item) :=
  if placeOf items.length index < 0 then none
  else writeAt items (placeOf items.length index).toNat item

/-- The buckets of some parameters. -/
def tabulate (shuffle : ℚ → Shuffle) (maxRatio : ℚ) (ratioToChunk : Dict ℚ (List CorpusChunk)) :
    Option (List (List CorpusChunk)) :=
  ratioToChunk.entries.foldlM
    (fun table entry => setItem table (toInt (entry.1 * 10)) ((shuffle entry.1).order entry.2))
    (List.replicate (toInt (maxRatio * 10) + 1).toNat [])

/-- The shuffles may be different for all parameters and ratios. -/
def createLookupTable (shuffle : CompressionParameters → ℚ → Shuffle) (scan : Scan) :
    Option (Dict CompressionParameters (List (List CorpusChunk))) :=
  manager.parametersList.foldlM
    (fun lookupTable parameters => do
      let maxRatio ← scan.maxRatioLookup.get? parameters
      let ratioToChunk ← scan.ratioToChunk.get? parameters
      let table ← tabulate (shuffle parameters) maxRatio ratioToChunk
      return lookupTable.set parameters table)
    .empty

/-- `generate_corpus_chunks_lookup`, given the contents of the files. -/
def generateCorpusChunksLookup (contents : String → Bytes)
    (shuffle : CompressionParameters → ℚ → Shuffle) : Option CorpusChunkManager := do
  let scan ← manager.dataset.foldlM (manager.scanFile contents) manager.initialScan
  let lookupTable ← manager.createLookupTable shuffle scan
  return { manager with maxRatioLookup := scan.maxRatioLookup, lookupTable }

end CorpusChunkManager

/-! ### All chunks -/

/-- The bytes from `k * c` up to `(k + 1) * c`, as long as there are so many. -/
def fullPieces (chunkSize : Nat) (corpus : Bytes) : List Bytes :=
  (List.range (corpus.length / chunkSize)).map fun k =>
    (corpus.take ((k + 1) * chunkSize)).drop (k * chunkSize)

/-- The pieces of all files, with the names of the files. -/
def allPieces (contents : String → Bytes) (chunkSize : Nat) (dataset : List String) :
    List (String × Bytes) :=
  dataset.flatMap fun file => (fullPieces chunkSize (contents file)).map fun data => (file, data)

/-- The chunks of pieces are numbered in order. -/
def numbered (pieces : List (String × Bytes)) : List CorpusChunk :=
  pieces.mapIdx fun chunkId piece => ⟨piece.2, chunkId, piece.1⟩

def allChunks (contents : String → Bytes) (chunkSize : Nat) (dataset : List String) :
    List CorpusChunk :=
  numbered (allPieces contents chunkSize dataset)

theorem numbered_concat (pieces : List (String × Bytes)) (file : String) (data : Bytes) :
    numbered (pieces ++ [(file, data)]) = numbered pieces ++ [⟨data, pieces.length, file⟩] :=
  List.mapIdx_concat

theorem nodup_chunkId_numbered (pieces : List (String × Bytes)) :
    ((numbered pieces).map (·.chunkId)).Nodup := by
  have isRange : (numbered pieces).map (·.chunkId) = List.range pieces.length := by
    refine List.ext_getElem ?_ fun index inside _ => ?_
    · rw [numbered, List.length_map, List.length_mapIdx, List.length_range]
    · simp only [numbered, List.getElem_map, List.getElem_mapIdx, List.getElem_range]
  rw [isRange]
  exact List.nodup_range

/-! ### Ratios -/

/-- The largest of some values, or zero if there are none. -/
structure LargestOf (values : List ℚ) (largest : ℚ) : Prop where
  bound : ∀ value ∈ values, value ≤ largest
  attained : largest ∈ values ∨ values = [] ∧ largest = 0

theorem LargestOf.concat {values : List ℚ} {largest value : ℚ}
    (isLargest : LargestOf values largest) (nonneg : 0 ≤ value) :
    LargestOf (values ++ [value]) (max value largest) where
  bound := by
    intro other member
    rcases List.mem_append.mp member with earlier | isNew
    · exact (isLargest.bound other earlier).trans (le_max_right _ _)
    · exact List.mem_singleton.mp isNew ▸ le_max_left _ _
  attained := by
    have last : value ∈ values ++ [value] := List.mem_append_right _ List.mem_cons_self
    rcases isLargest.attained with member | ⟨-, isZero⟩
    · left
      rcases max_choice value largest with isMax | isMax
      · rw [isMax]
        exact last
      · rw [isMax]
        exact List.mem_append_left _ member
    · rw [isZero, max_eq_left nonneg]
      exact .inl last

namespace CorpusChunkManager

variable (manager : CorpusChunkManager) (parameters : CompressionParameters)

/-- The size that a chunk is compressed to. -/
def compressedSize (chunk : CorpusChunk) : Nat :=
  (manager.compress chunk.data (some parameters.compressionLevel)).length

def chunkRatio (chunk : CorpusChunk) : ℚ :=
  truncatedRatio (manager.chunkSize / manager.compressedSize parameters chunk)

/-- The bucket of a chunk. -/
def bucketOf (chunk : CorpusChunk) : ℤ :=
  ⌊10 * (manager.chunkSize : ℚ) / manager.compressedSize parameters chunk⌋

theorem bucketOf_nonneg (chunk : CorpusChunk) : 0 ≤ manager.bucketOf parameters chunk :=
  Int.floor_nonneg.mpr (by positivity)

theorem chunkRatio_eq (chunk : CorpusChunk) :
    manager.chunkRatio parameters chunk = manager.bucketOf parameters chunk / 10 := by
  have nonneg : (0 : ℚ) ≤ manager.chunkSize / manager.compressedSize parameters chunk * 10 := by
    positivity
  rw [chunkRatio, truncatedRatio, toInt_of_nonneg nonneg, bucketOf, mul_div_assoc, mul_comm]

theorem chunkRatio_nonneg (chunk : CorpusChunk) : 0 ≤ manager.chunkRatio parameters chunk := by
  rw [chunkRatio_eq]
  exact div_nonneg (Int.cast_nonneg (manager.bucketOf_nonneg parameters chunk)) (by decide)

theorem chunkRatio_mul (chunk : CorpusChunk) :
    manager.chunkRatio parameters chunk * 10 = manager.bucketOf parameters chunk := by
  rw [chunkRatio_eq]
  exact div_mul_cancel₀ _ (by decide)

theorem toInt_chunkRatio (chunk : CorpusChunk) :
    toInt (manager.chunkRatio parameters chunk * 10) = manager.bucketOf parameters chunk := by
  rw [chunkRatio_mul, toInt_of_nonneg (Int.cast_nonneg (manager.bucketOf_nonneg parameters chunk)),
    Int.floor_intCast]

/-! ### One chunk -/

/-- The entries of the dictionary of ratios. -/
def ratioEntries (chunks : List CorpusChunk) : List (ℚ × CorpusChunk) :=
  chunks.map fun chunk => (manager.chunkRatio parameters chunk, chunk)

/-- The dictionaries after some pieces. -/
structure Scanned (scan : Scan) (pieces : List (String × Bytes)) : Prop where
  chunkId : scan.chunkId = pieces.length
  maxRatio : ∀ parameters ∈ manager.parametersList, ∃ maxRatio,
    scan.maxRatioLookup.get? parameters = some maxRatio ∧
      LargestOf ((numbered pieces).map (manager.chunkRatio parameters)) maxRatio
  ratioToChunk : ∀ parameters ∈ manager.parametersList,
    scan.ratioToChunk.get? parameters =
      some (Dict.group (manager.ratioEntries parameters (numbered pieces)))

theorem scanned_initialScan : manager.Scanned manager.initialScan [] where
  chunkId := rfl
  maxRatio := fun _ member =>
    ⟨0, Dict.get?_foldl_set_const member _ _, fun _ inside => (nomatch inside), .inr ⟨rfl, rfl⟩⟩
  ratioToChunk := fun _ member => Dict.get?_foldl_set_const member _ _

variable {manager}

/-- The dictionaries of some parameters get the chunk. -/
theorem processParameters_spec (compresses : manager.Compresses) {data : Bytes}
    {chunk : CorpusChunk} (isData : chunk.data = data) {scan : Scan}
    {parameters : CompressionParameters} {maxRatio : ℚ} {groups : Dict ℚ (List CorpusChunk)}
    (isMax : scan.maxRatioLookup.get? parameters = some maxRatio)
    (areGroups : scan.ratioToChunk.get? parameters = some groups) :
    ∃ next, manager.processParameters data chunk scan parameters = some next ∧
      next.chunkId = scan.chunkId ∧
      next.maxRatioLookup = scan.maxRatioLookup.set parameters
        (max (manager.chunkRatio parameters chunk) maxRatio) ∧
      next.ratioToChunk = scan.ratioToChunk.set parameters
        (groups.addTo (manager.chunkRatio parameters chunk, chunk)) := by
  subst isData
  have compressed := compresses.compress_ne_nil chunk.data (some parameters.compressionLevel)
  rw [processParameters, ratio_of_ne_nil _ compressed, isMax, areGroups]
  exact ⟨_, rfl, rfl, rfl, rfl⟩

/-- All parameters get the chunk, and nothing else is changed. -/
theorem foldlM_processParameters (compresses : manager.Compresses) {data : Bytes}
    {chunk : CorpusChunk} (isData : chunk.data = data) {maxRatio : CompressionParameters → ℚ}
    {groups : CompressionParameters → Dict ℚ (List CorpusChunk)}
    {todo : List CompressionParameters} (distinct : todo.Nodup) {scan : Scan}
    (areMax : ∀ parameters ∈ todo,
      scan.maxRatioLookup.get? parameters = some (maxRatio parameters))
    (areGroups : ∀ parameters ∈ todo,
      scan.ratioToChunk.get? parameters = some (groups parameters)) :
    ∃ after, todo.foldlM (manager.processParameters data chunk) scan = some after ∧
      after.chunkId = scan.chunkId ∧
      (∀ parameters ∈ todo, after.maxRatioLookup.get? parameters =
          some (max (manager.chunkRatio parameters chunk) (maxRatio parameters)) ∧
        after.ratioToChunk.get? parameters =
          some ((groups parameters).addTo (manager.chunkRatio parameters chunk, chunk))) ∧
      ∀ parameters, parameters ∉ todo →
        after.maxRatioLookup.get? parameters = scan.maxRatioLookup.get? parameters ∧
        after.ratioToChunk.get? parameters = scan.ratioToChunk.get? parameters := by
  induction todo generalizing scan with
  | nil => exact ⟨scan, rfl, rfl, fun _ member => (nomatch member), fun _ _ => ⟨rfl, rfl⟩⟩
  | cons first rest inductionHypothesis =>
    obtain ⟨notInRest, distinct⟩ := List.nodup_cons.mp distinct
    obtain ⟨firstMax, areMax⟩ := List.forall_mem_cons.mp areMax
    obtain ⟨firstGroups, areGroups⟩ := List.forall_mem_cons.mp areGroups
    have different : ∀ {parameters}, parameters ∈ rest → parameters ≠ first := by
      rintro _ member rfl
      exact notInRest member
    obtain ⟨next, processed, nextId, nextMax, nextGroups⟩ :=
      processParameters_spec compresses isData firstMax firstGroups
    have restMax : ∀ parameters ∈ rest,
        next.maxRatioLookup.get? parameters = some (maxRatio parameters) := by
      intro parameters member
      rw [nextMax, Dict.get?_set_of_ne _ (different member)]
      exact areMax parameters member
    have restGroups : ∀ parameters ∈ rest,
        next.ratioToChunk.get? parameters = some (groups parameters) := by
      intro parameters member
      rw [nextGroups, Dict.get?_set_of_ne _ (different member)]
      exact areGroups parameters member
    obtain ⟨after, runs, sameId, changed, unchanged⟩ :=
      inductionHypothesis distinct restMax restGroups
    refine ⟨after, ?_, sameId.trans nextId, List.forall_mem_cons.mpr ⟨?_, changed⟩,
      fun parameters outside => ?_⟩
    · rw [List.foldlM_cons, processed]
      exact runs
    · obtain ⟨isMax, isGroups⟩ := unchanged first notInRest
      rw [isMax, isGroups, nextMax, nextGroups, Dict.get?_set_self, Dict.get?_set_self]
      exact ⟨rfl, rfl⟩
    · rw [List.mem_cons, not_or] at outside
      obtain ⟨isMax, isGroups⟩ := unchanged parameters outside.2
      rw [isMax, isGroups, nextMax, nextGroups, Dict.get?_set_of_ne _ outside.1,
        Dict.get?_set_of_ne _ outside.1]
      exact ⟨rfl, rfl⟩

/-- The dictionaries behind one more chunk. -/
theorem Scanned.processChunks (compresses : manager.Compresses) {scan : Scan}
    {pieces : List (String × Bytes)} (scanned : manager.Scanned scan pieces) (file : String)
    (data : Bytes) : ∃ after, manager.processChunks data ⟨data, scan.chunkId, file⟩
        { scan with chunkId := scan.chunkId + 1 } = some after ∧
      manager.Scanned after (pieces ++ [(file, data)]) := by
  have largest : ∀ parameters, ∃ maxRatio, parameters ∈ manager.parametersList →
      scan.maxRatioLookup.get? parameters = some maxRatio ∧
        LargestOf ((numbered pieces).map (manager.chunkRatio parameters)) maxRatio := by
    intro parameters
    by_cases member : parameters ∈ manager.parametersList
    · obtain ⟨maxRatio, isMax⟩ := scanned.maxRatio parameters member
      exact ⟨maxRatio, fun _ => isMax⟩
    · exact ⟨0, fun inside => absurd inside member⟩
  choose maxRatio areMax using largest
  have isNumbered := numbered_concat pieces file data
  rw [← scanned.chunkId] at isNumbered
  have isData : (⟨data, scan.chunkId, file⟩ : CorpusChunk).data = data := rfl
  have counted : ∀ parameters ∈ manager.parametersList,
      { scan with chunkId := scan.chunkId + 1 }.maxRatioLookup.get? parameters =
        some (maxRatio parameters) := fun parameters member => (areMax parameters member).1
  obtain ⟨after, runs, isId, changed, -⟩ := foldlM_processParameters compresses isData
    manager.nodup_parametersList counted scanned.ratioToChunk
  refine ⟨after, runs, ?_, fun parameters member => ?_, fun parameters member => ?_⟩
  · rw [isId, List.length_append, ← scanned.chunkId]
    rfl
  · refine ⟨_, (changed parameters member).1, ?_⟩
    rw [isNumbered, List.map_append]
    exact (areMax parameters member).2.concat (manager.chunkRatio_nonneg parameters _)
  · rw [(changed parameters member).2, isNumbered, ratioEntries, ratioEntries, List.map_append]
    exact congrArg some (Dict.group_concat _ _).symm

/-! ### All files -/

/-- A piece of full size has its end in the file. -/
theorem isFull_iff {chunkSize : Nat} (positive : 0 < chunkSize) (length k : Nat) :
    ¬ length < 0 + chunkSize * k + chunkSize ↔ k < length / chunkSize := by
  rw [not_lt, Nat.zero_add, ← Nat.mul_succ, Nat.lt_iff_add_one_le,
    Nat.le_div_iff_mul_le positive, Nat.mul_comm]

/-- The first pieces of a file. -/
def firstPieces (chunkSize : Nat) (corpus : Bytes) (count : Nat) : List Bytes :=
  (List.range count).map fun k => (corpus.take ((k + 1) * chunkSize)).drop (k * chunkSize)

theorem firstPieces_succ (chunkSize : Nat) (corpus : Bytes) (count : Nat) :
    firstPieces chunkSize corpus (count + 1) = firstPieces chunkSize corpus count ++
      [(corpus.take ((count + 1) * chunkSize)).drop (count * chunkSize)] := by
  rw [firstPieces, List.range_succ, List.map_append]
  rfl

/-- The dictionaries after some steps through a file. -/
theorem Scanned.foldlM_scanPiece (compresses : manager.Compresses)
    (positive : 0 < manager.chunkSize) {scan : Scan} {pieces : List (String × Bytes)}
    (scanned : manager.Scanned scan pieces) (file : String) (corpus : Bytes) (count : Nat) :
    ∃ after, (List.range' 0 count manager.chunkSize).foldlM (manager.scanPiece file corpus) scan =
        some after ∧
      manager.Scanned after (pieces ++ (firstPieces manager.chunkSize corpus
        (min count (corpus.length / manager.chunkSize))).map fun data => (file, data)) := by
  induction count with
  | zero =>
    rw [Nat.zero_min]
    exact ⟨scan, rfl, (List.append_nil pieces).symm ▸ scanned⟩
  | succ count inductionHypothesis =>
    obtain ⟨middle, runs, scanned'⟩ := inductionHypothesis
    have lastStep : (List.range' 0 (count + 1) manager.chunkSize).foldlM
        (manager.scanPiece file corpus) scan =
          manager.scanPiece file corpus middle (0 + manager.chunkSize * count) := by
      rw [List.range'_concat, List.foldlM_append, runs]
      exact Option.bind_fun_some _
    rw [lastStep, scanPiece]
    by_cases isFull : count < corpus.length / manager.chunkSize
    · rw [if_neg ((isFull_iff positive _ _).mpr isFull), Nat.min_eq_left isFull,
        firstPieces_succ, List.map_append, ← List.append_assoc]
      rw [Nat.min_eq_left isFull.le] at scanned'
      have isEnd : 0 + manager.chunkSize * count + manager.chunkSize =
          (count + 1) * manager.chunkSize := by
        rw [Nat.zero_add, ← Nat.mul_succ, Nat.mul_comm]
      rw [isEnd, Nat.zero_add, Nat.mul_comm manager.chunkSize count]
      exact scanned'.processChunks compresses file _
    · have noMore := not_lt.mp isFull
      rw [if_pos (not_not.mp (mt (isFull_iff positive _ _).mp isFull)),
        Nat.min_eq_right (noMore.trans (Nat.le_succ count))]
      rw [Nat.min_eq_right noMore] at scanned'
      exact ⟨middle, rfl, scanned'⟩

theorem Scanned.scanFile (compresses : manager.Compresses) (positive : 0 < manager.chunkSize)
    {scan : Scan} {pieces : List (String × Bytes)} (scanned : manager.Scanned scan pieces)
    (contents : String → Bytes) (file : String) :
    ∃ after, manager.scanFile contents scan file = some after ∧
      manager.Scanned after (pieces ++
        (fullPieces manager.chunkSize (contents file)).map fun data => (file, data)) := by
  have enough : (contents file).length / manager.chunkSize ≤
      ((contents file).length + manager.chunkSize - 1) / manager.chunkSize :=
    Nat.div_le_div_right (by omega)
  obtain ⟨after, runs, scanned'⟩ := scanned.foldlM_scanPiece compresses positive file
    (contents file) (((contents file).length + manager.chunkSize - 1) / manager.chunkSize)
  rw [Nat.min_eq_right enough] at scanned'
  refine ⟨after, ?_, scanned'⟩
  rw [CorpusChunkManager.scanFile, if_neg positive.ne', pyRange, Int.toNat_natCast]
  exact runs

theorem Scanned.dataset (compresses : manager.Compresses) (positive : 0 < manager.chunkSize)
    (contents : String → Bytes) (files : List String) {scan : Scan}
    {pieces : List (String × Bytes)} (scanned : manager.Scanned scan pieces) :
    ∃ after, files.foldlM (manager.scanFile contents) scan = some after ∧
      manager.Scanned after (pieces ++ allPieces contents manager.chunkSize files) := by
  induction files generalizing scan pieces with
  | nil => exact ⟨scan, rfl, (List.append_nil pieces).symm ▸ scanned⟩
  | cons file rest inductionHypothesis =>
    obtain ⟨next, isNext, scanned'⟩ := scanned.scanFile compresses positive contents file
    obtain ⟨after, runs, scanned''⟩ := inductionHypothesis scanned'
    rw [List.append_assoc] at scanned''
    refine ⟨after, ?_, scanned''⟩
    rw [List.foldlM_cons, isNext]
    exact runs

/-! ### One table -/

theorem setItem_of_nonneg {Item : Type} (items : List Item) {index : Int} (nonneg : 0 ≤ index)
    (item : Item) : setItem items index item = writeAt items index.toNat item := by
  have place : placeOf items.length index = index := if_neg (not_lt.mpr nonneg)
  rw [setItem, place, if_neg (not_lt.mpr nonneg)]

variable (manager) (parameters : CompressionParameters)

theorem chunkRatio_eq_iff (first second : CorpusChunk) :
    manager.chunkRatio parameters first = manager.chunkRatio parameters second ↔
      manager.bucketOf parameters first = manager.bucketOf parameters second := by
  constructor
  · intro same
    rw [← toInt_chunkRatio, same, toInt_chunkRatio]
  · intro same
    rw [chunkRatio_eq, same, ← chunkRatio_eq]

/-- Every entry of the dictionary of ratios has the chunks of one bucket. -/
theorem exists_of_mem_group {chunks : List CorpusChunk} {ratio : ℚ} {values : List CorpusChunk}
    (member : (ratio, values) ∈ (Dict.group (manager.ratioEntries parameters chunks)).entries) :
    ∃ chunk ∈ chunks, manager.chunkRatio parameters chunk = ratio ∧
      values = chunks.filter fun other =>
        manager.bucketOf parameters other = manager.bucketOf parameters chunk := by
  have isKey : ratio ∈ (Dict.group (manager.ratioEntries parameters chunks)).keys :=
    List.mem_map_of_mem member
  rw [Dict.mem_keys_group, ratioEntries, List.map_map] at isKey
  obtain ⟨chunk, inside, isRatio⟩ := List.mem_map.mp isKey
  refine ⟨chunk, inside, isRatio, ?_⟩
  rw [Dict.mem_entries_group member, ratioEntries, List.filter_map, List.map_map]
  refine (List.map_id _).trans (List.filter_congr fun other _ => ?_)
  refine decide_eq_decide.mpr ?_
  rw [← chunkRatio_eq_iff, show manager.chunkRatio parameters chunk = ratio from isRatio]

/-- The bucket of a chunk is in the table. -/
theorem bucketOf_le {chunks : List CorpusChunk} {maxRatio : ℚ}
    (isLargest : LargestOf (chunks.map (manager.chunkRatio parameters)) maxRatio)
    {chunk : CorpusChunk} (member : chunk ∈ chunks) :
    manager.bucketOf parameters chunk ≤ toInt (maxRatio * 10) := by
  have below : manager.chunkRatio parameters chunk * 10 ≤ maxRatio * 10 :=
    mul_le_mul_of_nonneg_right (isLargest.bound _ (List.mem_map_of_mem member)) (by decide)
  rw [chunkRatio_mul] at below
  have nonneg : (0 : ℚ) ≤ manager.bucketOf parameters chunk :=
    Int.cast_nonneg (manager.bucketOf_nonneg parameters chunk)
  rw [toInt_of_nonneg (nonneg.trans below)]
  exact Int.le_floor.mpr below

/-- The writes that make a table out of a dictionary of ratios. -/
def writes (shuffle : ℚ → Shuffle) (groups : Dict ℚ (List CorpusChunk)) :
    List (Nat × List CorpusChunk) :=
  groups.entries.map fun entry =>
    ((toInt (entry.1 * 10)).toNat, (shuffle entry.1).order entry.2)

theorem tabulate_eq (shuffle : ℚ → Shuffle) (maxRatio : ℚ) (chunks : List CorpusChunk) :
    tabulate shuffle maxRatio (Dict.group (manager.ratioEntries parameters chunks)) =
      (writes shuffle (Dict.group (manager.ratioEntries parameters chunks))).foldlM
        (fun table write => writeAt table write.1 write.2)
        (List.replicate (toInt (maxRatio * 10) + 1).toNat []) := by
  rw [tabulate, writes, List.foldlM_map]
  refine foldlM_congr_of_mem (fun table entry member => ?_) _
  obtain ⟨chunk, -, isRatio, -⟩ := manager.exists_of_mem_group parameters member
  refine setItem_of_nonneg _ ?_ _
  rw [← isRatio, toInt_chunkRatio]
  exact manager.bucketOf_nonneg parameters chunk

/-- The write of the bucket of a chunk. -/
def writeOf (shuffle : ℚ → Shuffle) (chunks : List CorpusChunk) (chunk : CorpusChunk) :
    Nat × List CorpusChunk :=
  ((manager.bucketOf parameters chunk).toNat,
    (shuffle (manager.chunkRatio parameters chunk)).order (chunks.filter fun other =>
      manager.bucketOf parameters other = manager.bucketOf parameters chunk))

theorem mem_writes_iff (shuffle : ℚ → Shuffle) (chunks : List CorpusChunk)
    (write : Nat × List CorpusChunk) :
    write ∈ writes shuffle (Dict.group (manager.ratioEntries parameters chunks)) ↔
      ∃ chunk ∈ chunks, write = manager.writeOf parameters shuffle chunks chunk := by
  constructor
  · intro member
    obtain ⟨⟨ratio, values⟩, isEntry, rfl⟩ := List.mem_map.mp member
    obtain ⟨chunk, inside, rfl, rfl⟩ := manager.exists_of_mem_group parameters isEntry
    refine ⟨chunk, inside, ?_⟩
    rw [toInt_chunkRatio]
    rfl
  · rintro ⟨chunk, inside, rfl⟩
    have isKey : manager.chunkRatio parameters chunk ∈
        (Dict.group (manager.ratioEntries parameters chunks)).keys := by
      rw [Dict.mem_keys_group, ratioEntries, List.map_map]
      exact List.mem_map_of_mem inside
    obtain ⟨⟨ratio, values⟩, isEntry, isRatio⟩ := List.mem_map.mp isKey
    obtain ⟨other, -, rfl, rfl⟩ := manager.exists_of_mem_group parameters isEntry
    refine List.mem_map.mpr ⟨_, isEntry, ?_⟩
    rw [show manager.chunkRatio parameters other = manager.chunkRatio parameters chunk from isRatio,
      toInt_chunkRatio, (manager.chunkRatio_eq_iff parameters other chunk).mp isRatio]
    rfl

/-- Chunks of the same bucket have the same write. -/
theorem writeOf_congr (shuffle : ℚ → Shuffle) (chunks : List CorpusChunk)
    {first second : CorpusChunk} (same : (manager.bucketOf parameters first).toNat =
      (manager.bucketOf parameters second).toNat) :
    manager.writeOf parameters shuffle chunks first =
      manager.writeOf parameters shuffle chunks second := by
  have firstNonneg := manager.bucketOf_nonneg parameters first
  have secondNonneg := manager.bucketOf_nonneg parameters second
  have sameBucket : manager.bucketOf parameters first = manager.bucketOf parameters second := by
    omega
  rw [writeOf, writeOf, sameBucket, (manager.chunkRatio_eq_iff parameters _ _).mpr sameBucket]

/-- The table has a bucket for every ratio up to the largest one, with the chunks of that ratio. -/
theorem tabulate_spec (shuffle : ℚ → Shuffle) {maxRatio : ℚ} {chunks : List CorpusChunk}
    (isLargest : LargestOf (chunks.map (manager.chunkRatio parameters)) maxRatio) :
    ∃ table, tabulate shuffle maxRatio (Dict.group (manager.ratioEntries parameters chunks)) =
        some table ∧
      table.length = (toInt (maxRatio * 10) + 1).toNat ∧
      ∀ slot row, table[slot]? = some row → List.Perm row
        (chunks.filter fun chunk => (manager.bucketOf parameters chunk).toNat = slot) := by
  have bound : ∀ write ∈ writes shuffle (Dict.group (manager.ratioEntries parameters chunks)),
      write.1 < (List.replicate (toInt (maxRatio * 10) + 1).toNat
        ([] : List CorpusChunk)).length := by
    intro write member
    obtain ⟨chunk, inside, rfl⟩ := (manager.mem_writes_iff parameters _ _ _).mp member
    have below := manager.bucketOf_le parameters isLargest inside
    have nonneg := manager.bucketOf_nonneg parameters chunk
    rw [List.length_replicate, writeOf]
    omega
  obtain ⟨table, runs, length, written⟩ := foldlM_writeAt bound
  rw [List.length_replicate] at length
  refine ⟨table, (manager.tabulate_eq parameters shuffle maxRatio chunks).trans runs, length, ?_⟩
  intro slot row isRow
  by_cases isBucket : ∃ chunk ∈ chunks, (manager.bucketOf parameters chunk).toNat = slot
  · obtain ⟨chunk, inside, rfl⟩ := isBucket
    have isWritten := written _ (manager.writeOf parameters shuffle chunks chunk).2
      (fun write member sameSlot => by
        obtain ⟨other, -, rfl⟩ := (manager.mem_writes_iff parameters _ _ _).mp member
        rw [manager.writeOf_congr parameters shuffle chunks sameSlot])
      (.inr ⟨_, (manager.mem_writes_iff parameters _ _ _).mpr ⟨chunk, inside, rfl⟩, rfl⟩)
    cases Option.some.inj (isRow.symm.trans isWritten)
    refine ((shuffle _).perm _).trans (.of_eq (List.filter_congr fun other _ => ?_))
    have nonneg := manager.bucketOf_nonneg parameters chunk
    have nonneg' := manager.bucketOf_nonneg parameters other
    exact decide_eq_decide.mpr (by omega)
  · have noChunks : (chunks.filter fun chunk =>
        (manager.bucketOf parameters chunk).toNat = slot) = [] :=
      List.filter_eq_nil_iff.mpr fun chunk inside isSlot =>
        isBucket ⟨chunk, inside, of_decide_eq_true isSlot⟩
    have below : slot < (toInt (maxRatio * 10) + 1).toNat :=
      length ▸ (List.getElem?_eq_some_iff.mp isRow).1
    have isEmpty := written slot []
      (fun write member isSlot => by
        obtain ⟨chunk, inside, rfl⟩ := (manager.mem_writes_iff parameters _ _ _).mp member
        exact absurd ⟨chunk, inside, isSlot⟩ isBucket)
      (.inl (List.getElem?_replicate_of_lt below))
    cases Option.some.inj (isRow.symm.trans isEmpty)
    rw [noChunks]

/-! ### The lookup table -/

/-- The largest ratio and the table are right for some chunks. -/
structure Tabulates (chunks : List CorpusChunk) (maxRatio : ℚ) (table : List (List CorpusChunk)) :
    Prop where
  largest : LargestOf (chunks.map (manager.chunkRatio parameters)) maxRatio
  length : (table.length : ℤ) = ⌊10 * maxRatio⌋ + 1
  all : table.flatten.Perm chunks
  buckets : ∀ (index : ℕ) (bucket : List CorpusChunk), table[index]? = some bucket →
    ∀ chunk ∈ bucket, (index : ℤ) = manager.bucketOf parameters chunk

theorem tabulate_tabulates (shuffle : ℚ → Shuffle) {maxRatio : ℚ} {chunks : List CorpusChunk}
    (isLargest : LargestOf (chunks.map (manager.chunkRatio parameters)) maxRatio) :
    ∃ table, tabulate shuffle maxRatio (Dict.group (manager.ratioEntries parameters chunks)) =
        some table ∧
      manager.Tabulates parameters chunks maxRatio table := by
  have nonneg : 0 ≤ maxRatio := by
    rcases isLargest.attained with member | ⟨-, isZero⟩
    · obtain ⟨chunk, -, rfl⟩ := List.mem_map.mp member
      exact manager.chunkRatio_nonneg parameters chunk
    · exact isZero.ge
  have isFloor : toInt (maxRatio * 10) = ⌊10 * maxRatio⌋ := by
    rw [toInt_of_nonneg (mul_nonneg nonneg (by decide)), mul_comm]
  obtain ⟨table, runs, length, filters⟩ := manager.tabulate_spec parameters shuffle isLargest
  have floorNonneg : 0 ≤ ⌊10 * maxRatio⌋ := Int.floor_nonneg.mpr (mul_nonneg (by decide) nonneg)
  refine ⟨table, runs, isLargest, ?_, ?_, fun index bucket isBucket chunk member => ?_⟩
  · rw [length, isFloor]
    omega
  · refine flatten_perm_of_filters _ (fun chunk inside => ?_) filters
    have below := manager.bucketOf_le parameters isLargest inside
    have bucketNonneg := manager.bucketOf_nonneg parameters chunk
    rw [length]
    omega
  · have isIndex := (List.mem_filter.mp ((filters index bucket isBucket).mem_iff.mp member)).2
    have bucketNonneg := manager.bucketOf_nonneg parameters chunk
    rw [← of_decide_eq_true isIndex]
    omega

/-- Every parameters get their own table. -/
theorem createLookupTable_spec (shuffle : CompressionParameters → ℚ → Shuffle) {scan : Scan}
    {pieces : List (String × Bytes)} (scanned : manager.Scanned scan pieces) :
    ∃ lookupTable, manager.createLookupTable shuffle scan = some lookupTable ∧
      ∀ parameters ∈ manager.parametersList, ∃ maxRatio table,
        scan.maxRatioLookup.get? parameters = some maxRatio ∧
        lookupTable.get? parameters = some table ∧
        manager.Tabulates parameters (numbered pieces) maxRatio table := by
  have existing : ∀ parameters, ∃ maxRatio table, parameters ∈ manager.parametersList →
      scan.maxRatioLookup.get? parameters = some maxRatio ∧
      tabulate (shuffle parameters) maxRatio
        (Dict.group (manager.ratioEntries parameters (numbered pieces))) = some table ∧
      manager.Tabulates parameters (numbered pieces) maxRatio table := by
    intro parameters
    by_cases member : parameters ∈ manager.parametersList
    · obtain ⟨maxRatio, isMax, isLargest⟩ := scanned.maxRatio parameters member
      obtain ⟨table, runs, tabulates⟩ :=
        manager.tabulate_tabulates parameters (shuffle parameters) isLargest
      exact ⟨maxRatio, table, fun _ => ⟨isMax, runs, tabulates⟩⟩
    · exact ⟨0, [], fun inside => absurd inside member⟩
  choose maxRatio table areTables using existing
  have steps : manager.createLookupTable shuffle scan = manager.parametersList.foldlM
      (fun lookupTable parameters => some (lookupTable.set parameters (table parameters)))
      .empty := by
    refine foldlM_congr_of_mem (fun lookupTable parameters member => ?_) _
    obtain ⟨isMax, runs, -⟩ := areTables parameters member
    rw [isMax, scanned.ratioToChunk parameters member]
    simp only [Option.bind_eq_bind, Option.bind_some, runs]
    rfl
  have distinct : (manager.parametersList.map id).Nodup :=
    (List.map_id _).symm ▸ manager.nodup_parametersList
  obtain ⟨lookupTable, runs, values, -⟩ := Dict.foldlM_set distinct table .empty
  refine ⟨lookupTable, steps.trans runs, fun parameters member => ?_⟩
  obtain ⟨isMax, -, tabulates⟩ := areTables parameters member
  exact ⟨_, _, isMax, values parameters member, tabulates⟩

/-- The lookup table has every full chunk of the dataset once, in the bucket of its ratio. -/
theorem generateCorpusChunksLookup_tabulates (contents : String → Bytes)
    (shuffle : CompressionParameters → ℚ → Shuffle) (positive : 0 < manager.chunkSize)
    (compresses : manager.Compresses) :
    ∃ after, manager.generateCorpusChunksLookup contents shuffle = some after ∧
      (∀ parameters ∈ manager.parametersList, ∃ maxRatio table,
        after.maxRatioLookup.get? parameters = some maxRatio ∧
        after.lookupTable.get? parameters = some table ∧
        manager.Tabulates parameters (allChunks contents manager.chunkSize manager.dataset)
          maxRatio table) ∧
      ((allChunks contents manager.chunkSize manager.dataset).map (·.chunkId)).Nodup := by
  obtain ⟨scan, scans, scanned⟩ :=
    (scanned_initialScan manager).dataset compresses positive contents manager.dataset
  rw [List.nil_append] at scanned
  obtain ⟨lookupTable, creates, tables⟩ := manager.createLookupTable_spec shuffle scanned
  refine ⟨{ manager with maxRatioLookup := scan.maxRatioLookup, lookupTable }, ?_, tables,
    nodup_chunkId_numbered _⟩
  rw [generateCorpusChunksLookup, scans]
  simp only [Option.bind_eq_bind, Option.bind_some, creates]
  rfl

end CorpusChunkManager

/-! ### Two files -/

/-- Two files that are cut into pairs of bytes; repeated bytes are compressed. -/
def twoFiles : CorpusChunkManager where
  algorithm := .snappy
  compressFunction data _ :=
    match data with
    | [] => [0]
    | first :: rest => if rest = [first] then [first] else 0 :: first :: rest
  dataset := ["first", "second"]
  chunkSize := 2

def twoContents (file : String) : Bytes :=
  if file = "first" then [1, 1, 1, 2, 3] else [3, 3]

example : ((twoFiles.generateCorpusChunksLookup twoContents fun _ _ => ⟨id, .refl⟩).bind
      fun after => after.lookupTable.get? ⟨16, 0⟩).map (fun table =>
        table.map fun bucket => bucket.map (·.chunkId)) =
    some (List.replicate 6 [] ++ [[1]] ++ List.replicate 13 [] ++ [[0, 2]]) := by
  decide +kernel

theorem generateCorpusChunksLookup_twoFiles :
    ∃ after, twoFiles.generateCorpusChunksLookup twoContents (fun _ _ => ⟨id, .refl⟩) = some after ∧
      (∀ parameters ∈ twoFiles.parametersList, ∃ maxRatio table,
        after.maxRatioLookup.get? parameters = some maxRatio ∧
        after.lookupTable.get? parameters = some table ∧
        twoFiles.Tabulates parameters (allChunks twoContents twoFiles.chunkSize twoFiles.dataset)
          maxRatio table) ∧
      ((allChunks twoContents twoFiles.chunkSize twoFiles.dataset).map (·.chunkId)).Nodup := by
  refine twoFiles.generateCorpusChunksLookup_tabulates twoContents _ (by decide) fun data _ => ?_
  cases data with
  | nil => exact List.cons_ne_nil _ _
  | cons first rest =>
    simp only [twoFiles]
    split
    · exact List.cons_ne_nil _ _
    · exact List.cons_ne_nil _ _

end Fleetbench.Corpora
