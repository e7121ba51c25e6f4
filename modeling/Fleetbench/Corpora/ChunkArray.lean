/-
This file models `create_chunk_array`, which takes chunks from the buckets of the
lookup table, one for each chunk size of the call. A cursor moves through the
buckets from the target ratio downwards; in the middle of the call it is calibrated
once, which may send it to the first bucket and turn its direction.

The state has two records that the code has not: the indices that the table was
read at, and the places of the chunks that were taken. The inner loop is run with
fuel.
-/

import Fleetbench.Corpora.Chunks
import Fleetbench.Library.Loop
import Mathlib.Algebra.Order.Floor.Semiring
import Mathlib.Tactic.Linarith

namespace Fleetbench.Corpora

open Library

/-! ### The cursor -/

/-- The variables of `create_chunk_array`. -/
structure Selection where
  outputChunkArray : List CorpusChunk
  currentChunkIndex : Nat
  currentCompressionRatioIndex : Int
  decreaseCompressionRatio : Bool
  /-- The indices that the table was read at. -/
  probed : List Int
  /-- The bucket and the position of each chunk of the output. -/
  picked : List (Int × Nat)
  deriving DecidableEq, Repr

namespace Selection

def initial (compressionRatioIndex : Int) : Selection where
  outputChunkArray := []
  currentChunkIndex := 0
  currentCompressionRatioIndex := compressionRatioIndex
  decreaseCompressionRatio := true
  probed := []
  picked := []

def probe (selection : Selection) : Selection :=
  { selection with probed := selection.probed ++ [selection.currentCompressionRatioIndex] }

/-- Go to the next bucket, after the last chunk of this one. -/
def nextBucket (selection : Selection) : Selection :=
  { selection with
    currentCompressionRatioIndex :=
      if selection.decreaseCompressionRatio then selection.currentCompressionRatioIndex - 1
      else selection.currentCompressionRatioIndex + 1
    currentChunkIndex := 0 }

def take (selection : Selection) (chunk : CorpusChunk) : Selection :=
  { selection with
    outputChunkArray := selection.outputChunkArray ++ [chunk]
    currentChunkIndex := selection.currentChunkIndex + 1
    picked := selection.picked ++
      [(selection.currentCompressionRatioIndex, selection.currentChunkIndex)] }

/-- Go to the bucket of a calibrated ratio, if it is one of a smaller ratio. -/
def moveTo (selection : Selection) (newCompressionRatioIndex : Int) : Selection :=
  if newCompressionRatioIndex < selection.currentCompressionRatioIndex then
    if newCompressionRatioIndex < 0 then
      { selection with
        currentCompressionRatioIndex := 0
        currentChunkIndex := 0
        decreaseCompressionRatio := false }
    else
      { selection with
        currentCompressionRatioIndex := newCompressionRatioIndex
        currentChunkIndex := 0 }
  else selection

end Selection

/-! ### The loops -/

/-- An exception, `None` or the chunks. -/
abbrev Returned := Except PythonError (Option (List CorpusChunk))

/-- A round of the inner loop. It may end the call; else it ends with one more chunk. -/
def searchRound (table : List (List CorpusChunk)) (selection : Selection) :
    Round Selection (Selection × Option Returned) :=
  if selection.decreaseCompressionRatio ∧ selection.currentCompressionRatioIndex < 0 then
    .stop (selection, some (.ok none))
  else if ¬ selection.decreaseCompressionRatio ∧
      selection.currentCompressionRatioIndex = table.length then
    .stop (selection, some (.ok none))
  else
    match getItem table selection.currentCompressionRatioIndex with
    | .error error => .stop (selection.probe, some (.error error))
    | .ok chunkList =>
      match chunkList[selection.currentChunkIndex]? with
      | none => .again selection.probe.nextBucket
      | some chunk => .stop (selection.probe.take chunk, none)

namespace CorpusChunkManager

variable (manager : CorpusChunkManager) (parameters : CompressionParameters)
  (targetCallSize targetCompressionRatio : ℚ)

/-- Evaluate the chunks so far in the middle of the call. -/
def calibrate (callSize : Nat) (selection : Selection) : Selection × Option Returned :=
  if (callSize : ℚ) = targetCallSize / 2 then
    let compressionLevel :=
      if manager.algorithm = .snappy then none else some parameters.compressionLevel
    match manager.computeCompressionRatio selection.outputChunkArray compressionLevel with
    | .error error => (selection, some (.error error))
    | .ok currentRatio =>
      if currentRatio < 0 then (selection, some (.ok none))
      else
        let diff := currentRatio - targetCompressionRatio
        let newCompressionRatio := targetCompressionRatio - diff
        (selection.moveTo (toInt (newCompressionRatio * 10)), none)
  else (selection, none)

/-- The loop over the call sizes. -/
def selectChunks (fuel : Nat) : List Nat → Selection → Option (Selection × Returned)
  | [], selection => some (selection, .ok (some selection.outputChunkArray))
  | callSize :: rest, selection =>
    match manager.calibrate parameters targetCallSize targetCompressionRatio callSize selection with
    | (selection, some returned) => some (selection, returned)
    | (selection, none) =>
      match loop (searchRound (manager.bucketsOf parameters)) fuel selection with
      | none => none
      | some (selection, some returned) => some (selection, returned)
      | some (selection, none) => selectChunks fuel rest selection

/-- `slice_chunk[0 : stop]`. -/
def sliced (data : Bytes) (stop : Int) : Bytes :=
  data.take (if stop < 0 then stop + data.length else stop).toNat

/-- A part of a random chunk, for sizes below that of the chunks. -/
def sliceChunk (randint : Nat → Nat) (selection : Selection) : Selection × Returned :=
  match getItem (manager.bucketsOf parameters) selection.currentCompressionRatioIndex with
  | .error error => (selection.probe, .error error)
  | .ok chunkList =>
    if chunkList = [] then (selection.probe, .ok none)
    else
      match getItem chunkList (randint (chunkList.length - 1)) with
      | .error error => (selection.probe, .error error)
      | .ok chunk =>
        let corpusChunk := { chunk with data := sliced chunk.data (toInt targetCallSize) }
        (selection.probe, .ok (some [corpusChunk]))

/-- `create_chunk_array`. The random numbers of `randint(0, last)` are a parameter. -/
def createChunkArray (randint : Nat → Nat) (fuel : Nat) : Option (Selection × Returned) :=
  let selection := Selection.initial (toInt (targetCompressionRatio * 10))
  if targetCallSize < 1024 then
    some (manager.sliceChunk parameters targetCallSize randint selection)
  else if manager.chunkSize = 0 then some (selection, .error .valueError)
  else
    manager.selectChunks parameters targetCallSize targetCompressionRatio fuel
      (pyRange (toInt targetCallSize) manager.chunkSize) selection

end CorpusChunkManager

/-! ### Places -/

/-- The chunk at a place of the table. -/
def IsAt (table : List (List CorpusChunk)) (place : Int × Nat) (chunk : CorpusChunk) : Prop :=
  0 ≤ place.1 ∧ ∃ bucket, table[place.1.toNat]? = some bucket ∧ bucket[place.2]? = some chunk

theorem IsAt.exists_mem {table : List (List CorpusChunk)} {place : Int × Nat} {chunk : CorpusChunk}
    (isAt : IsAt table place chunk) : ∃ bucket ∈ table, chunk ∈ bucket := by
  obtain ⟨-, bucket, isBucket, isChunk⟩ := isAt
  exact ⟨bucket, List.mem_of_getElem? isBucket, List.mem_of_getElem? isChunk⟩

/-- The cursor reaches the second place behind the first, if it goes downwards. -/
def Before (first second : Int × Nat) : Prop :=
  second.1 < first.1 ∨ second.1 = first.1 ∧ first.2 < second.2

theorem Before.trans {first second third : Int × Nat} (before : Before first second)
    (before' : Before second third) : Before first third := by
  unfold Before at *
  omega

theorem Before.of_lt {place : Int × Nat} {index index' : Int} {position position' : Nat}
    (before : Before place (index, position)) (lt : index' < index) :
    Before place (index', position') :=
  before.trans (.inl lt)

theorem Before.ne {first second : Int × Nat} (before : Before first second) : first ≠ second := by
  rintro rfl
  unfold Before at before
  omega

theorem Before.le {first second : Int × Nat} (before : Before first second) :
    second.1 ≤ first.1 := by
  unfold Before at before
  omega

/-! ### The inner loop -/

namespace Selection

def cursor (selection : Selection) : Int × Nat :=
  (selection.currentCompressionRatioIndex, selection.currentChunkIndex)

/-- The records are those of a run that was in order so far. -/
structure Sound (table : List (List CorpusChunk)) (selection : Selection) : Prop where
  inRange : ∀ index ∈ selection.probed, 0 ≤ index ∧ index < table.length
  places : List.Forall₂ (IsAt table) selection.picked selection.outputChunkArray
  ordered : selection.decreaseCompressionRatio = true →
    selection.picked.Pairwise Before ∧ ∀ place ∈ selection.picked, Before place selection.cursor

/-- The cursor is at a bucket, or just behind the last one in its direction. -/
structure InTable (table : List (List CorpusChunk)) (selection : Selection) : Prop where
  down : selection.decreaseCompressionRatio = true →
    -1 ≤ selection.currentCompressionRatioIndex ∧
      selection.currentCompressionRatioIndex < table.length
  up : selection.decreaseCompressionRatio = false →
    0 ≤ selection.currentCompressionRatioIndex ∧
      selection.currentCompressionRatioIndex ≤ table.length

/-- The cursor is at a bucket. -/
def AtBucket (table : List (List CorpusChunk)) (selection : Selection) : Prop :=
  0 ≤ selection.currentCompressionRatioIndex ∧
    selection.currentCompressionRatioIndex < table.length

/-- The buckets that the search can still visit. -/
def remaining (table : List (List CorpusChunk)) (selection : Selection) : Nat :=
  if selection.decreaseCompressionRatio then (selection.currentCompressionRatioIndex + 1).toNat
  else (table.length - selection.currentCompressionRatioIndex).toNat

variable {table : List (List CorpusChunk)} {selection : Selection}

theorem AtBucket.inTable (atBucket : selection.AtBucket table) : selection.InTable table where
  down _ := ⟨Int.le_trans (by decide) atBucket.1, atBucket.2⟩
  up _ := ⟨atBucket.1, Int.le_of_lt atBucket.2⟩

theorem Sound.probe (sound : selection.Sound table) (atBucket : selection.AtBucket table) :
    selection.probe.Sound table where
  inRange := by
    intro index member
    rcases List.mem_append.mp member with earlier | isNew
    · exact sound.inRange index earlier
    · exact List.mem_singleton.mp isNew ▸ atBucket
  places := sound.places
  ordered := sound.ordered

theorem Sound.nextBucket (sound : selection.Sound table) : selection.nextBucket.Sound table where
  inRange := sound.inRange
  places := sound.places
  ordered := by
    intro down
    obtain ⟨ordered, before⟩ := sound.ordered down
    have index : selection.nextBucket.currentCompressionRatioIndex =
        selection.currentCompressionRatioIndex - 1 := if_pos down
    refine ⟨ordered, fun place member => (before place member).of_lt ?_⟩
    rw [index]
    exact Int.sub_one_lt_of_le (Int.le_refl _)

theorem AtBucket.nextBucket (atBucket : selection.AtBucket table) :
    selection.nextBucket.InTable table ∧
      selection.nextBucket.remaining table < selection.remaining table := by
  obtain ⟨nonneg, below⟩ := atBucket
  cases direction : selection.decreaseCompressionRatio with
  | true =>
    have index : selection.nextBucket.currentCompressionRatioIndex =
        selection.currentCompressionRatioIndex - 1 := if_pos direction
    have direction' : selection.nextBucket.decreaseCompressionRatio = true := direction
    refine ⟨⟨fun _ => ?_, fun up => absurd (direction'.symm.trans up) (by decide)⟩, ?_⟩
    · rw [index]
      omega
    · rw [remaining, remaining, if_pos direction, if_pos direction', index]
      omega
  | false =>
    have isFalse : ¬ selection.decreaseCompressionRatio = true := by
      rw [direction]
      decide
    have index : selection.nextBucket.currentCompressionRatioIndex =
        selection.currentCompressionRatioIndex + 1 := if_neg isFalse
    have direction' : ¬ selection.nextBucket.decreaseCompressionRatio = true := isFalse
    refine ⟨⟨fun down => absurd down direction', fun _ => ?_⟩, ?_⟩
    · rw [index]
      omega
    · rw [remaining, remaining, if_neg isFalse, if_neg direction', index]
      omega

theorem Sound.take (sound : selection.Sound table) {chunk : CorpusChunk}
    (isAt : IsAt table selection.cursor chunk) : (selection.take chunk).Sound table where
  inRange := sound.inRange
  places := List.rel_append sound.places (.cons isAt .nil)
  ordered := by
    intro down
    obtain ⟨ordered, before⟩ := sound.ordered down
    have next : Before selection.cursor (selection.take chunk).cursor :=
      .inr ⟨rfl, Nat.lt_succ_self _⟩
    refine ⟨List.pairwise_append.mpr ⟨ordered, List.pairwise_singleton _ _, ?_⟩, ?_⟩
    · intro place member cursor isCursor
      rw [List.mem_singleton.mp isCursor]
      exact before place member
    · intro place member
      rcases List.mem_append.mp member with earlier | isCursor
      · exact (before place earlier).trans next
      · exact List.mem_singleton.mp isCursor ▸ next

/-- What the inner loop leaves behind: one more chunk, or no chunks at all. -/
structure Found (table : List (List CorpusChunk)) (count : Nat)
    (outcome : Selection × Option Returned) : Prop where
  sound : outcome.1.Sound table
  ending : outcome.2 = some (.ok none) ∨
    outcome.2 = none ∧ outcome.1.AtBucket table ∧ outcome.1.outputChunkArray.length = count + 1

/-- A round goes to another bucket, or ends the loop. -/
theorem searchRound_of_inTable (sound : selection.Sound table)
    (inTable : selection.InTable table) :
    (selection.AtBucket table ∧
        searchRound table selection = .again selection.probe.nextBucket) ∨
      ∃ outcome, searchRound table selection = .stop outcome ∧
        Found table selection.outputChunkArray.length outcome := by
  rw [searchRound]
  split
  · exact .inr ⟨_, rfl, sound, .inl rfl⟩
  · rename_i notBelow
    split
    · exact .inr ⟨_, rfl, sound, .inl rfl⟩
    · rename_i notAbove
      have atBucket : selection.AtBucket table := by
        cases direction : selection.decreaseCompressionRatio with
        | true =>
          have bounds := inTable.down direction
          exact ⟨not_lt.mp fun below => notBelow ⟨direction, below⟩, bounds.2⟩
        | false =>
          have bounds := inTable.up direction
          refine ⟨bounds.1, lt_of_le_of_ne bounds.2 fun last => notAbove ⟨?_, last⟩⟩
          rw [direction]
          decide
      obtain ⟨bucket, isBucket, got⟩ := getItem_of_inRange atBucket.1 atBucket.2
      simp only [got]
      split
      · exact .inl ⟨atBucket, rfl⟩
      · rename_i chunk isChunk
        have isAt : IsAt table selection.cursor chunk := ⟨atBucket.1, bucket, isBucket, isChunk⟩
        refine .inr ⟨_, rfl, (sound.probe atBucket).take isAt, .inr ⟨rfl, atBucket, ?_⟩⟩
        exact List.length_append

/-- The states of the inner loop, which adds no chunk as long as it goes on. -/
structure Searching (table : List (List CorpusChunk)) (chunks : List CorpusChunk) (rank : Nat)
    (selection : Selection) : Prop where
  sound : selection.Sound table
  inTable : selection.InTable table
  rank : selection.remaining table = rank
  chunks : selection.outputChunkArray = chunks

/-- The inner loop ends. -/
theorem search_ends (sound : selection.Sound table) (inTable : selection.InTable table) :
    ∃ outcome, Ends (searchRound table) selection outcome ∧
      Found table selection.outputChunkArray.length outcome := by
  have step : ∀ rank state, Searching table selection.outputChunkArray rank state →
      (∃ next smaller, searchRound table state = .again next ∧ smaller < rank ∧
          Searching table selection.outputChunkArray smaller next) ∨
        ∃ outcome, searchRound table state = .stop outcome ∧
          Found table selection.outputChunkArray.length outcome := by
    rintro rank state ⟨sound, inTable, rfl, chunks⟩
    rcases searchRound_of_inTable sound inTable with ⟨atBucket, round⟩ | ⟨outcome, round, found⟩
    · obtain ⟨inTable', fewer⟩ := atBucket.nextBucket
      have next : Searching table selection.outputChunkArray (state.nextBucket.remaining table)
          state.probe.nextBucket :=
        ⟨(sound.probe atBucket).nextBucket, ⟨inTable'.down, inTable'.up⟩, rfl, chunks⟩
      exact .inl ⟨_, _, round, fewer, next⟩
    · exact .inr ⟨outcome, round, chunks ▸ found⟩
  exact ends_of_invariant step ⟨sound, inTable, rfl, rfl⟩

end Selection

/-! ### The calibration -/

namespace Selection

variable {table : List (List CorpusChunk)} {selection : Selection}

theorem AtBucket.moveTo (atBucket : selection.AtBucket table) (index : Int) :
    (selection.moveTo index).AtBucket table := by
  obtain ⟨nonneg, below⟩ := atBucket
  rw [Selection.moveTo]
  split
  · rename_i smaller
    split
    · exact ⟨Int.le_refl 0, Int.lt_of_le_of_lt nonneg below⟩
    · rename_i notNegative
      exact ⟨not_lt.mp notNegative, smaller.trans below⟩
  · exact ⟨nonneg, below⟩

/-- The cursor only goes downwards, unless it turns. -/
theorem Sound.moveTo (sound : selection.Sound table) (index : Int) :
    (selection.moveTo index).Sound table := by
  rw [Selection.moveTo]
  split
  · rename_i smaller
    split
    · exact ⟨sound.inRange, sound.places, fun turned => (nomatch turned)⟩
    · refine ⟨sound.inRange, sound.places, fun down => ?_⟩
      obtain ⟨ordered, before⟩ := sound.ordered down
      exact ⟨ordered, fun place member => (before place member).of_lt smaller⟩
  · exact sound

@[simp] theorem outputChunkArray_moveTo (selection : Selection) (index : Int) :
    (selection.moveTo index).outputChunkArray = selection.outputChunkArray := by
  rw [Selection.moveTo]
  split
  · split
    · rfl
    · rfl
  · rfl

end Selection

section

open Selection

variable {manager : CorpusChunkManager} {parameters : CompressionParameters}
  {targetCallSize targetCompressionRatio : ℚ} {selection : Selection}

/-- A calibration never ends the call, and leaves the cursor at a bucket. -/
theorem calibrate_of_atBucket (targetCompressionRatio : ℚ) (compresses : manager.Compresses)
    {callSize : Nat} (positive : 0 < targetCallSize)
    (nonempty : 0 < callSize → selection.outputChunkArray ≠ [])
    (sound : selection.Sound (manager.bucketsOf parameters))
    (atBucket : selection.AtBucket (manager.bucketsOf parameters)) :
    ∃ calibrated, manager.calibrate parameters targetCallSize targetCompressionRatio callSize
        selection = (calibrated, none) ∧
      calibrated.Sound (manager.bucketsOf parameters) ∧
      calibrated.AtBucket (manager.bucketsOf parameters) ∧
      calibrated.outputChunkArray = selection.outputChunkArray := by
  rw [CorpusChunkManager.calibrate]
  split
  · rename_i middle
    have behind : 0 < callSize := by
      have half : (0 : ℚ) < callSize := middle ▸ half_pos positive
      exact_mod_cast half
    obtain ⟨ratio, isRatio, nonneg⟩ := compresses.computeCompressionRatio_nonneg (nonempty behind)
      (if manager.algorithm = .snappy then none else some parameters.compressionLevel)
    simp only [isRatio]
    rw [if_neg (not_lt.mpr nonneg)]
    exact ⟨_, rfl, sound.moveTo _, atBucket.moveTo _, outputChunkArray_moveTo _ _⟩
  · exact ⟨selection, rfl, sound, atBucket, rfl⟩

/-! ### The outer loop -/

/-- What the outer loop returns: nothing or the wanted number of chunks. -/
structure Selected (table : List (List CorpusChunk)) (count : Nat)
    (outcome : Selection × Returned) : Prop where
  sound : outcome.1.Sound table
  returned : outcome.2 = .ok none ∨
    outcome.2 = .ok (some outcome.1.outputChunkArray) ∧ outcome.1.outputChunkArray.length = count

/-- The outer loop ends, from any of its call sizes on. -/
theorem selectChunks_ends (targetCompressionRatio : ℚ) (compresses : manager.Compresses)
    (positive : 0 < targetCallSize) (step count : Nat) {selection : Selection}
    (sound : selection.Sound (manager.bucketsOf parameters))
    (atBucket : selection.AtBucket (manager.bucketsOf parameters)) :
    ∃ outcome, (∃ enough, ∀ fuel, enough ≤ fuel →
        manager.selectChunks parameters targetCallSize targetCompressionRatio fuel
          (List.range' (selection.outputChunkArray.length * step) count step) selection =
            some outcome) ∧
      Selected (manager.bucketsOf parameters) (selection.outputChunkArray.length + count)
        outcome := by
  induction count generalizing selection with
  | zero =>
    refine ⟨(selection, .ok (some selection.outputChunkArray)), ⟨0, fun _ _ => rfl⟩, ?_⟩
    exact ⟨sound, .inr ⟨rfl, rfl⟩⟩
  | succ count inductionHypothesis =>
    have nonempty : 0 < selection.outputChunkArray.length * step →
        selection.outputChunkArray ≠ [] :=
      fun behind => List.length_pos_iff.mp (Nat.pos_of_mul_pos_right behind)
    obtain ⟨calibrated, isCalibrated, sound', atBucket', sameOutput⟩ :=
      calibrate_of_atBucket targetCompressionRatio compresses positive nonempty sound atBucket
    obtain ⟨⟨found, ending⟩, ⟨enough, searches⟩, foundSound, isEnding⟩ :=
      search_ends sound' atBucket'.inTable
    rw [sameOutput] at isEnding
    rcases isEnding with isEnding | ⟨isEnding, foundAt, oneMore⟩
    · cases isEnding
      refine ⟨(found, .ok none), ⟨enough, fun fuel more => ?_⟩, foundSound, .inl rfl⟩
      rw [List.range'_succ, CorpusChunkManager.selectChunks]
      simp only [isCalibrated, searches fuel more]
    · cases isEnding
      obtain ⟨outcome, ⟨enough', runs⟩, selected⟩ := inductionHypothesis foundSound foundAt
      rw [oneMore, Nat.succ_mul] at runs
      rw [oneMore, Nat.add_assoc, Nat.add_comm 1 count] at selected
      refine ⟨outcome, ⟨max enough enough', fun fuel more => ?_⟩, selected⟩
      rw [List.range'_succ, CorpusChunkManager.selectChunks]
      simp only [isCalibrated, searches fuel (le_of_max_le_left more)]
      exact runs fuel (le_of_max_le_right more)

end

/-! ### The chunk array -/

/-- The number of steps of a range is rounded up. -/
theorem steps_eq_ceil (stop : Nat) {step : Nat} (positive : 0 < step) :
    (((stop + step - 1) / step : Nat) : ℤ) = ⌈(stop : ℚ) / step⌉ := by
  have positive' : (0 : ℚ) < step := Nat.cast_pos.mpr positive
  have split := Nat.div_add_mod (stop + step - 1) step
  have rest := Nat.mod_lt (stop + step - 1) positive
  refine (Int.ceil_eq_iff.mpr ⟨?_, ?_⟩).symm
  · rw [lt_div_iff₀ positive', sub_mul, one_mul, sub_lt_iff_lt_add]
    have below : (stop + step - 1) / step * step < stop + step := by
      rw [Nat.mul_comm]
      omega
    exact_mod_cast below
  · rw [div_le_iff₀ positive']
    have above : stop ≤ (stop + step - 1) / step * step := by
      rw [Nat.mul_comm]
      omega
    exact_mod_cast above

theorem sum_length_of_forall {chunks : List CorpusChunk} {size : Nat}
    (sized : ∀ chunk ∈ chunks, chunk.data.length = size) :
    (chunks.map (·.data.length)).sum = chunks.length * size := by
  rw [List.map_congr_left sized, List.map_const', List.sum_replicate_nat]

/-- What a call of `create_chunk_array` delivers. -/
structure Delivers (manager : CorpusChunkManager) (parameters : CompressionParameters)
    (targetCallSize : ℚ) (outcome : Selection × Returned) : Prop where
  inRange : ∀ index ∈ outcome.1.probed,
    0 ≤ index ∧ index < (manager.bucketsOf parameters).length
  returned : outcome.2 = .ok none ∨ ∃ chunks, outcome.2 = .ok (some chunks) ∧
    (chunks.length : ℤ) = ⌈(toInt targetCallSize : ℚ) / manager.chunkSize⌉ ∧
    (∀ chunk ∈ chunks, ∃ bucket ∈ manager.bucketsOf parameters, chunk ∈ bucket) ∧
    List.Forall₂ (IsAt (manager.bucketsOf parameters)) outcome.1.picked chunks ∧
    ((∃ count : ℕ, targetCallSize = manager.chunkSize * count) →
      (((chunks.map (·.data.length)).sum : ℕ) : ℚ) = targetCallSize)
  unturned : outcome.1.decreaseCompressionRatio = true →
    (outcome.1.picked.map Prod.fst).Pairwise (· ≥ ·) ∧ outcome.1.picked.Nodup

section

variable {manager : CorpusChunkManager} {parameters : CompressionParameters}
  {targetCallSize targetCompressionRatio : ℚ}

theorem exists_mem_of_forall₂ {table : List (List CorpusChunk)} {places : List (Int × Nat)}
    {chunks : List CorpusChunk} (areAt : List.Forall₂ (IsAt table) places chunks) :
    ∀ chunk ∈ chunks, ∃ bucket ∈ table, chunk ∈ bucket := by
  induction areAt with
  | nil => exact fun _ member => (nomatch member)
  | cons isAt _ inductionHypothesis =>
    exact List.forall_mem_cons.mpr ⟨isAt.exists_mem, inductionHypothesis⟩

theorem Selected.delivers {outcome : Selection × Returned} (positive : 0 < manager.chunkSize)
    (sized : ∀ bucket ∈ manager.bucketsOf parameters, ∀ chunk ∈ bucket,
      chunk.data.length = manager.chunkSize)
    (nonneg : 0 ≤ targetCallSize)
    (selected : Selected (manager.bucketsOf parameters)
      (((toInt targetCallSize).toNat + manager.chunkSize - 1) / manager.chunkSize) outcome) :
    Delivers manager parameters targetCallSize outcome where
  inRange := selected.sound.inRange
  returned := by
    rcases selected.returned with nothing | ⟨isReturned, count⟩
    · exact .inl nothing
    · have fromTable := exists_mem_of_forall₂ selected.sound.places
      have isStop : ((toInt targetCallSize).toNat : ℤ) = toInt targetCallSize := by
        rw [toInt_of_nonneg nonneg]
        exact Int.toNat_of_nonneg (Int.floor_nonneg.mpr nonneg)
      have isCount : (outcome.1.outputChunkArray.length : ℤ) =
          ⌈(toInt targetCallSize : ℚ) / manager.chunkSize⌉ := by
        rw [count, steps_eq_ceil _ positive, ← Int.cast_natCast (toInt targetCallSize).toNat,
          isStop]
      refine .inr ⟨_, isReturned, isCount, fromTable, selected.sound.places, ?_⟩
      rintro ⟨multiple, isMultiple⟩
      have whole : toInt targetCallSize = (manager.chunkSize * multiple : Nat) := by
        rw [toInt_of_nonneg nonneg, isMultiple, ← Nat.cast_mul, Int.floor_natCast]
      have isMultiple' : outcome.1.outputChunkArray.length = multiple := by
        have notZero : (manager.chunkSize : ℚ) ≠ 0 := Nat.cast_ne_zero.mpr positive.ne'
        rw [whole, Int.cast_natCast, Nat.cast_mul, mul_div_cancel_left₀ _ notZero,
          Int.ceil_natCast] at isCount
        exact_mod_cast isCount
      have allSized : ∀ chunk ∈ outcome.1.outputChunkArray,
          chunk.data.length = manager.chunkSize := by
        intro chunk member
        obtain ⟨bucket, isBucket, inside⟩ := fromTable chunk member
        exact sized bucket isBucket chunk inside
      rw [sum_length_of_forall allSized, isMultiple', isMultiple, Nat.mul_comm, Nat.cast_mul]
  unturned := by
    intro down
    obtain ⟨ordered, -⟩ := selected.sound.ordered down
    exact ⟨List.pairwise_map.mpr (ordered.imp Before.le), ordered.imp Before.ne⟩

/-- A call for at least a kilobyte ends, reads the table only where it has buckets, and returns
nothing or the chunks that were asked for. -/
theorem createChunkArray_delivers (manager : CorpusChunkManager)
    (parameters : CompressionParameters) (targetCallSize targetCompressionRatio : ℚ)
    (randint : Nat → Nat) (positive : 0 < manager.chunkSize) (compresses : manager.Compresses)
    (sized : ∀ bucket ∈ manager.bucketsOf parameters, ∀ chunk ∈ bucket,
      chunk.data.length = manager.chunkSize)
    (large : 1024 ≤ targetCallSize)
    (valid : 0 ≤ toInt (targetCompressionRatio * 10) ∧
      toInt (targetCompressionRatio * 10) < (manager.bucketsOf parameters).length) :
    ∃ outcome, (∃ enough, ∀ fuel, enough ≤ fuel →
        manager.createChunkArray parameters targetCallSize targetCompressionRatio randint fuel =
          some outcome) ∧
      Delivers manager parameters targetCallSize outcome := by
  have positive' : 0 < targetCallSize := lt_of_lt_of_le (by decide) large
  have sound : (Selection.initial (toInt (targetCompressionRatio * 10))).Sound
      (manager.bucketsOf parameters) :=
    ⟨fun _ member => (nomatch member), .nil, fun _ => ⟨.nil, fun _ member => (nomatch member)⟩⟩
  obtain ⟨outcome, ⟨enough, runs⟩, selected⟩ := selectChunks_ends targetCompressionRatio compresses
    positive' manager.chunkSize
    (((toInt targetCallSize).toNat + manager.chunkSize - 1) / manager.chunkSize) sound valid
  have noChunks : (Selection.initial
      (toInt (targetCompressionRatio * 10))).outputChunkArray.length = 0 := rfl
  rw [noChunks, Nat.zero_mul] at runs
  rw [noChunks, Nat.zero_add] at selected
  refine ⟨outcome, ⟨enough, fun fuel more => ?_⟩, selected.delivers positive sized positive'.le⟩
  rw [CorpusChunkManager.createChunkArray, if_neg (not_lt.mpr large), if_neg positive.ne']
  exact runs fuel more

end

theorem selectChunks_of_le {manager : CorpusChunkManager} {parameters : CompressionParameters}
    {targetCallSize targetCompressionRatio : ℚ} {fuel more : Nat} (enough : fuel ≤ more)
    {callSizes : List Nat} {selection : Selection} {outcome : Selection × Returned}
    (runs : manager.selectChunks parameters targetCallSize targetCompressionRatio fuel callSizes
      selection = some outcome) :
    manager.selectChunks parameters targetCallSize targetCompressionRatio more callSizes
      selection = some outcome := by
  induction callSizes generalizing selection with
  | nil => exact runs
  | cons callSize rest inductionHypothesis =>
    rw [CorpusChunkManager.selectChunks] at runs ⊢
    split at runs
    · exact runs
    · split at runs
      · cases runs
      · rename_i searched
        rw [loop_of_le searched enough]
        exact runs
      · rename_i searched
        rw [loop_of_le searched enough]
        exact inductionHypothesis runs

/-- A call has one outcome, whatever fuel is enough for it. -/
theorem createChunkArray_of_le {manager : CorpusChunkManager} {parameters : CompressionParameters}
    {targetCallSize targetCompressionRatio : ℚ} {randint : Nat → Nat} {fuel more : Nat}
    {outcome : Selection × Returned}
    (runs : manager.createChunkArray parameters targetCallSize targetCompressionRatio randint
      fuel = some outcome) (enough : fuel ≤ more) :
    manager.createChunkArray parameters targetCallSize targetCompressionRatio randint more =
      some outcome := by
  rw [CorpusChunkManager.createChunkArray] at runs ⊢
  by_cases small : targetCallSize < 1024
  · rw [if_pos small] at runs ⊢
    exact runs
  · rw [if_neg small] at runs ⊢
    by_cases empty : manager.chunkSize = 0
    · rw [if_pos empty] at runs ⊢
      exact runs
    · rw [if_neg empty] at runs ⊢
      exact selectChunks_of_le enough runs

/-! ### Two chunks -/

/-- Two chunks that are stored behind a header. -/
def twoChunks : CorpusChunkManager where
  algorithm := .flate
  compressFunction data _ := 120 :: data
  dataset := ["corpus"]
  lookupTable := Dict.empty.set ⟨15, 6⟩ (List.replicate 10 [] ++
    [[⟨List.replicate 1024 0, 0, "corpus"⟩, ⟨List.replicate 1024 1, 1, "corpus"⟩]])

theorem bucketsOf_twoChunks : twoChunks.bucketsOf ⟨15, 6⟩ = List.replicate 10 [] ++
    [[⟨List.replicate 1024 0, 0, "corpus"⟩, ⟨List.replicate 1024 1, 1, "corpus"⟩]] := by
  rw [CorpusChunkManager.bucketsOf, twoChunks, Dict.get?_set_self]
  rfl

example : (twoChunks.createChunkArray ⟨15, 6⟩ 2048 1 id 3).map (·.1.picked) =
    some [(10, 0), (10, 1)] := by
  decide +kernel

/-- From the table with two chunks both of them are delivered. -/
theorem createChunkArray_twoChunks : ∃ outcome, (∃ enough, ∀ fuel, enough ≤ fuel →
      twoChunks.createChunkArray ⟨15, 6⟩ 2048 1 id fuel = some outcome) ∧
    Delivers twoChunks ⟨15, 6⟩ 2048 outcome ∧
    outcome.2.toOption = some (some [⟨List.replicate 1024 0, 0, "corpus"⟩,
      ⟨List.replicate 1024 1, 1, "corpus"⟩]) := by
  obtain ⟨outcome, ⟨enough, runs⟩, delivers⟩ :=
    createChunkArray_delivers twoChunks ⟨15, 6⟩ 2048 1 id (by decide) (fun _ _ => nofun)
      (by
        rw [bucketsOf_twoChunks]
        intro bucket isBucket chunk member
        simp only [List.mem_append, List.mem_replicate, List.mem_singleton] at isBucket
        rcases isBucket with ⟨-, rfl⟩ | rfl
        · exact absurd member List.not_mem_nil
        · simp only [List.mem_cons, List.not_mem_nil, or_false] at member
          rcases member with rfl | rfl
          · exact List.length_replicate
          · exact List.length_replicate) (by decide)
      (by
        rw [bucketsOf_twoChunks]
        decide +kernel)
  refine ⟨outcome, ⟨enough, runs⟩, delivers, ?_⟩
  have returned : (twoChunks.createChunkArray ⟨15, 6⟩ 2048 1 id 1).map (·.2.toOption) =
      some (some (some [⟨List.replicate 1024 0, 0, "corpus"⟩,
        ⟨List.replicate 1024 1, 1, "corpus"⟩])) := by
    decide +kernel
  obtain ⟨final, found, isFinal⟩ := Option.map_eq_some_iff.mp returned
  have same := (createChunkArray_of_le found (Nat.le_max_left 1 enough)).symm.trans
    (runs (max 1 enough) (Nat.le_max_right 1 enough))
  rwa [← Option.some.inj same]

end Fleetbench.Corpora
