/-
This file proves that the planner of `BM_Memory` never stops in a bad way and
that every operation it plans stays inside its buffers. With buffers of at most
twice the largest admitted L3 cache, the largest sum that is ever formed is
`2147483576`, just below the limit of `int32_t`.
-/

import Fleetbench.Libc.Planner
import Mathlib.Algebra.Order.Group.Int
import Mathlib.Algebra.Order.Group.Abs

namespace Fleetbench.Libc

/-! ### Steps that succeed -/

theorem exists_of_bind {Value Result : Type} {first : Except Stop Value}
    {second : Value → Except Stop Result} {result : Result}
    (succeeds : (do second (← first)) = .ok result) :
    ∃ value, first = .ok value ∧ second value = .ok result := by
  cases first with
  | error stop => cases succeeds
  | ok value => exact ⟨value, rfl, succeeds⟩

theorem bind_of_eq_ok {Value Result : Type} {first : Except Stop Value} {value : Value}
    (succeeds : first = .ok value) (second : Value → Except Stop Result) :
    (do second (← first)) = second value := by
  rw [succeeds]
  rfl

theorem bind_of_eq_error {Value Result : Type} {first : Except Stop Value} {stop : Stop}
    (fails : first = .error stop) (second : Value → Except Stop Result) :
    (do second (← first)) = .error stop := by
  rw [fails]
  rfl

theorem eq_of_add {first second sum : Int} (adds : add first second = .ok sum) :
    sum = first + second := by
  rw [add] at adds
  split at adds
  · exact (Except.ok.inj adds).symm
  · cases adds

/-! ### Sums that fit -/

theorem add_eq_ok {first second : Int} (lower : int32Min ≤ first + second)
    (upper : first + second ≤ int32Max) : add first second = .ok (first + second) :=
  if_pos ⟨lower, upper⟩

theorem neg_eq_ok {value : Int} (lower : int32Min ≤ -value) (upper : -value ≤ int32Max) :
    neg value = .ok (-value) :=
  if_pos ⟨lower, upper⟩

/-- A sum of numbers that are not negative, given a bound for it. -/
theorem add_nonneg_eq_ok {first second : Int} (isFirst : 0 ≤ first) (isSecond : 0 ≤ second)
    (upper : first + second ≤ int32Max) : add first second = .ok (first + second) :=
  add_eq_ok (by rw [int32Min]; omega) upper

theorem operationEnd_eq_ok {block blockOffset sizeBytes : Int} (isBlock : 0 ≤ block)
    (isOffset : 0 ≤ blockOffset) (isSize : 0 ≤ sizeBytes)
    (upper : block + blockOffset + sizeBytes ≤ int32Max) :
    operationEnd block blockOffset sizeBytes = .ok (block + blockOffset + sizeBytes) := by
  rw [operationEnd, add_nonneg_eq_ok isBlock isOffset (by omega)]
  exact add_nonneg_eq_ok (by omega) isSize upper

/-! ### The search for a block -/

/-- A block that `GetNextOffset` may choose. -/
def Suitable (blockOffset sizeBytes bufferSize leftMargin rightMargin block : Int) : Prop :=
  leftMargin ≤ block ∧ block + blockOffset + sizeBytes + rightMargin ≤ bufferSize

instance (blockOffset sizeBytes bufferSize leftMargin rightMargin : Int) :
    DecidablePred (Suitable blockOffset sizeBytes bufferSize leftMargin rightMargin) :=
  fun _ => inferInstanceAs (Decidable (_ ∧ _))

/-- As long as no sum overflows, the search finds the first suitable block. -/
theorem findBlock_eq_ok {blockOffset sizeBytes bufferSize leftMargin rightMargin : Int}
    (isOffset : 0 ≤ blockOffset) (isSize : 0 ≤ sizeBytes) (isMargin : 0 ≤ rightMargin)
    {blocks : List Int} (small : ∀ block ∈ blocks, 0 ≤ block ∧
      block + blockOffset + sizeBytes + rightMargin ≤ int32Max) :
    findBlock blockOffset sizeBytes bufferSize leftMargin rightMargin blocks =
      .ok (blocks.find? fun block =>
        Suitable blockOffset sizeBytes bufferSize leftMargin rightMargin block) := by
  induction blocks with
  | nil => rfl
  | cons block rest inductionHypothesis =>
    obtain ⟨isBlock, upper⟩ := small block List.mem_cons_self
    have others := inductionHypothesis
      fun other member => small other (List.mem_cons_of_mem _ member)
    rw [findBlock, List.find?_cons]
    by_cases left : leftMargin ≤ block
    · rw [if_pos left, operationEnd_eq_ok isBlock isOffset isSize (by omega)]
      show (do
        let last ← add (block + blockOffset + sizeBytes) rightMargin
        if last ≤ bufferSize then return some block
        else findBlock blockOffset sizeBytes bufferSize leftMargin rightMargin rest) = _
      rw [add_nonneg_eq_ok (by omega) isMargin upper]
      show (if block + blockOffset + sizeBytes + rightMargin ≤ bufferSize then _ else _) = _
      by_cases right : block + blockOffset + sizeBytes + rightMargin ≤ bufferSize
      · have suitable : Suitable blockOffset sizeBytes bufferSize leftMargin rightMargin block :=
          ⟨left, right⟩
        rw [if_pos right, decide_eq_true suitable]
        rfl
      · have unsuitable :
            ¬ Suitable blockOffset sizeBytes bufferSize leftMargin rightMargin block :=
          fun suitable => right suitable.2
        rw [if_neg right, decide_eq_false unsuitable, others]
    · have unsuitable : ¬ Suitable blockOffset sizeBytes bufferSize leftMargin rightMargin block :=
        fun suitable => left suitable.1
      rw [if_neg left, decide_eq_false unsuitable, others]

/-- Moving blocks to the end keeps the list a permutation. -/
theorem moveToBack_perm (shuffle : Shuffle) {blocksLru : List Int} {block : Int}
    (last : Int) : (moveToBack shuffle blocksLru block last).Perm blocksLru := by
  rw [moveToBack]
  split
  · rename_i front
    cases blocksLru with
    | nil => cases front
    | cons first rest =>
      cases front
      exact List.perm_append_singleton _ _
  · have parts := List.filter_append_perm (fun b => decide (block ≤ b ∧ b < last)) blocksLru
    refine .trans ?_ parts
    refine List.perm_append_comm.trans ?_
    exact (shuffle.perm _).append_right _

/-- What `GetNextOffset` returns, given a suitable block and room for the sums. -/
theorem getNextOffset_eq_ok (shuffle : Shuffle)
    {blocksLru : List Int} {sizeBytes blockOffset bufferSize leftMargin rightMargin : Int}
    (isOffset : 0 ≤ blockOffset) (isSize : 0 ≤ sizeBytes) (isMargin : 0 ≤ rightMargin)
    (small : ∀ block ∈ blocksLru, 0 ≤ block ∧
      block + blockOffset + sizeBytes + rightMargin ≤ int32Max)
    (fits : ∃ block ∈ blocksLru,
      Suitable blockOffset sizeBytes bufferSize leftMargin rightMargin block) :
    ∃ block next, block ∈ blocksLru ∧
      Suitable blockOffset sizeBytes bufferSize leftMargin rightMargin block ∧
      next.Perm blocksLru ∧
      getNextOffset shuffle blocksLru sizeBytes blockOffset bufferSize leftMargin rightMargin =
        .ok (block + blockOffset, next) := by
  obtain ⟨candidate, isCandidate, candidateFits⟩ := fits
  have found : (blocksLru.find? fun block =>
      Suitable blockOffset sizeBytes bufferSize leftMargin rightMargin block).isSome = true :=
    List.find?_isSome.mpr ⟨candidate, isCandidate, decide_eq_true candidateFits⟩
  obtain ⟨block, isFound⟩ := Option.isSome_iff_exists.mp found
  have member := List.mem_of_find?_eq_some isFound
  have suitable := List.find?_some isFound
  rw [decide_eq_true_iff] at suitable
  obtain ⟨isBlock, upper⟩ := small block member
  refine ⟨block, moveToBack shuffle blocksLru block (block + blockOffset + sizeBytes), member,
    suitable, moveToBack_perm shuffle _, ?_⟩
  rw [getNextOffset, findBlock_eq_ok isOffset isSize isMargin small, isFound]
  show (do
    let last ← operationEnd block blockOffset sizeBytes
    if last ≤ bufferSize then
      return (← add block blockOffset, moveToBack shuffle blocksLru block last)
    else throw Stop.check) = _
  rw [operationEnd_eq_ok isBlock isOffset isSize (by omega)]
  have inside : block + blockOffset + sizeBytes ≤ bufferSize := by
    have ends := suitable.2
    omega
  show (if block + blockOffset + sizeBytes ≤ bufferSize then _ else _) = _
  rw [if_pos inside, add_nonneg_eq_ok isBlock isOffset (by omega)]
  rfl

/-! ### All blocks of a buffer -/

/-- The sizes of buffers that the `CHECK` of the L3 cache admits. -/
structure BufferSize (bufferSize : Nat) : Prop where
  lower : 192 ≤ bufferSize
  upper : bufferSize ≤ 2146959228

theorem bufferSize_of_l3Size {l3Size bufferSize : Nat} (checked : l3SizeChecked l3Size)
    (lower : 192 ≤ bufferSize) (upper : bufferSize ≤ 2 * l3Size) : BufferSize bufferSize := by
  refine ⟨lower, Nat.le_trans upper ?_⟩
  rw [l3SizeChecked, memDistributionMax, kCacheLineSize] at checked
  omega

def allBlocks (bufferSize : Nat) : List Int :=
  (List.range ((bufferSize + kCacheLineSize - 1) / kCacheLineSize)).map fun index =>
    (index * kCacheLineSize : Nat)

theorem mem_allBlocks {bufferSize : Nat} {block : Int} :
    block ∈ allBlocks bufferSize ↔ ∃ index : Nat, block = 64 * index ∧ block < bufferSize := by
  rw [allBlocks, kCacheLineSize, List.mem_map]
  constructor
  · rintro ⟨index, inRange, rfl⟩
    rw [List.mem_range] at inRange
    exact ⟨index, by omega, by omega⟩
  · rintro ⟨index, rfl, inside⟩
    exact ⟨index, List.mem_range.mpr (by omega), by omega⟩

theorem collectBlocks_eq_ok {bufferSize : Nat} (admitted : BufferSize bufferSize) :
    collectBlocks bufferSize = .ok (allBlocks bufferSize) := by
  have general : ∀ indices : List Nat, (∀ index ∈ indices, 64 * index < bufferSize) →
      (indices.mapM fun index => do
        let _ ← add (index * kCacheLineSize : Nat) kCacheLineSize
        return ((index * kCacheLineSize : Nat) : Int)) =
      (.ok (indices.map fun index => ((index * kCacheLineSize : Nat) : Int)) :
        Except Stop (List Int)) := by
    intro indices
    induction indices with
    | nil => exact fun _ => rfl
    | cons index rest inductionHypothesis =>
      intro inside
      have isIndex := inside index List.mem_cons_self
      have fits : add (index * kCacheLineSize : Nat) kCacheLineSize =
          .ok ((index * kCacheLineSize : Nat) + kCacheLineSize) := by
        refine add_nonneg_eq_ok (Int.natCast_nonneg _) (Int.natCast_nonneg _) ?_
        have upper := admitted.upper
        rw [int32Max, kCacheLineSize]
        omega
      rw [List.mapM_cons, fits,
        inductionHypothesis fun other member => inside other (List.mem_cons_of_mem _ member)]
      rfl
  rw [collectBlocks, general]
  · rfl
  · intro index inRange
    rw [List.mem_range, kCacheLineSize] at inRange
    omega

/-! ### Offsets and sizes -/

theorem blockOffset_le (draw alignment : Nat) :
    0 ≤ blockOffset draw alignment ∧ blockOffset draw alignment ≤ draw := by
  rw [blockOffset, Nat.shiftRight_eq_div_pow, Nat.shiftLeft_eq]
  exact ⟨Int.natCast_nonneg _, Int.ofNat_le.mpr (Nat.div_mul_le_self _ _)⟩

/-- What may be sampled for an operation. An empty interval yields its lower bound. -/
structure Admissible (memoryCall : MemoryCall) (distributionMaxSize bufferSize : Nat)
    (draws : Draws) : Prop where
  size : draws.curSize ≤ maxSize memoryCall distributionMaxSize bufferSize
  srcDraw : draws.srcDraw ≤ 62
  dstDraw : draws.dstDraw ≤ 62
  offset : -(draws.curSize : Int) < draws.offset ∧ draws.offset < draws.curSize ∨
    draws.curSize = 0 ∧ draws.offset = 0

theorem Admissible.srcBound {memoryCall : MemoryCall} {distributionMaxSize bufferSize : Nat}
    {draws : Draws} (admissible : Admissible memoryCall distributionMaxSize bufferSize draws) :
    0 ≤ blockOffset draws.srcDraw draws.srcAlignment ∧
      blockOffset draws.srcDraw draws.srcAlignment ≤ 62 := by
  have bounds := blockOffset_le draws.srcDraw draws.srcAlignment
  have drawn := admissible.srcDraw
  omega

theorem Admissible.dstBound {memoryCall : MemoryCall} {distributionMaxSize bufferSize : Nat}
    {draws : Draws} (admissible : Admissible memoryCall distributionMaxSize bufferSize draws) :
    0 ≤ blockOffset draws.dstDraw draws.dstAlignment ∧
      blockOffset draws.dstDraw draws.dstAlignment ≤ 62 := by
  have bounds := blockOffset_le draws.dstDraw draws.dstAlignment
  have drawn := admissible.dstDraw
  omega

theorem maxSize_le (memoryCall : MemoryCall) {distributionMaxSize bufferSize : Nat}
    (distribution : distributionMaxSize ≤ memDistributionMax) (lower : 192 ≤ bufferSize) :
    maxSize memoryCall distributionMaxSize bufferSize ≤ 262144 ∧
      maxSize memoryCall distributionMaxSize bufferSize ≤ bufferSize / 2 ∧
      (memoryCall.mayOverlap = true →
        maxSize memoryCall distributionMaxSize bufferSize ≤ bufferSize / 3 - 64) := by
  rw [memDistributionMax] at distribution
  rw [maxSize, kCacheLineSize]
  split
  · exact ⟨by omega, by omega, fun _ => by omega⟩
  · rename_i separate
    exact ⟨by omega, by omega, fun overlaps => absurd overlaps separate⟩

section

variable {bufferSize : Nat} (admitted : BufferSize bufferSize) {blocksLru : List Int}
  (perm : blocksLru.Perm (allBlocks bufferSize)) {curSize : Nat} {offset : Int}

include admitted perm

theorem small_of_perm (isOffset : 0 ≤ offset ∧ offset ≤ 62) (small : curSize ≤ 262144)
    {margin : Int} (isMargin : margin ≤ 262143) : ∀ block ∈ blocksLru,
    0 ≤ block ∧ block + offset + curSize + margin ≤ int32Max := by
  intro block member
  obtain ⟨index, rfl, inside⟩ := mem_allBlocks.mp (perm.subset member)
  have upper := admitted.upper
  rw [int32Max]
  omega

/-- Without margins the first block of the buffer is always suitable. -/
theorem getNextOffset_inside (shuffle : Shuffle) (isOffset : 0 ≤ offset ∧ offset ≤ 62)
    (small : curSize ≤ 262144) (half : curSize ≤ bufferSize / 2) :
    ∃ start next, getNextOffset shuffle blocksLru curSize offset bufferSize 0 0 =
        .ok (start, next) ∧ next.Perm (allBlocks bufferSize) ∧ 0 ≤ start ∧
      start + curSize ≤ bufferSize := by
  have lower := admitted.lower
  have first : (0 : Int) ∈ blocksLru :=
    perm.symm.subset (mem_allBlocks.mpr ⟨0, rfl, by omega⟩)
  obtain ⟨block, next, member, suitable, nextPerm, found⟩ :=
    getNextOffset_eq_ok shuffle isOffset.1 (Int.natCast_nonneg curSize) (Int.le_refl 0)
      (small_of_perm admitted perm isOffset small (by omega))
      ⟨0, first, show (0 : Int) ≤ 0 ∧ 0 + offset + curSize + 0 ≤ bufferSize by omega⟩
  obtain ⟨left, right⟩ := suitable
  exact ⟨block + offset, next, found, nextPerm.trans perm, by omega, by omega⟩

/-- With a margin on one side there is a suitable block next to the margin. -/
theorem getNextOffset_margins (shuffle : Shuffle) (isOffset : 0 ≤ offset ∧ offset ≤ 62)
    (small : curSize ≤ 262144) (third : curSize ≤ bufferSize / 3 - 64) {shift : Int}
    (isShift : -(curSize : Int) < shift ∧ shift < curSize ∨ curSize = 0 ∧ shift = 0) :
    ∃ start next,
      getNextOffset shuffle blocksLru curSize offset bufferSize (-(min shift 0)) (max shift 0) =
        .ok (start, next) ∧ next.Perm (allBlocks bufferSize) ∧ -(min shift 0) ≤ start ∧
      start + curSize + max shift 0 ≤ bufferSize := by
  have lower := admitted.lower
  obtain ⟨index, above, below⟩ : ∃ index : Nat, -(min shift 0) ≤ 64 * (index : Int) ∧
      64 * (index : Int) ≤ -(min shift 0) + 63 :=
    ⟨((-(min shift 0) + 63) / 64).toNat, by omega, by omega⟩
  have member : 64 * (index : Int) ∈ blocksLru :=
    perm.symm.subset (mem_allBlocks.mpr ⟨index, rfl, by omega⟩)
  obtain ⟨block, next, member, suitable, nextPerm, found⟩ :=
    getNextOffset_eq_ok shuffle isOffset.1 (Int.natCast_nonneg curSize)
      (show 0 ≤ max shift 0 by omega)
      (small_of_perm admitted perm isOffset small (show max shift 0 ≤ 262143 by omega))
      ⟨64 * (index : Int), member, show -(min shift 0) ≤ 64 * (index : Int) ∧
        64 * (index : Int) + offset + curSize + max shift 0 ≤ bufferSize by omega⟩
  obtain ⟨left, right⟩ := suitable
  exact ⟨block + offset, next, found, nextPerm.trans perm, by omega, by omega⟩

end

/-! ### Sources and destinations -/

theorem checkOverlap_eq_ok {srcOffset dstOffset : Int} {curSize : Nat} (isSrc : 0 ≤ srcOffset)
    (isDst : 0 ≤ dstOffset) (srcEnd : srcOffset + curSize ≤ int32Max)
    (dstEnd : dstOffset + curSize ≤ int32Max) :
    checkOverlap srcOffset dstOffset curSize =
      .ok (decide (dstOffset < srcOffset + curSize ∧ srcOffset < dstOffset + curSize)) := by
  rw [checkOverlap, add_nonneg_eq_ok isSrc (Int.natCast_nonneg _) srcEnd,
    add_nonneg_eq_ok isDst (Int.natCast_nonneg _) dstEnd]
  show (if dstOffset < srcOffset + curSize then _ else _) = _
  by_cases left : dstOffset < srcOffset + curSize
  · rw [if_pos left]
    simp [left, pure, Except.pure, bind, Except.bind]
  · rw [if_neg left]
    simp [left, pure, Except.pure]

section

variable {bufferSize : Nat} (admitted : BufferSize bufferSize) {curSize : Nat} {offset : Int}

include admitted

theorem le_int32Max_of_inside {start : Int} (inside : start + curSize ≤ bufferSize) :
    start + curSize ≤ int32Max := by
  have upper := admitted.upper
  rw [int32Max]
  omega

/-- The retry loop ends with a destination that does not overlap the source, or has not ended. -/
theorem retryDst_apart (isOffset : 0 ≤ offset ∧ offset ≤ 62) (small : curSize ≤ 262144)
    (half : curSize ≤ bufferSize / 2) {srcOffset : Int} (isSrc : 0 ≤ srcOffset)
    (srcEnd : srcOffset + curSize ≤ bufferSize) (shuffles : List Shuffle) {dstBlocksLru : List Int}
    (perm : dstBlocksLru.Perm (allBlocks bufferSize)) :
    retryDst bufferSize curSize srcOffset offset shuffles dstBlocksLru = .error .retrying ∨
      ∃ dstOffset next, retryDst bufferSize curSize srcOffset offset shuffles dstBlocksLru =
          .ok (dstOffset, next) ∧ next.Perm (allBlocks bufferSize) ∧ 0 ≤ dstOffset ∧
        dstOffset + curSize ≤ bufferSize ∧
        (srcOffset + curSize ≤ dstOffset ∨ dstOffset + curSize ≤ srcOffset) := by
  induction shuffles generalizing dstBlocksLru with
  | nil => exact .inl rfl
  | cons shuffle rest inductionHypothesis =>
    obtain ⟨dstOffset, next, found, nextPerm, isDst, dstEnd⟩ :=
      getNextOffset_inside admitted perm shuffle isOffset small half
    have check := checkOverlap_eq_ok isSrc isDst (le_int32Max_of_inside admitted srcEnd)
      (le_int32Max_of_inside admitted dstEnd)
    rw [retryDst, found]
    show (do
      if ← checkOverlap srcOffset dstOffset curSize then
        retryDst bufferSize curSize srcOffset offset rest next
      else return (dstOffset, next)) = _ ∨ ∃ dstOffset' next', (do
      if ← checkOverlap srcOffset dstOffset curSize then
        retryDst bufferSize curSize srcOffset offset rest next
      else return (dstOffset, next)) = _ ∧ _
    rw [check]
    by_cases overlaps : dstOffset < srcOffset + curSize ∧ srcOffset < dstOffset + curSize
    · rw [decide_eq_true overlaps]
      exact inductionHypothesis nextPerm
    · rw [decide_eq_false overlaps]
      exact .inr ⟨dstOffset, next, rfl, nextPerm, isDst, dstEnd, by omega⟩

end

/-- Both lists are permutations of all blocks. -/
structure Lru.Complete (bufferSize : Nat) (lru : Lru) : Prop where
  src : lru.src.Perm (allBlocks bufferSize)
  dst : lru.dst.Perm (allBlocks bufferSize)

/-- A source and a destination inside the buffer that overlap, or do not, as they should. -/
structure Placed (bufferSize curSize : Nat) (doesOverlap : Bool) (srcOffset dstOffset : Int) :
    Prop where
  src : 0 ≤ srcOffset ∧ srcOffset + curSize ≤ bufferSize
  dst : 0 ≤ dstOffset ∧ dstOffset + curSize ≤ bufferSize
  apart : doesOverlap = false → srcOffset + curSize ≤ dstOffset ∨ dstOffset + curSize ≤ srcOffset
  near : doesOverlap = true → |dstOffset - srcOffset| < max curSize 1

section

variable {bufferSize : Nat} (admitted : BufferSize bufferSize) {lru : Lru}
  (complete : lru.Complete bufferSize) {curSize : Nat} (small : curSize ≤ 262144)
  (third : curSize ≤ bufferSize / 3 - 64) {srcBlockOffset dstBlockOffset : Int}
  (isSrcOffset : 0 ≤ srcBlockOffset ∧ srcBlockOffset ≤ 62) (srcShuffle : Shuffle)
  (dstShuffles : List Shuffle)

include admitted complete small third isSrcOffset

theorem placed_overlapping {offset : Int}
    (isOffset : -(curSize : Int) < offset ∧ offset < curSize ∨ curSize = 0 ∧ offset = 0) :
    ∃ srcOffset dstOffset next,
      getNextSrcDstOffsetWithOverlap true offset srcShuffle dstShuffles bufferSize curSize
        srcBlockOffset dstBlockOffset lru = .ok ((srcOffset, dstOffset), next) ∧
      next.Complete bufferSize ∧ Placed bufferSize curSize true srcOffset dstOffset := by
  obtain ⟨start, src, found, perm, left, right⟩ :=
    getNextOffset_margins admitted complete.src srcShuffle isSrcOffset small third isOffset
  have upper := admitted.upper
  have inside : 0 ≤ start + offset ∧ start + offset + curSize ≤ bufferSize := by omega
  have negSize : neg curSize = .ok (-curSize) :=
    neg_eq_ok (by rw [int32Min]; omega) (by rw [int32Max]; omega)
  have negOffset : neg (min offset 0) = .ok (-(min offset 0)) :=
    neg_eq_ok (by rw [int32Min]; omega) (by rw [int32Max]; omega)
  have shifted : add start offset = .ok (start + offset) :=
    add_eq_ok (by rw [int32Min]; omega) (by rw [int32Max]; omega)
  have ends : add (start + offset) curSize = .ok (start + offset + curSize) :=
    add_nonneg_eq_ok inside.1 (Int.natCast_nonneg _) (by rw [int32Max]; omega)
  refine ⟨start, start + offset, { lru with src }, ?_, ⟨perm, complete.dst⟩, by omega, inside,
    fun apart => Bool.noConfusion apart, fun _ => ?_⟩
  · rw [getNextSrcDstOffsetWithOverlap, if_pos rfl]
    refine (bind_of_eq_ok negSize _).trans ((bind_of_eq_ok negOffset _).trans ?_)
    refine (bind_of_eq_ok found _).trans ((bind_of_eq_ok shifted _).trans ?_)
    refine (if_pos inside.1).trans ((bind_of_eq_ok ends _).trans ?_)
    exact if_pos inside.2
  · rw [show start + offset - start = offset by omega, abs_lt]
    omega

theorem placed_apart {offset : Int} (isDstOffset : 0 ≤ dstBlockOffset ∧ dstBlockOffset ≤ 62) :
    getNextSrcDstOffsetWithOverlap false offset srcShuffle dstShuffles bufferSize curSize
        srcBlockOffset dstBlockOffset lru = .error .retrying ∨
      ∃ srcOffset dstOffset next,
        getNextSrcDstOffsetWithOverlap false offset srcShuffle dstShuffles bufferSize curSize
          srcBlockOffset dstBlockOffset lru = .ok ((srcOffset, dstOffset), next) ∧
        next.Complete bufferSize ∧ Placed bufferSize curSize false srcOffset dstOffset := by
  have half : curSize ≤ bufferSize / 2 := by omega
  obtain ⟨srcOffset, src, found, srcPerm, isSrc, srcEnd⟩ :=
    getNextOffset_inside admitted complete.src srcShuffle isSrcOffset small half
  rw [getNextSrcDstOffsetWithOverlap, if_neg Bool.false_ne_true]
  rcases retryDst_apart admitted isDstOffset small half isSrc srcEnd dstShuffles complete.dst with
    retries | ⟨dstOffset, dst, placed, dstPerm, isDst, dstEnd, apart⟩
  · exact .inl ((bind_of_eq_ok found _).trans (bind_of_eq_error retries _))
  · refine .inr ⟨srcOffset, dstOffset, ⟨src, dst⟩, ?_, ⟨srcPerm, dstPerm⟩, ⟨isSrc, srcEnd⟩,
      ⟨isDst, dstEnd⟩, fun _ => apart, fun overlaps => Bool.noConfusion overlaps⟩
    exact (bind_of_eq_ok found _).trans (bind_of_eq_ok placed _)

end

/-! ### Whole plans -/

/-- Moves and comparisons take both offsets from the one buffer they use. -/
theorem planOperation_of_mayOverlap {memoryCall : MemoryCall}
    (overlaps : memoryCall.mayOverlap = true) (bufferSize : Nat) (lru : Lru) (draws : Draws) :
    planOperation memoryCall bufferSize lru draws = (do
      let ((srcOffset, dstOffset), lru) ← getNextSrcDstOffsetWithOverlap draws.doesOverlap
        draws.offset draws.srcShuffle (draws.dstShuffle :: draws.dstRetries) bufferSize
        draws.curSize (blockOffset draws.srcDraw draws.srcAlignment)
        (blockOffset draws.dstDraw draws.dstAlignment) lru
      return (⟨draws.curSize, some srcOffset, dstOffset⟩, lru)) := by
  cases memoryCall with
  | memcpyFunction => cases overlaps
  | memsetFunction => cases overlaps
  | memmoveFunction => rfl
  | memcmpFunction => rfl
  | bcmpFunction => rfl

/-- An operation with everything the plan promises about it. -/
structure Planned (memoryCall : MemoryCall) (bufferSize : Nat) (draws : Draws)
    (operation : Operation) : Prop where
  size : operation.sizeBytes = draws.curSize
  dst : 0 ≤ operation.dstOffset ∧ operation.dstOffset + draws.curSize ≤ bufferSize
  src : ∀ srcOffset, operation.srcOffset = some srcOffset →
    0 ≤ srcOffset ∧ srcOffset + draws.curSize ≤ bufferSize
  hasSrc : operation.srcOffset = none ↔ memoryCall = .memsetFunction
  placed : memoryCall.mayOverlap = true → ∃ srcOffset, operation.srcOffset = some srcOffset ∧
    Placed bufferSize draws.curSize draws.doesOverlap srcOffset operation.dstOffset

/-- A plan that ends in the retry loop of an operation that must not overlap: what was planned
before it is where it should be, and only further shuffles are missing. -/
structure StillRetrying (memoryCall : MemoryCall) (bufferSize : Nat)
    (plan : List Draws → Except Stop (List Operation × Lru)) (draws : List Draws) : Prop where
  shares : memoryCall.mayOverlap = true
  stopped : plan draws = .error .retrying
  before : ∃ earlier draw later operations lru, draws = earlier ++ draw :: later ∧
    plan earlier = .ok (operations, lru) ∧ lru.Complete bufferSize ∧
    List.Forall₂ (Planned memoryCall bufferSize) earlier operations ∧
    draw.doesOverlap = false ∧ planOperation memoryCall bufferSize lru draw = .error .retrying

/-- One more operation is planned in front. -/
theorem StillRetrying.cons {memoryCall : MemoryCall} {bufferSize : Nat} {lru next : Lru}
    {draw : Draws} {rest : List Draws} {operation : Operation}
    (retrying : StillRetrying memoryCall bufferSize
      (fun draws => planOperations memoryCall bufferSize draws next) rest)
    (planned : planOperation memoryCall bufferSize lru draw = .ok (operation, next))
    (isPlanned : Planned memoryCall bufferSize draw operation) :
    StillRetrying memoryCall bufferSize
      (fun draws => planOperations memoryCall bufferSize draws lru) (draw :: rest) := by
  obtain ⟨shares, stopped, earlier, last, later, operations, final, rfl, plan, complete,
    arePlanned, apart, retries⟩ := retrying
  refine ⟨shares, (bind_of_eq_ok planned _).trans (bind_of_eq_error stopped _), draw :: earlier,
    last, later, operation :: operations, final, rfl, ?_, complete, .cons isPlanned arePlanned,
    apart, retries⟩
  exact (bind_of_eq_ok planned _).trans (bind_of_eq_ok plan _)

section

variable {memoryCall : MemoryCall} {distributionMaxSize bufferSize : Nat}
  (distribution : distributionMaxSize ≤ memDistributionMax) (admitted : BufferSize bufferSize)

include distribution admitted

/-- Copies and fills use a buffer for each side and need no margins. -/
theorem planOperation_separate {draws : Draws} {lru : Lru}
    (admissible : Admissible memoryCall distributionMaxSize bufferSize draws)
    (complete : lru.Complete bufferSize) (separate : memoryCall.mayOverlap = false) :
    ∃ operation next, planOperation memoryCall bufferSize lru draws = .ok (operation, next) ∧
      next.Complete bufferSize ∧ Planned memoryCall bufferSize draws operation := by
  obtain ⟨smallMax, halfMax, _⟩ := maxSize_le memoryCall distribution admitted.lower
  have small := Nat.le_trans admissible.size smallMax
  have half := Nat.le_trans admissible.size halfMax
  obtain ⟨dstOffset, dst, dstFound, dstPerm, dstInside⟩ :=
    getNextOffset_inside admitted complete.dst draws.dstShuffle admissible.dstBound small half
  cases memoryCall with
  | memcpyFunction =>
    obtain ⟨srcOffset, src, srcFound, srcPerm, srcInside⟩ :=
      getNextOffset_inside admitted complete.src draws.srcShuffle admissible.srcBound small half
    refine ⟨⟨draws.curSize, some srcOffset, dstOffset⟩, ⟨src, dst⟩, ?_, ⟨srcPerm, dstPerm⟩, rfl,
      dstInside, ?_, by simp, fun overlaps => (nomatch overlaps)⟩
    · simp only [planOperation, srcFound, dstFound]
      rfl
    · rintro _ ⟨⟩
      exact srcInside
  | memsetFunction =>
    refine ⟨⟨draws.curSize, none, dstOffset⟩, ⟨lru.src, dst⟩, ?_, ⟨complete.src, dstPerm⟩, rfl,
      dstInside, nofun, by simp, fun overlaps => (nomatch overlaps)⟩
    simp only [planOperation, dstFound]
    rfl
  | memmoveFunction => cases separate
  | memcmpFunction => cases separate
  | bcmpFunction => cases separate

/-- Moves and comparisons stay inside the one buffer they use. -/
theorem planOperation_overlapping {draws : Draws} {lru : Lru}
    (admissible : Admissible memoryCall distributionMaxSize bufferSize draws)
    (complete : lru.Complete bufferSize) (overlaps : memoryCall.mayOverlap = true) :
    (draws.doesOverlap = false ∧
        planOperation memoryCall bufferSize lru draws = .error .retrying) ∨
      ∃ operation next, planOperation memoryCall bufferSize lru draws = .ok (operation, next) ∧
        next.Complete bufferSize ∧ Planned memoryCall bufferSize draws operation := by
  obtain ⟨smallMax, _, thirdMax⟩ := maxSize_le memoryCall distribution admitted.lower
  have small := Nat.le_trans admissible.size smallMax
  have third := Nat.le_trans admissible.size (thirdMax overlaps)
  have isPlanned : ∀ srcOffset dstOffset,
      Placed bufferSize draws.curSize draws.doesOverlap srcOffset dstOffset →
      Planned memoryCall bufferSize draws ⟨draws.curSize, some srcOffset, dstOffset⟩ := by
    intro srcOffset dstOffset placed
    refine ⟨rfl, placed.dst, ?_, ?_, fun _ => ⟨srcOffset, rfl, placed⟩⟩
    · rintro _ ⟨⟩
      exact placed.src
    · constructor
      · intro missing
        cases missing
      · rintro rfl
        cases overlaps
  rw [planOperation_of_mayOverlap overlaps]
  cases coin : draws.doesOverlap with
  | true =>
    obtain ⟨srcOffset, dstOffset, next, found, nextComplete, placed⟩ :=
      placed_overlapping admitted complete small third admissible.srcBound draws.srcShuffle
        (draws.dstShuffle :: draws.dstRetries) admissible.offset
    exact .inr ⟨_, next, bind_of_eq_ok found _, nextComplete, isPlanned _ _ (coin ▸ placed)⟩
  | false =>
    rcases placed_apart admitted complete small third admissible.srcBound draws.srcShuffle
      (draws.dstShuffle :: draws.dstRetries) admissible.dstBound with
      retries | ⟨srcOffset, dstOffset, next, found, nextComplete, placed⟩
    · exact .inl ⟨rfl, bind_of_eq_error retries _⟩
    · exact .inr ⟨_, next, bind_of_eq_ok found _, nextComplete, isPlanned _ _ (coin ▸ placed)⟩

theorem planOperation_planned {draws : Draws} {lru : Lru}
    (admissible : Admissible memoryCall distributionMaxSize bufferSize draws)
    (complete : lru.Complete bufferSize) :
    (memoryCall.mayOverlap = true ∧ draws.doesOverlap = false ∧
        planOperation memoryCall bufferSize lru draws = .error .retrying) ∨
      ∃ operation next, planOperation memoryCall bufferSize lru draws = .ok (operation, next) ∧
        next.Complete bufferSize ∧ Planned memoryCall bufferSize draws operation := by
  cases overlaps : memoryCall.mayOverlap with
  | true =>
    rcases planOperation_overlapping distribution admitted admissible complete overlaps with
      retries | planned
    · exact .inl ⟨rfl, retries⟩
    · exact .inr planned
  | false =>
    exact .inr (planOperation_separate distribution admitted admissible complete overlaps)

theorem planOperations_planned {draws : List Draws}
    (admissible : ∀ draw ∈ draws, Admissible memoryCall distributionMaxSize bufferSize draw)
    {lru : Lru} (complete : lru.Complete bufferSize) :
    StillRetrying memoryCall bufferSize
        (fun draws => planOperations memoryCall bufferSize draws lru) draws ∨
      ∃ operations next, planOperations memoryCall bufferSize draws lru = .ok (operations, next) ∧
        next.Complete bufferSize ∧
        List.Forall₂ (Planned memoryCall bufferSize) draws operations := by
  induction draws generalizing lru with
  | nil => exact .inr ⟨[], lru, rfl, complete, .nil⟩
  | cons draw rest inductionHypothesis =>
    rcases planOperation_planned distribution admitted (admissible draw List.mem_cons_self)
      complete with ⟨shares, apart, retries⟩ | ⟨operation, next, planned, nextComplete, isPlanned⟩
    · exact .inl ⟨shares, bind_of_eq_error retries _, [], draw, rest, [], lru, rfl, rfl, complete,
        .nil, apart, retries⟩
    · rcases inductionHypothesis
        (fun other member => admissible other (List.mem_cons_of_mem _ member)) nextComplete with
        retries | ⟨operations, final, arePlans, finalComplete, arePlanned⟩
      · exact .inl (retries.cons planned isPlanned)
      · refine .inr ⟨operation :: operations, final, ?_, finalComplete,
          .cons isPlanned arePlanned⟩
        exact (bind_of_eq_ok planned _).trans (bind_of_eq_ok arePlans _)

end

theorem planMemory_eq {memoryCall : MemoryCall} {bufferSize : Nat}
    (admitted : BufferSize bufferSize) (srcShuffle dstShuffle : Shuffle) (draws : List Draws) :
    planMemory memoryCall bufferSize srcShuffle dstShuffle draws =
      planOperations memoryCall bufferSize draws ⟨srcShuffle.order (allBlocks bufferSize),
        dstShuffle.order (allBlocks bufferSize)⟩ := by
  rw [planMemory, collectBlocks_eq_ok admitted]
  rfl

/-- For every buffer that the `CHECK` of the L3 size admits and everything that can be sampled, the
plan is made without overflow, failed `CHECK` or uninitialised block, and every operation of it is
where it should be; or the call shares one buffer and the plan ends in a retry loop. -/
theorem planMemory_planned {l3Size bufferSize distributionMaxSize : Nat} {memoryCall : MemoryCall}
    (checked : l3SizeChecked l3Size) (lower : 192 ≤ bufferSize) (upper : bufferSize ≤ 2 * l3Size)
    (distribution : distributionMaxSize ≤ memDistributionMax) {draws : List Draws}
    (admissible : ∀ draw ∈ draws, Admissible memoryCall distributionMaxSize bufferSize draw)
    (srcShuffle dstShuffle : Shuffle) :
    StillRetrying memoryCall bufferSize
        (planMemory memoryCall bufferSize srcShuffle dstShuffle) draws ∨
      ∃ operations lru,
        planMemory memoryCall bufferSize srcShuffle dstShuffle draws = .ok (operations, lru) ∧
        lru.Complete bufferSize ∧
        List.Forall₂ (Planned memoryCall bufferSize) draws operations := by
  have admitted := bufferSize_of_l3Size checked lower upper
  rw [funext (planMemory_eq admitted srcShuffle dstShuffle)]
  exact planOperations_planned distribution admitted admissible
    ⟨srcShuffle.perm _, dstShuffle.perm _⟩

/-- Two comparisons in a buffer of 1 kB, one of which overlaps. -/
def twoComparisons : List Draws :=
  [⟨10, 37, 2, 5, 0, true, -3, .identity, .identity, []⟩,
    ⟨100, 62, 0, 13, 3, false, 0, .identity, .identity, List.replicate 16 .identity⟩]

theorem planMemory_twoComparisons : ∃ operations lru,
    planMemory .memcmpFunction 1024 .identity .identity twoComparisons = .ok (operations, lru) ∧
      lru.Complete 1024 ∧
      List.Forall₂ (Planned .memcmpFunction 1024) twoComparisons operations := by
  have admissible : ∀ draw ∈ twoComparisons, Admissible .memcmpFunction 61466 1024 draw := by
    refine List.forall_mem_cons.mpr ⟨?_, List.forall_mem_singleton.mpr ?_⟩
    · exact ⟨by decide, by decide, by decide, by decide⟩
    · exact ⟨by decide, by decide, by decide, by decide⟩
  have exits :
      (planMemory .memcmpFunction 1024 .identity .identity twoComparisons).isOk = true := by
    decide +kernel
  rcases planMemory_planned (show l3SizeChecked 2097152 by unfold l3SizeChecked; decide)
    (by decide) (by decide) (show 61466 ≤ memDistributionMax by decide) admissible .identity
    .identity with retries | planned
  · rw [retries.stopped] at exits
    cases exits
  · exact planned

end Fleetbench.Libc
