/-
This file proves that the retry loop for a destination always has a block that
ends it. An operation of at most a third of the buffer, less one block, leaves
room for another before its source or behind it. The lists of blocks stay
complete in every state that the planner reaches, so that block is in them.
-/

import Fleetbench.Libc.Placement

namespace Fleetbench.Libc

/-! ### Room for a destination -/

/-- There is room at the start of the buffer, or in the first blocks behind the source. -/
theorem exists_apart {bufferSize curSize : Nat} (lower : 192 ≤ bufferSize)
    (third : curSize ≤ bufferSize / 3 - 64) {srcOffset dstBlockOffset : Int}
    (isSrc : 0 ≤ srcOffset) (srcEnd : srcOffset + curSize ≤ bufferSize)
    (isOffset : 0 ≤ dstBlockOffset ∧ dstBlockOffset ≤ 63) :
    ∃ block : Int, 64 ∣ block ∧ 0 ≤ block ∧ block < bufferSize ∧
      block + dstBlockOffset + curSize ≤ bufferSize ∧
      ¬ (block + dstBlockOffset < srcOffset + curSize ∧
        srcOffset < block + dstBlockOffset + curSize) := by
  by_cases before : dstBlockOffset + curSize ≤ srcOffset
  · exact ⟨0, ⟨0, rfl⟩, le_refl 0, by omega, by omega, by omega⟩
  · by_cases first : srcOffset + curSize ≤ dstBlockOffset
    · exact ⟨0, ⟨0, rfl⟩, le_refl 0, by omega, by omega, by omega⟩
    · refine ⟨64 * ((srcOffset + curSize - dstBlockOffset + 63) / 64), ⟨_, rfl⟩, ?_⟩
      omega

theorem checkOverlap_eq_false {srcOffset dstOffset : Int} {curSize : Nat} (isSrc : 0 ≤ srcOffset)
    (isDst : 0 ≤ dstOffset) (srcEnd : srcOffset + curSize ≤ int32Max)
    (dstEnd : dstOffset + curSize ≤ int32Max)
    (apart : ¬ (dstOffset < srcOffset + curSize ∧ srcOffset < dstOffset + curSize)) :
    checkOverlap srcOffset dstOffset curSize = .ok false := by
  rw [checkOverlap_eq_ok isSrc isDst srcEnd dstEnd, decide_eq_false apart]

/-! ### The lists stay complete -/

theorem mem_of_findBlock {blockOffset sizeBytes bufferSize leftMargin rightMargin : Int}
    {blocks : List Int} {chosen : Int}
    (found : findBlock blockOffset sizeBytes bufferSize leftMargin rightMargin blocks =
      .ok (some chosen)) : chosen ∈ blocks := by
  induction blocks with
  | nil => cases found
  | cons block rest inductionHypothesis =>
    rw [findBlock] at found
    split at found
    · obtain ⟨ends, -, found⟩ := exists_of_bind found
      obtain ⟨last, -, found⟩ := exists_of_bind found
      split at found
      · cases found
        exact List.mem_cons_self
      · exact List.mem_cons_of_mem _ (inductionHypothesis found)
    · exact List.mem_cons_of_mem _ (inductionHypothesis found)

/-- Whatever `GetNextOffset` returns is an address behind a block, with room for the operation. -/
theorem getNextOffset_of_eq_ok {shuffle : Shuffle} {blocksLru next : List Int}
    {sizeBytes blockOffset bufferSize leftMargin rightMargin start : Int}
    (found : getNextOffset shuffle blocksLru sizeBytes blockOffset bufferSize leftMargin
      rightMargin = .ok (start, next)) :
    next.Perm blocksLru ∧ start + sizeBytes ≤ bufferSize ∧
      ∃ block ∈ blocksLru, start = block + blockOffset := by
  rw [getNextOffset] at found
  obtain ⟨chosen, search, found⟩ := exists_of_bind found
  cases chosen with
  | none => cases found
  | some chosen =>
    obtain ⟨last, ends, found⟩ := exists_of_bind found
    obtain ⟨first, begins, ends⟩ := exists_of_bind ends
    obtain rfl := eq_of_add begins
    obtain rfl := eq_of_add ends
    split at found
    · rename_i inside
      obtain ⟨_, begins, found⟩ := exists_of_bind found
      obtain rfl := eq_of_add begins
      cases found
      exact ⟨moveToBack_perm shuffle _, inside, chosen, mem_of_findBlock search, rfl⟩
    · cases found

section

variable {bufferSize curSize : Int}

theorem retryDst_perm {srcOffset dstBlockOffset : Int} {shuffles : List Shuffle}
    {dstBlocksLru next : List Int} {dstOffset : Int}
    (placed : retryDst bufferSize curSize srcOffset dstBlockOffset shuffles dstBlocksLru =
      .ok (dstOffset, next)) : next.Perm dstBlocksLru := by
  induction shuffles generalizing dstBlocksLru with
  | nil => cases placed
  | cons shuffle rest inductionHypothesis =>
    rw [retryDst] at placed
    obtain ⟨⟨start, between⟩, found, placed⟩ := exists_of_bind placed
    have perm := (getNextOffset_of_eq_ok found).1
    obtain ⟨overlaps, -, placed⟩ := exists_of_bind placed
    split at placed
    · exact (inductionHypothesis placed).trans perm
    · cases placed
      exact perm

/-- Both lists are permutations of what they were. -/
def Lru.Perm (next lru : Lru) : Prop := next.src.Perm lru.src ∧ next.dst.Perm lru.dst

theorem getNextSrcDstOffsetWithOverlap_perm {doesOverlap : Bool} {offset : Int}
    {srcShuffle : Shuffle} {dstShuffles : List Shuffle} {srcBlockOffset dstBlockOffset : Int}
    {lru next : Lru} {offsets : Int × Int}
    (placed : getNextSrcDstOffsetWithOverlap doesOverlap offset srcShuffle dstShuffles bufferSize
      curSize srcBlockOffset dstBlockOffset lru = .ok (offsets, next)) : next.Perm lru := by
  rw [getNextSrcDstOffsetWithOverlap] at placed
  split at placed
  · obtain ⟨_, -, placed⟩ := exists_of_bind placed
    obtain ⟨leftMargin, -, placed⟩ := exists_of_bind placed
    obtain ⟨⟨start, src⟩, found, placed⟩ := exists_of_bind placed
    obtain ⟨shifted, -, placed⟩ := exists_of_bind placed
    split at placed
    · obtain ⟨dstEnd, -, placed⟩ := exists_of_bind placed
      split at placed
      · cases placed
        exact ⟨(getNextOffset_of_eq_ok found).1, .refl _⟩
      · cases placed
    · cases placed
  · obtain ⟨⟨start, src⟩, found, placed⟩ := exists_of_bind placed
    obtain ⟨⟨dstOffset, dst⟩, retried, placed⟩ := exists_of_bind placed
    cases placed
    exact ⟨(getNextOffset_of_eq_ok found).1, retryDst_perm retried⟩

end

theorem planOperation_perm {memoryCall : MemoryCall} {bufferSize : Nat} {lru next : Lru}
    {draws : Draws} {operation : Operation}
    (planned : planOperation memoryCall bufferSize lru draws = .ok (operation, next)) :
    next.Perm lru := by
  have overlapping (overlaps : memoryCall.mayOverlap = true) : next.Perm lru := by
    rw [planOperation_of_mayOverlap overlaps] at planned
    obtain ⟨⟨⟨srcOffset, dstOffset⟩, between⟩, placed, planned⟩ := exists_of_bind planned
    cases planned
    exact getNextSrcDstOffsetWithOverlap_perm placed
  cases memoryCall with
  | memcpyFunction =>
    obtain ⟨⟨srcOffset, src⟩, srcFound, planned⟩ := exists_of_bind planned
    obtain ⟨⟨dstOffset, dst⟩, dstFound, planned⟩ := exists_of_bind planned
    cases planned
    exact ⟨(getNextOffset_of_eq_ok srcFound).1, (getNextOffset_of_eq_ok dstFound).1⟩
  | memsetFunction =>
    obtain ⟨⟨dstOffset, dst⟩, dstFound, planned⟩ := exists_of_bind planned
    cases planned
    exact ⟨.refl _, (getNextOffset_of_eq_ok dstFound).1⟩
  | memmoveFunction => exact overlapping rfl
  | memcmpFunction => exact overlapping rfl
  | bcmpFunction => exact overlapping rfl

theorem planOperations_perm {memoryCall : MemoryCall} {bufferSize : Nat} {draws : List Draws}
    {lru next : Lru} {operations : List Operation}
    (planned : planOperations memoryCall bufferSize draws lru = .ok (operations, next)) :
    next.Perm lru := by
  induction draws generalizing lru operations with
  | nil =>
    cases planned
    exact ⟨.refl _, .refl _⟩
  | cons draw rest inductionHypothesis =>
    rw [planOperations] at planned
    obtain ⟨⟨operation, between⟩, first, planned⟩ := exists_of_bind planned
    obtain ⟨⟨operations, final⟩, others, planned⟩ := exists_of_bind planned
    cases planned
    have before := planOperation_perm first
    have behind := inductionHypothesis others
    exact ⟨behind.1.trans before.1, behind.2.trans before.2⟩

/-- All blocks have been collected without overflow, so the buffer is small enough. -/
theorem collectBlocks_of_eq_ok {bufferSize : Nat} {blocks : List Int}
    (collected : collectBlocks bufferSize = .ok blocks) :
    blocks = allBlocks bufferSize ∧ (bufferSize : Int) ≤ int32Max := by
  have general : ∀ (indices : List Nat) (blocks : List Int),
      (indices.mapM fun index => do
        let _ ← add (index * kCacheLineSize : Nat) kCacheLineSize
        return ((index * kCacheLineSize : Nat) : Int)) = (.ok blocks : Except Stop (List Int)) →
      blocks = indices.map (fun index => ((index * kCacheLineSize : Nat) : Int)) ∧
        ∀ index ∈ indices, ((index * kCacheLineSize : Nat) : Int) + kCacheLineSize ≤ int32Max := by
    intro indices
    induction indices with
    | nil =>
      intro blocks mapped
      cases mapped
      exact ⟨rfl, fun index member => nomatch member⟩
    | cons index rest inductionHypothesis =>
      intro blocks mapped
      rw [List.mapM_cons] at mapped
      obtain ⟨block, first, mapped⟩ := exists_of_bind mapped
      obtain ⟨others, later, mapped⟩ := exists_of_bind mapped
      obtain ⟨sum, adds, first⟩ := exists_of_bind first
      cases first
      cases mapped
      obtain ⟨rfl, small⟩ := inductionHypothesis others later
      refine ⟨rfl, List.forall_mem_cons.mpr ⟨?_, small⟩⟩
      rw [add] at adds
      split at adds
      · rename_i fits
        exact fits.2
      · cases adds
  obtain ⟨isBlocks, small⟩ := general _ _ collected
  refine ⟨isBlocks, ?_⟩
  by_cases empty : bufferSize = 0
  · rw [empty, int32Max]
    decide
  · have last := small ((bufferSize + kCacheLineSize - 1) / kCacheLineSize - 1) (by
      rw [List.mem_range, kCacheLineSize]
      omega)
    rw [kCacheLineSize] at last
    omega

/-! ### The retry loop -/

/-- The lists that the rounds of the retry loop begin with, the first of them given. -/
inductive Rounds (bufferSize curSize srcOffset dstBlockOffset : Int) (blocks : List Int) :
    List Int → Prop
  | enter : Rounds bufferSize curSize srcOffset dstBlockOffset blocks blocks
  | again {current next : List Int} {shuffle : Shuffle} {dstOffset : Int}
      (earlier : Rounds bufferSize curSize srcOffset dstBlockOffset blocks current)
      (found : getNextOffset shuffle current curSize dstBlockOffset bufferSize 0 0 =
        .ok (dstOffset, next))
      (overlaps : checkOverlap srcOffset dstOffset curSize = .ok true) :
      Rounds bufferSize curSize srcOffset dstBlockOffset blocks next

/-- A plan has been made for some operations, and the next begins a round of the retry loop. -/
structure Retrying (memoryCall : MemoryCall) (bufferSize : Nat) (draw : Draws)
    (srcOffset : Int) (dstBlocksLru : List Int) : Prop where
  overlaps : memoryCall.mayOverlap = true
  apart : draw.doesOverlap = false
  planned : ∃ srcShuffle dstShuffle earlier operations lru src,
    planMemory memoryCall bufferSize srcShuffle dstShuffle earlier = .ok (operations, lru) ∧
    getNextOffset draw.srcShuffle lru.src draw.curSize
      (blockOffset draw.srcDraw draw.srcAlignment) bufferSize 0 0 = .ok (srcOffset, src) ∧
    Rounds bufferSize draw.curSize srcOffset (blockOffset draw.dstDraw draw.dstAlignment) lru.dst
      dstBlocksLru

theorem Rounds.perm {bufferSize curSize srcOffset dstBlockOffset : Int}
    {blocks current : List Int}
    (rounds : Rounds bufferSize curSize srcOffset dstBlockOffset blocks current) :
    current.Perm blocks := by
  induction rounds with
  | enter => exact .refl _
  | again _ found _ inductionHypothesis =>
    exact (getNextOffset_of_eq_ok found).1.trans inductionHypothesis

/-- In every state of the loop the list is complete, and the source is inside the buffer. -/
theorem Retrying.complete {memoryCall : MemoryCall} {bufferSize : Nat} {draw : Draws}
    {srcOffset : Int} {dstBlocksLru : List Int}
    (retrying : Retrying memoryCall bufferSize draw srcOffset dstBlocksLru) :
    dstBlocksLru.Perm (allBlocks bufferSize) ∧ (bufferSize : Int) ≤ int32Max ∧ 0 ≤ srcOffset ∧
      srcOffset + draw.curSize ≤ bufferSize := by
  obtain ⟨srcShuffle, dstShuffle, earlier, operations, lru, src, plan, found, rounds⟩ :=
    retrying.planned
  rw [planMemory] at plan
  obtain ⟨blocks, collected, plan⟩ := exists_of_bind plan
  obtain ⟨rfl, small⟩ := collectBlocks_of_eq_ok collected
  obtain ⟨srcPerm, dstPerm⟩ := planOperations_perm plan
  obtain ⟨-, srcEnd, block, member, rfl⟩ := getNextOffset_of_eq_ok found
  obtain ⟨index, rfl, -⟩ := mem_allBlocks.mp ((srcPerm.trans (srcShuffle.perm _)).subset member)
  have isOffset := (blockOffset_le draw.srcDraw draw.srcAlignment).1
  exact ⟨(rounds.perm.trans dstPerm).trans (dstShuffle.perm _), small, by omega, srcEnd⟩

/-- The destination in some block does not overlap the source, and is found not to. -/
theorem exists_freeBlock {bufferSize curSize : Nat} {srcOffset dstBlockOffset : Int}
    (lower : 192 ≤ bufferSize) (third : curSize ≤ bufferSize / 3 - 64) (isSrc : 0 ≤ srcOffset)
    (srcEnd : srcOffset + curSize ≤ bufferSize)
    (isOffset : 0 ≤ dstBlockOffset ∧ dstBlockOffset ≤ 63) :
    ∃ block : Int, 64 ∣ block ∧ 0 ≤ block ∧ block < bufferSize ∧
      block + dstBlockOffset + curSize ≤ bufferSize ∧
      ¬ (block + dstBlockOffset < srcOffset + curSize ∧
        srcOffset < block + dstBlockOffset + curSize) ∧
      ((bufferSize : Int) ≤ int32Max →
        checkOverlap srcOffset (block + dstBlockOffset) curSize = .ok false) := by
  obtain ⟨block, aligned, isBlock, inside, dstEnd, apart⟩ :=
    exists_apart lower third isSrc srcEnd isOffset
  exact ⟨block, aligned, isBlock, inside, dstEnd, apart, fun small =>
    checkOverlap_eq_false isSrc (by omega) (le_trans srcEnd small) (le_trans dstEnd small) apart⟩

/-- For every position of the source there is a block whose destination does not overlap it, and
the list of every round of the retry loop holds a suitable one. -/
theorem exists_destination {bufferSize : Nat} (lower : 192 ≤ bufferSize) :
    (∀ (curSize : Nat) (srcOffset dstBlockOffset : Int), curSize ≤ bufferSize / 3 - 64 →
      0 ≤ srcOffset → srcOffset + curSize ≤ bufferSize →
      0 ≤ dstBlockOffset ∧ dstBlockOffset ≤ 63 →
      ∃ block : Int, 64 ∣ block ∧ 0 ≤ block ∧ block < bufferSize ∧
        block + dstBlockOffset + curSize ≤ bufferSize ∧
        ¬ (block + dstBlockOffset < srcOffset + curSize ∧
          srcOffset < block + dstBlockOffset + curSize) ∧
        ((bufferSize : Int) ≤ int32Max →
          checkOverlap srcOffset (block + dstBlockOffset) curSize = .ok false)) ∧
    ∀ (memoryCall : MemoryCall) (distributionMaxSize : Nat) (draw : Draws) (srcOffset : Int)
      (dstBlocksLru : List Int), Admissible memoryCall distributionMaxSize bufferSize draw →
      Retrying memoryCall bufferSize draw srcOffset dstBlocksLru →
      ∃ block ∈ dstBlocksLru,
        Suitable (blockOffset draw.dstDraw draw.dstAlignment) draw.curSize bufferSize 0 0 block ∧
        checkOverlap srcOffset (block + blockOffset draw.dstDraw draw.dstAlignment) draw.curSize =
          .ok false := by
  refine ⟨fun _ _ _ third isSrc srcEnd isOffset =>
      exists_freeBlock lower third isSrc srcEnd isOffset,
    fun memoryCall distributionMaxSize draw srcOffset dstBlocksLru admissible retrying => ?_⟩
  obtain ⟨complete, small, isSrc, srcEnd⟩ := retrying.complete
  have third : draw.curSize ≤ bufferSize / 3 - 64 := by
    have size := admissible.size
    rw [maxSize, if_pos retrying.overlaps, kCacheLineSize] at size
    exact Nat.le_trans size (Nat.min_le_right _ _)
  have isOffset := admissible.dstBound
  obtain ⟨block, ⟨index, rfl⟩, isBlock, inside, dstEnd, -, passes⟩ :=
    exists_freeBlock lower third isSrc srcEnd ⟨isOffset.1, by omega⟩
  refine ⟨64 * index, complete.symm.subset (mem_allBlocks.mpr ⟨index.toNat, by omega, inside⟩),
    ⟨isBlock, ?_⟩, passes small⟩
  omega

/-- A comparison of a hundred bytes that are apart. -/
def apartComparison : Draws := ⟨100, 62, 0, 13, 3, false, 0, .identity, .identity, []⟩

theorem exists_destination_comparison :
    (∃ block : Int, 64 ∣ block ∧ 0 ≤ block ∧ block < (1024 : Nat) ∧
      block + 63 + (277 : Nat) ≤ (1024 : Nat) ∧
      ¬ (block + 63 < 300 + (277 : Nat) ∧ 300 < block + 63 + (277 : Nat)) ∧
      (((1024 : Nat) : Int) ≤ int32Max → checkOverlap 300 (block + 63) (277 : Nat) = .ok false)) ∧
    ∃ srcOffset dstBlocksLru, Retrying .memcmpFunction 1024 apartComparison srcOffset dstBlocksLru ∧
      ∃ block ∈ dstBlocksLru, Suitable (blockOffset 13 3) (100 : Nat) (1024 : Nat) 0 0 block ∧
        checkOverlap srcOffset (block + blockOffset 13 3) (100 : Nat) = .ok false := by
  have admitted : BufferSize 1024 := ⟨by decide, by decide⟩
  obtain ⟨start, src, found, -⟩ := getNextOffset_inside admitted (.refl (allBlocks 1024)) .identity
    (show (0 : Int) ≤ blockOffset 62 0 ∧ blockOffset 62 0 ≤ 62 by decide)
    (show 100 ≤ 262144 by decide) (show 100 ≤ 1024 / 2 by decide)
  have retrying : Retrying .memcmpFunction 1024 apartComparison start (allBlocks 1024) :=
    ⟨rfl, rfl, .identity, .identity, [], [], ⟨allBlocks 1024, allBlocks 1024⟩, src,
      planMemory_eq admitted .identity .identity [], found, .enter⟩
  have general := exists_destination (show 192 ≤ 1024 by decide)
  refine ⟨general.1 277 300 63 (by decide) (by decide) (by decide) (by decide), start,
    allBlocks 1024, retrying, ?_⟩
  exact general.2 .memcmpFunction 61466 apartComparison start (allBlocks 1024)
    ⟨by decide, by decide, by decide, by decide⟩ retrying

end Fleetbench.Libc
