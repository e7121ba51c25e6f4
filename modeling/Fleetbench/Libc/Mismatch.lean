/-
This file proves where compared ranges first differ. Source and destination
are ranges of one buffer, so a mark may be seen through both of them. Through
the source it is seen earlier if the source begins behind the destination, and
then the ranges differ before the position that was drawn; it is seen at the
same index if they begin together, and then they do not differ at all.
-/

import Fleetbench.Libc.Marking

namespace Fleetbench.Libc

/-! ### The first difference -/

/-- The first index at which two ranges differ. -/
def firstMismatch (memory : Memory) (first second size : Nat) : Option Nat :=
  (List.range size).find? fun index => memory (first + index) ≠ memory (second + index)

theorem firstMismatch_eq_some_iff {memory : Memory} {first second size index : Nat} :
    firstMismatch memory first second size = some index ↔
      memory (first + index) ≠ memory (second + index) ∧ index < size ∧
        ∀ earlier < index, memory (first + earlier) = memory (second + earlier) := by
  rw [firstMismatch, List.find?_range_eq_some, decide_eq_true_iff, List.mem_range]
  refine and_congr_right fun _ => and_congr_right fun _ => forall₂_congr fun earlier _ => ?_
  rw [Bool.not_eq_true', decide_eq_false_iff_not, not_not]

theorem firstMismatch_eq_none {memory : Memory} {first second size : Nat}
    (same : ∀ index < size, memory (first + index) = memory (second + index)) :
    firstMismatch memory first second size = none := by
  refine List.find?_range_eq_none.mpr fun index inside => ?_
  rw [Bool.not_eq_true', decide_eq_false_iff_not, not_not]
  exact same index inside

section Marked

variable {bufferSize first second size address : Nat} {memory : Memory}
  (allSet : AllSet bufferSize memory) (firstEnd : first + size ≤ bufferSize)
  (secondEnd : second + size ≤ bufferSize)

include allSet firstEnd secondEnd

/-- At an index the ranges differ if one of them has the mark there. -/
theorem marked_ne_iff {index : Nat} (inside : index < size) :
    Function.update memory address 0x00 (first + index) ≠
        Function.update memory address 0x00 (second + index) ↔
      ¬ (first + index = address ↔ second + index = address) := by
  have set : memory (first + index) = 0xFF := allSet _ (by omega)
  have set' : memory (second + index) = 0xFF := allSet _ (by omega)
  have unequal : (0x00 : UInt8) ≠ 0xFF := by decide
  rw [Function.update_apply, Function.update_apply, set, set']
  by_cases isFirst : first + index = address
  · by_cases isSecond : second + index = address
    · rw [if_pos isFirst, if_pos isSecond]
      exact iff_of_false (fun ne => ne rfl) (fun other => other (iff_of_true isFirst isSecond))
    · rw [if_pos isFirst, if_neg isSecond]
      exact iff_of_true unequal fun both => isSecond (both.mp isFirst)
  · by_cases isSecond : second + index = address
    · rw [if_neg isFirst, if_pos isSecond]
      exact iff_of_true unequal.symm fun both => isFirst (both.mpr isSecond)
    · rw [if_neg isFirst, if_neg isSecond]
      exact iff_of_false (fun ne => ne rfl) (fun other => other (iff_of_false isFirst isSecond))

/-- The byte that is marked in the first range is the first difference unless the second range has
it no later. -/
theorem firstMismatch_marked_iff {position : Nat} (positive : 0 < position)
    (small : position ≤ size) :
    firstMismatch (Function.update memory (first + position - 1) 0x00) first second size =
        some (position - 1) ↔ second < first ∨ first + position ≤ second := by
  have differ {index : Nat} (inside : index < size) :=
    @marked_ne_iff _ _ _ _ (first + position - 1) _ allSet firstEnd secondEnd index inside
  rw [firstMismatch_eq_some_iff, differ (by omega)]
  constructor
  · rintro ⟨here, -, before⟩
    by_contra seen
    have earlier : first + position - 1 - second < position - 1 := by omega
    have same := before _ earlier
    have there := mt (differ (show first + position - 1 - second < size by omega)).mpr
      (not_not_intro same)
    omega
  · intro unseen
    refine ⟨by omega, by omega, fun earlier before => ?_⟩
    by_contra there
    have one := (differ (show earlier < size by omega)).mp there
    omega

end Marked

/-! ### One comparison -/

/-- After the mark the compared ranges are equal if the position is `0`, and otherwise they first
differ just before it. -/
def MismatchLaw (parameters : CmpParameters) (position : Int) (memory : Memory) : Prop :=
  firstMismatch (mark memory (toSizeT parameters.dstOffset) (toSizeT parameters.mismatchPos))
      (toSizeT parameters.dstOffset) (toSizeT parameters.srcOffset)
      (toSizeT parameters.sizeBytes) =
    if position = 0 then none else some (position - 1).toNat

theorem toSizeT_of_nonneg {value : Int} (nonneg : 0 ≤ value) (small : value ≤ 2147483647) :
    toSizeT value = value.toNat := by
  rw [toSizeT]
  omega

theorem mismatchLaw_iff {bufferSize : Nat} (admitted : BufferSize bufferSize)
    {srcOffset dstOffset : Int} {curSize : Nat}
    (src : 0 ≤ srcOffset ∧ srcOffset + curSize ≤ bufferSize)
    (dst : 0 ≤ dstOffset ∧ dstOffset + curSize ≤ bufferSize) {position : Int}
    (lower : 0 ≤ position) (upper : position ≤ min (curSize : Int) 32767) {memory : Memory}
    (allSet : AllSet bufferSize memory) :
    MismatchLaw (cmpParameters ⟨curSize, some srcOffset, dstOffset⟩ position) position memory ↔
      position = 0 ∨ srcOffset < dstOffset ∨ dstOffset + position ≤ srcOffset := by
  have largest := admitted.upper
  have stored : toInt16 position = position := by
    rw [toInt16]
    omega
  have unfolded : MismatchLaw (cmpParameters ⟨curSize, some srcOffset, dstOffset⟩ position)
      position memory ↔
      firstMismatch (writeAt 0x00 memory (toSizeT dstOffset) (toSizeT position))
        dstOffset.toNat srcOffset.toNat curSize =
          if position = 0 then none else some (position - 1).toNat := by
    show firstMismatch (mark memory (toSizeT dstOffset) (toSizeT (toInt16 position)))
      (toSizeT dstOffset) (toSizeT srcOffset) (toSizeT curSize) = _ ↔ _
    rw [stored, mark, toSizeT_of_nonneg dst.1 (by omega), toSizeT_of_nonneg src.1 (by omega),
      toSizeT_of_nonneg (Int.natCast_nonneg curSize) (by omega), Int.toNat_natCast]
  rw [unfolded, writeAt]
  by_cases zero : position = 0
  · subst zero
    have unmarked : markedAddress (toSizeT dstOffset) (toSizeT 0) = none := rfl
    rw [unmarked, if_pos rfl]
    refine iff_of_true (firstMismatch_eq_none fun index inside => ?_) (.inl rfl)
    have set : memory (dstOffset.toNat + index) = 0xFF := allSet _ (by omega)
    have set' : memory (srcOffset.toNat + index) = 0xFF := allSet _ (by omega)
    exact set.trans set'.symm
  · have marks := markedAddress_of_pos dst.1 (show 0 < position by omega) (by omega)
    have general := @firstMismatch_marked_iff bufferSize dstOffset.toNat srcOffset.toNat curSize
      memory allSet (by omega) (by omega) position.toNat (by omega) (by omega)
    rw [marks, if_neg zero, or_iff_right zero]
    rw [show (dstOffset + position - 1).toNat = dstOffset.toNat + position.toNat - 1 by omega,
      show (position - 1).toNat = position.toNat - 1 by omega]
    refine general.trans ?_
    omega

/-! ### Planned comparisons -/

/-- Where the destination is, relative to the source. -/
def Shifted (draw : Draws) (operation : Operation) : Prop :=
  draw.doesOverlap = true → ∃ srcOffset, operation.srcOffset = some srcOffset ∧
    operation.dstOffset = srcOffset + draw.offset

theorem shifted_of_getNextSrcDstOffsetWithOverlap {offset : Int} {srcShuffle : Shuffle}
    {dstShuffles : List Shuffle} {bufferSize curSize srcBlockOffset dstBlockOffset : Int}
    {lru next : Lru} {srcOffset dstOffset : Int}
    (placed : getNextSrcDstOffsetWithOverlap true offset srcShuffle dstShuffles bufferSize curSize
      srcBlockOffset dstBlockOffset lru = .ok ((srcOffset, dstOffset), next)) :
    dstOffset = srcOffset + offset := by
  rw [getNextSrcDstOffsetWithOverlap, if_pos rfl] at placed
  obtain ⟨_, -, placed⟩ := exists_of_bind placed
  obtain ⟨leftMargin, -, placed⟩ := exists_of_bind placed
  obtain ⟨⟨start, src⟩, -, placed⟩ := exists_of_bind placed
  obtain ⟨shifted, adds, placed⟩ := exists_of_bind placed
  obtain rfl := eq_of_add adds
  split at placed
  · obtain ⟨dstEnd, -, placed⟩ := exists_of_bind placed
    split at placed
    · cases placed
      rfl
    · cases placed
  · cases placed

theorem shifted_of_planOperation {memoryCall : MemoryCall} (overlaps : memoryCall.mayOverlap = true)
    {bufferSize : Nat} {lru next : Lru} {draw : Draws} {operation : Operation}
    (planned : planOperation memoryCall bufferSize lru draw = .ok (operation, next)) :
    Shifted draw operation := by
  intro near
  rw [planOperation_of_mayOverlap overlaps, near] at planned
  obtain ⟨⟨⟨srcOffset, dstOffset⟩, _⟩, placed, planned⟩ := exists_of_bind planned
  cases planned
  exact ⟨srcOffset, rfl, shifted_of_getNextSrcDstOffsetWithOverlap placed⟩

theorem shifted_of_planOperations {memoryCall : MemoryCall}
    (overlaps : memoryCall.mayOverlap = true) {bufferSize : Nat} {draws : List Draws}
    {lru next : Lru} {operations : List Operation}
    (planned : planOperations memoryCall bufferSize draws lru = .ok (operations, next)) :
    List.Forall₂ Shifted draws operations := by
  induction draws generalizing lru operations with
  | nil =>
    cases planned
    exact .nil
  | cons draw rest inductionHypothesis =>
    rw [planOperations] at planned
    obtain ⟨⟨operation, between⟩, first, planned⟩ := exists_of_bind planned
    obtain ⟨⟨operations, final⟩, others, planned⟩ := exists_of_bind planned
    cases planned
    exact .cons (shifted_of_planOperation overlaps first) (inductionHypothesis others)

/-- The law holds of a planned comparison unless the source begins with the destination, or behind
it but before the marked byte. -/
theorem mismatchLaw_of_planned {memoryCall : MemoryCall} {bufferSize : Nat}
    (admitted : BufferSize bufferSize) (overlaps : memoryCall.mayOverlap = true) {draw : Draws}
    {operation : Operation} (planned : Planned memoryCall bufferSize draw operation)
    (shifted : Shifted draw operation) (present : 1 ≤ draw.curSize) {position : Int}
    (lower : 0 ≤ position) (upper : position ≤ min (draw.curSize : Int) 32767) {memory : Memory}
    (allSet : AllSet bufferSize memory) :
    MismatchLaw (cmpParameters operation position) position memory ↔
      draw.doesOverlap = false ∨ position = 0 ∨ 0 < draw.offset ∨ draw.offset + position ≤ 0 := by
  obtain ⟨sizeBytes, source, dstOffset⟩ := operation
  obtain rfl : sizeBytes = draw.curSize := planned.size
  obtain ⟨srcOffset, isSrc, ⟨src, dst, apart, -⟩⟩ := planned.placed overlaps
  obtain rfl : source = some srcOffset := isSrc
  change 0 ≤ dstOffset ∧ dstOffset + draw.curSize ≤ bufferSize at dst
  rw [mismatchLaw_iff admitted src dst lower upper allSet]
  cases coin : draw.doesOverlap with
  | false =>
    refine iff_of_true ?_ (.inl rfl)
    have separate : srcOffset + draw.curSize ≤ dstOffset ∨
        dstOffset + draw.curSize ≤ srcOffset := apart coin
    omega
  | true =>
    obtain ⟨start, isStart, shift⟩ := shifted coin
    obtain rfl : srcOffset = start := Option.some.inj isStart
    obtain rfl : dstOffset = srcOffset + draw.offset := shift
    rw [or_iff_right (show ¬ true = false from nofun)]
    omega

/-- In every plan, a comparison differs first where it should for exactly these draws. -/
theorem mismatchLaw_of_planMemory {l3Size bufferSize distributionMaxSize : Nat}
    {memoryCall : MemoryCall}
    (compares : memoryCall = .memcmpFunction ∨ memoryCall = .bcmpFunction)
    (checked : l3SizeChecked l3Size) (lower : 192 ≤ bufferSize)
    (upper : bufferSize ≤ 2 * l3Size) (distribution : distributionMaxSize ≤ memDistributionMax)
    {draws : List Draws}
    (admissible : ∀ draw ∈ draws, Admissible memoryCall distributionMaxSize bufferSize draw)
    {srcShuffle dstShuffle : Shuffle} {operations : List Operation} {lru : Lru}
    (plan : planMemory memoryCall bufferSize srcShuffle dstShuffle draws = .ok (operations, lru)) :
    List.Forall₂ (fun draw operation => 1 ≤ draw.curSize →
      ∀ position : Int, 0 ≤ position → position ≤ min (draw.curSize : Int) 32767 →
        ∀ memory, AllSet bufferSize memory →
          (MismatchLaw (cmpParameters operation position) position memory ↔
            draw.doesOverlap = false ∨ position = 0 ∨ 0 < draw.offset ∨
              draw.offset + position ≤ 0)) draws operations := by
  have admitted := bufferSize_of_l3Size checked lower upper
  have overlaps : memoryCall.mayOverlap = true := by
    rcases compares with rfl | rfl <;> rfl
  have planned := planned_of_planMemory admitted distribution admissible plan
  rw [planMemory_eq admitted] at plan
  have shifted := shifted_of_planOperations overlaps plan
  clear plan admissible
  induction planned with
  | nil => exact .nil
  | cons isPlanned _ inductionHypothesis =>
    cases shifted with
    | cons isShifted others =>
      refine .cons (fun present position lower upper memory allSet => ?_)
        (inductionHypothesis others)
      exact mismatchLaw_of_planned admitted overlaps isPlanned isShifted present lower upper allSet

theorem twoComparisons_admissible :
    ∀ draw ∈ twoComparisons, Admissible .memcmpFunction 61466 1024 draw :=
  List.forall_mem_cons.mpr ⟨⟨by decide, by decide, by decide, by decide⟩,
    List.forall_mem_singleton.mpr ⟨by decide, by decide, by decide, by decide⟩⟩

/-- The ranges that are apart first differ where they should for every position, and those that
begin three bytes from each other for positions up to three. -/
theorem mismatchLaw_of_twoComparisons : ∃ overlapping apart lru,
    planMemory .memcmpFunction 1024 .identity .identity twoComparisons =
        .ok ([overlapping, apart], lru) ∧
      ∀ memory, AllSet 1024 memory →
        (∀ position : Int, 0 ≤ position → position ≤ 3 →
          MismatchLaw (cmpParameters overlapping position) position memory) ∧
        ∀ position : Int, 0 ≤ position → position ≤ 100 →
          MismatchLaw (cmpParameters apart position) position memory := by
  obtain ⟨⟨operations, lru⟩, plan⟩ := exists_of_isOk (show
    (planMemory .memcmpFunction 1024 .identity .identity twoComparisons).isOk = true by
      decide +kernel)
  have law := mismatchLaw_of_planMemory (.inl rfl)
    (show l3SizeChecked 2097152 by unfold l3SizeChecked; decide) (by decide) (by decide)
    (show 61466 ≤ memDistributionMax by decide) twoComparisons_admissible plan
  cases law with
  | @cons _ overlapping _ _ isOverlapping rest =>
    cases rest with
    | @cons _ apart _ _ isApart rest =>
      cases rest
      refine ⟨overlapping, apart, lru, plan, fun memory allSet =>
        ⟨fun position lower upper => ?_, fun position lower upper => ?_⟩⟩
      · refine (isOverlapping (by decide) position lower ?_ memory allSet).mpr ?_
        · exact le_min (le_trans upper (by decide)) (le_trans upper (by decide))
        · exact .inr (.inr (.inr (neg_add_nonpos_iff.mpr upper)))
      · refine (isApart (by decide) position lower ?_ memory allSet).mpr (.inl rfl)
        exact le_min upper (le_trans upper (by decide))

/-- Ten bytes are compared with those that begin three bytes behind them. With the fifth byte of
the destination marked they first differ in the second. -/
theorem not_mismatchLaw_twoComparisons : ∃ operation rest lru,
    planMemory .memcmpFunction 1024 .identity .identity twoComparisons =
        .ok (operation :: rest, lru) ∧
      (firstMismatch (mark (fun _ => 0xFF) (toSizeT operation.dstOffset) 5)
        (toSizeT operation.dstOffset) (toSizeT (operation.srcOffset.getD 0)) 10 = some 1) ∧
      ¬ MismatchLaw (cmpParameters operation 5) 5 fun _ => 0xFF := by
  have planned : (planMemory .memcmpFunction 1024 .identity .identity twoComparisons).toOption.map
      Prod.fst = some [⟨10, some 100, 97⟩, ⟨100, some 62, 200⟩] := by decide +kernel
  cases plan : planMemory .memcmpFunction 1024 .identity .identity twoComparisons with
  | error stop =>
    rw [plan] at planned
    cases planned
  | ok result =>
    obtain ⟨operations, lru⟩ := result
    rw [plan] at planned
    obtain rfl : operations = _ := Option.some.inj planned
    refine ⟨_, _, lru, rfl, ?_, ?_⟩
    · decide
    · unfold MismatchLaw
      decide

end Fleetbench.Libc
