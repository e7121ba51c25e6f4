/-
This file models how the comparison benchmarks mark a mismatch: the position
that `SampleMismatchPosition` draws, its way through `BM_Mem_Parameters`, and
the writes of `MemoryBuffers::mark` and `MemoryBuffers::reset` in `CmpFunction`.
The position is drawn as `int32_t`, stored as `int16_t` and passed as `size_t`.

Addresses are relative to the start of the buffer, modulo `2 ^ 64`.
-/

import Fleetbench.Libc.Placement
import Mathlib.Logic.Function.Iterate

namespace Fleetbench.Libc

/-! ### Positions -/

/-- `SampleMismatchPosition` for one size, given the outcome of its coin and a number below the
size: `0` for equal buffers. -/
def sampleMismatchPosition (isIdentical : Bool) (uniform : Nat) : Int :=
  if isIdentical then 0 else uniform + 1

/-- The conversion of an `int32_t` to `int16_t`. -/
def toInt16 (value : Int) : Int := (value + 32768) % 65536 - 32768

/-- The conversion of a signed number to `size_t`. -/
def toSizeT (value : Int) : Nat := (value % 18446744073709551616).toNat

/-! ### Marks -/

/-- The index that `mark` and `reset` write to, if they write: `offset + mismatch_pos - 1`. -/
def markedAddress (offset mismatchPos : Nat) : Option Nat :=
  if 0 < mismatchPos then some (toSizeT (offset + mismatchPos - 1)) else none

abbrev Memory := Nat → UInt8

/-- The difference of the first two bytes that differ. -/
def memcmp (memory : Memory) (first second size : Nat) : Int :=
  (((List.range size).map fun index =>
    ((memory (first + index)).toNat : Int) - (memory (second + index)).toNat).find? (· ≠ 0)).getD 0

def writeAt (byte : UInt8) (memory : Memory) (offset mismatchPos : Nat) : Memory :=
  match markedAddress offset mismatchPos with
  | none => memory
  | some address => Function.update memory address byte

def mark (memory : Memory) (offset mismatchPos : Nat) : Memory :=
  writeAt 0x00 memory offset mismatchPos

def reset (memory : Memory) (offset mismatchPos : Nat) : Memory :=
  writeAt 0xFF memory offset mismatchPos

/-- One comparison of `BM_Mem_Parameters`; `mismatchPos` has been stored. -/
structure CmpParameters where
  sizeBytes : Int
  srcOffset : Int
  dstOffset : Int
  mismatchPos : Int

/-- The parameters that `BM_Memory` passes on for an operation and the position drawn for it. -/
def cmpParameters (operation : Operation) (mismatchPos : Int) : CmpParameters where
  sizeBytes := operation.sizeBytes
  srcOffset := operation.srcOffset.getD 0
  dstOffset := operation.dstOffset
  mismatchPos := toInt16 mismatchPos

/-- The body of the inner loop of `CmpFunction`, with the result of the comparison, which is a
function of the memory, the two addresses and the size. -/
def cmpIteration (cmp : Memory → Nat → Nat → Nat → Int) (parameters : CmpParameters)
    (memory : Memory) : Int × Memory :=
  let dst := toSizeT parameters.dstOffset
  let mismatchPos := toSizeT parameters.mismatchPos
  let marked := mark memory dst mismatchPos
  (cmp marked dst (toSizeT parameters.srcOffset) (toSizeT parameters.sizeBytes),
    reset marked dst mismatchPos)

/-- The memory after some iterations of the inner loop. -/
def cmpFunction (cmp : Memory → Nat → Nat → Nat → Int) (parameters : List CmpParameters)
    (memory : Memory) : Memory :=
  parameters.foldl (fun memory parameter => (cmpIteration cmp parameter memory).2) memory

/-! ### Every iteration starts from the same buffer -/

def AllSet (bufferSize : Nat) (memory : Memory) : Prop :=
  ∀ address < bufferSize, memory address = 0xFF

theorem reset_mark (memory : Memory) (offset mismatchPos : Nat) :
    reset (mark memory offset mismatchPos) offset mismatchPos =
      reset memory offset mismatchPos := by
  simp only [reset, mark, writeAt]
  cases markedAddress offset mismatchPos with
  | none => rfl
  | some address => exact Function.update_idem _ _ _

theorem allSet_reset {bufferSize : Nat} {memory : Memory} (allSet : AllSet bufferSize memory)
    (offset mismatchPos : Nat) : AllSet bufferSize (reset memory offset mismatchPos) := by
  intro address inside
  rw [reset, writeAt]
  cases markedAddress offset mismatchPos with
  | none => exact allSet address inside
  | some written =>
    show Function.update memory written 0xFF address = 0xFF
    by_cases same : address = written
    · rw [same, Function.update_self]
    · rw [Function.update_of_ne same]
      exact allSet address inside

theorem allSet_cmpIteration (cmp : Memory → Nat → Nat → Nat → Int) (parameters : CmpParameters)
    {bufferSize : Nat} {memory : Memory} (allSet : AllSet bufferSize memory) :
    AllSet bufferSize (cmpIteration cmp parameters memory).2 := by
  rw [cmpIteration]
  show AllSet bufferSize (reset (mark memory _ _) _ _)
  rw [reset_mark]
  exact allSet_reset allSet _ _

theorem allSet_cmpFunction (cmp : Memory → Nat → Nat → Nat → Int)
    (parameters : List CmpParameters) {bufferSize : Nat} {memory : Memory}
    (allSet : AllSet bufferSize memory) :
    AllSet bufferSize (cmpFunction cmp parameters memory) := by
  rw [cmpFunction]
  induction parameters generalizing memory with
  | nil => exact allSet
  | cons parameter rest inductionHypothesis =>
    exact inductionHypothesis (allSet_cmpIteration cmp parameter allSet)

/-! ### Where the mark is -/

/-- The mark of a comparison is inside the range that is compared, and there is none if the buffers
are meant to be equal. -/
structure MarkedInside (parameters : CmpParameters) (isIdentical : Bool) : Prop where
  inside : ∀ address,
    markedAddress (toSizeT parameters.dstOffset) (toSizeT parameters.mismatchPos) = some address →
      parameters.dstOffset ≤ address ∧
        (address : Int) < parameters.dstOffset + parameters.sizeBytes
  identical : isIdentical = true →
    markedAddress (toSizeT parameters.dstOffset) (toSizeT parameters.mismatchPos) = none

/-- What `SampleMismatchPosition` draws for a size that is not `0`. -/
structure MismatchDraw where
  isIdentical : Bool
  uniform : Nat

def MismatchDraw.position (draw : MismatchDraw) : Int :=
  sampleMismatchPosition draw.isIdentical draw.uniform

/-- A position that is stored as a positive number marks the byte it names. -/
theorem markedAddress_of_pos {dstOffset stored : Int} (isDst : 0 ≤ dstOffset)
    (positive : 0 < stored) (small : dstOffset + stored ≤ 2147483647) :
    markedAddress (toSizeT dstOffset) (toSizeT stored) =
      some (dstOffset + stored - 1).toNat := by
  have dst : toSizeT dstOffset = dstOffset.toNat := by
    rw [toSizeT]
    omega
  have position : toSizeT stored = stored.toNat := by
    rw [toSizeT]
    omega
  rw [markedAddress, dst, position, if_pos (by omega), toSizeT]
  exact congrArg some (by omega)

/-- One that is stored as a negative number marks a byte before the range, or before the buffer. -/
theorem markedAddress_of_neg {dstOffset stored : Int} (isDst : 0 ≤ dstOffset)
    (small : dstOffset ≤ 2147483647) (negative : stored < 0) (lower : -32768 ≤ stored) :
    ∃ address : Nat, markedAddress (toSizeT dstOffset) (toSizeT stored) = some address ∧
      ((address : Int) < dstOffset ∨ 9223372036854775808 ≤ (address : Int)) := by
  have dst : toSizeT dstOffset = dstOffset.toNat := by
    rw [toSizeT]
    omega
  have position : (toSizeT stored : Int) = 18446744073709551616 + stored := by
    rw [toSizeT]
    omega
  refine ⟨toSizeT (dstOffset + (18446744073709551616 + stored) - 1), ?_, ?_⟩
  · rw [markedAddress, dst, if_pos (by omega), position]
    exact congrArg (fun offset : Int => some (toSizeT (offset + _ - 1))) (by omega)
  · rw [toSizeT]
    omega

/-- A mark is inside its range exactly when the position does not become negative as it is
stored. -/
theorem markedInside_iff {bufferSize : Nat} (admitted : BufferSize bufferSize)
    {operation : Operation} {curSize : Nat} (size : operation.sizeBytes = curSize)
    (dst : 0 ≤ operation.dstOffset ∧ operation.dstOffset + curSize ≤ bufferSize)
    {draw : MismatchDraw} (drawn : draw.uniform < curSize) :
    MarkedInside (cmpParameters operation draw.position) draw.isIdentical ↔
      draw.position % 65536 < 32768 := by
  obtain ⟨isIdentical, uniform⟩ := draw
  obtain ⟨isDst, dstEnd⟩ := dst
  have upper := admitted.upper
  change uniform < curSize at drawn
  cases isIdentical with
  | true =>
    have unmarked : markedAddress (toSizeT operation.dstOffset) (toSizeT (toInt16 0)) = none := rfl
    constructor
    · intro _
      show (0 : Int) % 65536 < 32768
      decide
    · refine fun _ => ⟨fun address marked => ?_, fun _ => unmarked⟩
      cases unmarked.symm.trans marked
  | false =>
    have position : (⟨false, uniform⟩ : MismatchDraw).position = uniform + 1 := rfl
    rw [position]
    constructor
    · rintro ⟨inside, _⟩
      by_contra wraps
      obtain ⟨address, marked, outside⟩ := markedAddress_of_neg isDst
        (show operation.dstOffset ≤ 2147483647 by omega)
        (show toInt16 (uniform + 1) < 0 by rw [toInt16]; omega) (by rw [toInt16]; omega)
      have within := inside address marked
      rw [cmpParameters, size] at within
      simp only at within
      omega
    · refine fun survives => ⟨fun address marked => ?_, nofun⟩
      have stored : toInt16 (uniform + 1) = (uniform + 1 : Int) % 65536 := by
        rw [toInt16]
        omega
      change markedAddress (toSizeT operation.dstOffset) (toSizeT (toInt16 (uniform + 1))) =
        some address at marked
      rw [stored] at marked
      show operation.dstOffset ≤ address ∧
        (address : Int) < operation.dstOffset + operation.sizeBytes
      by_cases zero : (uniform + 1 : Int) % 65536 = 0
      · rw [zero] at marked
        cases marked
      · rw [markedAddress_of_pos isDst (by omega) (by omega), Option.some.injEq] at marked
        rw [size]
        omega

/-! ### Whole runs -/

/-- The parameters of a plan with the positions drawn for its operations. -/
def planParameters (plan : List (Operation × MismatchDraw)) : List CmpParameters :=
  plan.map fun entry => cmpParameters entry.1 entry.2.position

/-- Every mark is inside its range, and in every pass over the parameters every iteration starts
from a buffer of `0xFF`. -/
structure CleanComparisons (cmp : Memory → Nat → Nat → Nat → Int) (bufferSize : Nat)
    (plan : List (Operation × MismatchDraw)) : Prop where
  marked : ∀ entry ∈ plan,
    MarkedInside (cmpParameters entry.1 entry.2.position) entry.2.isIdentical
  starts : ∀ memory, AllSet bufferSize memory → ∀ passes iterations,
    AllSet bufferSize (cmpFunction cmp ((planParameters plan).take iterations)
      ((cmpFunction cmp (planParameters plan))^[passes] memory))

theorem allSet_passes (cmp : Memory → Nat → Nat → Nat → Int) (parameters : List CmpParameters)
    {bufferSize : Nat} {memory : Memory} (allSet : AllSet bufferSize memory) (passes : Nat) :
    AllSet bufferSize ((cmpFunction cmp parameters)^[passes] memory) := by
  induction passes generalizing memory with
  | zero => exact allSet
  | succ passes inductionHypothesis =>
    exact inductionHypothesis (allSet_cmpFunction cmp parameters allSet)

/-- What is known of an operation and of the position drawn for it, from what it was planned for. -/
theorem exists_of_mem_zip {memoryCall : MemoryCall} {bufferSize : Nat} {draws : List Draws}
    {operations : List Operation} {mismatches : List MismatchDraw}
    (planned : List.Forall₂ (Planned memoryCall bufferSize) draws operations)
    (sampled : List.Forall₂ (fun draw mismatch => mismatch.uniform < draw.curSize) draws
      mismatches) :
    ∀ entry ∈ operations.zip mismatches, ∃ draw : Draws,
      Planned memoryCall bufferSize draw entry.1 ∧ entry.2.uniform < draw.curSize := by
  induction planned generalizing mismatches with
  | nil =>
    intro entry member
    cases member
  | cons isPlanned _ inductionHypothesis =>
    cases sampled with
    | cons isSampled others =>
      intro entry member
      rcases List.mem_cons.mp member with rfl | inRest
      · exact ⟨_, isPlanned, isSampled⟩
      · exact inductionHypothesis others entry inRest

theorem planned_of_planMemory {memoryCall : MemoryCall} {bufferSize distributionMaxSize : Nat}
    (admitted : BufferSize bufferSize) (distribution : distributionMaxSize ≤ memDistributionMax)
    {draws : List Draws}
    (admissible : ∀ draw ∈ draws, Admissible memoryCall distributionMaxSize bufferSize draw)
    {srcShuffle dstShuffle : Shuffle} {operations : List Operation} {lru : Lru}
    (plan : planMemory memoryCall bufferSize srcShuffle dstShuffle draws = .ok (operations, lru)) :
    List.Forall₂ (Planned memoryCall bufferSize) draws operations := by
  rw [planMemory_eq admitted] at plan
  have complete : Lru.Complete bufferSize ⟨srcShuffle.order (allBlocks bufferSize),
      dstShuffle.order (allBlocks bufferSize)⟩ := ⟨srcShuffle.perm _, dstShuffle.perm _⟩
  rcases planOperations_planned distribution admitted admissible complete with
    retries | ⟨_, _, found, _, planned⟩
  · cases plan.symm.trans retries.stopped
  · cases plan.symm.trans found
    exact planned

theorem exists_of_isOk {Value : Type} {result : Except Stop Value} (isOk : result.isOk = true) :
    ∃ value, result = .ok value := by
  cases result with
  | ok value => exact ⟨value, rfl⟩
  | error _ => cases isOk

/-- One comparison of 40000 bytes in a buffer of 128 kB. -/
def longComparison : List Draws := [⟨40000, 0, 0, 0, 0, true, 0, .identity, .identity, []⟩]

end Fleetbench.Libc
