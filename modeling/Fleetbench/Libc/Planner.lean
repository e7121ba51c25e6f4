/-
This file models the planning of memory operations in `libc/mem_benchmark.cc`:
`GetNextOffset`, `GetNextSrcDstOffsetWithOverlap` and the loop of `BM_Memory`
that calls them.

Offsets are `int32_t`: every sum is checked, and one that does not fit stops the
planner, as a failed `CHECK` does, and the use of the variable `block` when no
block was found. Random numbers and the outcomes of shuffles are inputs.
-/

import Mathlib.Tactic.Common
import Mathlib.Data.List.Perm.Basic

namespace Fleetbench.Libc

/-! ### Arithmetic -/

/-- Why the planner stops: undefined behaviour, a failed `CHECK`, or the outcomes that are given
are not enough to leave the retry loop. -/
inductive Stop where
  | overflow
  | uninitialised
  | check
  | retrying
  deriving DecidableEq, Repr

def int32Min : Int := -2147483648
def int32Max : Int := 2147483647

/-- A sum of two `int32_t`. -/
def add (first second : Int) : Except Stop Int :=
  if int32Min ≤ first + second ∧ first + second ≤ int32Max then .ok (first + second)
  else .error .overflow

/-- The negation of an `int32_t`. -/
def neg (value : Int) : Except Stop Int :=
  if int32Min ≤ -value ∧ -value ≤ int32Max then .ok (-value) else .error .overflow

def kCacheLineSize : Nat := 64

/-! ### Blocks -/

/-- The outcome of `std::shuffle`, for any list. -/
structure Shuffle where
  order : List Int → List Int
  perm : ∀ blocks, (order blocks).Perm blocks

def Shuffle.identity : Shuffle := ⟨id, fun _ => .refl _⟩

/-- The end of an operation in a block, and what the search compares with the buffer's size. -/
def operationEnd (block blockOffset sizeBytes : Int) : Except Stop Int := do
  add (← add block blockOffset) sizeBytes

/-- The search of `GetNextOffset` for the least recently used block that is suitable. -/
def findBlock (blockOffset sizeBytes bufferSize leftMargin rightMargin : Int) :
    List Int → Except Stop (Option Int)
  | [] => .ok none
  | curBlock :: rest =>
    if leftMargin ≤ curBlock then do
      let last ← add (← operationEnd curBlock blockOffset sizeBytes) rightMargin
      if last ≤ bufferSize then return some curBlock
      else findBlock blockOffset sizeBytes bufferSize leftMargin rightMargin rest
    else findBlock blockOffset sizeBytes bufferSize leftMargin rightMargin rest

/-- The blocks that an operation from `block` to `last` accesses move to the end of the list: the
common case of the first block, or `remove_if` and a shuffle. -/
def moveToBack (shuffle : Shuffle) (blocksLru : List Int) (block last : Int) : List Int :=
  if blocksLru.head? = some block then blocksLru.tail ++ [block]
  else
    blocksLru.filter (fun b => !(decide (block ≤ b ∧ b < last))) ++
      shuffle.order (blocksLru.filter fun b => decide (block ≤ b ∧ b < last))

/-- `GetNextOffset`, with the list it leaves behind. -/
def getNextOffset (shuffle : Shuffle) (blocksLru : List Int)
    (sizeBytes blockOffset bufferSize leftMargin rightMargin : Int) :
    Except Stop (Int × List Int) := do
  match ← findBlock blockOffset sizeBytes bufferSize leftMargin rightMargin blocksLru with
  | none => throw .uninitialised
  | some block =>
    let last ← operationEnd block blockOffset sizeBytes
    if last ≤ bufferSize then
      return (← add block blockOffset, moveToBack shuffle blocksLru block last)
    else throw .check

/-! ### Sources and destinations -/

def checkOverlap (srcOffset dstOffset sizeBytes : Int) : Except Stop Bool := do
  let srcEnd ← add srcOffset sizeBytes
  if dstOffset < srcEnd then
    let dstEnd ← add dstOffset sizeBytes
    return decide (srcOffset < dstEnd)
  else return false

/-- The two lists of blocks in least-recently-used order. -/
structure Lru where
  src : List Int
  dst : List Int

/-- The retry loop: a new destination until there is no overlap. One shuffle is used in each
round. -/
def retryDst (bufferSize curSize srcOffset dstBlockOffset : Int) :
    List Shuffle → List Int → Except Stop (Int × List Int)
  | [], _ => throw .retrying
  | shuffle :: shuffles, dstBlocksLru => do
    let (dstOffset, dstBlocksLru) ←
      getNextOffset shuffle dstBlocksLru curSize dstBlockOffset bufferSize 0 0
    if ← checkOverlap srcOffset dstOffset curSize then
      retryDst bufferSize curSize srcOffset dstBlockOffset shuffles dstBlocksLru
    else return (dstOffset, dstBlocksLru)

/-- `GetNextSrcDstOffsetWithOverlap`, with the outcome of its coin, the offset it samples between
`-curSize` and `curSize` if the coin says so, and the shuffles of its calls. -/
def getNextSrcDstOffsetWithOverlap (doesOverlap : Bool) (offset : Int) (srcShuffle : Shuffle)
    (dstShuffles : List Shuffle) (bufferSize curSize srcBlockOffset dstBlockOffset : Int)
    (lru : Lru) : Except Stop ((Int × Int) × Lru) := do
  if doesOverlap then
    let _ ← neg curSize
    let leftMargin ← neg (min offset 0)
    let (srcOffset, src) ← getNextOffset srcShuffle lru.src curSize srcBlockOffset bufferSize
      leftMargin (max offset 0)
    let dstOffset ← add srcOffset offset
    if 0 ≤ dstOffset then
      let dstEnd ← add dstOffset curSize
      if dstEnd ≤ bufferSize then return ((srcOffset, dstOffset), { lru with src })
      else throw .check
    else throw .check
  else
    let (srcOffset, src) ← getNextOffset srcShuffle lru.src curSize srcBlockOffset bufferSize 0 0
    let (dstOffset, dst) ← retryDst bufferSize curSize srcOffset dstBlockOffset dstShuffles lru.dst
    return ((srcOffset, dstOffset), { src, dst })

/-! ### Planning -/

inductive MemoryCall where
  | memcpyFunction
  | memmoveFunction
  | memcmpFunction
  | bcmpFunction
  | memsetFunction
  deriving DecidableEq, Repr

/-- Sources and destinations of these share one buffer. -/
def MemoryCall.mayOverlap : MemoryCall → Bool
  | .memmoveFunction => true
  | .memcmpFunction => true
  | .bcmpFunction => true
  | _ => false

/-- The limit of `BM_Memory` for the sizes of operations, in `size_t`. -/
def maxSize (memoryCall : MemoryCall) (distributionMaxSize bufferSize : Nat) : Nat :=
  if memoryCall.mayOverlap then min distributionMaxSize (bufferSize / 3 - kCacheLineSize)
  else min distributionMaxSize (bufferSize / 2)

/-- The offset in a block: a number below 63 with its last bits cleared. -/
def blockOffset (draw alignment : Nat) : Int := ((draw >>> alignment) <<< alignment : Nat)

/-- What is sampled for one operation. -/
structure Draws where
  curSize : Nat
  srcDraw : Nat
  srcAlignment : Nat
  dstDraw : Nat
  dstAlignment : Nat
  doesOverlap : Bool
  offset : Int
  srcShuffle : Shuffle
  dstShuffle : Shuffle
  dstRetries : List Shuffle

/-- The parameters of one operation. `memset` has no source. -/
structure Operation where
  sizeBytes : Int
  srcOffset : Option Int
  dstOffset : Int
  deriving DecidableEq, Repr

def planOperation (memoryCall : MemoryCall) (bufferSize : Nat) (lru : Lru) (draws : Draws) :
    Except Stop (Operation × Lru) := do
  let srcBlockOffset := blockOffset draws.srcDraw draws.srcAlignment
  let dstBlockOffset := blockOffset draws.dstDraw draws.dstAlignment
  match memoryCall with
  | .memcpyFunction =>
    let (srcOffset, src) ←
      getNextOffset draws.srcShuffle lru.src draws.curSize srcBlockOffset bufferSize 0 0
    let (dstOffset, dst) ←
      getNextOffset draws.dstShuffle lru.dst draws.curSize dstBlockOffset bufferSize 0 0
    return (⟨draws.curSize, some srcOffset, dstOffset⟩, { src, dst })
  | .memsetFunction =>
    let (dstOffset, dst) ←
      getNextOffset draws.dstShuffle lru.dst draws.curSize dstBlockOffset bufferSize 0 0
    return (⟨draws.curSize, none, dstOffset⟩, { lru with dst })
  | .memmoveFunction | .memcmpFunction | .bcmpFunction =>
    let ((srcOffset, dstOffset), lru) ← getNextSrcDstOffsetWithOverlap draws.doesOverlap
      draws.offset draws.srcShuffle (draws.dstShuffle :: draws.dstRetries) bufferSize draws.curSize
      srcBlockOffset dstBlockOffset lru
    return (⟨draws.curSize, some srcOffset, dstOffset⟩, lru)

def planOperations (memoryCall : MemoryCall) (bufferSize : Nat) :
    List Draws → Lru → Except Stop (List Operation × Lru)
  | [], lru => return ([], lru)
  | draws :: rest, lru => do
    let (operation, lru) ← planOperation memoryCall bufferSize lru draws
    let (operations, lru) ← planOperations memoryCall bufferSize rest lru
    return (operation :: operations, lru)

/-- The loop that collects the addresses of all blocks; each is followed by `i += kCacheLineSize`,
in `int32_t`. -/
def collectBlocks (bufferSize : Nat) : Except Stop (List Int) :=
  (List.range ((bufferSize + kCacheLineSize - 1) / kCacheLineSize)).mapM fun index => do
    let _ ← add (index * kCacheLineSize : Nat) kCacheLineSize
    return (index * kCacheLineSize : Nat)

/-- The planning part of `BM_Memory`. -/
def planMemory (memoryCall : MemoryCall) (bufferSize : Nat) (srcShuffle dstShuffle : Shuffle)
    (draws : List Draws) : Except Stop (List Operation × Lru) := do
  let allBlocks ← collectBlocks bufferSize
  planOperations memoryCall bufferSize draws
    ⟨srcShuffle.order allBlocks, dstShuffle.order allBlocks⟩

/-- `RegisterBenchmarks`: the largest size of a memory operation, and the `CHECK` of the size of
the L3 cache. -/
def memDistributionMax : Nat := 262144

def l3SizeChecked (l3Size : Nat) : Prop :=
  l3Size ≤ 2147483647 / 2 - memDistributionMax - kCacheLineSize - 1

end Fleetbench.Libc
