/-
This file models `SampleSizeBytes`: its pass over the distribution that fills
the samples by quantiles, and its pass over the samples that repairs their sum.

Percentages and their sums are exact rationals, and the sums of bytes exact
integers; a cast to `int32_t` wraps. A write outside the vector and a failed
`CHECK` leave no result, nor do loops that run out of fuel.
-/

import Fleetbench.Libc.Marking
import Fleetbench.Library.Loop
import Mathlib.Algebra.Order.Floor.Ring
import Mathlib.Data.Rat.Floor

namespace Fleetbench.Libc

open Library

/-- The conversion of a wider integer to `int32_t`. -/
def toInt32 (value : Int) : Int := (value + 2147483648) % 4294967296 - 2147483648

/-- The sizes with their percentages, in the order of the map. -/
abbrev MemorySizeDistribution := List (Int × ℚ)

/-! ### The pass over the distribution -/

/-- The vector of samples with the number of those that have been filled. -/
structure Filling where
  sizeBytes : List Int
  nParameters : Nat
  /-- The slots that were written, each with the size it was filled from. -/
  writes : List (Nat × Int)
  deriving Repr

/-- A round of the inner loop, which writes the next slot. -/
def fillRound (nSamples : Nat) (curPercentageSum percentageSum : ℚ) (maxSize : Nat) (size : Int)
    (filling : Filling) : Round Filling (Option Filling) :=
  if 999 / 1000 < nSamples * curPercentageSum / percentageSum - filling.nParameters then
    if filling.nParameters < filling.sizeBytes.length then
      .again {
        sizeBytes := filling.sizeBytes.set filling.nParameters (min size (toInt32 maxSize))
        nParameters := filling.nParameters + 1
        writes := filling.writes ++ [(filling.nParameters, size)] }
    else .stop none
  else .stop (some filling)

def fillSizes (fuel nSamples : Nat) (percentageSum : ℚ) (maxSize : Nat) :
    MemorySizeDistribution → ℚ → Filling → Option Filling
  | [], _, filling => some filling
  | (size, percentage) :: rest, curPercentageSum, filling => do
    let curPercentageSum := curPercentageSum + percentage
    let filling ←
      (← loop (fillRound nSamples curPercentageSum percentageSum maxSize size) fuel filling)
    fillSizes fuel nSamples percentageSum maxSize rest curPercentageSum filling

/-! ### The pass over the samples -/

def repairedBytes (maxSize : Nat) (expectedBytes actualBytes oldBytes : Int) : Int :=
  if expectedBytes < actualBytes then max 0 (toInt32 (oldBytes - (actualBytes - expectedBytes)))
  else min (toInt32 maxSize) (toInt32 (oldBytes + (expectedBytes - actualBytes)))

/-- The loop over the samples, the last of them first. -/
def repairSizes (maxSize : Nat) (expectedBytes : Int) : List Int → Int → List Int × Int
  | [], actualBytes => ([], actualBytes)
  | oldBytes :: rest, actualBytes =>
    if actualBytes = expectedBytes then (oldBytes :: rest, actualBytes)
    else
      let newBytes := repairedBytes maxSize expectedBytes actualBytes oldBytes
      let (others, final) :=
        repairSizes maxSize expectedBytes rest (actualBytes - oldBytes + newBytes)
      (newBytes :: others, final)

/-- The samples behind the repair, with the sum that was kept for them. -/
def repairSizeBytes (maxSize : Nat) (expectedBytes : Int) (sizeBytes : List Int) :
    List Int × Int :=
  let (reversed, actualBytes) := repairSizes maxSize expectedBytes sizeBytes.reverse sizeBytes.sum
  (reversed.reverse, actualBytes)

/-! ### The samples -/

/-- The conversion of a fraction to `int64_t`, which drops what is behind the point. -/
def toInt64 (value : ℚ) : Int := if 0 ≤ value then ⌊value⌋ else ⌈value⌉

/-- `n_samples * size` is a product in `size_t`. -/
def expectedBytesOf (nSamples : Nat) (distribution : MemorySizeDistribution) : Int :=
  toInt64 (distribution.map fun entry => (toSizeT (nSamples * entry.1) : ℚ) * entry.2).sum

def sampleSizeBytes (fuel : Nat) (shuffle : Shuffle) (distribution : MemorySizeDistribution)
    (maxSize nSamples : Nat) : Option (List Int) := do
  let percentageSum := (distribution.map Prod.snd).sum
  let filling ← fillSizes fuel nSamples percentageSum maxSize distribution 0
    ⟨List.replicate nSamples 0, 0, []⟩
  if filling.nParameters = filling.sizeBytes.length then
    let expectedBytes := expectedBytesOf nSamples distribution
    let (sizeBytes, actualBytes) := repairSizeBytes maxSize expectedBytes filling.sizeBytes
    if actualBytes = expectedBytes then return shuffle.order sizeBytes
    else none
  else none

end Fleetbench.Libc
