/-
This file models `AdjustableSampler` of `tcmalloc/empirical.h`: a discrete
distribution kept as a complete binary tree whose leaves are the weights and
whose inner nodes are the sums of their children. The weights are of an
arbitrary type with an addition, for the sampling also with a subtraction and
an order. The draw of `operator()` is the argument of `sampleWeight`.
-/

import Mathlib.Algebra.Notation.Defs
import Mathlib.Order.Notation

namespace Fleetbench.Tcmalloc

variable {Weight : Type}

/-- `n_` leaves and the `2 * n_ - 1` nodes of `tree_`, the leaves last. -/
structure AdjustableSampler (Weight : Type) where
  n : Nat
  tree : List Weight
  deriving DecidableEq, Repr

/-- The doubling loop of `NextPowerOfTwo`; it ends after at most `x` doublings. -/
def nextPowerOfTwoFrom (x : Nat) : Nat → Nat → Nat
  | 0, n => n
  | fuel + 1, n => if n < x then nextPowerOfTwoFrom x fuel (n * 2) else n

def nextPowerOfTwo (x : Nat) : Nat := nextPowerOfTwoFrom x x 1

namespace AdjustableSampler

variable [Zero Weight] [Add Weight]

/-- The sampler over `n` weights that are all zero. An empty one fails its `CHECK`. -/
def ofSize (n : Nat) : Option (AdjustableSampler Weight) :=
  if 1 ≤ n then
    some ⟨nextPowerOfTwo n, List.replicate (2 * nextPowerOfTwo n - 1) 0⟩
  else none

/-- The pass of the second constructor over the inner nodes, from node `i - 1` down to the root. -/
def sumUp : Nat → List Weight → List Weight
  | 0, tree => tree
  | i + 1, tree => sumUp i (tree.set i (tree.getD (2 * i + 1) 0 + tree.getD (2 * i + 2) 0))

/-- The sampler over a vector of weights. An empty one fails its `CHECK`. -/
def ofWeights (weights : List Weight) : Option (AdjustableSampler Weight) :=
  if weights ≠ [] then
    let n := nextPowerOfTwo weights.length
    let tree := List.replicate (n - 1) 0 ++ weights ++ List.replicate (n - weights.length) 0
    some ⟨n, sumUp (n - 1) tree⟩
  else none

def weight (sampler : AdjustableSampler Weight) (i : Nat) : Weight :=
  sampler.tree.getD (i + sampler.n - 1) 0

def totalWeight (sampler : AdjustableSampler Weight) : Weight :=
  sampler.tree.getD 0 0

/-- The loop of `SetWeight` that recomputes the sums on the path from `i` to the root. The
index at least halves, so `i` itself bounds the number of rounds. -/
def resum : Nat → Nat → List Weight → List Weight
  | 0, _, tree => tree
  | fuel + 1, i, tree =>
    if i ≠ 0 then
      let parent := (i - 1) / 2
      resum fuel parent
        (tree.set parent (tree.getD (2 * parent + 1) 0 + tree.getD (2 * parent + 2) 0))
    else tree

def setWeight (sampler : AdjustableSampler Weight) (i : Nat) (x : Weight) :
    AdjustableSampler Weight :=
  let leaf := i + (sampler.n - 1)
  { sampler with tree := resum leaf leaf (sampler.tree.set leaf x) }

def adjustWeight (sampler : AdjustableSampler Weight) (i : Nat) (delta : Weight) :
    AdjustableSampler Weight :=
  sampler.setWeight i (sampler.weight i + delta)

/-- `operator==`. -/
def equal [DecidableEq Weight] (sampler other : AdjustableSampler Weight) : Bool :=
  sampler.n == other.n && sampler.tree == other.tree

/-- The loop of `SampleWeight`. The index grows in each round, so `n_` bounds their number. -/
def sampleFrom [Sub Weight] [LE Weight] [DecidableLE Weight] (n : Nat) (tree : List Weight) :
    Nat → Nat → Weight → Nat
  | 0, i, _ => i
  | fuel + 1, i, x =>
    if i < n - 1 then
      let left := tree.getD (2 * i + 1) 0
      if x ≤ left then sampleFrom n tree fuel (2 * i + 1) x
      else sampleFrom n tree fuel (2 * i + 2) (x - left)
    else i

def sampleWeight [Sub Weight] [LE Weight] [DecidableLE Weight]
    (sampler : AdjustableSampler Weight) (x : Weight) : Nat :=
  sampleFrom sampler.n sampler.tree sampler.n 0 x - (sampler.n - 1)

end AdjustableSampler

end Fleetbench.Tcmalloc
