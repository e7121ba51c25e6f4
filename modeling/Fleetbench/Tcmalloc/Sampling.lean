/-
This file proves `AdjustableSampler` correct in exact arithmetic. Both
constructors and every change of a weight leave a tree of sums over the current
weights, padded with zeros to a power of two, and the tree depends on nothing
else. The walk of `SampleWeight` down that tree inverts the cumulative
distribution.
-/

import Fleetbench.Library.SumTree
import Fleetbench.Tcmalloc.AdjustableSampler
import Mathlib.Algebra.BigOperators.Group.List.Basic
import Mathlib.Data.List.GetD
import Mathlib.Algebra.Order.BigOperators.Group.List
import Mathlib.Algebra.Order.Group.Int

namespace Fleetbench.Tcmalloc

open Library

variable {Weight : Type}

/-! ### Powers of two -/

theorem nextPowerOfTwoFrom_eq_pow (x fuel : Nat) {n height : Nat} (power : n = 2 ^ height) :
    ∃ height', nextPowerOfTwoFrom x fuel n = 2 ^ height' := by
  induction fuel generalizing n height with
  | zero => exact ⟨height, power⟩
  | succ fuel inductionHypothesis =>
    rw [nextPowerOfTwoFrom]
    split
    · exact inductionHypothesis (by rw [power, Nat.pow_succ] : n * 2 = 2 ^ (height + 1))
    · exact ⟨height, power⟩

theorem nextPowerOfTwo_eq_pow (x : Nat) : ∃ height, nextPowerOfTwo x = 2 ^ height :=
  nextPowerOfTwoFrom_eq_pow x x (Nat.pow_zero 2).symm

theorem le_nextPowerOfTwoFrom {x fuel n : Nat} (positive : 0 < n) (enough : x ≤ n + fuel) :
    x ≤ nextPowerOfTwoFrom x fuel n := by
  induction fuel generalizing n with
  | zero => exact enough
  | succ fuel inductionHypothesis =>
    rw [nextPowerOfTwoFrom]
    split
    · exact inductionHypothesis (by omega) (by omega)
    · rename_i large
      exact Nat.le_of_not_lt large

theorem le_nextPowerOfTwo (x : Nat) : x ≤ nextPowerOfTwo x :=
  le_nextPowerOfTwoFrom Nat.one_pos (Nat.le_add_left x 1)

theorem nextPowerOfTwo_pos (x : Nat) : 0 < nextPowerOfTwo x := by
  obtain ⟨height, power⟩ := nextPowerOfTwo_eq_pow x
  rw [power]
  exact Nat.two_pow_pos height

namespace AdjustableSampler

/-! ### The two ways of summing up -/

section Sums

variable [AddCommMonoid Weight]

/-- The nodes of `tree_`. -/
def nodes (tree : List Weight) (k : Nat) : Weight :=
  tree.getD k 0

theorem nodes_set {tree : List Weight} {i : Nat} (inside : i < tree.length) (value : Weight) :
    nodes (tree.set i value) = Function.update (nodes tree) i value := by
  funext k
  unfold nodes
  rw [List.getD_eq_getElem?_getD, List.getElem?_set]
  by_cases same : i = k
  · subst same
    rw [if_pos rfl, if_pos inside, Function.update_self]
    rfl
  · rw [if_neg same, Function.update_of_ne (Ne.symm same), List.getD_eq_getElem?_getD]

/-- `after` is a tree of sums over the leaves of `before`. -/
structure Summed (inner : Nat) (before after : List Weight) : Prop where
  length : after.length = before.length
  sums : SumTree inner (nodes after)
  leaves : ∀ k, inner ≤ k → nodes after k = nodes before k

theorem Summed.set {inner i : Nat} {before after : List Weight} {value : Weight}
    (inside : i < before.length) (isInner : i < inner)
    (summed : Summed inner (before.set i value) after) : Summed inner before after where
  length := summed.length.trans List.length_set
  sums := summed.sums
  leaves k isLeaf := by
    rw [summed.leaves k isLeaf, nodes_set inside, Function.update_of_ne]
    omega

/-- `SetWeight` repairs the sums on the way to the root. -/
theorem summed_resum {inner fuel i : Nat} {tree : List Weight} (enough : i ≤ fuel)
    (inside : i ≤ 2 * inner) (length : tree.length = 2 * inner + 1)
    (apart : SumTreeApartFrom i inner (nodes tree)) : Summed inner tree (resum fuel i tree) := by
  induction fuel generalizing i tree with
  | zero =>
    rw [Nat.le_zero.mp enough] at apart
    exact ⟨rfl, apart.sumTree, fun _ _ => rfl⟩
  | succ fuel inductionHypothesis =>
    rw [resum]
    by_cases below : i ≠ 0
    · rw [if_pos below]
      dsimp only
      have isInner : (i - 1) / 2 < inner := by omega
      have inTree : (i - 1) / 2 < tree.length := by omega
      refine (inductionHypothesis (by omega) (by omega) ?_ ?_).set inTree isInner
      · rw [List.length_set, length]
      · rw [nodes_set inTree]
        exact apart.parent below rfl
    · rw [if_neg below]
      rw [Decidable.not_not.mp below] at apart
      exact ⟨rfl, apart.sumTree, fun _ _ => rfl⟩

/-- The second constructor sums up from the leaves. -/
theorem summed_sumUp {inner i : Nat} {tree : List Weight} (inside : i ≤ inner)
    (length : tree.length = 2 * inner + 1)
    (behind : ∀ k < inner, i ≤ k →
      nodes tree k = nodes tree (2 * k + 1) + nodes tree (2 * k + 2)) :
    Summed inner tree (sumUp i tree) := by
  induction i generalizing tree with
  | zero => exact ⟨rfl, fun k small => behind k small (Nat.zero_le k), fun _ _ => rfl⟩
  | succ i inductionHypothesis =>
    have inTree : i < tree.length := by omega
    refine (inductionHypothesis (by omega) ?_ ?_).set inTree inside
    · rw [List.length_set, length]
    · intro k small later
      rw [nodes_set inTree]
      have left : 2 * k + 1 ≠ i := by omega
      have right : 2 * k + 2 ≠ i := by omega
      rw [Function.update_of_ne left, Function.update_of_ne right]
      by_cases same : k = i
      · subst same
        rw [Function.update_self]
        rfl
      · rw [Function.update_of_ne same]
        exact behind k small (by omega)

end Sums

/-! ### Constructions and updates -/

/-- One of the two constructors with its argument. -/
inductive Construction (Weight : Type) where
  | ofSize (n : Nat)
  | ofWeights (weights : List Weight)

inductive Update (Weight : Type) where
  | set (i : Nat) (x : Weight)
  | adjust (i : Nat) (delta : Weight)

def Update.index : Update Weight → Nat
  | .set i _ => i
  | .adjust i _ => i

section Calls

variable [Zero Weight] [Add Weight]

def Construction.build : Construction Weight → Option (AdjustableSampler Weight)
  | .ofSize n => AdjustableSampler.ofSize n
  | .ofWeights weights => AdjustableSampler.ofWeights weights

/-- The weights that a constructor begins with. -/
def Construction.weights : Construction Weight → List Weight
  | .ofSize n => List.replicate n 0
  | .ofWeights weights => weights

def update (sampler : AdjustableSampler Weight) : Update Weight → AdjustableSampler Weight
  | .set i x => sampler.setWeight i x
  | .adjust i delta => sampler.adjustWeight i delta

/-- What an update does to a list of weights. -/
def Update.onWeights (weights : List Weight) : Update Weight → List Weight
  | .set i x => weights.set i x
  | .adjust i delta => weights.set i (weights.getD i 0 + delta)

def Construction.run (construction : Construction Weight) (updates : List (Update Weight)) :
    Option (AdjustableSampler Weight) :=
  construction.build.map fun sampler => updates.foldl update sampler

/-- The weights behind some updates. -/
def Construction.weightsAfter (construction : Construction Weight)
    (updates : List (Update Weight)) : List Weight :=
  updates.foldl Update.onWeights construction.weights

end Calls

/-! ### The tree over some weights -/

/-- The sampler holds these weights and is otherwise padded with zeros. -/
structure Holds [AddCommMonoid Weight] (sampler : AdjustableSampler Weight)
    (weights : List Weight) : Prop where
  size : sampler.n = nextPowerOfTwo weights.length
  length : sampler.tree.length = 2 * (sampler.n - 1) + 1
  sums : SumTree (sampler.n - 1) (nodes sampler.tree)
  leaves : ∀ i, nodes sampler.tree ((sampler.n - 1) + i) = weights.getD i 0

section Holds

variable [AddCommMonoid Weight] {sampler : AdjustableSampler Weight} {weights : List Weight}

theorem Holds.inhabited (holds : sampler.Holds weights) : 0 < sampler.n := by
  rw [holds.size]
  exact nextPowerOfTwo_pos _

theorem Holds.weight (holds : sampler.Holds weights) (i : Nat) :
    sampler.weight i = weights.getD i 0 := by
  rw [← holds.leaves]
  unfold AdjustableSampler.weight nodes
  congr 1
  have := holds.inhabited
  omega

theorem holds_ofSize {n : Nat} (positive : 1 ≤ n) :
    ∃ sampler : AdjustableSampler Weight, ofSize n = some sampler ∧
      sampler.Holds (List.replicate n 0) := by
  have positive' := nextPowerOfTwo_pos n
  have blank (size k : Nat) : (List.replicate size (0 : Weight)).getD k 0 = 0 := by
    rw [List.getD_eq_getElem?_getD, List.getElem?_replicate]
    split <;> rfl
  refine ⟨_, if_pos positive, ?_, ?_, fun k _ => ?_, fun i => ?_⟩
  · rw [List.length_replicate]
  · rw [List.length_replicate]
    dsimp only
    omega
  · unfold nodes
    rw [blank, blank, blank, add_zero]
  · unfold nodes
    rw [blank, blank]

theorem holds_ofWeights (inhabited : weights ≠ []) :
    ∃ sampler, ofWeights weights = some sampler ∧ sampler.Holds weights := by
  have positive := nextPowerOfTwo_pos weights.length
  have fits := le_nextPowerOfTwo weights.length
  generalize placed : List.replicate (nextPowerOfTwo weights.length - 1) 0 ++ weights ++
    List.replicate (nextPowerOfTwo weights.length - weights.length) 0 = tree
  have length : tree.length = 2 * (nextPowerOfTwo weights.length - 1) + 1 := by
    rw [← placed, List.length_append, List.length_append, List.length_replicate,
      List.length_replicate]
    omega
  have summed := summed_sumUp le_rfl length fun k small large => absurd small (by omega)
  refine ⟨⟨nextPowerOfTwo weights.length, sumUp (nextPowerOfTwo weights.length - 1) tree⟩, ?_,
    rfl, ?_, summed.sums, fun i => ?_⟩
  · rw [ofWeights, if_pos inhabited]
    dsimp only
    rw [placed]
  · exact summed.length.trans length
  · refine (summed.leaves _ (Nat.le_add_right _ _)).trans ?_
    unfold nodes
    rw [← placed, List.append_assoc, List.getD_append_right _ _ _ _ (by
      rw [List.length_replicate]
      exact Nat.le_add_right _ _), List.length_replicate, Nat.add_sub_cancel_left,
      List.getD_eq_getElem?_getD, List.getElem?_append, List.getElem?_replicate,
      List.getD_eq_getElem?_getD]
    split
    · rfl
    · rename_i large
      rw [List.getElem?_eq_none (Nat.le_of_not_lt large)]
      split <;> rfl

theorem Holds.setWeight (holds : sampler.Holds weights) {i : Nat} (inside : i < weights.length)
    (x : Weight) : (sampler.setWeight i x).Holds (weights.set i x) := by
  have fits := le_nextPowerOfTwo weights.length
  rw [← holds.size] at fits
  have inTree : i + (sampler.n - 1) < sampler.tree.length := by
    rw [holds.length]
    omega
  have summed : Summed (sampler.n - 1) (sampler.tree.set (i + (sampler.n - 1)) x)
      (sampler.setWeight i x).tree := by
    refine summed_resum le_rfl (by omega) (List.length_set.trans holds.length) ?_
    rw [nodes_set inTree]
    exact holds.sums.apartFrom (Nat.le_add_left _ _) x
  refine ⟨?_, ?_, summed.sums, fun j => ?_⟩
  · rw [List.length_set]
    exact holds.size
  · exact summed.length.trans (List.length_set.trans holds.length)
  · refine (summed.leaves _ (Nat.le_add_right _ _)).trans ?_
    rw [nodes_set inTree, List.getD_eq_getElem?_getD, List.getElem?_set]
    by_cases same : i = j
    · subst same
      rw [Nat.add_comm, Function.update_self, if_pos rfl, if_pos inside]
      rfl
    · rw [Function.update_of_ne (by omega), if_neg same]
      exact (holds.leaves j).trans (List.getD_eq_getElem?_getD)

theorem Holds.update (holds : sampler.Holds weights) {update : Update Weight}
    (inside : update.index < weights.length) :
    (sampler.update update).Holds (update.onWeights weights) := by
  cases update with
  | set i x => exact holds.setWeight inside x
  | adjust i delta =>
    show (sampler.setWeight i (sampler.weight i + delta)).Holds
      (weights.set i (weights.getD i 0 + delta))
    rw [holds.weight]
    exact holds.setWeight inside _

theorem length_onWeights (weights : List Weight) (update : Update Weight) :
    (update.onWeights weights).length = weights.length := by
  cases update with
  | set i x => exact List.length_set
  | adjust i delta => exact List.length_set

theorem Holds.updates {updates : List (Update Weight)} (holds : sampler.Holds weights)
    (inside : ∀ update ∈ updates, update.index < weights.length) :
    (updates.foldl AdjustableSampler.update sampler).Holds
      (updates.foldl Update.onWeights weights) := by
  induction updates generalizing sampler weights with
  | nil => exact holds
  | cons first rest inductionHypothesis =>
    refine inductionHypothesis (holds.update (inside first List.mem_cons_self)) ?_
    intro update member
    rw [length_onWeights]
    exact inside update (List.mem_cons_of_mem _ member)

theorem holds_build {construction : Construction Weight}
    (inhabited : 1 ≤ construction.weights.length) :
    ∃ sampler, construction.build = some sampler ∧ sampler.Holds construction.weights := by
  cases construction with
  | ofSize n =>
    refine holds_ofSize ?_
    exact inhabited.trans_eq List.length_replicate
  | ofWeights weights => exact holds_ofWeights (List.ne_nil_of_length_pos inhabited)

/-- Every construction and every sequence of updates leave the tree over the resulting weights. -/
theorem holds_run {construction : Construction Weight} {updates : List (Update Weight)}
    (inhabited : 1 ≤ construction.weights.length)
    (inside : ∀ update ∈ updates, update.index < construction.weights.length) :
    ∃ sampler, construction.run updates = some sampler ∧
      sampler.Holds (construction.weightsAfter updates) := by
  obtain ⟨start, built, holds⟩ := holds_build inhabited
  refine ⟨_, ?_, holds.updates inside⟩
  rw [Construction.run, built]
  rfl

/-- The sum of the leaves in front of one is that of the weights in front of it. -/
theorem Holds.leavesBefore (holds : sampler.Holds weights) (i : Nat) :
    leavesBefore sampler.n (nodes sampler.tree) i = (weights.take i).sum := by
  induction i with
  | zero => rfl
  | succ i inductionHypothesis =>
    rw [leavesBefore_succ, inductionHypothesis, holds.leaves, List.take_add_one, List.sum_append,
      List.getD_eq_getElem?_getD]
    congr 1
    cases weights[i]? with
    | none => rfl
    | some weight => exact (List.sum_singleton).symm

theorem Holds.totalWeight (holds : sampler.Holds weights) :
    sampler.totalWeight = weights.sum := by
  obtain ⟨height, power⟩ := nextPowerOfTwo_eq_pow weights.length
  rw [← holds.size] at power
  have root : Spans sampler.n height 0 0 := power ▸ spans_root height
  have all := holds.sums.leavesBefore_spans holds.inhabited root
  rw [holds.leavesBefore, holds.leavesBefore, Nat.zero_add, ← power, List.take_zero, List.sum_nil,
    zero_add, List.take_of_length_le (holds.size ▸ le_nextPowerOfTwo _)] at all
  exact all.symm

theorem Holds.unique {other : AdjustableSampler Weight} (holds : sampler.Holds weights)
    (holds' : other.Holds weights) : sampler = other := by
  have size : sampler.n = other.n := holds.size.trans holds'.size.symm
  have length : sampler.tree.length = other.tree.length := by
    rw [holds.length, holds'.length, size]
  have same {k : Nat} (inside : k ≤ 2 * (sampler.n - 1)) :
      nodes sampler.tree k = nodes other.tree k := by
    refine holds.sums.unique (size ▸ holds'.sums) (fun leaf first _ => ?_) inside
    obtain ⟨i, rfl⟩ := Nat.exists_eq_add_of_le first
    rw [holds.leaves, size, holds'.leaves]
  obtain ⟨n, tree⟩ := sampler
  obtain ⟨n', tree'⟩ := other
  have trees : tree = tree' := by
    refine List.ext_getElem length fun k inside inside' => ?_
    have both := same (k := k) (Nat.le_of_lt_succ (inside.trans_eq holds.length))
    unfold nodes at both
    rwa [List.getD_eq_getElem _ _ inside, List.getD_eq_getElem _ _ inside'] at both
  exact congrArg₂ AdjustableSampler.mk size trees

theorem length_weightsAfter (construction : Construction Weight) (updates : List (Update Weight)) :
    (construction.weightsAfter updates).length = construction.weights.length := by
  unfold Construction.weightsAfter
  generalize construction.weights = weights
  induction updates generalizing weights with
  | nil => rfl
  | cons first rest inductionHypothesis =>
    exact (inductionHypothesis _).trans (length_onWeights weights first)

end Holds

open Classical in
/-- Behind any updates every node is the sum of the leaves beneath it, the weights are those last
set, and the sampler equals one that is built from them. -/
theorem run_consistent [AddCommMonoid Weight] [DecidableEq Weight]
    (construction : Construction Weight) (updates : List (Update Weight))
    (inhabited : 1 ≤ construction.weights.length)
    (inside : ∀ update ∈ updates, update.index < construction.weights.length) :
    ∃ sampler, construction.run updates = some sampler ∧
      (∀ k ≤ 2 * (sampler.n - 1), sampler.tree.getD k 0 =
        ∑ leaf ∈ (Finset.Icc (sampler.n - 1) (2 * (sampler.n - 1))).filter (Beneath k),
          sampler.tree.getD leaf 0) ∧
      sampler.totalWeight = (construction.weightsAfter updates).sum ∧
      (∀ i, sampler.weight i = (construction.weightsAfter updates).getD i 0) ∧
      ∃ again, ofWeights (construction.weightsAfter updates) = some again ∧
        sampler.equal again = true := by
  obtain ⟨sampler, ran, holds⟩ := holds_run inhabited inside
  have inhabited' : construction.weightsAfter updates ≠ [] := by
    refine List.ne_nil_of_length_pos ?_
    rw [length_weightsAfter]
    exact inhabited
  obtain ⟨again, built, holds'⟩ := holds_ofWeights inhabited'
  refine ⟨sampler, ran, fun k small => ?_, holds.totalWeight, holds.weight, again, built, ?_⟩
  · exact holds.sums.eq_sum small
  · rw [holds.unique holds', equal, beq_self_eq_true, beq_self_eq_true]
    rfl

theorem run_consistent_threeWeights :
    ∃ sampler, (Construction.ofWeights [1, 2, 3]).run [.set 1 5, .adjust 2 4] = some sampler ∧
      sampler.totalWeight = 13 := by
  obtain ⟨sampler, ran, -, total, -⟩ :=
    run_consistent (Construction.ofWeights [1, 2, 3]) [.set 1 5, .adjust 2 4] (by decide)
      (by decide)
  exact ⟨sampler, ran, total⟩

/-! ### Sampling -/

theorem sampleFrom_eq [AddCommGroup Weight] [LE Weight] [DecidableLE Weight] (n : Nat)
    (tree : List Weight) (fuel i : Nat) (x : Weight) :
    sampleFrom n tree fuel i x = walkDown (n - 1) (nodes tree) fuel i x := by
  induction fuel generalizing i x with
  | zero => rfl
  | succ fuel inductionHypothesis =>
    rw [sampleFrom, walkDown]
    simp only [inductionHypothesis]
    rfl

section Ordered

variable [AddCommGroup Weight] [LinearOrder Weight]

/-- The value lies in the interval of class `i` in the cumulative distribution. -/
def Covers (weights : List Weight) (i : Nat) (x : Weight) : Prop :=
  (weights.take i).sum < x ∧ x ≤ (weights.take (i + 1)).sum

variable [IsOrderedAddMonoid Weight] {weights : List Weight}

theorem sum_take_mono (nonnegative : ∀ weight ∈ weights, 0 ≤ weight) {i j : Nat} (le : i ≤ j) :
    (weights.take i).sum ≤ (weights.take j).sum := by
  induction j, le using Nat.le_induction with
  | base => exact le_rfl
  | succ j _ inductionHypothesis =>
    rw [List.take_add_one, List.sum_append]
    refine inductionHypothesis.trans (le_add_of_nonneg_right (List.sum_nonneg fun weight at_ => ?_))
    exact nonnegative weight (List.mem_of_getElem? (Option.mem_toList.mp at_))

/-- The intervals do not overlap. -/
theorem Covers.unique (nonnegative : ∀ weight ∈ weights, 0 ≤ weight) {i j : Nat} {x : Weight}
    (covers : Covers weights i x) (covers' : Covers weights j x) : i = j := by
  rcases Nat.lt_trichotomy i j with less | same | more
  · exact absurd ((sum_take_mono nonnegative less).trans_lt covers'.1) (not_lt_of_ge covers.2)
  · exact same
  · exact absurd ((sum_take_mono nonnegative more).trans_lt covers.1) (not_lt_of_ge covers'.2)

/-- The walk ends at a class of positive weight whose interval has the value. -/
theorem Holds.sampleWeight {sampler : AdjustableSampler Weight} (holds : sampler.Holds weights)
    {x : Weight} (positive : 0 < x) (bounded : x ≤ sampler.totalWeight) :
    sampler.sampleWeight x < weights.length ∧
      0 < weights.getD (sampler.sampleWeight x) 0 ∧ Covers weights (sampler.sampleWeight x) x := by
  obtain ⟨height, power⟩ := nextPowerOfTwo_eq_pow weights.length
  rw [← holds.size] at power
  have root : Spans sampler.n height 0 0 := power ▸ spans_root height
  have enough : height ≤ sampler.n := power ▸ (Nat.lt_two_pow_self).le
  obtain ⟨leaf, -, ended, found, low, high⟩ :=
    holds.sums.walkDown holds.inhabited root positive bounded enough
  have result : sampler.sampleWeight x = leaf := by
    rw [AdjustableSampler.sampleWeight, sampleFrom_eq, ended, Nat.add_sub_cancel_left]
  have start : Library.leavesBefore sampler.n (nodes sampler.tree) 0 + x = x := zero_add x
  rw [start, holds.leavesBefore] at low high
  rw [holds.leaves] at found
  rw [result]
  refine ⟨Nat.lt_of_not_le fun large => ?_, found, low, high⟩
  rw [List.getD_eq_default _ _ large] at found
  exact lt_irrefl _ found

/-- The value 0 takes the first class, whatever its weight. -/
theorem Holds.sampleWeight_zero {sampler : AdjustableSampler Weight}
    (holds : sampler.Holds weights) (nonnegative : ∀ weight ∈ weights, 0 ≤ weight) :
    sampler.sampleWeight 0 = 0 := by
  obtain ⟨height, power⟩ := nextPowerOfTwo_eq_pow weights.length
  rw [← holds.size] at power
  have root : Spans sampler.n height 0 0 := power ▸ spans_root height
  have enough : height ≤ sampler.n := power ▸ (Nat.lt_two_pow_self).le
  have leaves (leaf : Nat) : 0 ≤ nodes sampler.tree ((sampler.n - 1) + leaf) := by
    rw [holds.leaves, List.getD_eq_getElem?_getD]
    cases found : weights[leaf]? with
    | none => exact le_rfl
    | some weight => exact nonnegative weight (List.mem_of_getElem? found)
  rw [AdjustableSampler.sampleWeight, sampleFrom_eq,
    holds.sums.walkDown_zero holds.inhabited leaves root enough, Nat.sub_self]

end Ordered

/-- For every value above zero and up to the total weight the sample is a class of positive weight
whose interval in the cumulative distribution has the value, and the only one. -/
theorem sampleWeight_inverts [AddCommGroup Weight] [LinearOrder Weight] [IsOrderedAddMonoid Weight]
    (construction : Construction Weight) (updates : List (Update Weight))
    (inhabited : 1 ≤ construction.weights.length)
    (inside : ∀ update ∈ updates, update.index < construction.weights.length)
    (nonnegative : ∀ weight ∈ construction.weightsAfter updates, 0 ≤ weight) :
    ∃ sampler, construction.run updates = some sampler ∧
      ∀ x, 0 < x → x ≤ sampler.totalWeight →
        sampler.sampleWeight x < construction.weights.length ∧
          0 < (construction.weightsAfter updates).getD (sampler.sampleWeight x) 0 ∧
          ∀ i, sampler.sampleWeight x = i ↔ Covers (construction.weightsAfter updates) i x := by
  obtain ⟨sampler, ran, holds⟩ := holds_run inhabited inside
  refine ⟨sampler, ran, fun x positive bounded => ?_⟩
  obtain ⟨small, found, covers⟩ := holds.sampleWeight positive bounded
  rw [length_weightsAfter] at small
  refine ⟨small, found, fun i => ⟨?_, covers.unique nonnegative⟩⟩
  rintro rfl
  exact covers

/-- A class without weight is passed over, also at the boundary. -/
theorem sampleWeight_inverts_emptyClass :
    ∃ sampler, (Construction.ofWeights [(1 : ℤ), 2, 3]).run [.set 1 0] = some sampler ∧
      sampler.sampleWeight 1 = 0 ∧ sampler.sampleWeight 2 = 2 := by
  obtain ⟨sampler, ran, samples⟩ := sampleWeight_inverts (Construction.ofWeights [(1 : ℤ), 2, 3])
    [.set 1 0] (by decide) (by decide) (by decide)
  have total : ((Construction.ofWeights [(1 : ℤ), 2, 3]).run [.set 1 0]).map totalWeight =
      some 4 := by decide
  rw [ran] at total
  have total' : sampler.totalWeight = 4 := Option.some.inj total
  have first := (samples 1 (by decide) (by rw [total']; decide)).2.2 0
  have third := (samples 2 (by decide) (by rw [total']; decide)).2.2 2
  exact ⟨sampler, ran, first.mpr ⟨by decide, by decide⟩, third.mpr ⟨by decide, by decide⟩⟩

end AdjustableSampler

end Fleetbench.Tcmalloc
