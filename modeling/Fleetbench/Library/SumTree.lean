/-
This file is about trees of sums in an array: the children of node `k` are the
nodes `2 * k + 1` and `2 * k + 2`, the first nodes are inner ones, and every
inner node holds the sum of its children. A node then holds the sum of the
leaves below it, and the leaves alone determine the tree.

If the leaves are a power of two in number, they stand below the nodes in their
order, and walking down from the root finds the leaf at which the sum of the
leaves so far reaches a value.
-/

import Mathlib.Algebra.BigOperators.Group.Finset.Basic
import Mathlib.Algebra.BigOperators.Intervals
import Mathlib.Algebra.Order.BigOperators.Group.Finset
import Mathlib.Order.Interval.Finset.Nat
import Mathlib.Tactic.Ring

namespace Fleetbench.Library

variable {Weight : Type*}

/-! ### Below a node -/

/-- The node is `root` or stands below it. -/
inductive Beneath (root : Nat) : Nat → Prop where
  | root : Beneath root root
  | left {node : Nat} (above : Beneath root node) : Beneath root (2 * node + 1)
  | right {node : Nat} (above : Beneath root node) : Beneath root (2 * node + 2)

theorem Beneath.le {root node : Nat} (beneath : Beneath root node) : root ≤ node := by
  induction beneath with
  | root => exact le_rfl
  | left _ inductionHypothesis => omega
  | right _ inductionHypothesis => omega

theorem Beneath.trans {root between node : Nat} (first : Beneath root between)
    (second : Beneath between node) : Beneath root node := by
  induction second with
  | root => exact first
  | left _ inductionHypothesis => exact inductionHypothesis.left
  | right _ inductionHypothesis => exact inductionHypothesis.right

/-- From below, a node is the root or its parent is beneath the root. -/
theorem beneath_iff_parent {root node : Nat} (inner : node ≠ 0) :
    Beneath root node ↔ node = root ∨ Beneath root ((node - 1) / 2) := by
  constructor
  · intro beneath
    cases beneath with
    | root => exact Or.inl rfl
    | @left parent above =>
      have same : (2 * parent + 1 - 1) / 2 = parent := by omega
      exact Or.inr (same.symm ▸ above)
    | @right parent above =>
      have same : (2 * parent + 2 - 1) / 2 = parent := by omega
      exact Or.inr (same.symm ▸ above)
  · rintro (rfl | above)
    · exact .root
    · rcases Nat.mod_two_eq_zero_or_one node with even | odd
      · have same : node = 2 * ((node - 1) / 2) + 2 := by omega
        exact same ▸ above.right
      · have same : node = 2 * ((node - 1) / 2) + 1 := by omega
        exact same ▸ above.left

/-- From above, a node is the root or stands beneath one of its children. -/
theorem beneath_iff_child {root node : Nat} :
    Beneath root node ↔
      node = root ∨ Beneath (2 * root + 1) node ∨ Beneath (2 * root + 2) node := by
  constructor
  · intro beneath
    induction beneath with
    | root => exact Or.inl rfl
    | left _ inductionHypothesis =>
      rcases inductionHypothesis with rfl | below | below
      · exact Or.inr (Or.inl .root)
      · exact Or.inr (Or.inl below.left)
      · exact Or.inr (Or.inr below.left)
    | right _ inductionHypothesis =>
      rcases inductionHypothesis with rfl | below | below
      · exact Or.inr (Or.inr .root)
      · exact Or.inr (Or.inl below.right)
      · exact Or.inr (Or.inr below.right)
  · rintro (rfl | below | below)
    · exact .root
    · exact (Beneath.left .root).trans below
    · exact (Beneath.right .root).trans below

/-- Counted from one, the root is a leading part of the node's binary digits. -/
theorem Beneath.div {root node : Nat} (beneath : Beneath root node) :
    ∃ depth, (node + 1) / 2 ^ depth = root + 1 := by
  induction beneath with
  | root => exact ⟨0, Nat.div_one _⟩
  | @left node _ inductionHypothesis =>
    obtain ⟨depth, same⟩ := inductionHypothesis
    refine ⟨depth + 1, ?_⟩
    have half : (2 * node + 1 + 1) / 2 = node + 1 := by omega
    rw [Nat.pow_succ', ← Nat.div_div_eq_div_mul, half, same]
  | @right node _ inductionHypothesis =>
    obtain ⟨depth, same⟩ := inductionHypothesis
    refine ⟨depth + 1, ?_⟩
    have half : (2 * node + 2 + 1) / 2 = node + 1 := by omega
    rw [Nat.pow_succ', ← Nat.div_div_eq_div_mul, half, same]

/-- No node stands beneath both children. -/
theorem not_beneath_both {root node : Nat} (left : Beneath (2 * root + 1) node) :
    ¬ Beneath (2 * root + 2) node := by
  intro right
  obtain ⟨leftDepth, leftDigits⟩ := left.div
  obtain ⟨rightDepth, rightDigits⟩ := right.div
  rcases Nat.lt_trichotomy leftDepth rightDepth with less | same | more
  · have deeper : 2 ^ rightDepth = 2 ^ leftDepth * 2 ^ (rightDepth - leftDepth) := by
      rw [← Nat.pow_add, Nat.add_sub_cancel' less.le]
    rw [deeper, ← Nat.div_div_eq_div_mul, leftDigits] at rightDigits
    have smaller := Nat.div_le_self (2 * root + 1 + 1) (2 ^ (rightDepth - leftDepth))
    omega
  · subst same
    omega
  · have deeper : 2 ^ leftDepth = 2 ^ rightDepth * (2 * 2 ^ (leftDepth - rightDepth - 1)) := by
      rw [← Nat.pow_succ', ← Nat.pow_add]
      congr 1
      omega
    rw [deeper, ← Nat.div_div_eq_div_mul, rightDigits, ← Nat.div_div_eq_div_mul] at leftDigits
    have half : (2 * root + 2 + 1) / 2 = root + 1 := by omega
    rw [half] at leftDigits
    have smaller := Nat.div_le_self (root + 1) (2 ^ (leftDepth - rightDepth - 1))
    omega

/-! ### Sums -/

/-- The first `inner` nodes hold the sums of their children. -/
def SumTree [Add Weight] (inner : Nat) (node : Nat → Weight) : Prop :=
  ∀ k < inner, node k = node (2 * k + 1) + node (2 * k + 2)

section Monoid

variable [AddCommMonoid Weight] {inner : Nat} {node : Nat → Weight}

open Classical in
/-- A node holds the sum of the leaves beneath it. -/
theorem SumTree.eq_sum (tree : SumTree inner node) {k : Nat} (inside : k ≤ 2 * inner) :
    node k = ∑ leaf ∈ (Finset.Icc inner (2 * inner)).filter (Beneath k), node leaf := by
  generalize distance : 2 * inner - k = rest
  induction rest using Nat.strongRecOn generalizing k with
  | ind rest inductionHypothesis =>
    by_cases leaf : inner ≤ k
    · have alone : (Finset.Icc inner (2 * inner)).filter (Beneath k) = {k} := by
        ext other
        rw [Finset.mem_filter, Finset.mem_Icc, Finset.mem_singleton]
        constructor
        · rintro ⟨⟨-, last⟩, beneath⟩
          rcases beneath_iff_child.mp beneath with same | below | below
          · exact same
          · have := below.le
            omega
          · have := below.le
            omega
        · rintro rfl
          exact ⟨⟨leaf, inside⟩, .root⟩
      rw [alone, Finset.sum_singleton]
    · have split : (Finset.Icc inner (2 * inner)).filter (Beneath k) =
          (Finset.Icc inner (2 * inner)).filter (Beneath (2 * k + 1)) ∪
            (Finset.Icc inner (2 * inner)).filter (Beneath (2 * k + 2)) := by
        rw [← Finset.filter_or]
        refine Finset.filter_congr fun other member => ?_
        rw [beneath_iff_child]
        refine or_iff_right ?_
        rintro rfl
        exact leaf (Finset.mem_Icc.mp member).1
      have disjoint : Disjoint ((Finset.Icc inner (2 * inner)).filter (Beneath (2 * k + 1)))
          ((Finset.Icc inner (2 * inner)).filter (Beneath (2 * k + 2))) :=
        Finset.disjoint_filter.mpr fun _ _ left => not_beneath_both left
      rw [split, Finset.sum_union disjoint, tree k (Nat.lt_of_not_le leaf)]
      congr 1
      · exact inductionHypothesis _ (by omega) (by omega) rfl
      · exact inductionHypothesis _ (by omega) (by omega) rfl

/-- The leaves determine the tree. -/
theorem SumTree.unique {other : Nat → Weight} (tree : SumTree inner node)
    (tree' : SumTree inner other)
    (leaves : ∀ k, inner ≤ k → k ≤ 2 * inner → node k = other k) {k : Nat}
    (inside : k ≤ 2 * inner) : node k = other k := by
  classical
  rw [tree.eq_sum inside, tree'.eq_sum inside]
  refine Finset.sum_congr rfl fun leaf member => ?_
  obtain ⟨first, last⟩ := Finset.mem_Icc.mp (Finset.mem_filter.mp member).1
  exact leaves leaf first last

end Monoid

/-! ### Repairing the sums -/

section Repair

variable [Add Weight] {inner : Nat} {node : Nat → Weight}

/-- The sums are right except on the way from a node up to the root. -/
def SumTreeApartFrom (changed inner : Nat) (node : Nat → Weight) : Prop :=
  ∀ k < inner, (Beneath k changed → k = changed) →
    node k = node (2 * k + 1) + node (2 * k + 2)

theorem SumTree.apartFrom (tree : SumTree inner node) {changed : Nat} (isLeaf : inner ≤ changed)
    (value : Weight) : SumTreeApartFrom changed inner (Function.update node changed value) := by
  intro k small unaffected
  have left : 2 * k + 1 ≠ changed := by
    rintro rfl
    have := unaffected (Beneath.left .root)
    omega
  have right : 2 * k + 2 ≠ changed := by
    rintro rfl
    have := unaffected (Beneath.right .root)
    omega
  rw [Function.update_of_ne (by omega), Function.update_of_ne left, Function.update_of_ne right]
  exact tree k small

/-- Summing up the parent leaves only the way from there. -/
theorem SumTreeApartFrom.parent {changed parent : Nat}
    (apart : SumTreeApartFrom changed inner node) (below : changed ≠ 0)
    (isParent : parent = (changed - 1) / 2) :
    SumTreeApartFrom parent inner
      (Function.update node parent (node (2 * parent + 1) + node (2 * parent + 2))) := by
  intro k small unaffected
  by_cases same : k = parent
  · subst same
    rw [Function.update_self, Function.update_of_ne (by omega), Function.update_of_ne (by omega)]
  · have left : 2 * k + 1 ≠ parent := fun isLeft => same (unaffected (isLeft ▸ Beneath.left .root))
    have right : 2 * k + 2 ≠ parent :=
      fun isRight => same (unaffected (isRight ▸ Beneath.right .root))
    rw [Function.update_of_ne same, Function.update_of_ne left, Function.update_of_ne right]
    refine apart k small fun beneath => ?_
    rcases (beneath_iff_parent below).mp beneath with root | above
    · exact root.symm
    · exact absurd (unaffected (isParent ▸ above)) same

theorem SumTreeApartFrom.sumTree (apart : SumTreeApartFrom 0 inner node) : SumTree inner node :=
  fun k small => apart k small fun beneath => Nat.le_zero.mp beneath.le

end Repair

/-! ### Walking down -/

section Walk

variable {height : Nat} {node : Nat → Weight}

/-- A node whose leaves, `2 ^ height` in number, begin with leaf `first` of `total`. -/
structure Spans (total height k first : Nat) : Prop where
  begins : (k + 1) * 2 ^ height = total + first
  ends : first + 2 ^ height ≤ total

theorem spans_root (height : Nat) : Spans (2 ^ height) height 0 0 :=
  ⟨by rw [Nat.zero_add, Nat.one_mul, Nat.add_zero], by rw [Nat.zero_add]⟩

variable {total k first : Nat}

theorem Spans.left (spans : Spans total (height + 1) k first) :
    Spans total height (2 * k + 1) first := by
  obtain ⟨begins, ends⟩ := spans
  rw [Nat.pow_succ] at begins ends
  refine ⟨?_, by omega⟩
  rw [← begins]
  ring

theorem Spans.right (spans : Spans total (height + 1) k first) :
    Spans total height (2 * k + 2) (first + 2 ^ height) := by
  obtain ⟨begins, ends⟩ := spans
  rw [Nat.pow_succ] at begins ends
  refine ⟨?_, by omega⟩
  rw [← Nat.add_assoc, ← begins]
  ring

theorem Spans.leaf (spans : Spans total 0 k first) (inhabited : 0 < total) :
    k = (total - 1) + first := by
  obtain ⟨begins, -⟩ := spans
  rw [Nat.pow_zero, Nat.mul_one] at begins
  omega

theorem Spans.inner (spans : Spans total (height + 1) k first) : k < total - 1 := by
  obtain ⟨begins, ends⟩ := spans
  have two : 2 ≤ 2 ^ (height + 1) := by
    rw [Nat.pow_succ]
    have := Nat.one_le_two_pow (n := height)
    omega
  have twice : (k + 1) * 2 ≤ (k + 1) * 2 ^ (height + 1) := Nat.mul_le_mul_left _ two
  have less : total + first + 2 ^ (height + 1) ≤ 2 * total := by omega
  omega

/-- The sum of the leaves in front of a leaf. -/
def leavesBefore [AddCommMonoid Weight] (total : Nat) (node : Nat → Weight) (leaf : Nat) :
    Weight :=
  ∑ j ∈ Finset.range leaf, node ((total - 1) + j)

theorem leavesBefore_succ [AddCommMonoid Weight] (total : Nat) (node : Nat → Weight)
    (leaf : Nat) :
    leavesBefore total node (leaf + 1) =
      leavesBefore total node leaf + node ((total - 1) + leaf) :=
  Finset.sum_range_succ _ _

/-- A node holds the sum of the leaves that it spans. -/
theorem SumTree.leavesBefore_spans [AddCommMonoid Weight] (tree : SumTree (total - 1) node)
    (inhabited : 0 < total) (spans : Spans total height k first) :
    leavesBefore total node (first + 2 ^ height) = leavesBefore total node first + node k := by
  induction height generalizing k first with
  | zero =>
    rw [Nat.pow_zero, leavesBefore_succ, spans.leaf inhabited]
  | succ height inductionHypothesis =>
    have left := inductionHypothesis spans.left
    have right := inductionHypothesis spans.right
    rw [tree k spans.inner, Nat.pow_succ, Nat.mul_two, ← Nat.add_assoc, right, left, add_assoc]

/-- The walk: to the left if the value is at most the sum there, else to the right with the rest
of the value. -/
def walkDown [Sub Weight] [LE Weight] [DecidableLE Weight] (inner : Nat) (node : Nat → Weight) :
    Nat → Nat → Weight → Nat
  | 0, k, _ => k
  | fuel + 1, k, value =>
    if k < inner then
      if value ≤ node (2 * k + 1) then walkDown inner node fuel (2 * k + 1) value
      else walkDown inner node fuel (2 * k + 2) (value - node (2 * k + 1))
    else k

/-- The walk ends at the leaf where the sum of the leaves reaches the value. -/
theorem SumTree.walkDown [AddCommGroup Weight] [LinearOrder Weight] [IsOrderedAddMonoid Weight]
    (tree : SumTree (total - 1) node) (inhabited : 0 < total)
    (spans : Spans total height k first) {value : Weight} (positive : 0 < value)
    (bounded : value ≤ node k) {fuel : Nat} (enough : height ≤ fuel) :
    ∃ leaf < total, Library.walkDown (total - 1) node fuel k value = (total - 1) + leaf ∧
      0 < node ((total - 1) + leaf) ∧
      leavesBefore total node leaf < leavesBefore total node first + value ∧
      leavesBefore total node first + value ≤ leavesBefore total node (leaf + 1) := by
  induction height generalizing k first value fuel with
  | zero =>
    have isLeaf := spans.leaf inhabited
    have small : first < total := spans.ends
    rw [isLeaf] at bounded ⊢
    refine ⟨first, small, ?_, positive.trans_le bounded, ?_, ?_⟩
    · cases fuel with
      | zero => rfl
      | succ fuel => exact if_neg (by omega)
    · exact lt_add_of_pos_right _ positive
    · rw [leavesBefore_succ]
      exact add_le_add_right bounded _
  | succ height inductionHypothesis =>
    cases fuel with
    | zero => exact absurd enough (Nat.not_succ_le_zero _)
    | succ fuel =>
      rw [Library.walkDown, if_pos spans.inner]
      by_cases left : value ≤ node (2 * k + 1)
      · rw [if_pos left]
        exact inductionHypothesis spans.left positive left (Nat.le_of_succ_le_succ enough)
      · rw [if_neg left]
        have rest : value - node (2 * k + 1) ≤ node (2 * k + 2) := by
          rw [tree k spans.inner] at bounded
          exact sub_left_le_of_le_add bounded
        obtain ⟨leaf, small, ended, found, low, high⟩ := inductionHypothesis spans.right
          (sub_pos.mpr (lt_of_not_ge left)) rest (Nat.le_of_succ_le_succ enough)
        have shifted : leavesBefore total node (first + 2 ^ height) +
            (value - node (2 * k + 1)) = leavesBefore total node first + value := by
          rw [tree.leavesBefore_spans inhabited spans.left, add_assoc, add_sub_cancel]
        rw [shifted] at low high
        exact ⟨leaf, small, ended, found, low, high⟩

/-- Without negative leaves the walk with nothing ends at the first leaf. -/
theorem SumTree.walkDown_zero [AddCommGroup Weight] [LinearOrder Weight]
    [IsOrderedAddMonoid Weight] (tree : SumTree (total - 1) node) (inhabited : 0 < total)
    (nonnegative : ∀ leaf, 0 ≤ node ((total - 1) + leaf)) (spans : Spans total height k 0)
    {fuel : Nat} (enough : height ≤ fuel) :
    Library.walkDown (total - 1) node fuel k 0 = total - 1 := by
  induction height generalizing k fuel with
  | zero =>
    have isLeaf := spans.leaf inhabited
    rw [isLeaf]
    cases fuel with
    | zero => rfl
    | succ fuel => exact if_neg (by omega)
  | succ height inductionHypothesis =>
    cases fuel with
    | zero => exact absurd enough (Nat.not_succ_le_zero _)
    | succ fuel =>
      have left : 0 ≤ node (2 * k + 1) := by
        have both := tree.leavesBefore_spans inhabited spans.left
        have start : leavesBefore total node 0 = 0 := rfl
        rw [start, zero_add, zero_add] at both
        rw [← both]
        exact Finset.sum_nonneg fun leaf _ => nonnegative leaf
      rw [Library.walkDown, if_pos spans.inner, if_pos left]
      exact inductionHypothesis spans.left (Nat.le_of_succ_le_succ enough)

end Walk

end Fleetbench.Library
