/-
This file is about sets that are kept as ascending lists. What is at least some
key is a final part of the list. Words in lexicographic order that begin with a
given one follow each other, from that word on: a scan that starts there and
stops at the first other word finds all of them.
-/

import Mathlib.Data.List.Lex
import Mathlib.Order.Lattice

namespace Fleetbench.Library

/-! ### Ascending lists -/

structure SortedSet (Key : Type*) [LinearOrder Key] where
  keys : List Key
  ascending : keys.Pairwise (· < ·)

namespace SortedSet

variable {Key : Type*} [LinearOrder Key]

def empty : SortedSet Key := ⟨[], .nil⟩

/-- A key that is there already stays where it is. -/
def insertKey (key : Key) : List Key → List Key
  | [] => [key]
  | first :: rest =>
    if key < first then key :: first :: rest
    else if key = first then first :: rest
    else first :: insertKey key rest

theorem mem_insertKey {key other : Key} {keys : List Key} :
    other ∈ insertKey key keys ↔ other = key ∨ other ∈ keys := by
  induction keys with
  | nil => exact List.mem_singleton.trans (or_iff_left List.not_mem_nil).symm
  | cons first rest inductionHypothesis =>
    unfold insertKey
    split
    · exact List.mem_cons
    · split
      · rename_i same
        rw [same, List.mem_cons]
        exact ⟨.inr, fun either => either.elim .inl id⟩
      · rw [List.mem_cons, inductionHypothesis, List.mem_cons]
        exact or_left_comm

theorem pairwise_insertKey (key : Key) {keys : List Key} (ascending : keys.Pairwise (· < ·)) :
    (insertKey key keys).Pairwise (· < ·) := by
  induction keys with
  | nil => exact List.pairwise_singleton _ _
  | cons first rest inductionHypothesis =>
    obtain ⟨least, ascending'⟩ := List.pairwise_cons.mp ascending
    unfold insertKey
    split
    · rename_i below
      refine List.pairwise_cons.mpr ⟨List.forall_mem_cons.mpr ⟨below, fun other member => ?_⟩,
        ascending⟩
      exact below.trans (least other member)
    · split
      · exact ascending
      · rename_i notBelow other
        refine List.pairwise_cons.mpr ⟨fun later member => ?_, inductionHypothesis ascending'⟩
        rcases mem_insertKey.mp member with rfl | member
        · exact lt_of_le_of_ne (not_lt.mp notBelow) (Ne.symm other)
        · exact least later member

def insert (set : SortedSet Key) (key : Key) : SortedSet Key :=
  ⟨insertKey key set.keys, pairwise_insertKey key set.ascending⟩

theorem mem_insert {set : SortedSet Key} {key other : Key} :
    other ∈ (set.insert key).keys ↔ other = key ∨ other ∈ set.keys :=
  mem_insertKey

/-- The keys from the first one on that is not below. -/
def lowerBound (set : SortedSet Key) (key : Key) : List Key :=
  set.keys.dropWhile fun other => other < key

theorem nodup (set : SortedSet Key) : set.keys.Nodup := set.ascending.imp fun below => below.ne

end SortedSet

/-! ### Words -/

section Words

variable {Letter : Type*} [LinearOrder Letter]

theorem cons_le_cons_iff {first other : Letter} {rest others : List Letter} :
    first :: rest ≤ other :: others ↔ first < other ∨ first = other ∧ rest ≤ others := by
  rw [← not_lt, List.cons_lt_cons_iff, not_or, not_and, not_lt, le_iff_lt_or_eq]
  constructor
  · rintro ⟨below | same, tails⟩
    · exact .inl below
    · exact .inr ⟨same, not_lt.mp (tails same.symm)⟩
  · rintro (below | ⟨rfl, tails⟩)
    · exact ⟨.inl below, fun same => absurd same below.ne'⟩
    · exact ⟨.inr rfl, fun _ => not_lt.mpr tails⟩

theorem le_of_begins {front word : List Letter} (begins : front <+: word) : front ≤ word := by
  obtain ⟨rest, rfl⟩ := begins
  induction front with
  | nil => exact not_lt.mp (List.not_lt_nil _)
  | cons letter front inductionHypothesis =>
    exact cons_le_cons_iff.mpr (.inr ⟨rfl, inductionHypothesis⟩)

/-- Between a word and one that begins with it, all begin with it. -/
theorem prefix_of_between {front between word : List Letter} (above : front ≤ between)
    (below : between ≤ word) (begins : front <+: word) : front <+: between := by
  induction front generalizing between word with
  | nil => exact List.nil_prefix
  | cons letter front inductionHypothesis =>
    obtain ⟨rest, rfl⟩ := begins
    cases between with
    | nil => exact absurd (List.nil_lt_cons letter front) (not_lt.mpr above)
    | cons first between =>
      rcases cons_le_cons_iff.mp above with more | ⟨rfl, tails⟩
      · rcases cons_le_cons_iff.mp below with less | ⟨rfl, -⟩
        · exact absurd less more.asymm
        · exact absurd more (lt_irrefl _)
      · rcases cons_le_cons_iff.mp below with less | ⟨-, tails'⟩
        · exact absurd less (lt_irrefl _)
        · exact List.cons_prefix_cons.mpr
            ⟨rfl, inductionHypothesis tails tails' (List.prefix_append front rest)⟩

/-- Behind the first word that does not begin with the given one, none does. -/
theorem takeWhile_begins {front : List Letter} {words : List (List Letter)}
    (ascending : words.Pairwise (· < ·)) (above : ∀ word ∈ words, front ≤ word) :
    words.takeWhile (fun word => front <+: word) = words.filter fun word => front <+: word := by
  induction words with
  | nil => rfl
  | cons word words inductionHypothesis =>
    obtain ⟨least, ascending⟩ := List.pairwise_cons.mp ascending
    obtain ⟨first, others⟩ := List.forall_mem_cons.mp above
    by_cases begins : front <+: word
    · simp only [List.takeWhile_cons, List.filter_cons, decide_eq_true begins, if_true]
      rw [inductionHypothesis ascending others]
    · have none : words.filter (fun word => front <+: word) = [] := by
        refine List.filter_eq_nil_iff.mpr fun later member found => begins ?_
        exact prefix_of_between first (least later member).le (of_decide_eq_true found)
      simp only [List.takeWhile_cons, List.filter_cons, decide_eq_false begins, none]
      rfl

/-- A scan from the lower bound on finds the words that begin with the given one, and only them. -/
theorem takeWhile_lowerBound (set : SortedSet (List Letter)) (front : List Letter) :
    (set.lowerBound front).takeWhile (fun word => front <+: word) =
      set.keys.filter fun word => front <+: word := by
  obtain ⟨words, ascending⟩ := set
  unfold SortedSet.lowerBound
  induction words with
  | nil => rfl
  | cons word words inductionHypothesis =>
    obtain ⟨least, ascending'⟩ := List.pairwise_cons.mp ascending
    rw [List.dropWhile_cons]
    split
    · rename_i below
      have less : word < front := by simpa using below
      have other : ¬ front <+: word := fun begins => less.not_ge (le_of_begins begins)
      simp only [List.filter_cons, decide_eq_false other]
      exact inductionHypothesis ascending'
    · rename_i notBelow
      have above : front ≤ word := not_lt.mp (by simpa using notBelow)
      refine takeWhile_begins ascending (List.forall_mem_cons.mpr ⟨above, ?_⟩)
      exact fun later member => above.trans (least later member).le

end Words

end Fleetbench.Library
