/-
This file proves what the pass over the distribution fills in. Behind every size
as many slots are filled as its cumulative frequency asks for, rounded up but for
the threshold; behind the last size these are all slots.
-/

import Fleetbench.Libc.Sizes
import Mathlib.Algebra.Order.Floor.Semiring
import Mathlib.Algebra.Order.BigOperators.Group.List
import Mathlib.Algebra.Order.Field.Rat
import Mathlib.Tactic.Linarith
import Mathlib.Tactic.FieldSimp

namespace Fleetbench.Libc

open Library

/-! ### Slots -/

/-- The number of slots that are filled once the percentages have this sum. -/
def slots (nSamples : Nat) (percentageSum curPercentageSum : ℚ) : Nat :=
  ⌈nSamples * curPercentageSum / percentageSum - 999 / 1000⌉₊

/-- The vector once these sizes have been filled in. -/
def fillingOf (nSamples maxSize : Nat) (sizes : List Int) : Filling where
  sizeBytes := sizes.map (fun size => min size (toInt32 maxSize)) ++
    List.replicate (nSamples - sizes.length) 0
  nParameters := sizes.length
  writes := (List.range sizes.length).zip sizes

section

variable {nSamples : Nat} {percentageSum : ℚ} (positive : 0 < percentageSum)

include positive

theorem slots_mono {curPercentageSum next : ℚ} (more : curPercentageSum ≤ next) :
    slots nSamples percentageSum curPercentageSum ≤ slots nSamples percentageSum next := by
  refine Nat.ceil_mono (sub_le_sub_right ?_ _)
  exact div_le_div_of_nonneg_right (mul_le_mul_of_nonneg_left more (Nat.cast_nonneg _)) positive.le

omit positive in
theorem slots_zero : slots nSamples percentageSum 0 = 0 := by
  refine Nat.ceil_eq_zero.mpr ?_
  rw [mul_zero, zero_div]
  norm_num

theorem slots_percentageSum : slots nSamples percentageSum percentageSum = nSamples := by
  rw [slots, mul_div_cancel_right₀ _ positive.ne']
  refine le_antisymm (Nat.ceil_le.mpr (by norm_num)) ?_
  cases nSamples with
  | zero => exact Nat.zero_le _
  | succ before =>
    refine Nat.succ_le_of_lt (Nat.lt_ceil.mpr ?_)
    rw [Nat.cast_succ]
    linarith

/-- The integer that the slots are. -/
theorem slots_eq_ceil {curPercentageSum : ℚ} (nonneg : 0 ≤ curPercentageSum) :
    (slots nSamples percentageSum curPercentageSum : Int) =
      ⌈nSamples * (curPercentageSum / percentageSum) - 999 / 1000⌉ := by
  have least : 0 ≤ nSamples * (curPercentageSum / percentageSum) :=
    mul_nonneg (Nat.cast_nonneg _) (div_nonneg nonneg positive.le)
  rw [slots, mul_div_assoc]
  exact Int.natCast_ceil_eq_ceil_of_neg_one_lt (by linarith)

end

/-! ### One size -/

section

variable {nSamples maxSize : Nat} {curPercentageSum percentageSum : ℚ} {sizes : List Int}
  (size : Int)

/-- The condition of the inner loop. -/
theorem threshold_iff (filled : Nat) :
    999 / 1000 < nSamples * curPercentageSum / percentageSum - filled ↔
      filled < slots nSamples percentageSum curPercentageSum := by
  rw [slots, Nat.lt_ceil]
  exact lt_sub_comm

theorem fillRound_stop (full : slots nSamples percentageSum curPercentageSum ≤ sizes.length) :
    fillRound nSamples curPercentageSum percentageSum maxSize size
      (fillingOf nSamples maxSize sizes) = .stop (some (fillingOf nSamples maxSize sizes)) :=
  if_neg fun more => not_lt_of_ge full ((threshold_iff sizes.length).mp more)

theorem fillRound_again (more : sizes.length < slots nSamples percentageSum curPercentageSum)
    (room : sizes.length < nSamples) :
    fillRound nSamples curPercentageSum percentageSum maxSize size
        (fillingOf nSamples maxSize sizes) =
      .again (fillingOf nSamples maxSize (sizes ++ [size])) := by
  have length : (fillingOf nSamples maxSize sizes).sizeBytes.length = nSamples := by
    rw [fillingOf, List.length_append, List.length_map, List.length_replicate]
    omega
  have inside : sizes.length < (fillingOf nSamples maxSize sizes).sizeBytes.length := by
    rw [length]
    exact room
  have free : nSamples - sizes.length = nSamples - (sizes.length + 1) + 1 := by omega
  refine (if_pos ((threshold_iff sizes.length).mpr more)).trans ((if_pos inside).trans ?_)
  refine congrArg Round.again ?_
  simp only [fillingOf, free, List.replicate_succ, List.map_append, List.map_cons, List.map_nil,
    List.length_append, List.length_cons, List.length_nil, Nat.zero_add, Filling.mk.injEq,
    true_and]
  refine ⟨?_, ?_⟩
  · rw [List.set_append_right _ _ (Nat.le_of_eq (List.length_map _)), List.length_map, Nat.sub_self,
      List.set_cons_zero, List.append_assoc]
    rfl
  · rw [List.range_succ, List.zip_append List.length_range]
    rfl

theorem loop_fillRound {fuel : Nat}
    (start : sizes.length ≤ slots nSamples percentageSum curPercentageSum)
    (room : slots nSamples percentageSum curPercentageSum ≤ nSamples)
    (enough : slots nSamples percentageSum curPercentageSum - sizes.length < fuel) :
    loop (fillRound nSamples curPercentageSum percentageSum maxSize size) fuel
      (fillingOf nSamples maxSize sizes) = some (some (fillingOf nSamples maxSize (sizes ++
        List.replicate (slots nSamples percentageSum curPercentageSum - sizes.length) size))) := by
  induction fuel generalizing sizes with
  | zero => exact absurd enough (Nat.not_lt_zero _)
  | succ fuel inductionHypothesis =>
    by_cases full : slots nSamples percentageSum curPercentageSum ≤ sizes.length
    · rw [loop_stop fuel (fillRound_stop size full), Nat.sub_eq_zero_of_le full,
        List.replicate_zero, List.append_nil]
    · have length : (sizes ++ [size]).length = sizes.length + 1 := List.length_append
      have again := @inductionHypothesis (sizes ++ [size]) (by omega) (by omega)
      rw [loop_again fuel (fillRound_again size (by omega) (by omega)), again, length,
        List.append_assoc]
      rw [show slots nSamples percentageSum curPercentageSum - sizes.length =
        slots nSamples percentageSum curPercentageSum - (sizes.length + 1) + 1 by omega]
      rfl

end

/-! ### All sizes -/

/-- The sizes that slots are filled from. -/
def quantileSizes (nSamples : Nat) (percentageSum : ℚ) : MemorySizeDistribution → ℚ → List Int
  | [], _ => []
  | (size, percentage) :: rest, curPercentageSum =>
    List.replicate (slots nSamples percentageSum (curPercentageSum + percentage) -
        slots nSamples percentageSum curPercentageSum) size ++
      quantileSizes nSamples percentageSum rest (curPercentageSum + percentage)

/-- The sum of some percentages. -/
def percentages (distribution : MemorySizeDistribution) : ℚ := (distribution.map Prod.snd).sum

theorem percentages_cons (size : Int) (percentage : ℚ) (rest : MemorySizeDistribution) :
    percentages ((size, percentage) :: rest) = percentage + percentages rest :=
  List.sum_cons

theorem percentages_nonneg {distribution : MemorySizeDistribution}
    (nonneg : ∀ entry ∈ distribution, 0 ≤ entry.2) : 0 ≤ percentages distribution := by
  refine List.sum_nonneg fun value member => ?_
  obtain ⟨entry, inside, rfl⟩ := List.mem_map.mp member
  exact nonneg entry inside

section

variable {nSamples maxSize : Nat} {percentageSum : ℚ} (positive : 0 < percentageSum)

include positive

theorem fillSizes_eq {fuel : Nat} (enough : nSamples < fuel) {distribution : MemorySizeDistribution}
    (nonneg : ∀ entry ∈ distribution, 0 ≤ entry.2) {curPercentageSum : ℚ}
    (total : curPercentageSum + percentages distribution ≤ percentageSum) {sizes : List Int}
    (start : sizes.length = slots nSamples percentageSum curPercentageSum) :
    fillSizes fuel nSamples percentageSum maxSize distribution curPercentageSum
      (fillingOf nSamples maxSize sizes) = some (fillingOf nSamples maxSize
        (sizes ++ quantileSizes nSamples percentageSum distribution curPercentageSum)) := by
  induction distribution generalizing curPercentageSum sizes with
  | nil => rw [fillSizes, quantileSizes, List.append_nil]
  | cons entry rest inductionHypothesis =>
    obtain ⟨size, percentage⟩ := entry
    have isPercentage : 0 ≤ percentage := nonneg _ List.mem_cons_self
    have others : ∀ entry ∈ rest, 0 ≤ entry.2 :=
      fun entry member => nonneg entry (List.mem_cons_of_mem _ member)
    have isRest := percentages_nonneg others
    rw [percentages_cons, ← add_assoc] at total
    have more : slots nSamples percentageSum curPercentageSum ≤
        slots nSamples percentageSum (curPercentageSum + percentage) :=
      slots_mono positive (by linarith)
    have room : slots nSamples percentageSum (curPercentageSum + percentage) ≤ nSamples := by
      have most := @slots_mono nSamples _ positive (curPercentageSum + percentage) percentageSum
        (by linarith)
      rwa [slots_percentageSum positive] at most
    have filled := @loop_fillRound nSamples maxSize (curPercentageSum + percentage) percentageSum
      sizes size fuel (by omega) room (by omega)
    rw [fillSizes]
    simp only [filled, Option.bind_eq_bind, Option.bind_some]
    rw [inductionHypothesis others total (by rw [List.length_append, List.length_replicate]; omega),
      quantileSizes, List.append_assoc, start]

end

/-! ### What has been filled in -/

/-- The sum of the percentages up to a size. -/
def cumulative (distribution : MemorySizeDistribution) (size : Int) : ℚ :=
  percentages (distribution.filter fun entry => entry.1 ≤ size)

/-- Sizes are filled in their order. -/
theorem quantileSizes_ordered (nSamples : Nat) (percentageSum : ℚ)
    {distribution : MemorySizeDistribution}
    (ordered : distribution.Pairwise fun first second => first.1 < second.1)
    (curPercentageSum : ℚ) :
    (quantileSizes nSamples percentageSum distribution curPercentageSum).Pairwise (· ≤ ·) ∧
      ∀ size ∈ quantileSizes nSamples percentageSum distribution curPercentageSum,
        ∃ entry ∈ distribution, entry.1 = size := by
  induction ordered generalizing curPercentageSum with
  | nil => exact ⟨.nil, fun size member => nomatch member⟩
  | @cons entry rest before _ inductionHypothesis =>
    obtain ⟨first, percentage⟩ := entry
    obtain ⟨sorted, keys⟩ := inductionHypothesis (curPercentageSum + percentage)
    rw [quantileSizes]
    refine ⟨List.pairwise_append.mpr ⟨List.pairwise_replicate.mpr (.inr (le_refl first)), sorted,
      fun size isFirst other inRest => ?_⟩, fun size member => ?_⟩
    · obtain ⟨entry, inside, rfl⟩ := keys other inRest
      rw [List.eq_of_mem_replicate isFirst]
      exact (before entry inside).le
    · rcases List.mem_append.mp member with isFirst | inRest
      · exact ⟨_, List.mem_cons_self, (List.eq_of_mem_replicate isFirst).symm⟩
      · obtain ⟨entry, inside, same⟩ := keys size inRest
        exact ⟨entry, List.mem_cons_of_mem _ inside, same⟩

/-- As many slots are filled from the sizes up to a bound as the percentages up to it ask for. -/
theorem countP_quantileSizes {nSamples : Nat} {percentageSum : ℚ} (positive : 0 < percentageSum)
    {distribution : MemorySizeDistribution}
    (ordered : distribution.Pairwise fun first second => first.1 < second.1)
    (nonneg : ∀ entry ∈ distribution, 0 ≤ entry.2) (bound : Int) (curPercentageSum : ℚ) :
    slots nSamples percentageSum curPercentageSum +
        (quantileSizes nSamples percentageSum distribution curPercentageSum).countP (· ≤ bound) =
      slots nSamples percentageSum (curPercentageSum + cumulative distribution bound) := by
  induction ordered generalizing curPercentageSum with
  | nil =>
    show _ + 0 = slots nSamples percentageSum (curPercentageSum + 0)
    rw [add_zero, add_zero]
  | @cons entry rest before sorted inductionHypothesis =>
    obtain ⟨first, percentage⟩ := entry
    have isPercentage : 0 ≤ percentage := nonneg _ List.mem_cons_self
    have later := inductionHypothesis (fun entry member => nonneg entry
      (List.mem_cons_of_mem _ member)) (curPercentageSum + percentage)
    have more : slots nSamples percentageSum curPercentageSum ≤
        slots nSamples percentageSum (curPercentageSum + percentage) :=
      slots_mono positive (by linarith)
    rw [quantileSizes, List.countP_append, List.countP_replicate, cumulative, List.filter_cons]
    by_cases inside : first ≤ bound
    · rw [if_pos (decide_eq_true inside), if_pos (decide_eq_true inside), percentages_cons,
        ← add_assoc curPercentageSum]
      rw [cumulative] at later
      rw [← later]
      omega
    · have outside : ∀ entry ∈ rest, ¬ entry.1 ≤ bound :=
        fun entry member low => inside (le_trans (before entry member).le low)
      have none : (rest.filter fun entry => entry.1 ≤ bound) = [] :=
        List.filter_eq_nil_iff.mpr fun entry member low =>
          outside entry member (of_decide_eq_true low)
      have unfilled : (quantileSizes nSamples percentageSum rest
          (curPercentageSum + percentage)).countP (· ≤ bound) = 0 := by
        refine List.countP_eq_zero.mpr fun size member low => ?_
        obtain ⟨entry, isKey, rfl⟩ :=
          (quantileSizes_ordered nSamples percentageSum sorted _).2 size member
        exact outside entry isKey (of_decide_eq_true low)
      have notLow : ¬ decide (first ≤ bound) = true := fun low => inside (of_decide_eq_true low)
      rw [if_neg notLow, if_neg notLow, none, unfilled]
      show _ = slots nSamples percentageSum (curPercentageSum + 0)
      rw [add_zero, add_zero, add_zero]

/-- A size adds its percentage. -/
theorem cumulative_of_mem {distribution : MemorySizeDistribution}
    (ordered : distribution.Pairwise fun first second => first.1 < second.1) {entry : Int × ℚ}
    (member : entry ∈ distribution) :
    cumulative distribution entry.1 = cumulative distribution (entry.1 - 1) + entry.2 := by
  induction ordered with
  | nil => cases member
  | @cons first rest before _ inductionHypothesis =>
    rcases List.mem_cons.mp member with rfl | inRest
    · have none : ∀ bound ≤ entry.1, (rest.filter fun other => other.1 ≤ bound) = [] :=
        fun bound low => List.filter_eq_nil_iff.mpr fun other inside high =>
          not_lt_of_ge (le_trans (of_decide_eq_true high) low) (before other inside)
      have least : ¬ decide (entry.1 ≤ entry.1 - 1) = true :=
        fun low => absurd (of_decide_eq_true low) (by omega)
      rw [cumulative, cumulative, List.filter_cons, List.filter_cons,
        if_pos (decide_eq_true (le_refl entry.1)), if_neg least, none _ (le_refl _),
        none _ (by omega)]
      show entry.2 + 0 = 0 + entry.2
      rw [add_comm]
    · have earlier := before entry inRest
      have first' : decide (first.1 ≤ entry.1) = true := decide_eq_true earlier.le
      have first'' : decide (first.1 ≤ entry.1 - 1) = true := decide_eq_true (by omega)
      have later := inductionHypothesis inRest
      rw [cumulative, cumulative] at later ⊢
      rw [List.filter_cons, List.filter_cons, if_pos first', if_pos first'', percentages_cons,
        percentages_cons, add_assoc, later]

theorem cumulative_nonneg {distribution : MemorySizeDistribution}
    (nonneg : ∀ entry ∈ distribution, 0 ≤ entry.2) (size : Int) :
    0 ≤ cumulative distribution size :=
  percentages_nonneg fun entry member => nonneg entry (List.mem_of_mem_filter member)

/-- What the pass leaves. Every slot has been written once and holds the size it was written from,
or the largest if that is smaller. -/
structure Quantiles (distribution : MemorySizeDistribution) (maxSize nSamples : Nat)
    (filling : Filling) : Prop where
  once : filling.writes.map Prod.fst = List.range nSamples
  written : filling.sizeBytes = filling.writes.map fun write => min write.2 (toInt32 maxSize)
  complete : filling.nParameters = filling.sizeBytes.length
  ordered : filling.sizeBytes.Pairwise (· ≤ ·)
  cumulative : ∀ entry ∈ distribution,
    (filling.writes.countP fun write => write.2 ≤ entry.1 : Int) =
      ⌈nSamples * (cumulative distribution entry.1 / percentages distribution) - 999 / 1000⌉
  share : ∀ entry ∈ distribution,
    |(filling.writes.countP fun write => write.2 = entry.1 : ℚ) -
      nSamples * (entry.2 / percentages distribution)| < 1

theorem length_quantileSizes {nSamples : Nat} {percentageSum : ℚ} (positive : 0 < percentageSum)
    {distribution : MemorySizeDistribution} (nonneg : ∀ entry ∈ distribution, 0 ≤ entry.2)
    (curPercentageSum : ℚ) :
    slots nSamples percentageSum curPercentageSum +
        (quantileSizes nSamples percentageSum distribution curPercentageSum).length =
      slots nSamples percentageSum (curPercentageSum + percentages distribution) := by
  induction distribution generalizing curPercentageSum with
  | nil =>
    show _ + 0 = slots nSamples percentageSum (curPercentageSum + 0)
    rw [add_zero, add_zero]
  | cons entry rest inductionHypothesis =>
    obtain ⟨size, percentage⟩ := entry
    have isPercentage : 0 ≤ percentage := nonneg _ List.mem_cons_self
    have later := inductionHypothesis (fun entry member => nonneg entry
      (List.mem_cons_of_mem _ member)) (curPercentageSum + percentage)
    have more : slots nSamples percentageSum curPercentageSum ≤
        slots nSamples percentageSum (curPercentageSum + percentage) :=
      slots_mono positive (by linarith)
    rw [quantileSizes, List.length_append, List.length_replicate, percentages_cons,
      ← add_assoc curPercentageSum, ← later]
    omega

theorem countP_le_eq (sizes : List Int) (size : Int) :
    sizes.countP (· ≤ size) = sizes.countP (· ≤ size - 1) + sizes.countP (· = size) := by
  induction sizes with
  | nil => rfl
  | cons first rest inductionHypothesis =>
    simp only [List.countP_cons, decide_eq_true_eq]
    split_ifs <;> omega

/-- Two numbers that are rounded up move apart or together by less than one. -/
theorem abs_ceil_sub_ceil_lt (first second : ℚ) :
    |((⌈second⌉ : ℚ) - ⌈first⌉) - (second - first)| < 1 := by
  have firstUpper := Int.ceil_lt_add_one first
  have secondUpper := Int.ceil_lt_add_one second
  have firstLower := Int.le_ceil first
  have secondLower := Int.le_ceil second
  rw [abs_lt]
  constructor <;> linarith

/-- Every size that is filled in has been written to its slot. -/
theorem map_snd_writes (nSamples maxSize : Nat) (sizes : List Int) :
    (fillingOf nSamples maxSize sizes).writes.map Prod.snd = sizes :=
  List.map_snd_zip (Nat.le_of_eq List.length_range.symm)

theorem countP_writes (nSamples maxSize : Nat) (sizes : List Int) (chosen : Int → Bool) :
    (fillingOf nSamples maxSize sizes).writes.countP (fun write => chosen write.2) =
      sizes.countP chosen := by
  have mapped := congrArg (List.countP chosen) (map_snd_writes nSamples maxSize sizes)
  rwa [List.countP_map] at mapped

/-- A size is filled in as often as its percentage asks for, but for less than one slot. -/
theorem share_of_counts {distribution : MemorySizeDistribution} {nSamples : Nat} {sizes : List Int}
    (ordered : distribution.Pairwise fun first second => first.1 < second.1)
    (counts : ∀ bound : Int, (sizes.countP (· ≤ bound) : Int) =
      ⌈nSamples * (cumulative distribution bound / percentages distribution) - 999 / 1000⌉)
    {entry : Int × ℚ} (member : entry ∈ distribution) :
    |(sizes.countP (· = entry.1) : ℚ) - nSamples * (entry.2 / percentages distribution)| < 1 := by
  have close := abs_ceil_sub_ceil_lt
    (nSamples * (cumulative distribution (entry.1 - 1) / percentages distribution) - 999 / 1000)
    (nSamples * (cumulative distribution entry.1 / percentages distribution) - 999 / 1000)
  rw [← counts, ← counts, countP_le_eq sizes entry.1] at close
  have moved : (nSamples : ℚ) *
      (cumulative distribution entry.1 / percentages distribution) - 999 / 1000 -
      (nSamples * (cumulative distribution (entry.1 - 1) / percentages distribution) -
        999 / 1000) = nSamples * (entry.2 / percentages distribution) := by
    rw [cumulative_of_mem ordered member, add_div]
    ring
  rw [moved] at close
  push_cast at close
  rwa [add_sub_cancel_left] at close

/-- The sizes that the slots are filled from are as many as the slots. -/
theorem length_quantileSizes_all {distribution : MemorySizeDistribution}
    (nonneg : ∀ entry ∈ distribution, 0 ≤ entry.2) (positive : 0 < percentages distribution)
    (nSamples : Nat) :
    (quantileSizes nSamples (percentages distribution) distribution 0).length = nSamples := by
  have count := @length_quantileSizes nSamples _ positive _ nonneg 0
  rw [slots_zero, zero_add, zero_add] at count
  rw [count]
  exact slots_percentageSum positive

/-- The vector that the pass leaves behind. -/
def quantileFilling (distribution : MemorySizeDistribution) (maxSize nSamples : Nat) : Filling :=
  fillingOf nSamples maxSize (quantileSizes nSamples (percentages distribution) distribution 0)

theorem fillSizes_quantileFilling {distribution : MemorySizeDistribution}
    (nonneg : ∀ entry ∈ distribution, 0 ≤ entry.2) (positive : 0 < percentages distribution)
    (maxSize : Nat) {fuel nSamples : Nat} (enough : nSamples < fuel) :
    fillSizes fuel nSamples (percentages distribution) maxSize distribution 0
        ⟨List.replicate nSamples 0, 0, []⟩ =
      some (quantileFilling distribution maxSize nSamples) := by
  have run := @fillSizes_eq nSamples maxSize _ positive fuel enough _ nonneg 0
    (le_of_eq (zero_add _)) [] slots_zero.symm
  rwa [List.nil_append] at run

/-- No slot is left as it was. -/
theorem sizeBytes_quantileFilling {distribution : MemorySizeDistribution}
    (nonneg : ∀ entry ∈ distribution, 0 ≤ entry.2) (positive : 0 < percentages distribution)
    (maxSize nSamples : Nat) :
    (quantileFilling distribution maxSize nSamples).sizeBytes =
      (quantileSizes nSamples (percentages distribution) distribution 0).map
        fun size => min size (toInt32 maxSize) := by
  rw [quantileFilling, fillingOf, length_quantileSizes_all nonneg positive, Nat.sub_self,
    List.replicate_zero, List.append_nil]

theorem quantiles_quantileFilling {distribution : MemorySizeDistribution}
    (ordered : distribution.Pairwise fun first second => first.1 < second.1)
    (nonneg : ∀ entry ∈ distribution, 0 ≤ entry.2) (positive : 0 < percentages distribution)
    (maxSize nSamples : Nat) :
    Quantiles distribution maxSize nSamples (quantileFilling distribution maxSize nSamples) := by
  have filled := sizeBytes_quantileFilling nonneg positive maxSize nSamples
  have length := length_quantileSizes_all nonneg positive nSamples
  have sorted := (quantileSizes_ordered nSamples (percentages distribution) ordered 0).1
  have counts (bound : Int) :
      ((quantileSizes nSamples (percentages distribution) distribution 0).countP
        (· ≤ bound) : Int) =
      ⌈nSamples * (cumulative distribution bound / percentages distribution) - 999 / 1000⌉ := by
    have count := @countP_quantileSizes nSamples _ positive _ ordered nonneg bound 0
    rw [slots_zero, zero_add, zero_add] at count
    rw [count]
    exact slots_eq_ceil positive (cumulative_nonneg nonneg bound)
  refine ⟨?_, ?_, ?_, ?_, ?_, ?_⟩
  · exact (List.map_fst_zip (Nat.le_of_eq List.length_range)).trans (congrArg List.range length)
  · have mapped := congrArg (List.map fun size => min size (toInt32 maxSize))
      (map_snd_writes nSamples maxSize
        (quantileSizes nSamples (percentages distribution) distribution 0))
    rw [List.map_map] at mapped
    exact filled.trans mapped.symm
  · rw [filled, List.length_map]
    rfl
  · rw [filled]
    refine List.Pairwise.map _ (fun first second le => ?_) sorted
    exact min_le_min_right _ le
  · intro entry member
    rw [quantileFilling, countP_writes nSamples maxSize _ (· ≤ entry.1)]
    exact counts entry.1
  · intro entry member
    rw [quantileFilling, countP_writes nSamples maxSize _ (· = entry.1)]
    exact share_of_counts ordered counts member

/-- With enough fuel for the inner loop, the pass fills in the quantiles of the distribution. -/
theorem fillSizes_quantiles {distribution : MemorySizeDistribution}
    (ordered : distribution.Pairwise fun first second => first.1 < second.1)
    (nonneg : ∀ entry ∈ distribution, 0 ≤ entry.2) (positive : 0 < percentages distribution)
    (maxSize nSamples : Nat) :
    ∃ filling, (∀ fuel, nSamples < fuel →
        fillSizes fuel nSamples (percentages distribution) maxSize distribution 0
          ⟨List.replicate nSamples 0, 0, []⟩ = some filling) ∧
      Quantiles distribution maxSize nSamples filling :=
  ⟨quantileFilling distribution maxSize nSamples,
    fun _ enough => fillSizes_quantileFilling nonneg positive maxSize enough,
    quantiles_quantileFilling ordered nonneg positive maxSize nSamples⟩

/-- Three sizes, of which the second never occurs. -/
theorem fillSizes_quantiles_three :
    ∃ filling, (∀ fuel, 10 < fuel →
        fillSizes fuel 10 (percentages [(1, 1 / 2), (8, 0), (64, 1 / 4)]) 32
          [(1, 1 / 2), (8, 0), (64, 1 / 4)] 0 ⟨List.replicate 10 0, 0, []⟩ = some filling) ∧
      Quantiles [(1, 1 / 2), (8, 0), (64, 1 / 4)] 32 10 filling :=
  fillSizes_quantiles (by decide) (by decide +kernel) (by decide +kernel) 32 10

end Fleetbench.Libc
