/-
This file proves when the probabilities of benchmarks realise their target
ratios. The general path divides by the target ratio of the first benchmark;
otherwise it yields the shares of the ratios of target and runtime, and so does
the shortcut for runtimes that are all `1.0`. The runtimes of benchmarks that
have not run are scaled by the mean of the last one that has, so they depend on
the order of the benchmarks.
-/

import Fleetbench.Parallel.Probabilities
import Fleetbench.Library.Shares
import Fleetbench.Library.Traverse
import Mathlib.Data.List.Zip
import Mathlib.Tactic.FieldSimp
import Mathlib.Tactic.Ring

namespace Fleetbench.Parallel

open Library

/-! ### Adjusted runtimes -/

/-- The mean of the last ten runs of a benchmark, or its fake duration if there are none. -/
def observed (times : List ℚ) : ℚ :=
  if lastWallTimes times ≠ [] then
    (lastWallTimes times).sum / ((lastWallTimes times).length : ℚ)
  else times.headD 0

theorem divide_zero (dividend : ℚ) : divide dividend 0 = none :=
  if_pos rfl

theorem readHistory_eq {locals : Adjusting} {times : List ℚ} (present : times ≠ []) :
    readHistory locals times = some
      { validIndex := if lastWallTimes times ≠ [] then some locals.currentRuntimes.length
          else locals.validIndex
        currentRuntimes := locals.currentRuntimes ++ [observed times]
        needAdjustment := if lastWallTimes times ≠ [] then locals.needAdjustment
          else locals.needAdjustment ++ [locals.currentRuntimes.length] } := by
  rw [readHistory, observed]
  by_cases run : lastWallTimes times ≠ []
  · have nonzero : ((lastWallTimes times).length : ℚ) ≠ 0 :=
      Nat.cast_ne_zero.mpr (List.length_pos_iff.mpr run).ne'
    rw [if_pos run, if_pos run, if_pos run, if_pos run, divide_eq_some nonzero]
    rfl
  · obtain ⟨fake, runs, rfl⟩ := List.exists_cons_of_ne_nil present
    rw [if_neg run, if_neg run, if_neg run, if_neg run]
    rfl

/-- The last history with a run. -/
def lastRun (histories : List (List ℚ)) : Option (List ℚ) :=
  (histories.filter fun times => lastWallTimes times ≠ []).getLast?

theorem of_lastRun {histories : List (List ℚ)} {times : List ℚ}
    (isLast : lastRun histories = some times) :
    times ∈ histories ∧ lastWallTimes times ≠ [] := by
  have member := List.mem_filter.mp (List.mem_of_getLast? isLast)
  exact ⟨member.1, of_decide_eq_true member.2⟩

theorem lastRun_concat {earlier : List (List ℚ)} {times : List ℚ}
    (run : lastWallTimes times ≠ []) : lastRun (earlier ++ [times]) = some times := by
  rw [lastRun, List.filter_append, List.filter_cons, if_pos (decide_eq_true run), List.filter_nil,
    List.getLast?_concat]

theorem lastRun_concat_of_none {earlier : List (List ℚ)} {times : List ℚ}
    (none : lastWallTimes times = []) : lastRun (earlier ++ [times]) = lastRun earlier := by
  rw [lastRun, List.filter_append, List.filter_cons, if_neg (by simp [none]), List.filter_nil,
    List.append_nil, lastRun]

/-- The local variables of `_AdjustRuntime` once some histories have been read. -/
structure HasRead (histories : List (List ℚ)) (locals : Adjusting) : Prop where
  current : locals.currentRuntimes = histories.map observed
  valid : ∀ index, locals.validIndex = some index →
    ∃ times, histories[index]? = some times ∧ lastRun histories = some times
  none : locals.validIndex = none → ∀ times ∈ histories, lastWallTimes times = []
  need : ∀ index, index ∈ locals.needAdjustment ↔
    ∃ times, histories[index]? = some times ∧ lastWallTimes times = []
  once : locals.needAdjustment.Nodup

theorem getElem?_concat_eq_some_iff {earlier : List (List ℚ)} {times found : List ℚ}
    {index : Nat} : (earlier ++ [times])[index]? = some found ↔
      earlier[index]? = some found ∨ index = earlier.length ∧ times = found := by
  rw [List.getElem?_append]
  split
  · rename_i inside
    refine (or_iff_left fun last => ?_).symm
    omega
  · rename_i outside
    rw [List.getElem?_singleton, List.getElem?_eq_none (not_lt.mp outside)]
    split
    · rw [Option.some.injEq]
      refine ⟨fun same => .inr ⟨by omega, same⟩, fun last => ?_⟩
      exact (last.resolve_left nofun).2
    · refine iff_of_false nofun fun last => ?_
      have isLast := (last.resolve_left nofun).1
      omega

theorem HasRead.step {earlier : List (List ℚ)} {locals : Adjusting}
    (hasRead : HasRead earlier locals) {times : List ℚ} (present : times ≠ []) :
    ∃ next, readHistory locals times = some next ∧ HasRead (earlier ++ [times]) next := by
  have length : locals.currentRuntimes.length = earlier.length := by
    rw [hasRead.current, List.length_map]
  have current : locals.currentRuntimes ++ [observed times] =
      (earlier ++ [times]).map observed := by
    rw [hasRead.current, List.map_append, List.map_singleton]
  refine ⟨_, readHistory_eq present, ?_⟩
  by_cases run : lastWallTimes times ≠ []
  · rw [if_pos run, if_pos run, length]
    refine ⟨current, fun index isValid => ?_, nofun, fun index => ?_, hasRead.once⟩
    · cases isValid
      exact ⟨times, getElem?_concat_eq_some_iff.mpr (.inr ⟨rfl, rfl⟩), lastRun_concat run⟩
    · refine (hasRead.need index).trans (exists_congr fun found => and_congr_left fun none => ?_)
      rw [getElem?_concat_eq_some_iff]
      refine (or_iff_left ?_).symm
      rintro ⟨-, rfl⟩
      exact run none
  · have none := not_not.mp run
    rw [if_neg run, if_neg run, length]
    refine ⟨current, fun index isValid => ?_, fun invalid other member => ?_, fun index => ?_, ?_⟩
    · obtain ⟨found, isFound, isLast⟩ := hasRead.valid index isValid
      exact ⟨found, getElem?_concat_eq_some_iff.mpr (.inl isFound),
        (lastRun_concat_of_none none).trans isLast⟩
    · rcases List.mem_append.mp member with before | last
      · exact hasRead.none invalid other before
      · rw [List.mem_singleton.mp last]
        exact none
    · rw [List.mem_append, hasRead.need index, List.mem_singleton]
      constructor
      · rintro (⟨found, isFound, none⟩ | rfl)
        · exact ⟨found, getElem?_concat_eq_some_iff.mpr (.inl isFound), none⟩
        · exact ⟨times, getElem?_concat_eq_some_iff.mpr (.inr ⟨rfl, rfl⟩), none⟩
      · rintro ⟨found, isFound, none⟩
        rcases getElem?_concat_eq_some_iff.mp isFound with before | ⟨last, -⟩
        · exact .inl ⟨found, before, none⟩
        · exact .inr last
    · refine hasRead.once.append (List.nodup_singleton _) fun index inside last => ?_
      rw [List.mem_singleton.mp last] at inside
      obtain ⟨found, isFound, -⟩ := (hasRead.need _).mp inside
      rw [List.getElem?_eq_none (Nat.le_refl _)] at isFound
      cases isFound

theorem HasRead.run {rest : List (List ℚ)} (present : ∀ times ∈ rest, times ≠ [])
    {earlier : List (List ℚ)} {locals : Adjusting} (hasRead : HasRead earlier locals) :
    ∃ final, rest.foldlM readHistory locals = some final ∧ HasRead (earlier ++ rest) final := by
  induction rest generalizing earlier locals with
  | nil => exact ⟨locals, rfl, (List.append_nil earlier).symm ▸ hasRead⟩
  | cons times others inductionHypothesis =>
    obtain ⟨next, read, hasRead'⟩ := hasRead.step (present times List.mem_cons_self)
    obtain ⟨final, readOthers, isFinal⟩ := inductionHypothesis
      (fun other member => present other (List.mem_cons_of_mem _ member)) hasRead'
    refine ⟨final, ?_, ?_⟩
    · rw [List.foldlM_cons, read]
      exact readOthers
    · rw [List.append_assoc] at isFinal
      exact isFinal

theorem hasRead_nil : HasRead [] ⟨none, [], []⟩ :=
  ⟨rfl, nofun, fun _ _ member => (nomatch member), fun _ =>
    iff_of_false List.not_mem_nil (by rintro ⟨times, found, -⟩; cases found), .nil⟩

/-- Every index that needs it is scaled once, by a runtime that is not. -/
theorem scaleRuntimes {validIndex : Nat} {valid : ℚ} {indices : List Nat} (once : indices.Nodup)
    (fixed : validIndex ∉ indices) {current : List ℚ} (isValid : current[validIndex]? = some valid)
    (inside : ∀ index ∈ indices, index < current.length) :
    ∃ scaled, indices.foldlM (scaleRuntime validIndex) current = some scaled ∧
      ∀ index, scaled[index]? =
        if index ∈ indices then current[index]?.map (· * valid) else current[index]? := by
  induction indices generalizing current with
  | nil => exact ⟨current, rfl, fun index => (if_neg List.not_mem_nil).symm⟩
  | cons first rest inductionHypothesis =>
    have isFirst := inside first List.mem_cons_self
    have apart : first ≠ validIndex := fun same => fixed (same ▸ List.mem_cons_self)
    obtain ⟨notRest, once'⟩ := List.nodup_cons.mp once
    have step : scaleRuntime validIndex current first =
        some (current.set first (current[first] * valid)) := by
      rw [scaleRuntime, isValid, List.getElem?_eq_getElem isFirst]
      rfl
    obtain ⟨scaled, scales, entries⟩ := @inductionHypothesis once'
      (fun member => fixed (List.mem_cons_of_mem _ member))
      (current.set first (current[first] * valid))
      (by rw [List.getElem?_set_ne apart]; exact isValid)
      (fun index member => by
        rw [List.length_set]
        exact inside index (List.mem_cons_of_mem _ member))
    refine ⟨scaled, by rw [List.foldlM_cons, step]; exact scales, fun index => ?_⟩
    rw [entries index]
    by_cases isIndex : index = first
    · subst isIndex
      rw [if_neg notRest, if_pos List.mem_cons_self, List.getElem?_set_self isFirst,
        List.getElem?_eq_getElem isFirst]
      rfl
    · rw [List.getElem?_set_ne (Ne.symm isIndex)]
      refine if_congr ?_ rfl rfl
      rw [List.mem_cons, or_iff_right isIndex]

/-- What `_AdjustRuntime` yields for a benchmark, given the factor for those that have not run. -/
def adjusted (factor : ℚ) (times : List ℚ) : ℚ :=
  if lastWallTimes times ≠ [] then observed times else observed times * factor

/-- The factor is the mean of the last benchmark that has run, or `1` if none has. -/
def factorOf (histories : List (List ℚ)) : ℚ := ((lastRun histories).map observed).getD 1

theorem factorOf_concat {earlier : List (List ℚ)} {times : List ℚ}
    (run : lastWallTimes times ≠ []) : factorOf (earlier ++ [times]) = observed times := by
  rw [factorOf, lastRun_concat run]
  rfl

theorem factorOf_of_none {histories : List (List ℚ)}
    (none : ∀ times ∈ histories, lastWallTimes times = []) : factorOf histories = 1 := by
  rw [factorOf]
  cases isLast : lastRun histories with
  | none => rfl
  | some times =>
    obtain ⟨member, run⟩ := of_lastRun isLast
    exact absurd (none times member) run

/-- The factor is a runtime that has been measured, or `1` if there is none. -/
theorem factorOf_cases (histories : List (List ℚ)) :
    (∃ times ∈ histories, lastWallTimes times ≠ [] ∧ observed times = factorOf histories) ∨
      factorOf histories = 1 ∧ ∀ times ∈ histories, lastWallTimes times = [] := by
  by_cases none : ∀ times ∈ histories, lastWallTimes times = []
  · exact .inr ⟨factorOf_of_none none, none⟩
  · rw [factorOf]
    cases isLast : lastRun histories with
    | none =>
      refine absurd (fun times member => ?_) none
      by_contra run
      have inside : times ∈ histories.filter fun times => lastWallTimes times ≠ [] :=
        List.mem_filter.mpr ⟨member, decide_eq_true run⟩
      rw [List.getLast?_eq_none_iff.mp isLast] at inside
      cases inside
    | some times => exact .inl ⟨times, (of_lastRun isLast).1, (of_lastRun isLast).2, rfl⟩

/-- Every history gives a runtime, and those without a run are scaled. -/
theorem adjustRuntime_eq {runtimes : Durations} {histories : List (List ℚ)}
    (isHistories : runtimes.entries.map Prod.snd = histories)
    (present : ∀ times ∈ histories, times ≠ []) :
    adjustRuntime runtimes = some (histories.map (adjusted (factorOf histories))) := by
  obtain ⟨locals, read, hasRead⟩ := hasRead_nil.run present
  rw [List.nil_append] at hasRead
  obtain ⟨validIndex, currentRuntimes, needAdjustment⟩ := locals
  obtain rfl : currentRuntimes = histories.map observed := hasRead.current
  rw [adjustRuntime, isHistories, read]
  cases validIndex with
  | none =>
    have none := hasRead.none rfl
    refine congrArg some (List.map_congr_left fun times member => ?_)
    rw [adjusted, if_neg (not_not_intro (none times member)), factorOf_of_none none, mul_one]
  | some validIndex =>
    obtain ⟨times, isTimes, isLast⟩ := hasRead.valid validIndex rfl
    have run := (of_lastRun isLast).2
    have isFactor : factorOf histories = observed times := by
      rw [factorOf, isLast]
      rfl
    have isValid : (histories.map observed)[validIndex]? = some (observed times) := by
      rw [List.getElem?_map, isTimes]
      rfl
    have fixed : validIndex ∉ needAdjustment := by
      intro member
      obtain ⟨other, isOther, none⟩ := (hasRead.need validIndex).mp member
      cases isTimes.symm.trans isOther
      exact run none
    obtain ⟨scaled, scales, entries⟩ := scaleRuntimes hasRead.once fixed isValid (by
      intro index member
      obtain ⟨other, isOther, -⟩ := (hasRead.need index).mp member
      rw [List.length_map]
      exact (List.getElem?_eq_some_iff.mp isOther).1)
    rw [isFactor]
    refine scales.trans (congrArg some (List.ext_getElem? fun index => ?_))
    rw [entries index, List.getElem?_map, List.getElem?_map]
    cases found : histories[index]? with
    | none => rw [Option.map_none, Option.map_none, Option.map_none, ite_self]
    | some other =>
      rw [Option.map_some, Option.map_some, Option.map_some, adjusted]
      have needs : index ∈ needAdjustment ↔ lastWallTimes other = [] := by
        refine (hasRead.need index).trans ⟨?_, fun none => ⟨other, found, none⟩⟩
        rintro ⟨same, isSame, none⟩
        cases found.symm.trans isSame
        exact none
      by_cases none : lastWallTimes other = []
      · rw [if_pos (needs.mpr none), if_neg (not_not_intro none)]
      · rw [if_neg fun member => none (needs.mp member), if_pos none]

theorem observed_pos {times : List ℚ} (present : times ≠ [])
    (positive : ∀ duration ∈ times, 0 < duration) : 0 < observed times := by
  rw [observed]
  split
  · rename_i run
    have length : (0 : ℚ) < (lastWallTimes times).length :=
      Nat.cast_pos.mpr (List.length_pos_iff.mpr run)
    refine div_pos (List.sum_pos _ (fun duration member => positive duration ?_) run) length
    exact List.mem_of_mem_tail (List.mem_of_mem_drop member)
  · obtain ⟨fake, runs, rfl⟩ := List.exists_cons_of_ne_nil present
    exact positive fake List.mem_cons_self

section

variable {histories : List (List ℚ)}
  (measured : ∀ times ∈ histories, times ≠ [] ∧ ∀ duration ∈ times, 0 < duration)

include measured

theorem adjusted_pos : ∀ times ∈ histories, 0 < adjusted (factorOf histories) times := by
  have positive : 0 < factorOf histories := by
    rcases factorOf_cases histories with ⟨times, member, -, isFactor⟩ | ⟨isOne, -⟩
    · rw [← isFactor]
      exact observed_pos (measured times member).1 (measured times member).2
    · rw [isOne]
      exact zero_lt_one
  intro times member
  have isObserved := observed_pos (measured times member).1 (measured times member).2
  rw [adjusted]
  split
  · exact isObserved
  · exact mul_pos isObserved positive

omit measured in
/-- The runtimes are all `1` exactly if all that has been observed is. -/
theorem adjusted_ones_iff : (∀ times ∈ histories, adjusted (factorOf histories) times = 1) ↔
    ∀ times ∈ histories, observed times = 1 := by
  have one {factor : ℚ} (scaled : factor = 1) (times : List ℚ) :
      adjusted factor times = observed times := by
    rw [adjusted, scaled, mul_one, ite_self]
  rcases factorOf_cases histories with ⟨valid, isValid, run, isFactor⟩ | ⟨isOne, -⟩
  · constructor
    · intro ones
      have scaled := ones valid isValid
      rw [adjusted, if_pos run, isFactor] at scaled
      exact fun times member => (one scaled times).symm.trans (ones times member)
    · intro ones times member
      exact (one (isFactor.symm.trans (ones valid isValid)) times).trans (ones times member)
  · exact forall₂_congr fun times _ => by rw [one isOne]

end

/-! ### Weights -/

/-- The weight of a benchmark, given its runtime and its target ratio. -/
def targetWeight (entry : ℚ × ℚ) : ℚ := entry.2 / entry.1

theorem mapM_divide {divisor : ℚ} (nonzero : divisor ≠ 0) (values : List ℚ) :
    values.mapM (divide · divisor) = some (values.map (· / divisor)) :=
  mapM_eq_some_map fun _ _ => divide_eq_some nonzero

theorem adjustProbabilities_cons {firstRatio firstRuntime : ℚ} {ratios runtimes : List ℚ}
    (aligned : (firstRatio :: ratios).length = (firstRuntime :: runtimes).length) :
    adjustProbabilities (firstRatio :: ratios) (firstRuntime :: runtimes) = (do
      let others ← (ratios.zip runtimes).mapM fun entry =>
        divide (firstRuntime * entry.1) (entry.2 * firstRatio)
      List.mapM (divide · (1 :: others).sum) (1 :: others)) :=
  if_neg (not_not_intro aligned)

/-- The ratios to the first benchmark are multiples of the weights. -/
theorem relative_eq_scaled {firstRuntime firstRatio sum : ℚ} {runtimes ratios : List ℚ}
    (runtimesPos : ∀ runtime ∈ firstRuntime :: runtimes, 0 < runtime)
    (firstRatioPos : 0 < firstRatio) (sumPos : 0 < sum) :
    1 :: (ratios.zip (runtimes.map (· / sum))).map
        (fun entry => firstRuntime / sum * entry.1 / (entry.2 * firstRatio)) =
      (((firstRuntime :: runtimes).zip (firstRatio :: ratios)).map targetWeight).map
        (firstRuntime / firstRatio * ·) := by
  have firstPos : 0 < firstRuntime := runtimesPos _ List.mem_cons_self
  rw [List.zip_cons_cons, List.map_cons, List.map_cons, ← List.zip_swap ratios runtimes,
    List.zip_map_right, List.map_map, List.map_map, List.map_map]
  refine congrArg₂ _ ?_ (List.map_congr_left fun entry member => ?_)
  · rw [targetWeight]
    field_simp
  · have runtimePos := runtimesPos _ (List.mem_cons_of_mem _ (List.of_mem_zip member).2)
    show firstRuntime / sum * entry.1 / (entry.2 / sum * firstRatio) =
      firstRuntime / firstRatio * (entry.1 / entry.2)
    field_simp

section

variable {currentRuntimes targetRatios : List ℚ}
  (aligned : targetRatios.length = currentRuntimes.length)
  (runtimesPos : ∀ runtime ∈ currentRuntimes, 0 < runtime)

theorem unzip_of_aligned (aligned : targetRatios.length = currentRuntimes.length) :
    (currentRuntimes.zip targetRatios).map Prod.fst = currentRuntimes ∧
      (currentRuntimes.zip targetRatios).map Prod.snd = targetRatios :=
  ⟨List.map_fst_zip (le_of_eq aligned.symm), List.map_snd_zip (le_of_eq aligned)⟩

/-- Runtimes that are all `1` leave the target ratios as the weights. -/
theorem targetWeights_of_ones (ones : ∀ runtime ∈ currentRuntimes, runtime = 1)
    (aligned : targetRatios.length = currentRuntimes.length) :
    (currentRuntimes.zip targetRatios).map targetWeight = targetRatios := by
  have same : (currentRuntimes.zip targetRatios).map targetWeight =
      (currentRuntimes.zip targetRatios).map Prod.snd := by
    refine List.map_congr_left fun entry member => ?_
    rw [targetWeight, ones _ (List.of_mem_zip member).1, div_one]
  rw [same]
  exact List.map_snd_zip (le_of_eq aligned)

include aligned runtimesPos

theorem targetWeight_pos {ratio : ℚ} (member : ratio ∈ targetRatios) (positive : 0 < ratio) :
    ∃ entry ∈ currentRuntimes.zip targetRatios, entry.2 = ratio ∧ 0 < targetWeight entry := by
  rw [← List.map_snd_zip (le_of_eq aligned)] at member
  obtain ⟨entry, inside, rfl⟩ := List.mem_map.mp member
  exact ⟨entry, inside, rfl, div_pos positive (runtimesPos _ (List.of_mem_zip inside).1)⟩

variable (nonneg : ∀ ratio ∈ targetRatios, 0 ≤ ratio)

include nonneg

omit aligned in
theorem targetWeights_nonneg :
    ∀ weight ∈ (currentRuntimes.zip targetRatios).map targetWeight, 0 ≤ weight := by
  rw [List.forall_mem_map]
  intro entry member
  obtain ⟨isRuntime, isRatio⟩ := List.of_mem_zip member
  exact div_nonneg (nonneg _ isRatio) (runtimesPos _ isRuntime).le

theorem sum_targetWeights_pos (positive : ∃ ratio ∈ targetRatios, 0 < ratio) :
    0 < ((currentRuntimes.zip targetRatios).map targetWeight).sum := by
  obtain ⟨ratio, member, ratioPos⟩ := positive
  obtain ⟨entry, inside, -, weightPos⟩ := targetWeight_pos aligned runtimesPos member ratioPos
  exact lt_of_lt_of_le weightPos (List.single_le_sum
    (targetWeights_nonneg runtimesPos nonneg) _ (List.mem_map_of_mem inside))

/-- The general path yields shares, as its reference drops out. -/
theorem generalWeights_eq (positive : 0 < targetRatios.headD 0) :
    generalWeights currentRuntimes targetRatios =
      some (shares ((currentRuntimes.zip targetRatios).map targetWeight)) := by
  cases targetRatios with
  | nil => exact absurd positive (lt_irrefl 0)
  | cons firstRatio ratios =>
    cases currentRuntimes with
    | nil => cases aligned
    | cons firstRuntime runtimes =>
      change 0 < firstRatio at positive
      have firstPos : 0 < firstRuntime := runtimesPos _ List.mem_cons_self
      have sumPos : 0 < (firstRuntime :: runtimes).sum :=
        List.sum_pos _ runtimesPos (List.cons_ne_nil _ _)
      obtain ⟨sum, isSum⟩ : ∃ sum, (firstRuntime :: runtimes).sum = sum := ⟨_, rfl⟩
      rw [isSum] at sumPos
      have lengths : (firstRatio :: ratios).length =
          (firstRuntime / sum :: runtimes.map (· / sum)).length := by
        rw [List.length_cons, List.length_cons, List.length_map]
        exact aligned
      have others : ∀ entry ∈ ratios.zip (runtimes.map (· / sum)),
          divide (firstRuntime / sum * entry.1) (entry.2 * firstRatio) =
            some (firstRuntime / sum * entry.1 / (entry.2 * firstRatio)) := by
        intro entry member
        obtain ⟨runtime, inside, same⟩ := List.mem_map.mp (List.of_mem_zip member).2
        have runtimePos := runtimesPos runtime (List.mem_cons_of_mem _ inside)
        refine divide_eq_some (mul_ne_zero ?_ positive.ne')
        rw [← same]
        exact (div_pos runtimePos sumPos).ne'
      have scaled := @relative_eq_scaled _ _ sum _ ratios runtimesPos positive sumPos
      have factorPos : 0 < firstRuntime / firstRatio := div_pos firstPos positive
      rw [generalWeights, isSum, mapM_divide sumPos.ne', Option.bind_eq_bind, Option.bind_some,
        List.map_cons, adjustProbabilities_cons lengths, mapM_eq_some_map others,
        Option.bind_eq_bind, Option.bind_some, scaled]
      have nonzero : ((((firstRuntime :: runtimes).zip (firstRatio :: ratios)).map
          targetWeight).map (firstRuntime / firstRatio * ·)).sum ≠ 0 := by
        rw [List.sum_map_mul_left, List.map_id']
        exact (mul_pos factorPos (sum_targetWeights_pos aligned runtimesPos nonneg
          ⟨firstRatio, List.mem_cons_self, positive⟩)).ne'
      rw [mapM_divide nonzero]
      exact congrArg some (shares_scaled factorPos.ne' _)

omit runtimesPos nonneg in
/-- The general path divides by the first target ratio unless there is one benchmark only. -/
theorem generalWeights_of_zero {second : ℚ} {rest : List ℚ}
    (zero : targetRatios = 0 :: second :: rest) :
    generalWeights currentRuntimes targetRatios = none := by
  subst zero
  rw [generalWeights]
  cases divides : currentRuntimes.mapM (divide · currentRuntimes.sum) with
  | none => rfl
  | some runtimes =>
    have lengths := (mapM_eq_some_iff.mp divides).length_eq
    rw [← aligned] at lengths
    show adjustProbabilities (0 :: second :: rest) runtimes = none
    match runtimes, lengths with
    | firstRuntime :: secondRuntime :: others, lengths =>
      rw [adjustProbabilities_cons lengths, List.zip_cons_cons, List.mapM_cons, mul_zero,
        divide_zero]
      rfl

end

/-! ### Target ratios -/

/-- The probabilities realise the target ratios: expected total times are in the same proportion.
They are what the general path yields. -/
structure Realises (currentRuntimes targetRatios probabilities : List ℚ) : Prop where
  aligned : probabilities.length = currentRuntimes.length
  nonneg : ∀ probability ∈ probabilities, 0 ≤ probability
  total : probabilities.sum = 1
  ratios : ∀ first ∈ (currentRuntimes.zip targetRatios).zip probabilities,
    ∀ second ∈ (currentRuntimes.zip targetRatios).zip probabilities,
      first.2 * first.1.1 * second.1.2 = second.2 * second.1.1 * first.1.2
  general : generalWeights currentRuntimes targetRatios = some probabilities

/-- A benchmark with its name, its history and its target ratio. -/
abbrev Ranked := (String × List ℚ) × ℚ

def ranked (runtimes : Durations) (targetRatios : List ℚ) : List Ranked :=
  runtimes.entries.zip targetRatios

/-- The same benchmarks, with their histories and target ratios, have the same probabilities in any
order. -/
def IgnoresOrder (runtimes : Durations) (targetRatios probabilities : List ℚ) : Prop :=
  ∀ (others : Durations) (otherRatios : List ℚ), otherRatios.length = others.keys.length →
    (ranked others otherRatios).Perm (ranked runtimes targetRatios) →
      ∃ otherProbabilities,
        computeBenchmarkWeights others otherRatios = some otherProbabilities ∧
        ((ranked others otherRatios).zip otherProbabilities).Perm
          ((ranked runtimes targetRatios).zip probabilities)

/-- `_ComputeBenchmarkWeights` divides by zero nowhere, realises the target ratios for the runtimes
that `_AdjustRuntime` returns, and follows the benchmarks in any order. -/
def RealisesTargets (runtimes : Durations) (targetRatios : List ℚ) : Prop :=
  ∃ currentRuntimes probabilities, adjustRuntime runtimes = some currentRuntimes ∧
    currentRuntimes.length = runtimes.keys.length ∧
    computeBenchmarkWeights runtimes targetRatios = some probabilities ∧
    Realises currentRuntimes targetRatios probabilities ∧
    IgnoresOrder runtimes targetRatios probabilities

/-- All benchmarks have run, or those that have took the same time: then the runtimes of the others
are scaled alike in any order. -/
def OneFactor (runtimes : Durations) : Prop :=
  (∀ entry ∈ runtimes.entries, lastWallTimes entry.2 ≠ []) ∨
    ∀ first ∈ runtimes.entries, ∀ second ∈ runtimes.entries, lastWallTimes first.2 ≠ [] →
      lastWallTimes second.2 ≠ [] → observed first.2 = observed second.2

section

variable {currentRuntimes targetRatios : List ℚ}
  (aligned : targetRatios.length = currentRuntimes.length)
  (runtimesPos : ∀ runtime ∈ currentRuntimes, 0 < runtime)
  (nonneg : ∀ ratio ∈ targetRatios, 0 ≤ ratio) (positive : 0 < targetRatios.sum)

theorem exists_pos_of_sum_pos {values : List ℚ} (positive : 0 < values.sum) :
    ∃ value ∈ values, 0 < value := by
  by_contra none
  have least : values.sum ≤ values.length • (0 : ℚ) :=
    List.sum_le_card_nsmul _ _ fun value member => not_lt.mp fun valuePos =>
      none ⟨value, member, valuePos⟩
  rw [nsmul_zero] at least
  exact absurd positive (not_lt_of_ge least)

include aligned runtimesPos nonneg positive

/-- Shares of the weights, by either path. -/
theorem weightsOf_eq (divides : 0 < targetRatios.headD 0 ∨
      ∀ runtime ∈ currentRuntimes, runtime = 1) :
    weightsOf currentRuntimes targetRatios =
      some (shares ((currentRuntimes.zip targetRatios).map targetWeight)) := by
  rw [weightsOf]
  by_cases ones : ∀ runtime ∈ currentRuntimes, runtime = 1
  · rw [if_neg (not_not_intro ones), mapM_divide positive.ne', targetWeights_of_ones ones aligned]
    rfl
  · rw [if_pos ones]
    exact generalWeights_eq aligned runtimesPos nonneg (divides.resolve_right ones)

theorem realises_shares (first : 0 < targetRatios.headD 0) :
    Realises currentRuntimes targetRatios
      (shares ((currentRuntimes.zip targetRatios).map targetWeight)) := by
  have zipped := unzip_of_aligned aligned
  have sumPos := sum_targetWeights_pos aligned runtimesPos nonneg (exists_pos_of_sum_pos positive)
  refine ⟨?_, shares_nonneg (targetWeights_nonneg runtimesPos nonneg), sum_shares sumPos.ne', ?_,
    generalWeights_eq aligned runtimesPos nonneg first⟩
  · rw [length_shares, List.length_map, ← List.length_map Prod.fst, zipped.1]
  · rw [zip_shares]
    intro first isFirst second isSecond
    obtain ⟨entry, member, rfl⟩ := List.mem_map.mp isFirst
    obtain ⟨entry', member', rfl⟩ := List.mem_map.mp isSecond
    have runtimePos := runtimesPos _ (List.of_mem_zip member).1
    have runtimePos' := runtimesPos _ (List.of_mem_zip member').1
    show targetWeight entry / _ * entry.1 * entry'.2 = targetWeight entry' / _ * entry'.1 * entry.2
    rw [targetWeight, targetWeight]
    field_simp

omit runtimesPos in
/-- The general path divides by zero if the first of several ratios is zero. -/
theorem headD_pos_of_generalWeights
    (computes : (generalWeights currentRuntimes targetRatios).isSome = true) :
    0 < targetRatios.headD 0 := by
  cases targetRatios with
  | nil => exact positive
  | cons first rest =>
    refine lt_of_le_of_ne (nonneg first List.mem_cons_self) fun zero => ?_
    cases rest with
    | nil =>
      rw [List.sum_singleton] at positive
      exact positive.ne zero
    | cons second others =>
      rw [generalWeights_of_zero aligned (congrArg (· :: second :: others) zero.symm)] at computes
      cases computes

end

/-! ### The order of the benchmarks -/

/-- The weight of a benchmark, given the factor for those that have not run. -/
def rankedWeight (factor : ℚ) (benchmark : Ranked) : ℚ :=
  benchmark.2 / adjusted factor benchmark.1.2

/-- Durations and target ratios from which all probabilities are computed. -/
structure Measured (runtimes : Durations) (targetRatios : List ℚ) : Prop where
  aligned : targetRatios.length = runtimes.keys.length
  durations : ∀ entry ∈ runtimes.entries, entry.2 ≠ [] ∧ ∀ duration ∈ entry.2, 0 < duration
  nonneg : ∀ ratio ∈ targetRatios, 0 ≤ ratio
  positive : 0 < targetRatios.sum

/-- The factor for the benchmarks that have not run. -/
def runtimeFactor (runtimes : Durations) : ℚ := factorOf (runtimes.entries.map Prod.snd)

theorem runtimeFactor_cases (runtimes : Durations) :
    (∃ entry ∈ runtimes.entries, lastWallTimes entry.2 ≠ [] ∧
        observed entry.2 = runtimeFactor runtimes) ∨
      runtimeFactor runtimes = 1 ∧ ∀ entry ∈ runtimes.entries, lastWallTimes entry.2 = [] := by
  rcases factorOf_cases (runtimes.entries.map Prod.snd) with ⟨_, member, found⟩ | ⟨isOne, none⟩
  · obtain ⟨entry, isEntry, rfl⟩ := List.mem_map.mp member
    exact .inl ⟨entry, isEntry, found⟩
  · exact .inr ⟨isOne, List.forall_mem_map.mp none⟩

/-- The weights are those for the adjusted runtimes. -/
theorem ranked_map_rankedWeight (runtimes : Durations) (targetRatios : List ℚ) (factor : ℚ) :
    (ranked runtimes targetRatios).map (rankedWeight factor) =
      ((runtimes.entries.map fun entry => adjusted factor entry.2).zip targetRatios).map
        targetWeight := by
  rw [ranked, List.zip_map_left, List.map_map]
  rfl

namespace Measured

variable {runtimes : Durations} {targetRatios : List ℚ} (measured : Measured runtimes targetRatios)

include measured

theorem length_eq : targetRatios.length = runtimes.entries.length :=
  measured.aligned.trans (List.length_map _)

theorem ranked_fst : (ranked runtimes targetRatios).map Prod.fst = runtimes.entries :=
  List.map_fst_zip measured.length_eq.ge

theorem ranked_snd : (ranked runtimes targetRatios).map Prod.snd = targetRatios :=
  List.map_snd_zip measured.length_eq.le

theorem adjusts : adjustRuntime runtimes =
    some (runtimes.entries.map fun entry => adjusted (runtimeFactor runtimes) entry.2) := by
  rw [adjustRuntime_eq rfl (List.forall_mem_map.mpr fun entry member =>
    (measured.durations entry member).1), List.map_map]
  rfl

theorem runtimes_pos : ∀ runtime ∈ runtimes.entries.map fun entry =>
    adjusted (runtimeFactor runtimes) entry.2, 0 < runtime := by
  refine List.forall_mem_map.mpr fun entry member => ?_
  exact adjusted_pos (List.forall_mem_map.mpr measured.durations) _ (List.mem_map_of_mem member)

/-- The probabilities are the shares of the weights. -/
theorem computes (divides : 0 < targetRatios.headD 0 ∨
      ∀ entry ∈ runtimes.entries, observed entry.2 = 1) :
    computeBenchmarkWeights runtimes targetRatios =
      some (shares
        ((ranked runtimes targetRatios).map (rankedWeight (runtimeFactor runtimes)))) := by
  have lengths : targetRatios.length =
      (runtimes.entries.map fun entry => adjusted (runtimeFactor runtimes) entry.2).length := by
    rw [List.length_map, measured.length_eq]
  rw [computeBenchmarkWeights, measured.adjusts, ranked_map_rankedWeight]
  refine weightsOf_eq lengths measured.runtimes_pos measured.nonneg measured.positive
    (divides.imp_right fun ones => List.forall_mem_map.mpr fun entry member => ?_)
  exact adjusted_ones_iff.mpr (List.forall_mem_map.mpr ones) _ (List.mem_map_of_mem member)

theorem rankedWeight_pos {benchmark : Ranked} (member : benchmark ∈ ranked runtimes targetRatios)
    (ratioPos : 0 < benchmark.2) : 0 < rankedWeight (runtimeFactor runtimes) benchmark := by
  refine div_pos ratioPos (measured.runtimes_pos _ (List.mem_map.mpr ⟨benchmark.1, ?_, rfl⟩))
  exact (List.of_mem_zip member).1

/-- Without the first target ratio there are probabilities only if all that has been observed is
`1`. -/
theorem headD_pos (computes : (computeBenchmarkWeights runtimes targetRatios).isSome = true)
    (notOnes : ¬ ∀ entry ∈ runtimes.entries, observed entry.2 = 1) :
    0 < targetRatios.headD 0 := by
  have general : ¬ ∀ runtime ∈ runtimes.entries.map fun entry =>
      adjusted (runtimeFactor runtimes) entry.2, runtime = 1 := by
    intro ones
    rw [List.forall_mem_map] at ones
    refine notOnes (List.forall_mem_map.mp (adjusted_ones_iff.mp ?_))
    exact List.forall_mem_map.mpr ones
  have lengths : targetRatios.length =
      (runtimes.entries.map fun entry => adjusted (runtimeFactor runtimes) entry.2).length := by
    rw [List.length_map, measured.length_eq]
  rw [computeBenchmarkWeights, measured.adjusts, Option.bind_eq_bind, Option.bind_some, weightsOf,
    if_pos general] at computes
  exact headD_pos_of_generalWeights lengths measured.nonneg measured.positive computes

/-- The benchmarks in another order. -/
theorem rearranged {others : Durations} {otherRatios : List ℚ}
    (aligned : otherRatios.length = others.keys.length)
    (perm : (ranked others otherRatios).Perm (ranked runtimes targetRatios)) :
    Measured others otherRatios ∧ others.entries.Perm runtimes.entries ∧
      otherRatios.Perm targetRatios := by
  have lengths : otherRatios.length = others.entries.length := aligned.trans (List.length_map _)
  have entries := perm.map Prod.fst
  have ratios := perm.map Prod.snd
  rw [measured.ranked_fst, ranked, List.map_fst_zip lengths.ge] at entries
  rw [measured.ranked_snd, ranked, List.map_snd_zip lengths.le] at ratios
  exact ⟨⟨aligned, fun entry member => measured.durations entry (entries.subset member),
    fun ratio member => measured.nonneg ratio (ratios.subset member),
    ratios.sum_eq ▸ measured.positive⟩, entries, ratios⟩

/-- Any order of the benchmarks is one of a dictionary and a list. -/
theorem exists_order {benchmarks : List Ranked}
    (perm : benchmarks.Perm (ranked runtimes targetRatios)) :
    ∃ (others : Durations) (otherRatios : List ℚ), otherRatios.length = others.keys.length ∧
      others.entries = benchmarks.map Prod.fst ∧ otherRatios = benchmarks.map Prod.snd ∧
      ranked others otherRatios = benchmarks := by
  have entries : (benchmarks.map Prod.fst).Perm runtimes.entries :=
    measured.ranked_fst ▸ perm.map Prod.fst
  refine ⟨⟨benchmarks.map Prod.fst, (entries.map _).nodup_iff.mpr runtimes.distinct⟩,
    benchmarks.map Prod.snd, ?_, rfl, rfl, (List.zip_of_prod rfl rfl).symm⟩
  rw [Dict.keys, List.length_map, List.length_map, List.length_map]

end Measured

/-- A single factor is the same in any order. -/
theorem rankedWeight_congr {runtimes others : Durations} {targetRatios : List ℚ}
    (entries : others.entries.Perm runtimes.entries) (oneFactor : OneFactor runtimes) :
    ∀ benchmark ∈ ranked runtimes targetRatios,
      rankedWeight (runtimeFactor others) benchmark =
        rankedWeight (runtimeFactor runtimes) benchmark := by
  intro benchmark member
  have isEntry := (List.of_mem_zip member).1
  rw [rankedWeight, rankedWeight, adjusted, adjusted]
  rcases oneFactor with allRun | same
  · rw [if_pos (allRun _ isEntry), if_pos (allRun _ isEntry)]
  · suffices runtimeFactor others = runtimeFactor runtimes by rw [this]
    rcases runtimeFactor_cases others with ⟨other, isOther, otherRun, isFactor'⟩ | ⟨isOne', none'⟩
    · rcases runtimeFactor_cases runtimes with ⟨entry, isEntry, run, isFactor⟩ | ⟨-, none⟩
      · rw [← isFactor, ← isFactor']
        exact same other (entries.subset isOther) entry isEntry otherRun run
      · exact absurd (none other (entries.subset isOther)) otherRun
    · rcases runtimeFactor_cases runtimes with ⟨entry, isEntry, run, -⟩ | ⟨isOne, -⟩
      · exact absurd (none' entry (entries.symm.subset isEntry)) run
      · rw [isOne, isOne']

section

variable {runtimes : Durations} {targetRatios : List ℚ} (measured : Measured runtimes targetRatios)

include measured

/-- The shares follow the benchmarks in any order. -/
theorem ignoresOrder_shares (oneFactor : OneFactor runtimes)
    (divides : (∀ ratio ∈ targetRatios, 0 < ratio) ∨
      ∀ entry ∈ runtimes.entries, observed entry.2 = 1) :
    IgnoresOrder runtimes targetRatios
      (shares ((ranked runtimes targetRatios).map (rankedWeight (runtimeFactor runtimes)))) := by
  intro others otherRatios aligned perm
  obtain ⟨measured', entries, ratios⟩ := measured.rearranged aligned perm
  refine ⟨_, measured'.computes (divides.imp (fun ratiosPos => ?_) fun ones entry member =>
    ones entry (entries.subset member)), ?_⟩
  · cases otherRatios with
    | nil => exact measured'.positive
    | cons first rest => exact ratiosPos first (ratios.subset List.mem_cons_self)
  · have congr := @rankedWeight_congr _ _ targetRatios entries oneFactor
    rw [← List.map_congr_left congr]
    exact zip_shares_perm _ perm

variable {probabilities : List ℚ}
  (ignoresOrder : IgnoresOrder runtimes targetRatios probabilities)

include ignoresOrder

/-- A ratio that is zero comes first in some order. -/
theorem pos_of_ignoresOrder (notOnes : ¬ ∀ entry ∈ runtimes.entries, observed entry.2 = 1) :
    ∀ ratio ∈ targetRatios, 0 < ratio := by
  intro ratio member
  rw [← measured.ranked_snd] at member
  obtain ⟨benchmark, inside, rfl⟩ := List.mem_map.mp member
  obtain ⟨before, behind, split⟩ := List.append_of_mem inside
  have perm : (benchmark :: (before ++ behind)).Perm (ranked runtimes targetRatios) :=
    split ▸ List.perm_middle.symm
  obtain ⟨others, otherRatios, aligned, -, isRatios, isRanked⟩ := measured.exists_order perm
  rw [← isRanked] at perm
  obtain ⟨measured', entries, -⟩ := measured.rearranged aligned perm
  obtain ⟨_, computes, -⟩ := ignoresOrder others otherRatios aligned perm
  have first := measured'.headD_pos (by rw [computes]; rfl) fun ones =>
    notOnes fun entry member => ones entry (entries.symm.subset member)
  rw [isRatios] at first
  exact first

/-- Whichever benchmark that has run comes last, the shares are the same. -/
theorem shares_of_last (ratiosPos : ∀ ratio ∈ targetRatios, 0 < ratio) {valid : Ranked}
    (member : valid ∈ ranked runtimes targetRatios) (run : lastWallTimes valid.1.2 ≠ []) :
    ∃ total, total ≠ 0 ∧ ((ranked runtimes targetRatios).map fun benchmark =>
      (benchmark, rankedWeight (observed valid.1.2) benchmark / total)).Perm
        ((ranked runtimes targetRatios).zip probabilities) := by
  obtain ⟨before, behind, split⟩ := List.append_of_mem member
  have perm : (before ++ behind ++ [valid]).Perm (ranked runtimes targetRatios) := by
    rw [split, List.append_assoc]
    exact (List.perm_append_comm).append_left before |>.trans (by rfl)
  obtain ⟨others, otherRatios, aligned, isEntries, isRatios, isRanked⟩ :=
    measured.exists_order perm
  have isFactor : runtimeFactor others = observed valid.1.2 := by
    rw [runtimeFactor, isEntries, List.map_append, List.map_append]
    exact factorOf_concat run
  rw [← isRanked] at perm
  obtain ⟨measured', -, ratios⟩ := measured.rearranged aligned perm
  obtain ⟨_, computes, zipped⟩ := ignoresOrder others otherRatios aligned perm
  have divides : 0 < otherRatios.headD 0 := by
    cases otherRatios with
    | nil => exact measured'.positive
    | cons first rest => exact ratiosPos first (ratios.subset List.mem_cons_self)
  have weightsPos : ∀ weight ∈ (ranked others otherRatios).map
      (rankedWeight (runtimeFactor others)), 0 < weight := by
    refine List.forall_mem_map.mpr fun benchmark inside => ?_
    exact measured'.rankedWeight_pos inside (ratiosPos _ (ratios.subset (List.of_mem_zip inside).2))
  have nonempty := List.ne_nil_of_mem (List.mem_map_of_mem (perm.symm.subset member)
    (f := rankedWeight (runtimeFactor others)))
  rw [measured'.computes (.inl divides)] at computes
  cases computes
  rw [zip_shares, isFactor] at zipped
  rw [isFactor] at weightsPos nonempty
  exact ⟨_, (List.sum_pos _ weightsPos nonempty).ne', (perm.symm.map _).trans zipped⟩

omit measured ignoresOrder in
theorem eq_of_div_eq {dividend first second : ℚ} (nonzero : dividend ≠ 0)
    (same : dividend / first = dividend / second) : first = second := by
  rw [div_eq_mul_inv, div_eq_mul_inv] at same
  exact inv_injective (mul_left_cancel₀ nonzero same)

/-- Then the runtimes of the benchmarks that have not run are always scaled alike. -/
theorem oneFactor_of_ignoresOrder (ratiosPos : ∀ ratio ∈ targetRatios, 0 < ratio) :
    OneFactor runtimes := by
  rw [OneFactor, or_iff_not_imp_left]
  intro notAll first isFirst second isSecond firstRun secondRun
  obtain ⟨idle, isIdle, none⟩ : ∃ entry ∈ runtimes.entries, lastWallTimes entry.2 = [] := by
    by_contra noIdle
    exact notAll fun entry member none => noIdle ⟨entry, member, none⟩
  have withRatio {entry : String × List ℚ} (member : entry ∈ runtimes.entries) :
      ∃ benchmark ∈ ranked runtimes targetRatios, benchmark.1 = entry := by
    rw [← measured.ranked_fst] at member
    exact List.mem_map.mp member
  obtain ⟨idle, idleRanked, rfl⟩ := withRatio isIdle
  obtain ⟨first, firstRanked, rfl⟩ := withRatio isFirst
  obtain ⟨second, secondRanked, rfl⟩ := withRatio isSecond
  obtain ⟨total, nonzero, shares⟩ :=
    shares_of_last measured ignoresOrder ratiosPos firstRanked firstRun
  obtain ⟨total', -, shares'⟩ :=
    shares_of_last measured ignoresOrder ratiosPos secondRanked secondRun
  have same {benchmark : Ranked} (member : benchmark ∈ ranked runtimes targetRatios) :
      rankedWeight (observed first.1.2) benchmark / total =
        rankedWeight (observed second.1.2) benchmark / total' := by
    obtain ⟨other, -, isOther⟩ := List.mem_map.mp
      ((shares.trans shares'.symm).subset (List.mem_map_of_mem member))
    obtain ⟨rfl, equal⟩ := Prod.ext_iff.mp isOther
    exact equal.symm
  have nonzeroOf {benchmark : Ranked} (member : benchmark ∈ ranked runtimes targetRatios) :
      benchmark.2 ≠ 0 ∧ observed benchmark.1.2 ≠ 0 := by
    obtain ⟨isEntry, isRatio⟩ := List.of_mem_zip member
    obtain ⟨present, durations⟩ := measured.durations _ isEntry
    exact ⟨(ratiosPos _ isRatio).ne', (observed_pos present durations).ne'⟩
  -- A benchmark that has run weighs the same in both orders, so the totals are the same.
  have totals := same firstRanked
  rw [rankedWeight, rankedWeight, adjusted, adjusted, if_pos firstRun, if_pos firstRun] at totals
  have sameTotal : total = total' := eq_of_div_eq
    (div_ne_zero (nonzeroOf firstRanked).1 (nonzeroOf firstRanked).2) totals
  have weights := same idleRanked
  rw [← sameTotal, div_left_inj' nonzero, rankedWeight, rankedWeight, adjusted, adjusted,
    if_neg (not_not_intro none), if_neg (not_not_intro none)] at weights
  exact mul_left_cancel₀ (nonzeroOf idleRanked).2 (eq_of_div_eq (nonzeroOf idleRanked).1 weights)

end

/-- The target ratios are realised exactly if the first is positive, and either all observed
runtimes are `1` or so are the other ratios and no order changes the factor for benchmarks that
have not run. -/
theorem realisesTargets_iff (runtimes : Durations) (targetRatios : List ℚ)
    (aligned : targetRatios.length = runtimes.keys.length)
    (durations : ∀ entry ∈ runtimes.entries, entry.2 ≠ [] ∧ ∀ duration ∈ entry.2, 0 < duration)
    (nonneg : ∀ ratio ∈ targetRatios, 0 ≤ ratio) (positive : 0 < targetRatios.sum) :
    RealisesTargets runtimes targetRatios ↔ 0 < targetRatios.headD 0 ∧
      ((∀ ratio ∈ targetRatios, 0 < ratio) ∧ OneFactor runtimes ∨
        ∀ entry ∈ runtimes.entries, observed entry.2 = 1) := by
  have measured : Measured runtimes targetRatios := ⟨aligned, durations, nonneg, positive⟩
  have lengths : targetRatios.length =
      (runtimes.entries.map fun entry => adjusted (runtimeFactor runtimes) entry.2).length := by
    rw [List.length_map, measured.length_eq]
  constructor
  · rintro ⟨current, probabilities, adjusts, -, computes, realises, ignoresOrder⟩
    cases measured.adjusts.symm.trans adjusts
    refine ⟨headD_pos_of_generalWeights lengths nonneg positive (by rw [realises.general]; rfl), ?_⟩
    refine or_iff_not_imp_right.mpr fun notOnes => ?_
    have ratiosPos := pos_of_ignoresOrder measured ignoresOrder notOnes
    exact ⟨ratiosPos, oneFactor_of_ignoresOrder measured ignoresOrder ratiosPos⟩
  · rintro ⟨first, others⟩
    have oneFactor : OneFactor runtimes :=
      others.elim And.right fun ones => .inr fun entry member other member' _ _ =>
        (ones entry member).trans (ones other member').symm
    refine ⟨_, _, measured.adjusts, ?_, measured.computes (.inl first), ?_,
      ignoresOrder_shares measured oneFactor (others.imp_left And.left)⟩
    · rw [List.length_map, Dict.keys, List.length_map]
    · rw [ranked_map_rankedWeight]
      exact realises_shares lengths measured.runtimes_pos nonneg positive first

/-- Two benchmarks of which one has run twice. -/
def twoRuntimes : Durations := ⟨[("BM_A", [1]), ("BM_B", [4, 2, 3])], by decide⟩

theorem realisesTargets_twoRuntimes : RealisesTargets twoRuntimes [1 / 5, 4 / 5] :=
  (realisesTargets_iff twoRuntimes [1 / 5, 4 / 5] rfl (by decide +kernel) (by decide +kernel)
    (by decide +kernel)).mpr ⟨by decide +kernel, .inl ⟨by decide +kernel, .inr (by decide +kernel)⟩⟩

/-- Two benchmarks that have run, and one that has not. -/
def threeRuntimes : Durations :=
  ⟨[("BM_A", [1, 2]), ("BM_B", [1, 3]), ("BM_C", [1])], by decide⟩

/-- The same, with `BM_B` first. -/
def rearrangedRuntimes : Durations :=
  ⟨[("BM_B", [1, 3]), ("BM_A", [1, 2]), ("BM_C", [1])], by decide⟩

/-- With the target ratio `0` in the second place there are probabilities, in the first there are
none. With equal ratios, the probabilities depend on which benchmark has run last. -/
theorem not_realisesTargets :
    (computeBenchmarkWeights twoRuntimes [1, 0] = some [1, 0] ∧
      computeBenchmarkWeights twoRuntimes [0, 1] = none ∧
      ¬ RealisesTargets twoRuntimes [0, 1]) ∧
    computeBenchmarkWeights threeRuntimes [1, 1, 1] = some [3 / 7, 2 / 7, 2 / 7] ∧
      computeBenchmarkWeights rearrangedRuntimes [1, 1, 1] = some [1 / 4, 3 / 8, 3 / 8] ∧
      ¬ RealisesTargets threeRuntimes [1, 1, 1] := by
  have none : computeBenchmarkWeights twoRuntimes [0, 1] = none := by decide +kernel
  have three : computeBenchmarkWeights threeRuntimes [1, 1, 1] = some [3 / 7, 2 / 7, 2 / 7] := by
    decide +kernel
  have rearranged :
      computeBenchmarkWeights rearrangedRuntimes [1, 1, 1] = some [1 / 4, 3 / 8, 3 / 8] := by
    decide +kernel
  refine ⟨⟨by decide +kernel, none, ?_⟩, three, rearranged, ?_⟩
  · rintro ⟨currentRuntimes, probabilities, -, -, computes, -⟩
    cases none.symm.trans computes
  · rintro ⟨currentRuntimes, probabilities, -, -, computes, -, ignoresOrder⟩
    cases three.symm.trans computes
    obtain ⟨others, computes', perm⟩ :=
      ignoresOrder rearrangedRuntimes [1, 1, 1] rfl (by decide +kernel)
    cases rearranged.symm.trans computes'
    exact absurd perm (by decide +kernel)

end Fleetbench.Parallel
