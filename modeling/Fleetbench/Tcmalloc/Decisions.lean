/-
This file models how the recording decides, in exact arithmetic: the rates that
the constructor computes from its entries, and the draws of `RecordNext`. The
sampler's weights follow the live objects, so a death is drawn for a class that
has one; the only exception is the draw of the value 0, which takes class 0.
-/

import Fleetbench.Library.Transition
import Fleetbench.Tcmalloc.Empirical
import Fleetbench.Tcmalloc.Sampling
import Mathlib.Algebra.Order.Field.Basic
import Mathlib.Algebra.Order.Field.Rat

namespace Fleetbench.Tcmalloc

open Library

variable {Weight : Type}

/-! ### Rates -/

structure Entry (Weight : Type) where
  size : Nat
  allocRate : Weight
  numLive : Weight

section Rates

variable [Field Weight]

/-- The average count of an entry in a heap of `totalMem` bytes. -/
def avgCount (entries : List (Entry Weight)) (totalMem : Nat) (w : Entry Weight) : Weight :=
  let total := (entries.map fun w => w.numLive * (w.size : Weight)).sum
  let scale := (totalMem : Weight) / total
  w.numLive * scale

def deathRate (entries : List (Entry Weight)) (totalMem : Nat) (w : Entry Weight) : Weight :=
  let lifespan := avgCount entries totalMem w / w.allocRate
  1 / lifespan

def totalBirthRate (entries : List (Entry Weight)) : Weight :=
  (entries.map Entry.allocRate).sum

/-- The constructor, from its entries and the classes drawn by the warm-up loop. -/
def constructFrom (alloc : Allocator) (entries : List (Entry Weight)) (totalMem : Nat)
    (draws : List Nat) : Option (EmpiricalData Weight × List Call) :=
  construct alloc (entries.map fun w => (w.size, deathRate entries totalMem w)) draws

end Rates

/-! ### Draws -/

/-- What one call of `RecordNext` draws: the value that decides between birth and death, the class
of a birth, the value that decides on the class of a death, and the index of the dying object. -/
structure Draws (Weight : Type) where
  which : Weight
  birth : Nat
  death : Weight
  toFree : Nat

/-- The decision of `RecordNext`. -/
def EmpiricalData.decide [Zero Weight] [Sub Weight] [LinearOrder Weight] (birthRate : Weight)
    (data : EmpiricalData Weight) (draws : Draws Weight) : RecordEvent :=
  if draws.which < birthRate then .birth draws.birth
  else .death (data.deathSampler.sampleWeight draws.death) draws.toFree

/-- The class exists and has a live object. -/
def EmpiricalData.HasLive (data : EmpiricalData Weight) (i : Nat) : Prop :=
  ∃ s, data.state[i]? = some s ∧ s.objs ≠ []

/-- The draws are from the ranges of their distributions. A value that is not drawn is free. -/
structure Draws.Admissible [Zero Weight] [Add Weight] [Sub Weight] [LinearOrder Weight]
    (birthRate : Weight) (data : EmpiricalData Weight) (draws : Draws Weight) : Prop where
  which : 0 ≤ draws.which ∧ draws.which < birthRate + data.deathSampler.totalWeight
  birth : draws.which < birthRate → draws.birth < data.state.length
  death : birthRate ≤ draws.which →
    0 ≤ draws.death ∧ draws.death < data.deathSampler.totalWeight
  toFree : ∀ s, data.state[data.deathSampler.sampleWeight draws.death]? = some s →
    birthRate ≤ draws.which → s.objs ≠ [] → draws.toFree < s.objs.length

/-- One call of `RecordNext`. -/
def Recorded [Zero Weight] [Add Weight] [Neg Weight] [Sub Weight] [LinearOrder Weight]
    (birthRate : Weight) (before after : EmpiricalData Weight) : Prop :=
  ∃ draws : Draws Weight, draws.Admissible birthRate before ∧
    recordNext before (before.decide birthRate draws) = some after

/-! ### The weights of the sampler -/

/-- The rate at which the objects of a class die. -/
def SizeState.weight [AddCommMonoid Weight] (s : SizeState Weight) : Weight :=
  s.objs.length • s.deathRate

section Weighted

variable [AddCommGroup Weight] {rates : List Weight} {data next : EmpiricalData Weight}

/-- The death sampler holds the rates at which the classes lose objects. -/
structure Weighted (rates : List Weight) (data : EmpiricalData Weight) : Prop where
  holds : data.deathSampler.Holds (data.state.map SizeState.weight)
  rates : data.state.map SizeState.deathRate = rates

/-- A class changes its number of objects and the sampler the weight of the class. -/
theorem Weighted.adjusted (weighted : Weighted rates data) {i : Nat} {s s' : SizeState Weight}
    {delta : Weight} (found : data.state[i]? = some s)
    (state : next.state = data.state.set i s')
    (sampler : next.deathSampler = data.deathSampler.adjustWeight i delta)
    (rate : s'.deathRate = s.deathRate) (weight : s'.weight = s.weight + delta) :
    Weighted rates next where
  holds := by
    have inside : i < (data.state.map SizeState.weight).length := by
      rw [List.length_map]
      exact (List.getElem?_eq_some_iff.mp found).1
    have adjusted : (data.deathSampler.update (.adjust i delta)).Holds
        ((AdjustableSampler.Update.adjust i delta).onWeights
          (data.state.map SizeState.weight)) := weighted.holds.update inside
    have before : (data.state.map SizeState.weight).getD i 0 = s.weight := by
      rw [List.getD_eq_getElem?_getD, List.getElem?_map, found]
      rfl
    have after : (AdjustableSampler.Update.adjust i delta).onWeights
        (data.state.map SizeState.weight) = next.state.map SizeState.weight := by
      show (data.state.map SizeState.weight).set i _ = _
      rw [state, List.map_set, before, weight]
    rw [after] at adjusted
    rw [sampler]
    exact adjusted
  rates := by
    rw [state, List.map_set, rate, ← weighted.rates]
    exact set_of_getElem? (by rw [List.getElem?_map, found]; rfl)

theorem weight_concat (s : SizeState Weight) (p : Ptr) (indices : List ObjectIndex) :
    ({ s with objs := s.objs ++ [p], objsIndicesAfterRecording := indices } :
      SizeState Weight).weight = s.weight + s.deathRate := by
  unfold SizeState.weight
  rw [List.length_append, List.length_singleton, succ_nsmul]

theorem recordBirth_weighted (weighted : Weighted rates data) {i : Nat}
    (recorded : recordBirth i data = some next) : Weighted rates next := by
  simp only [recordBirth, Option.bind_eq_bind, Option.bind_eq_some_iff, Option.pure_def,
    Option.some.injEq] at recorded
  obtain ⟨s, found, rfl⟩ := recorded
  exact weighted.adjusted found rfl rfl rfl (weight_concat s _ _)

theorem recordDeath_weighted (weighted : Weighted rates data) {i toFree : Nat}
    (recorded : recordDeath i toFree data = some next) : Weighted rates next := by
  simp only [recordDeath, Option.bind_eq_bind, Option.bind_eq_some_iff, Option.pure_def,
    Option.some.injEq] at recorded
  obtain ⟨s, found, _, live, _, _, index, _, rfl⟩ := recorded
  refine weighted.adjusted found rfl rfl rfl ?_
  have positive : 0 < s.objs.length := List.length_pos_iff.mpr ((Option.guard_eq_some' _).mp live)
  unfold SizeState.weight
  rw [length_swapRemove]
  obtain ⟨rest, count⟩ := Nat.exists_eq_succ_of_ne_zero positive.ne'
  rw [count, Nat.succ_sub_one, succ_nsmul, add_neg_cancel_right]

theorem recordNext_weighted (weighted : Weighted rates data) {event : RecordEvent}
    (recorded : recordNext data event = some next) : Weighted rates next := by
  cases event with
  | birth i => exact recordBirth_weighted weighted recorded
  | death i toFree => exact recordDeath_weighted weighted recorded

theorem doBirth_weighted (weighted : Weighted rates data) {alloc : Allocator} {i : Nat}
    {calls nextCalls : List Call} (born : doBirth alloc i data calls = some (next, nextCalls)) :
    Weighted rates next := by
  simp only [doBirth, Option.bind_eq_bind, Option.bind_eq_some_iff, Option.pure_def,
    Option.some.injEq, Prod.mk.injEq] at born
  obtain ⟨s, found, rfl, -⟩ := born
  exact weighted.adjusted found rfl rfl rfl (weight_concat s _ _)

theorem doBirths_weighted (weighted : Weighted rates data) {alloc : Allocator} {draws : List Nat}
    {calls nextCalls : List Call}
    (born : doBirths alloc draws data calls = some (next, nextCalls)) : Weighted rates next := by
  induction draws generalizing data calls with
  | nil =>
    cases born
    exact weighted
  | cons i rest inductionHypothesis =>
    obtain ⟨⟨between, calls'⟩, first, others⟩ := Option.bind_eq_some_iff.mp born
    exact inductionHypothesis (doBirth_weighted weighted first) others

theorem construct_weighted {alloc : Allocator} {weights : List (Nat × Weight)} {draws : List Nat}
    {calls : List Call} (constructed : construct alloc weights draws = some (data, calls)) :
    Weighted (weights.map Prod.snd) data := by
  obtain ⟨deathSampler, sized, constructed⟩ := Option.bind_eq_some_iff.mp constructed
  obtain ⟨⟨warm, calls'⟩, born, constructed⟩ := Option.bind_eq_some_iff.mp constructed
  cases constructed
  have inhabited : 1 ≤ weights.length := by
    by_contra empty
    rw [AdjustableSampler.ofSize, if_neg empty] at sized
    cases sized
  obtain ⟨deathSampler', sized', holds⟩ : ∃ sampler : AdjustableSampler Weight,
      AdjustableSampler.ofSize weights.length = some sampler ∧
        sampler.Holds (List.replicate weights.length 0) :=
    AdjustableSampler.holds_ofSize inhabited
  cases sized.symm.trans sized'
  have empty : Weighted (weights.map Prod.snd)
      { state := weights.map fun w => { size := w.1, deathRate := w.2, objs := [] }
        deathSampler } := by
    refine ⟨?_, ?_⟩
    · have zeros : (weights.map fun w =>
          ({ size := w.1, deathRate := w.2, objs := [] } : SizeState Weight)).map
            SizeState.weight = List.replicate weights.length 0 := by
        rw [List.map_map, List.eq_replicate_iff]
        refine ⟨List.length_map _, fun weight member => ?_⟩
        obtain ⟨w, -, same⟩ := List.mem_map.mp member
        exact same.symm.trans (zero_nsmul _)
      exact zeros.symm ▸ holds
    · exact List.map_map
  have weighted := doBirths_weighted empty born
  refine ⟨?_, ?_⟩
  · have same : (warm.state.map fun s => ({ s with
        objsIndicesAfterRecording := s.objsIndicesAfterRecording ++
          (List.range s.objs.length).map fun i => ⟨false, i⟩ } : SizeState Weight)).map
            SizeState.weight = warm.state.map SizeState.weight := List.map_map
    exact same.symm ▸ weighted.holds
  · exact List.map_map.trans weighted.rates

theorem recorded_weighted [LinearOrder Weight] {birthRate : Weight}
    (weighted : Weighted rates data) (recorded : Recorded birthRate data next) :
    Weighted rates next := by
  obtain ⟨draws, -, recorded⟩ := recorded
  exact recordNext_weighted weighted recorded

end Weighted

/-! ### The class of a death -/

section Exact

variable [Field Weight] [LinearOrder Weight] [IsStrictOrderedRing Weight]
  {entries : List (Entry Weight)} {data : EmpiricalData Weight}

/-- Sizes, rates and live counts are positive. -/
def PositiveEntries (entries : List (Entry Weight)) : Prop :=
  ∀ w ∈ entries, 0 < w.size ∧ 0 < w.allocRate ∧ 0 < w.numLive

theorem deathRate_nonneg (positive : PositiveEntries entries) (totalMem : Nat) {w : Entry Weight}
    (member : w ∈ entries) : 0 ≤ deathRate entries totalMem w := by
  obtain ⟨-, rate, live⟩ := positive w member
  have total : 0 ≤ (entries.map fun w => w.numLive * (w.size : Weight)).sum := by
    refine List.sum_nonneg fun share at_ => ?_
    obtain ⟨other, member', rfl⟩ := List.mem_map.mp at_
    exact mul_nonneg (positive other member').2.2.le (Nat.cast_nonneg _)
  have scale := div_nonneg (Nat.cast_nonneg (α := Weight) totalMem) total
  exact div_nonneg zero_le_one (div_nonneg (mul_nonneg live.le scale) rate.le)

theorem weights_nonneg (rates : ∀ rate ∈ data.state.map SizeState.deathRate, 0 ≤ rate) :
    ∀ weight ∈ data.state.map SizeState.weight, 0 ≤ weight := by
  intro weight member
  obtain ⟨s, inside, rfl⟩ := List.mem_map.mp member
  exact nsmul_nonneg (rates _ (List.mem_map_of_mem inside)) _

omit [IsStrictOrderedRing Weight] in
/-- A class of positive weight has a live object. -/
theorem hasLive_of_weight {i : Nat}
    (positive : 0 < (data.state.map SizeState.weight).getD i 0) : data.HasLive i := by
  rw [List.getD_eq_getElem?_getD, List.getElem?_map] at positive
  cases found : data.state[i]? with
  | none =>
    rw [found] at positive
    exact absurd positive (lt_irrefl 0)
  | some s =>
    rw [found] at positive
    refine ⟨s, found, fun empty => ?_⟩
    have weight : s.weight = 0 := by
      rw [SizeState.weight, empty, List.length_nil, zero_nsmul]
    have positive' : 0 < s.weight := positive
    rw [weight] at positive'
    exact absurd positive' (lt_irrefl 0)

/-- In every recording the sampler's weights follow the live objects, and a death is drawn for a
class with a live object exactly if it is drawn with a value other than 0 or class 0 has one. -/
theorem deathClass_hasLive_iff (alloc : Allocator) (totalMem : Nat) (population : List Nat)
    {start : EmpiricalData Weight} {calls : List Call} (positive : PositiveEntries entries)
    (constructed : constructFrom alloc entries totalMem population = some (start, calls))
    (run : Relation.ReflTransGen (Recorded (totalBirthRate entries)) start data) :
    data.state.map SizeState.deathRate = entries.map (deathRate entries totalMem) ∧
      (∀ i s, data.state[i]? = some s →
        data.deathSampler.weight i = s.deathRate * (s.objs.length : Weight)) ∧
      (∀ i, data.state.length ≤ i → data.deathSampler.weight i = 0) ∧
      ∀ draws : Draws Weight, draws.Admissible (totalBirthRate entries) data →
        totalBirthRate entries ≤ draws.which →
          (data.HasLive (data.deathSampler.sampleWeight draws.death) ↔
            draws.death ≠ 0 ∨ data.HasLive 0) := by
  have weighted : Weighted (entries.map (deathRate entries totalMem)) data := by
    refine reachable_invariant ?_ (fun _ _ => recorded_weighted) run
    have started := construct_weighted constructed
    rwa [List.map_map] at started
  have nonnegative : ∀ weight ∈ data.state.map SizeState.weight, 0 ≤ weight := by
    refine weights_nonneg fun rate member => ?_
    rw [weighted.rates] at member
    obtain ⟨w, inside, rfl⟩ := List.mem_map.mp member
    exact deathRate_nonneg positive totalMem inside
  refine ⟨weighted.rates, fun i s found => ?_, fun i outside => ?_, fun draws admissible dies => ?_⟩
  · rw [weighted.holds.weight, List.getD_eq_getElem?_getD, List.getElem?_map, found]
    exact (nsmul_eq_mul _ _).trans (mul_comm _ _)
  · rw [weighted.holds.weight, List.getD_eq_default]
    rwa [List.length_map]
  · obtain ⟨low, high⟩ := admissible.death dies
    by_cases zero : draws.death = 0
    · rw [zero, weighted.holds.sampleWeight_zero nonnegative]
      exact (or_iff_right fun different => different rfl).symm
    · obtain ⟨-, found, -⟩ :=
        weighted.holds.sampleWeight (lt_of_le_of_ne low (Ne.symm zero)) high.le
      exact ⟨fun _ => Or.inl zero, fun _ => hasLive_of_weight found⟩

end Exact

/-! ### A heap with one object, in class 1 -/

/-- Two classes of the same size and rates. -/
def twoEntries : List (Entry ℚ) :=
  [⟨8, 1, 1⟩, ⟨8, 1, 1⟩]

theorem positiveEntries_twoEntries : PositiveEntries twoEntries := by
  unfold PositiveEntries
  decide +kernel

/-- A heap of 8 bytes, for which the warm-up draws class 1 once. -/
theorem construct_twoEntries :
    ∃ start calls, constructFrom (fun _ _ => 1) twoEntries 8 [1] = some (start, calls) ∧
      start.deathSampler.totalWeight = 2 ∧ start.deathSampler.sampleWeight 0 = 0 ∧
      start.deathSampler.sampleWeight 1 = 1 ∧ start.state.map SizeState.objs = [[], [1]] := by
  have evaluated : (constructFrom (fun _ _ => 1) twoEntries 8 [1]).map (fun result =>
      (result.1.deathSampler.totalWeight, result.1.deathSampler.sampleWeight 0,
        result.1.deathSampler.sampleWeight 1, result.1.state.map SizeState.objs)) =
      some (2, 0, 1, [[], [1]]) := by
    decide +kernel
  obtain ⟨⟨start, calls⟩, constructed, values⟩ := Option.map_eq_some_iff.mp evaluated
  simp only [Prod.mk.injEq] at values
  exact ⟨start, calls, constructed, values⟩

/-- The draws of a death, of the value `death` for its class. -/
def dying (death : ℚ) : Draws ℚ :=
  ⟨2, 0, death, 0⟩

theorem totalBirthRate_twoEntries : totalBirthRate twoEntries = 2 := by
  decide +kernel

theorem admissible_dying {data : EmpiricalData ℚ} {death : ℚ}
    (total : data.deathSampler.totalWeight = 2) (low : 0 ≤ death) (high : death < 2) :
    (dying death).Admissible (totalBirthRate twoEntries) data where
  which := by
    rw [total, totalBirthRate_twoEntries]
    exact ⟨show (0 : ℚ) ≤ 2 by decide +kernel, show (2 : ℚ) < 2 + 2 by decide +kernel⟩
  birth born := absurd born (by rw [totalBirthRate_twoEntries]; exact lt_irrefl (2 : ℚ))
  death _ := ⟨low, total.symm ▸ high⟩
  toFree _ _ _ live := List.length_pos_iff.mpr live

theorem deathClass_hasLive_twoEntries :
    ∃ start calls, constructFrom (fun _ _ => 1) twoEntries 8 [1] = some (start, calls) ∧
      start.HasLive (start.deathSampler.sampleWeight 1) := by
  obtain ⟨start, calls, constructed, total, -⟩ := construct_twoEntries
  have one : (0 : ℚ) ≤ 1 ∧ (1 : ℚ) < 2 ∧ (1 : ℚ) ≠ 0 := by decide +kernel
  refine ⟨start, calls, constructed, ?_⟩
  exact ((deathClass_hasLive_iff _ 8 [1] positiveEntries_twoEntries constructed .refl).2.2.2
    (dying 1) (admissible_dying total one.1 one.2.1) totalBirthRate_twoEntries.le).mpr
    (Or.inl one.2.2)

/-- Drawn with the value 0, the death is one of class 0, which has no object: the recording
aborts. -/
theorem not_hasLive_drawnZero :
    ∃ start calls, ∃ draws : Draws ℚ, PositiveEntries twoEntries ∧
      constructFrom (fun _ _ => 1) twoEntries 8 [1] = some (start, calls) ∧
      draws.Admissible (totalBirthRate twoEntries) start ∧
      totalBirthRate twoEntries ≤ draws.which ∧
      start.decide (totalBirthRate twoEntries) draws = .death 0 0 ∧
      ¬ start.HasLive (start.deathSampler.sampleWeight draws.death) ∧
      recordNext start (start.decide (totalBirthRate twoEntries) draws) = none := by
  obtain ⟨start, calls, constructed, total, zero, -, objs⟩ := construct_twoEntries
  have low : (0 : ℚ) ≤ 0 ∧ (0 : ℚ) < 2 := by decide +kernel
  have noBirth : ¬ (dying 0).which < totalBirthRate twoEntries := by
    rw [totalBirthRate_twoEntries]
    exact lt_irrefl (2 : ℚ)
  have decided : start.decide (totalBirthRate twoEntries) (dying 0) = .death 0 0 := by
    rw [EmpiricalData.decide, if_neg noBirth]
    exact congrArg (RecordEvent.death · 0) zero
  have empty (s : SizeState ℚ) (found : start.state[0]? = some s) : s.objs = [] := by
    have both : (start.state.map SizeState.objs)[0]? = some s.objs := by
      rw [List.getElem?_map, found]
      rfl
    rw [objs] at both
    exact (Option.some.inj both).symm
  refine ⟨start, calls, dying 0, positiveEntries_twoEntries, constructed,
    admissible_dying total low.1 low.2, totalBirthRate_twoEntries.le, decided, ?_, ?_⟩
  · rintro ⟨s, found, live⟩
    have first : start.deathSampler.sampleWeight (dying 0).death = 0 := zero
    rw [first] at found
    exact live (empty s found)
  · rw [decided]
    show recordDeath 0 0 start = none
    unfold recordDeath
    cases found : start.state[0]? with
    | none => rfl
    | some s =>
      have dead : guard (s.objs ≠ []) = (none : Option Unit) :=
        if_neg fun live => live (empty s found)
      simp only [Option.bind_eq_bind, Option.bind_some, dead, Option.bind_none]

end Fleetbench.Tcmalloc
