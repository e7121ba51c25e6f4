/-
This file models `_SelectNextBenchmarks` and proves when the benchmarks that are
selected first are all of them. A flag asks for that once. It has no effect if
exactly as many benchmarks are wanted as there are.

What `numpy.random.choice` draws is a parameter: names whose probability is not
zero.
-/

import Fleetbench.Parallel.Run
import Fleetbench.Library.Dict
import Fleetbench.Library.Traverse
import Mathlib.Algebra.Field.Rat
import Mathlib.Algebra.Order.Field.Rat
import Mathlib.Algebra.BigOperators.Group.List.Basic

namespace Fleetbench.Parallel

open Library

/-! ### Calls -/

/-- A call: its argument, the probabilities of the benchmarks at this moment, and what is drawn for
a `size`. -/
structure SelectionCall where
  count : Int
  probabilities : List ℚ
  choose : Nat → List String

/-- The probabilities are a distribution on the benchmarks, and the draws are from it. -/
structure SelectionCall.Valid (benchmarks : Dict String Benchmark) (call : SelectionCall) :
    Prop where
  aligned : call.probabilities.length = benchmarks.keys.length
  nonneg : ∀ probability ∈ call.probabilities, 0 ≤ probability
  total : call.probabilities.sum = 1
  length : ∀ size, (call.choose size).length = size
  drawn : ∀ size, ∀ name ∈ call.choose size, ∃ probability,
    0 < probability ∧ (name, probability) ∈ benchmarks.keys.zip call.probabilities

/-- `_SelectNextBenchmarks`: the benchmarks, and `self.first_run` behind the call. The keys of
`self.runtimes` are those of `self.benchmarks`. -/
def selectNextBenchmarks (benchmarks : Dict String Benchmark) (firstRun : Bool)
    (call : SelectionCall) : Option (List Benchmark × Bool) :=
  if call.count ≤ 0 then some ([], firstRun)
  else if firstRun ∧ call.count > benchmarks.values.length then do
    let count := call.count - benchmarks.values.length
    let selected ← (call.choose count.toNat).mapM benchmarks.get?
    return (benchmarks.values ++ selected, false)
  else do
    let selected ← (call.choose call.count.toNat).mapM benchmarks.get?
    return (selected, false)

/-- What a call has done. -/
structure Selection where
  count : Int
  before : Bool
  result : List Benchmark
  after : Bool
  deriving DecidableEq, Repr

/-- Calls one after the other. -/
def selectAll (benchmarks : Dict String Benchmark) :
    Bool → List SelectionCall → Option (List Selection)
  | _, [] => some []
  | firstRun, call :: rest => do
    let (result, next) ← selectNextBenchmarks benchmarks firstRun call
    let others ← selectAll benchmarks next rest
    return ⟨call.count, firstRun, result, next⟩ :: others

/-! ### What a call returns -/

/-- A call returns known benchmarks, as many as it should, and changes nothing if these are none. -/
structure Selection.Sound (benchmarks : Dict String Benchmark) (selection : Selection) : Prop where
  length : selection.result.length = selection.count.toNat
  known : ∀ benchmark ∈ selection.result, benchmark ∈ benchmarks.values
  unchanged : selection.count ≤ 0 → selection.after = selection.before

/-- Every benchmark is among those of the call. -/
def Selection.Covers (benchmarks : Dict String Benchmark) (selection : Selection) : Prop :=
  ∀ benchmark ∈ benchmarks.values, benchmark ∈ selection.result

section

variable {benchmarks : Dict String Benchmark} {call : SelectionCall} {firstRun : Bool}
  (valid : call.Valid benchmarks)

include valid

theorem mapM_choose (size : Nat) : ∃ selected,
    (call.choose size).mapM benchmarks.get? = some selected ∧ selected.length = size ∧
      ∀ benchmark ∈ selected, benchmark ∈ benchmarks.values := by
  obtain ⟨selected, found⟩ : ∃ selected,
      (call.choose size).mapM benchmarks.get? = some selected := by
    refine mapM_isSome_iff.mpr fun name drawn => Dict.get?_isSome_iff.mpr ?_
    obtain ⟨probability, -, member⟩ := valid.drawn size name drawn
    exact (List.of_mem_zip member).1
  have related := mapM_eq_some_iff.mp found
  refine ⟨selected, found, related.length_eq.symm.trans (valid.length size), ?_⟩
  intro benchmark member
  obtain ⟨name, -, isEntry⟩ := exists_of_forall₂ (List.Forall₂.flip related) member
  exact List.mem_map_of_mem (Dict.get?_eq_some_iff.mp isEntry)

/-- A call returns, and covers the benchmarks if it is the first and wants more than there are. -/
theorem selectNextBenchmarks_sound : ∃ result next,
    selectNextBenchmarks benchmarks firstRun call = some (result, next) ∧
      Selection.Sound benchmarks ⟨call.count, firstRun, result, next⟩ ∧
      next = (firstRun && decide (call.count ≤ 0)) ∧
      (firstRun = true → benchmarks.values.length < call.count →
        Selection.Covers benchmarks ⟨call.count, firstRun, result, next⟩) := by
  rw [selectNextBenchmarks]
  by_cases nothing : call.count ≤ 0
  · rw [if_pos nothing]
    refine ⟨[], firstRun, rfl, ⟨?_, fun _ member => (nomatch member), fun _ => rfl⟩, ?_,
      fun _ more => absurd more (by omega)⟩
    · exact (Int.toNat_of_nonpos nothing).symm
    · rw [decide_eq_true nothing, Bool.and_true]
  · rw [if_neg nothing, decide_eq_false nothing, Bool.and_false]
    split
    · rename_i more
      obtain ⟨selected, found, length, known⟩ :=
        mapM_choose valid (call.count - benchmarks.values.length).toNat
      dsimp only
      rw [found]
      refine ⟨_, _, rfl, ⟨?_, ?_, fun none => absurd none nothing⟩, rfl, fun _ _ => ?_⟩
      · show (benchmarks.values ++ selected).length = call.count.toNat
        rw [List.length_append, length]
        omega
      · exact List.forall_mem_append.mpr ⟨fun _ member => member, known⟩
      · exact fun benchmark member => List.mem_append_left _ member
    · rename_i few
      obtain ⟨selected, found, length, known⟩ := mapM_choose valid call.count.toNat
      rw [found]
      exact ⟨_, _, rfl, ⟨length, known, fun none => absurd none nothing⟩, rfl,
        fun first more => absurd ⟨first, more⟩ few⟩

end

/-- If there is one benchmark only, every call that wants some covers it. -/
theorem Selection.Sound.covers {benchmarks : Dict String Benchmark} {selection : Selection}
    (sound : selection.Sound benchmarks)
    (wanted : 0 < selection.count) (single : benchmarks.values.length = 1) :
    selection.Covers benchmarks := by
  obtain ⟨only, isOnly⟩ := List.length_eq_one_iff.mp single
  obtain ⟨first, member⟩ : ∃ first, first ∈ selection.result := by
    refine List.exists_mem_of_length_pos ?_
    rw [sound.length]
    omega
  have isFirst := sound.known first member
  rw [isOnly, List.mem_singleton] at isFirst
  intro benchmark inside
  rw [isOnly, List.mem_singleton] at inside
  rw [inside, ← isFirst]
  exact member

/-! ### Runs -/

section

variable {benchmarks : Dict String Benchmark} {calls : List SelectionCall} {firstRun : Bool}

theorem mem_selectAll {selections : List Selection}
    (runs : selectAll benchmarks firstRun calls = some selections) :
    ∀ selection ∈ selections, ∃ call ∈ calls, call.count = selection.count ∧
      selectNextBenchmarks benchmarks selection.before call =
        some (selection.result, selection.after) := by
  induction calls generalizing firstRun selections with
  | nil =>
    cases runs
    intro benchmark member
    cases member
  | cons call rest inductionHypothesis =>
    rw [selectAll] at runs
    obtain ⟨⟨result, next⟩, first, runs⟩ := Option.bind_eq_some_iff.mp runs
    obtain ⟨others, later, runs⟩ := Option.bind_eq_some_iff.mp runs
    cases runs
    refine List.forall_mem_cons.mpr ⟨⟨call, List.mem_cons_self, rfl, first⟩, fun other member => ?_⟩
    obtain ⟨call', inRest, steps⟩ := inductionHypothesis later other member
    exact ⟨call', List.mem_cons_of_mem _ inRest, steps⟩

/-- Every run returns, each of its calls is sound, and the first that wants some covers the
benchmarks if it wants more than there are. -/
theorem selectAll_sound (valid : ∀ call ∈ calls, call.Valid benchmarks) : ∃ selections,
    selectAll benchmarks firstRun calls = some selections ∧
      selections.map (·.count) = calls.map (·.count) ∧
      (∀ selection ∈ selections, selection.Sound benchmarks) ∧
      (firstRun = true → ∀ selection,
        selections.find? (fun selection => 0 < selection.count) = some selection →
        benchmarks.values.length < selection.count → selection.Covers benchmarks) := by
  induction calls generalizing firstRun with
  | nil => exact ⟨[], rfl, rfl, fun _ member => (nomatch member), fun _ _ none => nomatch none⟩
  | cons call rest inductionHypothesis =>
    obtain ⟨callValid, restValid⟩ := List.forall_mem_cons.mp valid
    obtain ⟨result, next, called, sound, isNext, covers⟩ :=
      @selectNextBenchmarks_sound _ _ firstRun callValid
    obtain ⟨others, runs, counts, areSound, laterCovers⟩ :=
      @inductionHypothesis next restValid
    refine ⟨⟨call.count, firstRun, result, next⟩ :: others, ?_, ?_,
      List.forall_mem_cons.mpr ⟨sound, areSound⟩, fun first selection found more => ?_⟩
    · rw [selectAll, called, Option.bind_eq_bind, Option.bind_some]
      dsimp only
      rw [runs]
      rfl
    · rw [List.map_cons, List.map_cons, counts]
    · rw [List.find?_cons] at found
      dsimp only at found
      by_cases wanted : 0 < call.count
      · rw [decide_eq_true wanted] at found
        cases found
        exact covers first more
      · rw [decide_eq_false wanted] at found
        refine laterCovers ?_ selection found more
        rw [isNext, first, decide_eq_true (not_lt.mp wanted)]
        rfl

end

/-- All calls are sound, and the first that wants as many as there are covers the benchmarks. -/
structure CoversFirst (benchmarks : Dict String Benchmark) (selections : List Selection) :
    Prop where
  sound : ∀ selection ∈ selections, selection.Sound benchmarks
  covers : ∀ selection, selections.find? (fun selection => 0 < selection.count) = some selection →
    benchmarks.values.length ≤ selection.count → selection.Covers benchmarks

/-- This is so for all calls with these arguments, whatever is drawn. -/
def AlwaysCoversFirst (benchmarks : Dict String Benchmark) (counts : List Int) : Prop :=
  ∀ calls : List SelectionCall, calls.map (·.count) = counts →
    (∀ call ∈ calls, call.Valid benchmarks) →
    ∃ selections, selectAll benchmarks true calls = some selections ∧
      CoversFirst benchmarks selections

/-- A call that draws one benchmark again and again. -/
def constantCall (benchmarks : Dict String Benchmark) (name : String) (count : Int) :
    SelectionCall where
  count := count
  probabilities := 1 :: List.replicate (benchmarks.keys.length - 1) 0
  choose size := List.replicate size name

theorem constantCall_valid {benchmarks : Dict String Benchmark} {name : String}
    {others : List String} (keys : benchmarks.keys = name :: others) (count : Int) :
    (constantCall benchmarks name count).Valid benchmarks := by
  have length : benchmarks.keys.length = others.length + 1 := by
    rw [keys, List.length_cons]
  refine ⟨?_, ?_, ?_, fun size => List.length_replicate, fun size other drawn => ?_⟩
  · show (1 :: List.replicate _ _ : List ℚ).length = _
    rw [List.length_cons, List.length_replicate, length, Nat.add_sub_cancel]
  · refine List.forall_mem_cons.mpr ⟨zero_le_one, fun probability member => ?_⟩
    rw [List.eq_of_mem_replicate member]
  · show (1 :: List.replicate _ _ : List ℚ).sum = 1
    rw [List.sum_cons, List.sum_replicate, nsmul_eq_mul, mul_zero, add_zero]
  · rw [List.eq_of_mem_replicate drawn, keys]
    exact ⟨1, zero_lt_one, List.mem_cons_self⟩

/-- Constant calls that want at most as many as there are return one benchmark only. -/
theorem eq_of_mem_constantCall {benchmarks : Dict String Benchmark} {name : String}
    {count : Int} {firstRun next : Bool} {result : List Benchmark}
    (few : count ≤ benchmarks.values.length)
    (called : selectNextBenchmarks benchmarks firstRun (constantCall benchmarks name count) =
      some (result, next)) :
    ∀ benchmark ∈ result, benchmarks.get? name = some benchmark := by
  rw [selectNextBenchmarks] at called
  split at called
  · cases called
    intro benchmark member
    cases member
  · split at called
    · rename_i more
      exact absurd more.2 (not_lt_of_ge few)
    · obtain ⟨selected, found, called⟩ := Option.bind_eq_some_iff.mp called
      cases called
      intro benchmark member
      obtain ⟨other, drawn, isEntry⟩ :=
        exists_of_forall₂ (List.Forall₂.flip (mapM_eq_some_iff.mp found)) member
      rwa [List.eq_of_mem_replicate drawn] at isEntry

section

variable {benchmarks : Dict String Benchmark} {selections : List Selection}
  {selection : Selection}

theorem find?_counts
    (isFirst : selections.find? (fun selection => 0 < selection.count) = some selection) :
    (selections.map (·.count)).find? (0 < ·) = some selection.count := by
  rw [List.find?_map]
  exact congrArg (Option.map (·.count)) isFirst

theorem exists_first {count : Int}
    (isFirst : (selections.map (·.count)).find? (0 < ·) = some count) : ∃ selection,
      selections.find? (fun selection => 0 < selection.count) = some selection ∧
        selection.count = count := by
  rw [List.find?_map] at isFirst
  exact Option.map_eq_some_iff.mp isFirst

/-- What calls that draw one benchmark again and again select first covers the benchmarks only if
there is no other, or more are wanted than there are. -/
theorem single_of_covers {name : String} {counts : List Int} (distinct : benchmarks.values.Nodup)
    (runs : selectAll benchmarks true (counts.map (constantCall benchmarks name)) =
      some selections)
    (member : selection ∈ selections) (few : selection.count ≤ benchmarks.values.length)
    (covers : selection.Covers benchmarks) : benchmarks.values.length ≤ 1 := by
  obtain ⟨call, isCall, isCount, called⟩ := mem_selectAll runs selection member
  obtain ⟨count, -, rfl⟩ := List.mem_map.mp isCall
  have drawn := eq_of_mem_constantCall (isCount.le.trans few) called
  by_contra several
  have apart := List.nodup_iff_getElem?_ne_getElem?.mp distinct 0 1 zero_lt_one (by omega)
  rw [List.getElem?_eq_getElem (by omega), List.getElem?_eq_getElem (by omega)] at apart
  apply apart
  rw [← drawn _ (covers _ (List.getElem_mem _)), ← drawn _ (covers _ (List.getElem_mem _))]

end

/-- Every benchmark is among those that are selected first, whatever is drawn, if and only if not
exactly as many are wanted as there are, or there is only one. -/
theorem alwaysCoversFirst_iff (benchmarks : Dict String Benchmark)
    (nonempty : benchmarks.values ≠ []) (distinct : benchmarks.values.Nodup)
    (counts : List Int) :
    AlwaysCoversFirst benchmarks counts ↔
      ∀ count, counts.find? (0 < ·) = some count → count = benchmarks.values.length →
        benchmarks.values.length = 1 := by
  have positive := List.length_pos_of_ne_nil nonempty
  constructor
  · intro always count isFirst all
    obtain ⟨name, others, keys⟩ : ∃ name others, benchmarks.keys = name :: others := by
      refine List.exists_cons_of_ne_nil fun empty => nonempty ?_
      rw [Dict.values, List.map_eq_nil_iff.mp empty, List.map_nil]
    have sameCounts :
        (counts.map (constantCall benchmarks name)).map (·.count) = counts := by
      rw [List.map_map]
      exact List.map_id _
    obtain ⟨selections, runs, isCovered⟩ := always (counts.map (constantCall benchmarks name))
      sameCounts (List.forall_mem_map.mpr fun count _ => constantCall_valid keys count)
    obtain ⟨_, runs', selectionCounts, -⟩ := @selectAll_sound benchmarks _ true
      (List.forall_mem_map.mpr fun count (_ : count ∈ counts) => constantCall_valid keys count)
    cases runs.symm.trans runs'
    rw [← sameCounts, ← selectionCounts] at isFirst
    obtain ⟨selection, found, rfl⟩ := exists_first isFirst
    have atMost := single_of_covers distinct runs (List.mem_of_find?_eq_some found) all.le
      (isCovered.covers selection found all.ge)
    omega
  · rintro boundary calls rfl valid
    obtain ⟨selections, runs, counts, sound, covers⟩ := @selectAll_sound _ _ true valid
    refine ⟨selections, runs, sound, fun selection isFirst enough => ?_⟩
    rcases lt_or_eq_of_le enough with more | all
    · exact covers rfl selection isFirst more
    · have isCount := find?_counts isFirst
      rw [counts] at isCount
      refine (sound selection (List.mem_of_find?_eq_some isFirst)).covers ?_
        (boundary _ isCount all.symm)
      rw [← all]
      exact_mod_cast positive

/-- The two benchmarks `BM_A` and `BM_B`. -/
def twoBenchmarks : Dict String Benchmark :=
  Dict.ofKeys ["BM_A", "BM_B"] (by decide) fun name => ⟨name, name⟩

theorem alwaysCoversFirst_three : AlwaysCoversFirst twoBenchmarks [0, 3, -1, 2] :=
  (alwaysCoversFirst_iff twoBenchmarks (by decide) (by decide) [0, 3, -1, 2]).mpr
    fun count isFirst all => absurd (Option.some.inj isFirst) (by rw [all]; decide)

/-- Of two benchmarks, equally probable, one is drawn twice. -/
theorem not_coversFirst_two : ∃ call : SelectionCall, call.count = 2 ∧
    call.probabilities = [1 / 2, 1 / 2] ∧ call.Valid twoBenchmarks ∧
      ∃ selections, selectAll twoBenchmarks true [call] = some selections ∧
        ¬ CoversFirst twoBenchmarks selections := by
  refine ⟨⟨2, [1 / 2, 1 / 2], fun size => List.replicate size "BM_A"⟩, rfl, rfl,
    ⟨rfl, by decide +kernel, by decide +kernel, fun size => List.length_replicate,
      fun size name drawn => ?_⟩,
    [⟨2, true, [⟨"BM_A", "BM_A"⟩, ⟨"BM_A", "BM_A"⟩], false⟩], by decide +kernel,
    fun first => ?_⟩
  · rw [List.eq_of_mem_replicate drawn]
    exact ⟨1 / 2, by decide +kernel, List.mem_cons_self⟩
  · have covered := first.covers _ rfl le_rfl ⟨"BM_B", "BM_B"⟩ (by decide)
    exact absurd covered (by decide)

end Fleetbench.Parallel
