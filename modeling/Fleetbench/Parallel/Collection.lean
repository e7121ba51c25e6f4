/-
This file models what becomes of the results of a repetition: the entries of
`self.runtimes`. They are added in two places, the end of each tick of
`_RunSchedulingLoop` and the shutdown in `Run`. The first place skips the
results of runs that failed, the second one does not.
-/

import Fleetbench.Library.Dict
import Fleetbench.Parallel.Run
import Mathlib.Data.List.Infix
import Mathlib.Algebra.Field.Rat

namespace Fleetbench.Parallel

open Library

variable {Number : Type}

/-! ### Runtimes -/

structure BenchmarkMetrics (Number : Type) where
  totalDuration : Value Number
  perIterationWallTime : Value Number
  perIterationCpuTime : Value Number
  perBmRunIteration : Value Number

/-- `self.runtimes`: for each benchmark, by name, the metrics of its runs. -/
abbrev Runtimes (Number : Type) := Dict String (List (BenchmarkMetrics Number))

/-- The entry with which `_PreRun` starts the history of a benchmark. -/
def fakeEntry [NatCast Number] (benchmark : String) : BenchmarkMetrics Number where
  totalDuration := .number ((if "TCMALLOC".toList <:+: benchmark.toList then 4 else 1 : Nat))
  perIterationWallTime := .number ((0 : Nat))
  perIterationCpuTime := .number ((0 : Nat))
  perBmRunIteration := .number ((0 : Nat))

def preRun [NatCast Number] (benchmarks : List String) (distinct : benchmarks.Nodup) :
    Runtimes Number :=
  .ofKeys benchmarks distinct fun benchmark => [fakeEntry benchmark]

def Result.metrics (result : Result Number) : BenchmarkMetrics Number where
  totalDuration := result.duration
  perIterationWallTime := result.bmWallTime
  perIterationCpuTime := result.bmCpuTime
  perBmRunIteration := result.iteration

/-- `self.runtimes[r.benchmark].append(...)`, which raises a `KeyError` for an unknown benchmark. -/
def addResult (runtimes : Runtimes Number) (result : Result Number) : Option (Runtimes Number) := do
  let history ← runtimes.get? result.benchmark
  return runtimes.set result.benchmark (history ++ [result.metrics])

/-- Both places add results one by one; they differ in what they skip. -/
def addResults (skips : Result Number → Bool) (runtimes : Runtimes Number)
    (results : List (Result Number)) : Option (Runtimes Number) :=
  results.foldlM (fun runtimes result =>
    if skips result then some runtimes else addResult runtimes result) runtimes

/-- The end of a tick of `_RunSchedulingLoop`. -/
def runSchedulingLoopResults (runtimes : Runtimes Number) (results : List (Result Number)) :
    Option (Runtimes Number) :=
  addResults (fun result => result.rc ≠ 0) runtimes results

/-- The shutdown in `Run`. -/
def runShutdownResults (runtimes : Runtimes Number) (results : List (Result Number)) :
    Option (Runtimes Number) :=
  addResults (fun _ => false) runtimes results

/-- The history of a repetition, of whose results the scheduling loop drained the first ones and
the shutdown collected the remaining ones. -/
def collectedRuntimes [NatCast Number] (benchmarks : List String) (distinct : benchmarks.Nodup)
    (drained remaining : List (Result Number)) : Option (Runtimes Number) := do
  let runtimes ← runSchedulingLoopResults (preRun benchmarks distinct) drained
  runShutdownResults runtimes remaining

/-! ### What a sequence of results adds -/

theorem addResult_eq_some {runtimes : Runtimes Number} {result : Result Number}
    (known : result.benchmark ∈ runtimes.keys) :
    ∃ after, addResult runtimes result = some after ∧
      (∀ benchmark, benchmark ∈ after.keys ↔ benchmark ∈ runtimes.keys) ∧
      ∀ benchmark, after.get? benchmark = (runtimes.get? benchmark).map
        (· ++ if result.benchmark = benchmark then [result.metrics] else []) := by
  obtain ⟨history, found⟩ := Dict.get?_isSome_iff.mpr known
  refine ⟨runtimes.set result.benchmark (history ++ [result.metrics]), ?_, ?_, ?_⟩
  · rw [addResult, found]
    rfl
  · intro benchmark
    rw [Dict.mem_keys_set]
    exact ⟨fun member => member.elim id fun same => same ▸ known, .inl⟩
  · intro benchmark
    by_cases same : result.benchmark = benchmark
    · subst same
      rw [Dict.get?_set_self, found, if_pos rfl]
      rfl
    · rw [Dict.get?_set_of_ne _ (Ne.symm same), if_neg same]
      simp

/-- Results of known benchmarks are all added, each at the end of its benchmark's history. -/
theorem addResults_eq_some (skips : Result Number → Bool) (results : List (Result Number))
    (runtimes : Runtimes Number) (known : ∀ result ∈ results, result.benchmark ∈ runtimes.keys) :
    ∃ after, addResults skips runtimes results = some after ∧
      (∀ benchmark, benchmark ∈ after.keys ↔ benchmark ∈ runtimes.keys) ∧
      ∀ benchmark, after.get? benchmark = (runtimes.get? benchmark).map
        (· ++ (results.filter fun result => !skips result &&
          decide (result.benchmark = benchmark)).map Result.metrics) := by
  induction results generalizing runtimes with
  | nil => exact ⟨runtimes, rfl, fun _ => Iff.rfl, fun _ => by simp⟩
  | cons result rest inductionHypothesis =>
    rw [addResults, List.foldlM_cons]
    cases skipped : skips result with
    | true =>
      obtain ⟨after, added, keys, histories⟩ := inductionHypothesis runtimes
        fun other member => known other (List.mem_cons_of_mem _ member)
      refine ⟨after, added, keys, fun benchmark => ?_⟩
      rw [histories, List.filter_cons, skipped]
      rfl
    | false =>
      obtain ⟨next, once, nextKeys, nextHistories⟩ :=
        addResult_eq_some (known result List.mem_cons_self)
      obtain ⟨after, added, keys, histories⟩ := inductionHypothesis next
        fun other member => (nextKeys _).mpr (known other (List.mem_cons_of_mem _ member))
      refine ⟨after, ?_, fun benchmark => (keys benchmark).trans (nextKeys benchmark), ?_⟩
      · rw [if_neg Bool.false_ne_true, once]
        exact added
      · intro benchmark
        rw [histories, nextHistories, List.filter_cons, skipped, Option.map_map]
        refine congrArg (Option.map · (runtimes.get? benchmark)) (funext fun history => ?_)
        rw [Function.comp_apply, List.append_assoc]
        refine congrArg (history ++ ·) ?_
        by_cases same : result.benchmark = benchmark
        · simp [same]
        · simp [same]

/-! ### The two places agree as long as nothing fails -/

/-- The metrics of the runs of a benchmark that succeeded. -/
def successes (benchmark : String) (results : List (Result Number)) :
    List (BenchmarkMetrics Number) :=
  (results.filter fun result => result.rc = 0 ∧ result.benchmark = benchmark).map Result.metrics

/-- An entry without `None`. -/
structure BenchmarkMetrics.Measured (metrics : BenchmarkMetrics Number) : Prop where
  duration : metrics.totalDuration ≠ .null
  wallTime : metrics.perIterationWallTime ≠ .null
  cpuTime : metrics.perIterationCpuTime ≠ .null
  iteration : metrics.perBmRunIteration ≠ .null

/-- What the annotations of `Execute` and `_GetBenchmarkRuntime` promise: a run that succeeded
has been measured, and one that failed has no duration. -/
structure Result.Typed (result : Result Number) : Prop where
  succeeded : result.rc = 0 → result.metrics.Measured
  failed : result.rc ≠ 0 → result.duration = .null

/-- The history of a repetition as it should be, whichever place its results went through. -/
structure CountsSuccesses [NatCast Number] (benchmarks : List String)
    (distinct : benchmarks.Nodup) (results : List (Result Number))
    (runtimes : Runtimes Number) : Prop where
  entries : ∀ benchmark ∈ benchmarks,
    runtimes.get? benchmark = some (fakeEntry benchmark :: successes benchmark results)
  measured : ∀ benchmark ∈ benchmarks, ∀ fake history,
    runtimes.get? benchmark = some (fake :: history) → ∀ entry ∈ history, entry.Measured
  independent : ∀ delivered : List (Result Number), delivered.Perm results →
    ∃ drained, collectedRuntimes benchmarks distinct delivered [] = some drained ∧
      ∀ benchmark ∈ benchmarks, ∃ first second, runtimes.get? benchmark = some first ∧
        drained.get? benchmark = some second ∧ first.Perm second

theorem execute_typed {loads : String → Option (Value Number)}
    (measures : ∀ output cpuTime wallTime iteration,
      getBenchmarkRuntime loads output = some (cpuTime, wallTime, iteration) →
        cpuTime ≠ .null ∧ wallTime ≠ .null ∧ iteration ≠ .null)
    {run : Run} {outcome : Outcome Number} {result : Result Number}
    (executed : run.execute loads outcome = some result) : result.Typed := by
  cases outcome with
  | raised => cases executed
  | exited returncode stdout stderr duration output =>
    rw [Run.execute] at executed
    split at executed
    · rename_i failed
      cases executed
      exact ⟨fun zero => absurd zero failed, fun _ => rfl⟩
    · rename_i succeeded
      simp only [Option.bind_eq_bind, Option.bind_eq_some_iff, Option.pure_def,
        Option.some.injEq] at executed
      obtain ⟨benchmarkOutput, _, ⟨cpu, wall, iteration⟩, runtime, rfl⟩ := executed
      obtain ⟨cpuMeasured, wallMeasured, iterationMeasured⟩ := measures _ _ _ _ runtime
      have timed : (Value.number duration : Value Number) ≠ .null := by
        intro same
        cases same
      exact ⟨fun _ => ⟨timed, wallMeasured, cpuMeasured, iterationMeasured⟩,
        fun failed => absurd failed succeeded⟩

section

variable [NatCast Number] {benchmarks : List String} (distinct : benchmarks.Nodup)
  {drained remaining : List (Result Number)}

/-- The history that the two places build together. -/
theorem collectedRuntimes_eq_some
    (known : ∀ result ∈ drained ++ remaining, result.benchmark ∈ benchmarks) :
    ∃ runtimes, collectedRuntimes benchmarks distinct drained remaining = some runtimes ∧
      ∀ benchmark ∈ benchmarks, runtimes.get? benchmark = some (fakeEntry benchmark ::
        (successes benchmark drained ++
          (remaining.filter fun result => result.benchmark = benchmark).map Result.metrics)) := by
  have start : (preRun benchmarks distinct : Runtimes Number).keys = benchmarks :=
    Dict.keys_ofKeys _ _ _
  obtain ⟨middle, first, middleKeys, middleHistories⟩ := addResults_eq_some
    (fun result : Result Number => result.rc ≠ 0) drained (preRun benchmarks distinct)
    fun result member => start.symm ▸ known result (List.mem_append_left _ member)
  obtain ⟨after, second, _, histories⟩ := addResults_eq_some (fun _ : Result Number => false)
    remaining middle
    fun result member => (middleKeys _).mpr
      (start.symm ▸ known result (List.mem_append_right _ member))
  refine ⟨after, ?_, fun benchmark member => ?_⟩
  · rw [collectedRuntimes, runSchedulingLoopResults, first]
    exact second
  · rw [histories, middleHistories, preRun, Dict.get?_ofKeys member, successes]
    simp

omit [NatCast Number] in
theorem successes_perm {first second : List (Result Number)} (perm : first.Perm second)
    (benchmark : String) : (successes benchmark first).Perm (successes benchmark second) :=
  (perm.filter _).map _

/-- For every split of the results of a repetition, the history is as it should be exactly when
no run failed among those that the shutdown collected. -/
theorem countsSuccesses_iff (typed : ∀ result ∈ drained ++ remaining, result.Typed)
    (known : ∀ result ∈ drained ++ remaining, result.benchmark ∈ benchmarks) :
    (∃ runtimes, collectedRuntimes benchmarks distinct drained remaining = some runtimes ∧
      CountsSuccesses benchmarks distinct (drained ++ remaining) runtimes) ↔
      ∀ result ∈ remaining, result.rc = 0 := by
  obtain ⟨runtimes, collected, histories⟩ := collectedRuntimes_eq_some distinct known
  constructor
  · rintro ⟨same, collected', counts⟩ result member
    cases collected.symm.trans collected'
    by_contra failed
    have isKnown := known result (List.mem_append_right _ member)
    have measured := counts.measured result.benchmark isKnown _ _ (histories _ isKnown)
      result.metrics (List.mem_append_right _ (List.mem_map_of_mem
        (List.mem_filter.mpr ⟨member, decide_eq_true rfl⟩)))
    exact measured.duration ((typed result (List.mem_append_right _ member)).failed failed)
  · intro succeeded
    have entries : ∀ benchmark ∈ benchmarks, runtimes.get? benchmark =
        some (fakeEntry benchmark :: successes benchmark (drained ++ remaining)) := by
      intro benchmark member
      rw [histories benchmark member, successes, successes, List.filter_append, List.map_append]
      have same : (remaining.filter fun result => result.benchmark = benchmark) =
          remaining.filter fun result => result.rc = 0 ∧ result.benchmark = benchmark := by
        refine List.filter_congr fun result inRemaining => ?_
        simp [succeeded result inRemaining]
      rw [same]
    refine ⟨runtimes, collected, entries, ?_, ?_⟩
    · intro benchmark member fake history found entry inHistory
      rw [entries benchmark member] at found
      cases found
      obtain ⟨result, isSuccess, rfl⟩ := List.mem_map.mp inHistory
      obtain ⟨inResults, condition⟩ := List.mem_filter.mp isSuccess
      exact (typed result inResults).succeeded (of_decide_eq_true condition).1
    · intro delivered perm
      obtain ⟨others, otherCollected, otherHistories⟩ :=
        collectedRuntimes_eq_some distinct
          (show ∀ result ∈ delivered ++ [], result.benchmark ∈ benchmarks from
            fun result member => known result (perm.subset (List.append_nil delivered ▸ member)))
      refine ⟨others, otherCollected, fun benchmark member =>
        ⟨_, _, entries benchmark member, otherHistories benchmark member, ?_⟩⟩
      rw [List.filter_nil, List.map_nil, List.append_nil]
      exact (successes_perm perm.symm benchmark).cons _

end

/-! ### Two splits of one repetition -/

/-- A run that failed and one that took two seconds. -/
def failedResult : Result Rat :=
  { benchmark := "bench (BM_A)", rc := 1, stdout := "", stderr := "crash" }

def succeededResult : Result Rat :=
  { benchmark := "bench (BM_A)", rc := 0, stdout := "", stderr := "", duration := .number 2,
    bmWallTime := .number 1, bmCpuTime := .number 1, iteration := .number 10 }

/-- What a file of results has of the run that took two seconds. -/
def succeededOutput : Value Rat :=
  .dict [("benchmarks", .list [.dict [("real_time", .number 1), ("cpu_time", .number 1),
    ("iterations", .number 10)]])]

theorem measures_succeededOutput (output : String) (cpuTime wallTime iteration : Value Rat)
    (runtime : getBenchmarkRuntime (fun _ => some succeededOutput) output =
      some (cpuTime, wallTime, iteration)) :
    cpuTime ≠ .null ∧ wallTime ≠ .null ∧ iteration ≠ .null := by
  cases runtime
  exact ⟨nofun, nofun, nofun⟩

/-- Both results come from `Execute`. -/
theorem failedResult_typed : failedResult.Typed :=
  execute_typed measures_succeededOutput (show Run.execute (fun _ => some succeededOutput)
    ⟨⟨"bench (BM_A)", "BM_A"⟩, "BM_A.json", 0⟩ (.exited 1 "" "crash" 1 none) =
      some failedResult from rfl)

theorem succeededResult_typed : succeededResult.Typed :=
  execute_typed measures_succeededOutput (show Run.execute (fun _ => some succeededOutput)
    ⟨⟨"bench (BM_A)", "BM_A"⟩, "BM_A.json", 0⟩ (.exited 0 "" "" 2 (some "")) =
      some succeededResult from rfl)

/-- A failure that the scheduling loop drains is not counted. -/
theorem countsSuccesses_drained : ∃ runtimes,
    collectedRuntimes ["bench (BM_A)"] (List.nodup_singleton _) [failedResult] [succeededResult] =
      some runtimes ∧
    CountsSuccesses ["bench (BM_A)"] (List.nodup_singleton _) [failedResult, succeededResult]
      runtimes := by
  have typed : ∀ result ∈ [failedResult] ++ [succeededResult], result.Typed :=
    List.forall_mem_cons.mpr ⟨failedResult_typed,
      List.forall_mem_singleton.mpr succeededResult_typed⟩
  have known : ∀ result ∈ [failedResult] ++ [succeededResult],
      result.benchmark ∈ ["bench (BM_A)"] :=
    List.forall_mem_cons.mpr ⟨List.mem_cons_self, List.forall_mem_singleton.mpr List.mem_cons_self⟩
  exact (countsSuccesses_iff _ typed known).mpr (List.forall_mem_singleton.mpr rfl)

/-- The same failure is counted when the shutdown collects it. -/
theorem not_countsSuccesses_collected : ¬ ∃ runtimes,
    collectedRuntimes ["bench (BM_A)"] (List.nodup_singleton _) [succeededResult] [failedResult] =
      some runtimes ∧
    CountsSuccesses ["bench (BM_A)"] (List.nodup_singleton _) [succeededResult, failedResult]
      runtimes := by
  rintro ⟨runtimes, collected, counts⟩
  have known : ∀ result ∈ [succeededResult] ++ [failedResult],
      result.benchmark ∈ ["bench (BM_A)"] :=
    List.forall_mem_cons.mpr ⟨List.mem_cons_self, List.forall_mem_singleton.mpr List.mem_cons_self⟩
  obtain ⟨others, otherCollected, histories⟩ :=
    collectedRuntimes_eq_some (List.nodup_singleton _) known
  cases collected.symm.trans otherCollected
  have measured := counts.measured _ List.mem_cons_self _ _ (histories _ List.mem_cons_self)
    failedResult.metrics (List.mem_append_right _ List.mem_cons_self)
  exact measured.duration rfl

end Fleetbench.Parallel
