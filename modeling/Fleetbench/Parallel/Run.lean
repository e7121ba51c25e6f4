/-
This file models `parallel/run.py` and the result type of `parallel/result.py`:
one run of a benchmark, and what `Run.Execute` makes of the way its process
ends. What `json.loads` accepts is a parameter; the values it builds are not.
An exception that leaves a function is the value `none`.
-/

import Mathlib.Data.Nat.Digits.Defs

namespace Fleetbench.Parallel

/-! ### Values read from a benchmark's output -/

/-- A value as `json.loads` builds it; `null` is Python's `None`. -/
inductive Value (Number : Type) where
  | null
  | bool (value : Bool)
  | number (value : Number)
  | text (value : String)
  | list (items : List (Value Number))
  | dict (fields : List (String × Value Number))

variable {Number : Type}

/-- `value["key"]`, which only a dictionary with that key has. -/
def Value.item (value : Value Number) (key : String) : Option (Value Number) :=
  match value with
  | .dict fields => fields.lookup key
  | _ => none

/-- `value[0]`. A dictionary read from JSON has no key that is a number. -/
def Value.first (value : Value Number) : Option (Value Number) :=
  match value with
  | .list items => items.head?
  | .text characters => characters.toList.head?.map fun c => .text (String.singleton c)
  | _ => none

/-! ### Results -/

structure Result (Number : Type) where
  benchmark : String
  rc : Int
  stdout : String
  stderr : String
  result : String := ""
  duration : Value Number := .null
  bmWallTime : Value Number := .null
  bmCpuTime : Value Number := .null
  iteration : Value Number := .null

/-! ### Runs -/

/-- A benchmark, by the two names the scheduler asks it for. -/
structure Benchmark where
  name : String
  benchmarkName : String
  deriving DecidableEq, Repr

/-- A `Run` object. `serial` is a ghost: it numbers the objects in the order in which they are
built, so that two runs with the same path can be told apart. -/
structure Run where
  benchmark : Benchmark
  outFile : String
  serial : Nat
  deriving DecidableEq, Repr

/-- How the process of a run ends: `subprocess.run` raises something other than a
`CalledProcessError`, or the process exits, with the contents of the output file if there is
one. -/
inductive Outcome (Number : Type) where
  | raised
  | exited (returncode : Int) (stdout stderr : String) (duration : Number)
      (output : Option String)

/-- `_GetBenchmarkRuntime`: the CPU time, the wall time and the iterations of the first
benchmark. -/
def getBenchmarkRuntime (loads : String → Option (Value Number)) (benchmarkOutput : String) :
    Option (Value Number × Value Number × Value Number) := do
  let data ← loads benchmarkOutput
  let benchmarks ← data.item "benchmarks"
  let first ← benchmarks.first
  return (← first.item "cpu_time", ← first.item "real_time", ← first.item "iterations")

def Run.execute (loads : String → Option (Value Number)) (run : Run) :
    Outcome Number → Option (Result Number)
  | .raised => none
  | .exited returncode stdout stderr duration output =>
    if returncode ≠ 0 then
      some { benchmark := run.benchmark.name, rc := returncode, stdout, stderr }
    else do
      let benchmarkOutput ← output
      let (cpuTime, wallTime, iteration) ← getBenchmarkRuntime loads benchmarkOutput
      return {
        benchmark := run.benchmark.name
        rc := returncode
        duration := .number duration
        bmWallTime := wallTime
        bmCpuTime := cpuTime
        iteration := iteration
        result := benchmarkOutput
        stdout
        stderr }

/-- The output of a benchmark lists at least one benchmark, with its three measurements. -/
def Reports (loads : String → Option (Value Number)) (benchmarkOutput : String) : Prop :=
  ∃ data benchmarks first cpuTime wallTime iteration,
    loads benchmarkOutput = some data ∧ data.item "benchmarks" = some benchmarks ∧
      benchmarks.first = some first ∧ first.item "cpu_time" = some cpuTime ∧
      first.item "real_time" = some wallTime ∧ first.item "iterations" = some iteration

/-- The outcomes `Execute` has an answer to: a failed process, or one that left a readable
report. -/
def Outcome.Handled (loads : String → Option (Value Number)) : Outcome Number → Prop
  | .raised => False
  | .exited returncode _ _ _ output =>
    returncode ≠ 0 ∨ ∃ benchmarkOutput, output = some benchmarkOutput ∧
      Reports loads benchmarkOutput

theorem getBenchmarkRuntime_isSome_iff (loads : String → Option (Value Number))
    (benchmarkOutput : String) :
    (getBenchmarkRuntime loads benchmarkOutput).isSome = true ↔ Reports loads benchmarkOutput := by
  rw [Option.isSome_iff_exists]
  simp only [getBenchmarkRuntime, Reports, Option.bind_eq_bind, Option.bind_eq_some_iff,
    Option.pure_def, Option.some.injEq]
  constructor
  · rintro ⟨_, data, loaded, benchmarks, listed, first, isFirst, cpu, cpuEq, wall, wallEq,
      iteration, iterationEq, rfl⟩
    exact ⟨data, benchmarks, first, cpu, wall, iteration, loaded, listed, isFirst, cpuEq, wallEq,
      iterationEq⟩
  · rintro ⟨data, benchmarks, first, cpu, wall, iteration, loaded, listed, isFirst, cpuEq, wallEq,
      iterationEq⟩
    exact ⟨_, data, loaded, benchmarks, listed, first, isFirst, cpu, cpuEq, wall, wallEq, iteration,
      iterationEq, rfl⟩

/-- `Execute` returns a result for exactly the handled outcomes. -/
theorem execute_isSome_iff (loads : String → Option (Value Number)) (run : Run)
    (outcome : Outcome Number) :
    (run.execute loads outcome).isSome = true ↔ outcome.Handled loads := by
  cases outcome with
  | raised => simp [Run.execute, Outcome.Handled]
  | exited returncode stdout stderr duration output =>
    by_cases failed : returncode ≠ 0
    · simp [Run.execute, Outcome.Handled, failed]
    · rw [Outcome.Handled, Run.execute, if_neg failed]
      cases output with
      | none => simp [failed]
      | some benchmarkOutput =>
        have reports := getBenchmarkRuntime_isSome_iff loads benchmarkOutput
        cases runtime : getBenchmarkRuntime loads benchmarkOutput with
        | none =>
          rw [runtime] at reports
          simpa [runtime, failed] using reports
        | some measured =>
          rw [runtime] at reports
          simpa [runtime, failed] using reports

/-! ### Paths -/

/-- `"%03d" % n`: decimal digits, padded with zeros to at least three. -/
def paddedDigits (n : Nat) : List Char :=
  ((Nat.digits 10 n ++ List.replicate (3 - (Nat.digits 10 n).length) 0).map Nat.digitChar).reverse

/-- `os.path.join` of a directory and a relative name. -/
def joinPath (root name : String) : String :=
  if root = "" then name
  else if root.toList.getLast? = some '/' then root ++ name
  else root ++ "/" ++ name

/-- The path of the run with the given number. -/
def outFilePath (tempRoot : String) (runId : Nat) : String :=
  joinPath tempRoot ("run_" ++ String.ofList (paddedDigits runId))

theorem digitChar_injective_of_lt : ∀ first < 10, ∀ second < 10,
    Nat.digitChar first = Nat.digitChar second → first = second := by
  decide

theorem paddedDigits_injective : Function.Injective paddedDigits := by
  intro first second same
  have small : ∀ n, ∀ digit ∈ Nat.digits 10 n ++
      List.replicate (3 - (Nat.digits 10 n).length) 0, digit < 10 := by
    intro n digit member
    rcases List.mem_append.mp member with proper | padding
    · exact Nat.digits_lt_base (by decide) proper
    · rw [List.eq_of_mem_replicate padding]
      decide
  have chars := List.reverse_inj.mp same
  have digits : Nat.digits 10 first ++ List.replicate (3 - (Nat.digits 10 first).length) 0 =
      Nat.digits 10 second ++ List.replicate (3 - (Nat.digits 10 second).length) 0 := by
    refine List.ext_getElem? fun i => ?_
    have atIndex := congrArg (fun chars => chars[i]?) chars
    simp only [List.getElem?_map] at atIndex
    cases firstDigit : (Nat.digits 10 first ++
        List.replicate (3 - (Nat.digits 10 first).length) 0)[i]? with
    | none =>
      rw [firstDigit] at atIndex
      exact (Option.map_eq_none_iff.mp atIndex.symm).symm
    | some digit =>
      rw [firstDigit, Option.map_some] at atIndex
      obtain ⟨digit', secondDigit, sameChar⟩ := Option.map_eq_some_iff.mp atIndex.symm
      rw [secondDigit]
      exact congrArg some (digitChar_injective_of_lt _
        (small _ _ (List.mem_of_getElem? firstDigit)) _
        (small _ _ (List.mem_of_getElem? secondDigit)) sameChar.symm)
  have values := congrArg (Nat.ofDigits 10) digits
  rwa [Nat.ofDigits_append_replicate_zero, Nat.ofDigits_append_replicate_zero, Nat.ofDigits_digits,
    Nat.ofDigits_digits] at values

theorem joinPath_injective (root : String) : Function.Injective (joinPath root) := by
  intro first second same
  rw [joinPath, joinPath] at same
  split at same
  · exact same
  · split at same
    · have chars := congrArg String.toList same
      simp only [String.toList_append] at chars
      exact String.toList_injective (List.append_cancel_left chars)
    · have chars := congrArg String.toList same
      simp only [String.toList_append] at chars
      exact String.toList_injective (List.append_cancel_left chars)

/-- Different runs write to different files. -/
theorem outFilePath_injective (tempRoot : String) : Function.Injective (outFilePath tempRoot) := by
  intro first second same
  have names := congrArg String.toList (joinPath_injective tempRoot same)
  simp only [String.toList_append, String.toList_ofList] at names
  exact paddedDigits_injective (List.append_cancel_left names)

end Fleetbench.Parallel
