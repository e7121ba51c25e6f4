/-
This file models `parallel/reporter.py`: the report of one repetition and the
report that combines all of them. A number goes through three forms on its way:
a float of the frame, `NaN` when there is none, and the string `"NaN"` once the
results are saved. The combined report computes with whatever it finds.

Numbers are elements of a field. What NumPy rounds, truncates and takes roots
with is a parameter.
-/

import Fleetbench.Library.Dict
import Mathlib.Algebra.Field.Rat
import Mathlib.Data.List.Dedup
import Mathlib.Data.List.Sort
import Mathlib.Data.List.Infix
import Mathlib.Data.Rat.Sqrt
import Mathlib.Data.String.Basic

namespace Fleetbench.Parallel

open Library

variable {Number : Type}

/-! ### Names -/

/-- What stands before and after the last occurrence of a pattern. -/
def splitAtLast (pattern : List Char) : List Char → Option (List Char × List Char)
  | [] => none
  | c :: rest =>
    match splitAtLast pattern rest with
    | some (before, after) => some (c :: before, after)
    | none => if pattern <+: c :: rest then some ([], (c :: rest).drop pattern.length) else none

/-- The regular expression `.* \((.*)\)`, replaced by `\1`, on one line: greedy matching takes the
last bracket that closes, and the last one before it that opens after a space. -/
def replaceLine (line : List Char) : List Char :=
  match splitAtLast [')'] line with
  | none => line
  | some (body, tail) =>
    match splitAtLast [' ', '('] body with
    | none => line
    | some (_, filter) => filter ++ tail

/-- `.str.replace(r".* \((.*)\)", r"\1", regex=True)`; a dot matches no line break. -/
def reportedName (benchmark : String) : String :=
  String.ofList (['\n'].intercalate ((benchmark.toList.splitOn '\n').map replaceLine))

theorem splitAtLast_append {pattern : List Char} (before after : List Char)
    (nonempty : pattern ≠ [])
    (last : ∀ c rest, pattern = c :: rest → splitAtLast pattern (rest ++ after) = none) :
    splitAtLast pattern (before ++ pattern ++ after) = some (before, after) := by
  induction before with
  | nil =>
    cases pattern with
    | nil => exact absurd rfl nonempty
    | cons c rest =>
      have first := last c rest rfl
      rw [List.nil_append, List.cons_append, splitAtLast, first]
      simp
  | cons c before inductionHypothesis =>
    rw [List.cons_append, List.cons_append, splitAtLast, inductionHypothesis]

/-! ### The report of one repetition -/

/-- A cell of a frame or a value of a record. -/
inductive Cell (Number : Type) where
  | number (value : Number)
  | nan
  | text (value : String)

def Cell.number? : Cell Number → Option Number
  | .number value => some value
  | _ => none

def Cell.isText : Cell Number → Bool
  | .text _ => true
  | _ => false

/-- What NumPy does to single numbers: `round(3)`, `astype(int)` and `sqrt`. -/
structure Numpy (Number : Type) where
  round : Number → Number
  truncate : Number → Number
  sqrt : Number → Number

/-- A row of the frame that `ConvertToDataFrame` builds: one run. -/
structure RunRow (Number : Type) where
  benchmark : String
  wallTimes : Number
  cpuTimes : Number
  iterations : Number

def aggregatedColumns : List String :=
  ["Count", "Mean_Wall_Time", "Mean_CPU_Time", "Mean_Iterations", "Wall_Time_std", "CPU_Time_std",
    "Iterations_std"]

/-- The columns that `SaveBenchmarkResults` renames. -/
def renameColumn : String → String
  | "Mean_Wall_Time" => "real_time"
  | "Mean_CPU_Time" => "cpu_time"
  | "Mean_Iterations" => "iterations"
  | "Wall_Time_std" => "real_time_std"
  | "CPU_Time_std" => "cpu_time_std"
  | "Iterations_std" => "iterations_std"
  | column => column

/-- The frame of the performance counters: `NaN` where there is no value. The counters have names
of their own, so that joining the frames leaves all names as they are. -/
structure PerfCounters (Number : Type) where
  counters : List String
  value : String → String → Option Number
  plain : ∀ counter ∈ counters, counter ∉ aggregatedColumns
  distinct : ("name" :: aggregatedColumns.map renameColumn ++ counters).Nodup

section

variable [Field Number]

def mean (values : List Number) : Number := values.sum / values.length

/-- The sample standard deviation, `NaN` for a single value. -/
def std (numpy : Numpy Number) (values : List Number) : Cell Number :=
  if values.length < 2 then .nan
  else .number (numpy.round (numpy.sqrt
    ((values.map fun value => (value - mean values) ^ 2).sum / ((values.length - 1 : Nat)))))

/-- The row of a group of runs, rounded. -/
def aggregateRuns (numpy : Numpy Number) (runs : List (RunRow Number)) :
    List (String × Cell Number) :=
  [("Count", .number runs.length),
    ("Mean_Wall_Time", .number (numpy.round (mean (runs.map (·.wallTimes))))),
    ("Mean_CPU_Time", .number (numpy.round (mean (runs.map (·.cpuTimes))))),
    ("Mean_Iterations",
      .number (numpy.truncate (numpy.round (mean (runs.map (·.iterations)))))),
    ("Wall_Time_std", std numpy (runs.map (·.wallTimes))),
    ("CPU_Time_std", std numpy (runs.map (·.cpuTimes))),
    ("Iterations_std", std numpy (runs.map (·.iterations)))]

/-- The columns that the left join adds to the row of a benchmark. -/
def perfColumns (perfCounters : Option (PerfCounters Number)) (name : String) :
    List (String × Cell Number) :=
  match perfCounters with
  | none => []
  | some frame => frame.counters.map fun counter =>
    (counter, match frame.value name counter with
      | some value => .number value
      | none => .nan)

def runsOf (rows : List (RunRow Number)) (name : String) : List (RunRow Number) :=
  rows.filter fun row => reportedName row.benchmark = name

/-- The names of the groups, which `groupby` sorts. -/
def groupNames (rows : List (RunRow Number)) : List String :=
  (rows.map fun row => reportedName row.benchmark).dedup.insertionSort (· ≤ ·)

def generateBenchmarkReport (numpy : Numpy Number) (rows : List (RunRow Number))
    (perfCounters : Option (PerfCounters Number)) :
    List (String × List (String × Cell Number)) :=
  (groupNames rows).map fun name =>
    (name, aggregateRuns numpy (runsOf rows name) ++ perfColumns perfCounters name)

/-- `fillna("NaN")`. -/
def Cell.fillNaN : Cell Number → Cell Number
  | .nan => .text "NaN"
  | cell => cell

abbrev Record (Number : Type) := Dict String (Cell Number)

/-- `to_dict(orient="records")` of one row, after its index has become the column `name`. -/
def toRecord (row : String × List (String × Cell Number)) : Record Number :=
  .ofEntries (("name", .text row.1) ::
    row.2.map fun column => (renameColumn column.1, column.2.fillNaN))

/-- The second part of what `SaveBenchmarkResults` returns. -/
def saveBenchmarkResults (frame : List (String × List (String × Cell Number))) :
    Dict String (Record Number) :=
  .ofEntries (frame.map fun row => (row.1, toRecord row))

/-! ### The report of all repetitions -/

/-- `cell ** 2`, a `TypeError` for a string. -/
def Cell.square : Cell Number → Option (Cell Number)
  | .number value => some (.number (value ^ 2))
  | .nan => some .nan
  | .text _ => none

/-- `np.mean` of a list, which raises for a list with a string. -/
def npMean (cells : List (Cell Number)) : Option (Cell Number) :=
  if cells.any Cell.isText then none
  else some (match cells.mapM Cell.number? with
    | some values => .number (mean values)
    | none => .nan)

def Cell.sqrt (numpy : Numpy Number) : Cell Number → Cell Number
  | .number value => .number (numpy.sqrt value)
  | cell => cell

/-- `metric.endswith("_std")`. -/
def isStd (metric : String) : Bool := "_std".toList.isSuffixOf metric.toList

/-- The value of one metric in the combined report. -/
def aggregateMetric (numpy : Numpy Number) (benchmarkName metric : String)
    (records : List (Record Number)) : Option (Cell Number) :=
  if metric = "name" then some (.text benchmarkName)
  else if isStd metric then do
    let variances ← records.mapM fun record => do (← record.get? metric).square
    return (← npMean variances).sqrt numpy
  else do
    let values ← records.mapM fun record => record.get? metric
    npMean values

/-- The keys of the first record that has any. -/
def metricsOf (records : List (Record Number)) : List String :=
  records.foldl (fun metrics record => if metrics = [] then record.keys else metrics) []

/-- The row of one benchmark in the combined report. -/
def aggregateBenchmark (numpy : Numpy Number) (metrics : List String) (benchmarkName : String)
    (records : List (Record Number)) : Option (Record Number) := do
  let cells ← metrics.mapM fun metric =>
    (aggregateMetric numpy benchmarkName metric records).map fun cell => (metric, cell)
  return Dict.ofEntries cells

def aggregateFinalData (numpy : Numpy Number) (dataList : List (Dict String (Record Number))) :
    Option (List (Record Number)) :=
  let entries := dataList.flatMap Dict.entries
  let metrics := metricsOf (entries.map (·.2))
  if metrics = [] then none
  else (Dict.group entries).entries.mapM fun data =>
    aggregateBenchmark numpy metrics data.1 data.2

end

end Fleetbench.Parallel
