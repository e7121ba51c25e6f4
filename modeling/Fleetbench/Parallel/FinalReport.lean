/-
This file asks when the report of all repetitions can be made from the reports
of the single ones. A benchmark that ran once in a repetition has no sample
standard deviation, so its report says `"NaN"`, and a string cannot be squared:
the combined report is made exactly when every benchmark ran at least twice in
each repetition in which it ran, and no performance counter is missing.
-/

import Fleetbench.Library.Traverse
import Fleetbench.Parallel.Reporter

namespace Fleetbench.Parallel

open Library

variable {Number : Type} [Field Number] {numpy : Numpy Number}

/-- The runs of a repetition, and its performance counters if any were asked for. -/
structure Repetition (Number : Type) where
  rows : List (RunRow Number)
  perfCounters : Option (PerfCounters Number)

/-- What a repetition reports of a benchmark. -/
def Repetition.record (repetition : Repetition Number) (numpy : Numpy Number) (name : String) :
    Record Number :=
  toRecord (name, aggregateRuns numpy (runsOf repetition.rows name) ++
    perfColumns repetition.perfCounters name)

def Repetition.report (repetition : Repetition Number) (numpy : Numpy Number) :
    Dict String (Record Number) :=
  saveBenchmarkResults
    (generateBenchmarkReport numpy repetition.rows repetition.perfCounters)

/-- The data of the final report. -/
def finalReport (numpy : Numpy Number) (repetitions : List (Repetition Number)) :
    Option (List (Record Number)) :=
  aggregateFinalData numpy (repetitions.map (Repetition.report · numpy))

omit [Field Number] in
def Repetition.counters (repetition : Repetition Number) : List String :=
  match repetition.perfCounters with
  | none => []
  | some frame => frame.counters

def Repetition.ran (repetition : Repetition Number) (name : String) : Bool :=
  repetition.rows.any fun row => reportedName row.benchmark = name

/-! ### One record -/

theorem renameColumn_of_not_mem {column : String} (plain : column ∉ aggregatedColumns) :
    renameColumn column = column := by
  unfold renameColumn
  split
  case h_7 => rfl
  all_goals exact absurd (by decide) plain

/-- The entries of a record, in order. -/
theorem entries_record (repetition : Repetition Number) (name : String) :
    (repetition.record numpy name).entries = ("name", .text name) ::
      (aggregateRuns numpy (runsOf repetition.rows name)).map
        (fun column => (renameColumn column.1, column.2.fillNaN)) ++
      (perfColumns repetition.perfCounters name).map
        (fun column => (column.1, column.2.fillNaN)) := by
  have perf : (perfColumns repetition.perfCounters name).map
      (fun column => (renameColumn column.1, column.2.fillNaN)) =
      (perfColumns repetition.perfCounters name).map
        (fun column => (column.1, column.2.fillNaN)) := by
    refine List.map_congr_left fun column member => ?_
    unfold perfColumns at member
    cases perfCounters : repetition.perfCounters with
    | none => simp [perfCounters] at member
    | some frame =>
      simp only [perfCounters, List.mem_map] at member
      obtain ⟨counter, isCounter, rfl⟩ := member
      rw [renameColumn_of_not_mem (frame.plain counter isCounter)]
  rw [Repetition.record, toRecord, Dict.entries_ofEntries, List.map_append, perf]
  · rfl
  · rw [List.map_append, perf]
    unfold perfColumns
    cases repetition.perfCounters with
    | none =>
      have base : ("name" :: aggregatedColumns.map renameColumn).Nodup := by decide
      simpa [Function.comp_def, aggregateRuns, aggregatedColumns] using base
    | some frame => simpa [Function.comp_def, aggregateRuns, aggregatedColumns] using frame.distinct

theorem keys_record (repetition : Repetition Number) (name : String) :
    (repetition.record numpy name).keys =
      "name" :: aggregatedColumns.map renameColumn ++ repetition.counters := by
  rw [Dict.keys, entries_record, Repetition.counters]
  cases repetition.perfCounters <;>
    simp [Function.comp_def, aggregateRuns, aggregatedColumns, perfColumns]

/-- The number a record has for a metric. -/
def numberAt (metric : String) (record : Record Number) : Option Number :=
  (record.get? metric).bind Cell.number?

/-- The number a repetition has for a metric of a benchmark: there may be none. -/
def Repetition.measure (repetition : Repetition Number) (numpy : Numpy Number)
    (name metric : String) : Option Number :=
  let runs := runsOf repetition.rows name
  if metric = "Count" then some runs.length
  else if metric = "real_time" then some (numpy.round (mean (runs.map (·.wallTimes))))
  else if metric = "cpu_time" then some (numpy.round (mean (runs.map (·.cpuTimes))))
  else if metric = "iterations" then
    some (numpy.truncate (numpy.round (mean (runs.map (·.iterations)))))
  else if metric = "real_time_std" then (std numpy (runs.map (·.wallTimes))).number?
  else if metric = "cpu_time_std" then (std numpy (runs.map (·.cpuTimes))).number?
  else if metric = "iterations_std" then (std numpy (runs.map (·.iterations))).number?
  else match repetition.perfCounters with
    | none => none
    | some frame => if metric ∈ frame.counters then frame.value name metric else none

omit [Field Number] in
theorem number?_fillNaN (cell : Cell Number) : cell.fillNaN.number? = cell.number? := by
  cases cell <;> rfl

theorem lookup_cons_eq_ite {Value : Type} (key other : String) (value : Value)
    (rest : List (String × Value)) : ((other, value) :: rest).lookup key =
      if key = other then some value else rest.lookup key := by
  rw [List.lookup_cons]
  by_cases same : key = other
  · rw [if_pos same, beq_iff_eq.mpr same]
  · rw [if_neg same, beq_eq_false_iff_ne.mpr same]

omit [Field Number] in
theorem lookup_perfColumns (perfCounters : Option (PerfCounters Number)) (name metric : String) :
    (((perfColumns perfCounters name).map fun column => (column.1, column.2.fillNaN)).lookup
      metric).bind Cell.number? =
      match perfCounters with
      | none => none
      | some frame => if metric ∈ frame.counters then frame.value name metric else none := by
  cases perfCounters with
  | none => rfl
  | some frame =>
    rw [perfColumns, List.map_map]
    show _ = if metric ∈ frame.counters then frame.value name metric else none
    induction frame.counters with
    | nil => rfl
    | cons counter rest inductionHypothesis =>
      rw [List.map_cons, List.lookup_cons]
      by_cases same : metric = counter
      · subst same
        cases value : frame.value name metric <;>
          simp [value, Cell.fillNaN, Cell.number?]
      · simpa [beq_eq_false_iff_ne.mpr same, same] using inductionHypothesis

/-- What a record says is what the repetition measured. -/
theorem numberAt_record (repetition : Repetition Number) (name : String) {metric : String}
    (proper : metric ≠ "name") :
    numberAt metric (repetition.record numpy name) = repetition.measure numpy name metric := by
  rw [numberAt, Dict.get?, entries_record, Repetition.measure, ← lookup_perfColumns]
  have count : renameColumn "Count" = "Count" := rfl
  simp only [aggregateRuns, List.map_cons, List.map_nil, List.cons_append, List.nil_append,
    lookup_cons_eq_ite, count, if_neg proper]
  simp only [renameColumn]
  split_ifs <;> first | rfl | exact number?_fillNaN _

/-- No record has a `NaN`: they have all become strings. -/
theorem get?_record_ne_nan (repetition : Repetition Number) (name metric : String) :
    (repetition.record numpy name).get? metric ≠ some .nan := by
  intro found
  rw [Dict.get?_eq_some_iff, entries_record] at found
  have filled : ∀ cell : Cell Number, cell.fillNaN ≠ .nan := by
    intro cell
    cases cell <;> nofun
  rcases List.mem_append.mp found with inReport | inPerf
  · rcases List.mem_cons.mp inReport with isName | inReport
    · cases isName
    · obtain ⟨column, _, same⟩ := List.mem_map.mp inReport
      exact filled _ (Prod.mk.inj same).2
  · obtain ⟨column, _, same⟩ := List.mem_map.mp inPerf
    exact filled _ (Prod.mk.inj same).2

/-! ### Combining records -/

/-- What the combined report makes of the numbers of one metric. -/
def combine (numpy : Numpy Number) (metric : String) (values : List Number) : Number :=
  if isStd metric then numpy.sqrt (mean (values.map (· ^ 2))) else mean values

theorem npMean_numbers (values : List Number) :
    npMean (values.map Cell.number) = some (.number (mean values)) := by
  have noText : ((values.map Cell.number).any Cell.isText) = false := by
    rw [List.any_map, List.any_eq_false]
    exact fun _ _ => Bool.false_ne_true
  have numbers : (values.map Cell.number).mapM Cell.number? = some values := by
    rw [mapM_eq_some_iff, List.forall₂_map_left_iff, List.forall₂_same]
    exact fun _ _ => rfl
  rw [npMean, noText, numbers]
  rfl

theorem npMean_text {cells : List (Cell Number)} {text : String} (member : .text text ∈ cells) :
    npMean cells = none :=
  if_pos (List.any_eq_true.mpr ⟨_, member, rfl⟩)

omit [Field Number] in
theorem get?_of_numberAt {metric : String} {record : Record Number} {value : Number}
    (found : numberAt metric record = some value) : record.get? metric = some (.number value) := by
  obtain ⟨cell, isCell, isNumber⟩ := Option.bind_eq_some_iff.mp found
  cases cell with
  | number other =>
    cases isNumber
    exact isCell
  | nan => cases isNumber
  | text text => cases isNumber

/-- A metric of records without `NaN` is combined if all of them have a number for it, and
otherwise raises an error. -/
theorem aggregateMetric_eq (benchmarkName : String) {metric : String} (proper : metric ≠ "name")
    {records : List (Record Number)} (filled : ∀ record ∈ records, record.get? metric ≠ some .nan) :
    aggregateMetric numpy benchmarkName metric records =
      (records.mapM (numberAt metric)).map fun values => .number (combine numpy metric values) := by
  rw [aggregateMetric, if_neg proper]
  cases measured : records.mapM (numberAt metric) with
  | some values =>
    have numbers := mapM_eq_some_iff.mp measured
    by_cases ofStd : isStd metric = true
    · have squares : records.mapM (fun record => do (← record.get? metric).square) =
          some ((values.map (· ^ 2)).map Cell.number) := by
        rw [mapM_eq_some_iff, List.map_map, List.forall₂_map_right_iff]
        refine numbers.imp fun record value found => ?_
        rw [get?_of_numberAt found]
        rfl
      rw [if_pos ofStd, squares]
      show (npMean _).bind (fun cell => some (cell.sqrt numpy)) =
        some (.number (combine numpy metric values))
      rw [npMean_numbers, combine, if_pos ofStd]
      rfl
    · have cells : records.mapM (fun record => record.get? metric) =
          some (values.map Cell.number) := by
        rw [mapM_eq_some_iff, List.forall₂_map_right_iff]
        exact numbers.imp fun record value found => get?_of_numberAt found
      rw [if_neg ofStd, cells]
      show npMean _ = some (.number (combine numpy metric values))
      rw [npMean_numbers, combine, if_neg ofStd]
  | none =>
    obtain ⟨record, member, missing⟩ : ∃ record ∈ records, numberAt metric record = none := by
      by_contra complete
      have all : ∀ record ∈ records, ∃ value, numberAt metric record = some value := by
        intro record member
        by_contra absent
        exact complete ⟨record, member, Option.eq_none_iff_forall_ne_some.mpr
          (not_exists.mp absent)⟩
      obtain ⟨found, isFound⟩ := mapM_isSome_iff.mpr all
      cases measured.symm.trans isFound
    have notSquared : ((record.get? metric).bind Cell.square) = none := by
      cases cell : record.get? metric with
      | none => rfl
      | some cell' =>
        cases cell' with
        | number value => simp [numberAt, cell, Cell.number?] at missing
        | nan => exact absurd cell (filled record member)
        | text text => rfl
    split
    · have fails : records.mapM (fun record => do (← record.get? metric).square) = none :=
        mapM_eq_none_of_mem member notSquared
      rw [fails]
      rfl
    · cases cells : records.mapM (fun record => record.get? metric) with
      | none => rfl
      | some cells' =>
        obtain ⟨cell, isCell, found⟩ := mem_of_mapM_eq_some cells member
        cases cell with
        | number value => simp [numberAt, found, Cell.number?] at missing
        | nan => exact absurd found (filled record member)
        | text text => exact npMean_text isCell

/-! ### The groups of records -/

omit [Field Number] in
theorem mem_groupNames {rows : List (RunRow Number)} {name : String} :
    name ∈ groupNames rows ↔ ∃ row ∈ rows, reportedName row.benchmark = name := by
  rw [groupNames, List.mem_insertionSort, List.mem_dedup, List.mem_map]

omit [Field Number] in
theorem groupNames_nodup (rows : List (RunRow Number)) : (groupNames rows).Nodup :=
  (List.perm_insertionSort _ _).nodup_iff.mpr (List.nodup_dedup _)

omit [Field Number] in
theorem ran_iff {repetition : Repetition Number} {name : String} :
    repetition.ran name = true ↔ name ∈ groupNames repetition.rows := by
  rw [Repetition.ran, List.any_eq_true, mem_groupNames]
  simp only [decide_eq_true_eq]

/-- The report of a repetition has one record for each benchmark that ran, under its name. -/
theorem entries_report (repetition : Repetition Number) :
    (repetition.report numpy).entries =
      (groupNames repetition.rows).map fun name => (name, repetition.record numpy name) := by
  have entries : (generateBenchmarkReport numpy repetition.rows repetition.perfCounters).map
      (fun row => (row.1, toRecord row)) =
      (groupNames repetition.rows).map fun name => (name, repetition.record numpy name) := by
    rw [generateBenchmarkReport, List.map_map]
    rfl
  rw [Repetition.report, saveBenchmarkResults, entries, Dict.entries_ofEntries]
  rw [List.map_map]
  exact (List.map_id _).symm ▸ groupNames_nodup _

theorem records_report (repetition : Repetition Number) (name : String) :
    ((repetition.report numpy).entries.filter fun entry => entry.1 = name).map (·.2) =
      if repetition.ran name then [repetition.record numpy name] else [] := by
  rw [Dict.filter_entries]
  by_cases ran : repetition.ran name = true
  · have found : (repetition.report numpy).get? name = some (repetition.record numpy name) := by
      rw [Dict.get?_eq_some_iff, entries_report]
      exact List.mem_map.mpr ⟨name, ran_iff.mp ran, rfl⟩
    rw [found, if_pos ran]
    rfl
  · have absent : (repetition.report numpy).get? name = none := by
      rw [Dict.get?_eq_none_iff, Dict.keys, entries_report, List.map_map]
      intro member
      obtain ⟨other, isName, rfl⟩ := List.mem_map.mp member
      exact ran (ran_iff.mpr isName)
    rw [absent, if_neg ran]
    rfl

/-- All records of all repetitions, with their names. -/
def allEntries (numpy : Numpy Number) (repetitions : List (Repetition Number)) :
    List (String × Record Number) :=
  (repetitions.map (Repetition.report · numpy)).flatMap Dict.entries

/-- The records of a benchmark are those of the repetitions in which it ran. -/
theorem records_allEntries (repetitions : List (Repetition Number)) (name : String) :
    ((allEntries numpy repetitions).filter fun entry => entry.1 = name).map (·.2) =
      (repetitions.filter (Repetition.ran · name)).map (Repetition.record · numpy name) := by
  induction repetitions with
  | nil => rfl
  | cons repetition rest inductionHypothesis =>
    rw [allEntries, List.map_cons, List.flatMap_cons, List.filter_append, List.map_append,
      records_report, List.filter_cons]
    rw [allEntries] at inductionHypothesis
    rw [inductionHypothesis]
    split <;> rfl

theorem mem_names_allEntries {repetitions : List (Repetition Number)} {name : String} :
    name ∈ (allEntries numpy repetitions).map (·.1) ↔
      ∃ repetition ∈ repetitions, repetition.ran name = true := by
  rw [allEntries, List.map_flatMap, List.mem_flatMap]
  constructor
  · rintro ⟨_, isReport, member⟩
    obtain ⟨repetition, inRepetitions, rfl⟩ := List.mem_map.mp isReport
    rw [entries_report, List.map_map] at member
    obtain ⟨other, isName, rfl⟩ := List.mem_map.mp member
    exact ⟨repetition, inRepetitions, ran_iff.mpr isName⟩
  · rintro ⟨repetition, inRepetitions, ran⟩
    refine ⟨_, List.mem_map_of_mem inRepetitions, ?_⟩
    rw [entries_report, List.map_map]
    exact List.mem_map.mpr ⟨name, ran_iff.mp ran, rfl⟩

/-- The metrics of the combined report, which are those of the first repetition. -/
def Repetition.metrics (repetition : Repetition Number) : List String :=
  "name" :: aggregatedColumns.map renameColumn ++ repetition.counters

omit [Field Number] in
theorem metricsOf_cons {record : Record Number} (nonempty : record.keys ≠ [])
    (rest : List (Record Number)) : metricsOf (record :: rest) = record.keys := by
  have kept : ∀ (records : List (Record Number)),
      records.foldl (fun metrics record => if metrics = [] then record.keys else metrics)
        record.keys = record.keys := by
    intro records
    induction records with
    | nil => rfl
    | cons other records inductionHypothesis =>
      rw [List.foldl_cons, if_neg nonempty, inductionHypothesis]
  rw [metricsOf, List.foldl_cons, if_pos rfl, kept]

theorem metricsOf_allEntries {first : Repetition Number} (ran : first.rows ≠ [])
    (rest : List (Repetition Number)) :
    metricsOf ((allEntries numpy (first :: rest)).map (·.2)) = first.metrics := by
  obtain ⟨row, rows, split⟩ := List.exists_cons_of_ne_nil ran
  have member : reportedName row.benchmark ∈ groupNames first.rows :=
    mem_groupNames.mpr ⟨row, split ▸ List.mem_cons_self, rfl⟩
  obtain ⟨name, names, split⟩ := List.exists_cons_of_ne_nil (List.ne_nil_of_mem member)
  rw [allEntries, List.map_cons, List.flatMap_cons, entries_report, split, List.map_cons,
    List.cons_append, List.map_cons, metricsOf_cons, keys_record]
  · rfl
  · rw [keys_record]
    nofun

/-! ### When the combined report is made -/

/-- The row of a benchmark in the combined report. -/
structure CombinedRow (numpy : Numpy Number) (first : Repetition Number)
    (rest : List (Repetition Number)) (name : String) (row : Record Number) : Prop where
  keys : row.keys = first.metrics
  isNamed : row.get? "name" = some (.text name)
  metrics : ∀ metric ∈ first.metrics, metric ≠ "name" → ∃ values,
    List.Forall₂ (fun repetition value => repetition.measure numpy name metric = some value)
      ((first :: rest).filter (Repetition.ran · name)) values ∧
    row.get? metric = some (.number (combine numpy metric values))

/-- A combined report has one row for each benchmark that ran in some repetition. -/
def CombinedReport (numpy : Numpy Number) (first : Repetition Number)
    (rest : List (Repetition Number)) (report : List (Record Number)) : Prop :=
  ∃ names : List String, names.Nodup ∧
    (∀ name, name ∈ names ↔ ∃ repetition ∈ first :: rest, repetition.ran name = true) ∧
    List.Forall₂ (CombinedRow numpy first rest) names report

theorem aggregateMetric_records (repetitions : List (Repetition Number)) (name : String)
    {metric : String} (proper : metric ≠ "name") :
    aggregateMetric numpy name metric (repetitions.map (Repetition.record · numpy name)) =
      (repetitions.mapM (Repetition.measure · numpy name metric)).map
        fun values => .number (combine numpy metric values) := by
  rw [aggregateMetric_eq name proper, List.mapM_map]
  · have same : (numberAt metric ∘ (Repetition.record · numpy name)) =
        (Repetition.measure · numpy name metric) :=
      funext fun repetition => numberAt_record repetition name proper
    rw [same]
  · intro record member
    obtain ⟨repetition, _, rfl⟩ := List.mem_map.mp member
    exact get?_record_ne_nan repetition name metric

theorem metrics_nodup (numpy : Numpy Number) (repetition : Repetition Number) :
    repetition.metrics.Nodup := by
  have distinct := (repetition.record numpy "").distinct
  rwa [← Dict.keys, keys_record] at distinct

/-- The records of a benchmark, those of the repetitions in which it ran. -/
def recordsOf (numpy : Numpy Number) (repetitions : List (Repetition Number)) (name : String) :
    List (Record Number) :=
  (repetitions.filter (Repetition.ran · name)).map (Repetition.record · numpy name)

theorem aggregateBenchmark_eq_some_iff {metrics : List String} {name : String}
    {records : List (Record Number)} {row : Record Number} :
    aggregateBenchmark numpy metrics name records = some row ↔
      ∃ cells, (metrics.mapM fun metric => (aggregateMetric numpy name metric records).map
        fun cell => (metric, cell)) = some cells ∧ Dict.ofEntries cells = row := by
  rw [aggregateBenchmark, Option.bind_eq_bind, Option.bind_eq_some_iff]
  simp only [Option.pure_def, Option.some.injEq]

theorem combinedRow_of_aggregateBenchmark {first : Repetition Number}
    {rest : List (Repetition Number)} {name : String} {row : Record Number}
    (computed : aggregateBenchmark numpy first.metrics name (recordsOf numpy (first :: rest) name) =
      some row) : CombinedRow numpy first rest name row := by
  rw [aggregateBenchmark_eq_some_iff] at computed
  obtain ⟨cells, computed, rfl⟩ := computed
  have related := mapM_eq_some_iff.mp computed
  have keys : cells.map (·.1) = first.metrics := by
    clear computed
    generalize first.metrics = metrics at related
    induction related with
    | nil => rfl
    | cons found _ inductionHypothesis =>
      obtain ⟨cell, _, rfl⟩ := Option.map_eq_some_iff.mp found
      rw [List.map_cons, inductionHypothesis]
  have entries : (Dict.ofEntries cells).entries = cells :=
    Dict.entries_ofEntries (keys ▸ metrics_nodup numpy first)
  have cellAt : ∀ metric ∈ first.metrics, ∃ cell,
      aggregateMetric numpy name metric (recordsOf numpy (first :: rest) name) = some cell ∧
        (Dict.ofEntries cells).get? metric = some cell := by
    intro metric member
    obtain ⟨entry, isEntry, found⟩ := mem_of_mapM_eq_some computed member
    obtain ⟨cell, isCell, rfl⟩ := Option.map_eq_some_iff.mp found
    refine ⟨cell, isCell, Dict.get?_eq_some_iff.mpr ?_⟩
    rw [entries]
    exact isEntry
  refine ⟨?_, ?_, fun metric member proper => ?_⟩
  · rw [Dict.keys, entries, keys]
  · obtain ⟨cell, isCell, found⟩ := cellAt "name" List.mem_cons_self
    rw [aggregateMetric, if_pos rfl] at isCell
    rw [found, isCell]
  · obtain ⟨cell, isCell, found⟩ := cellAt metric member
    rw [recordsOf, aggregateMetric_records _ name proper] at isCell
    obtain ⟨values, measured, rfl⟩ := Option.map_eq_some_iff.mp isCell
    exact ⟨values, mapM_eq_some_iff.mp measured, found⟩

/-- A row can be made when each repetition in which the benchmark ran has all its numbers. -/
theorem aggregateBenchmark_isSome_iff {repetitions : List (Repetition Number)} {name : String}
    {metrics : List String} :
    (∃ row, aggregateBenchmark numpy metrics name (recordsOf numpy repetitions name) = some row) ↔
      ∀ metric ∈ metrics, metric ≠ "name" → ∀ repetition ∈ repetitions,
        repetition.ran name = true →
          ∃ value, repetition.measure numpy name metric = some value := by
  have cell : ∀ metric, (∃ entry, (aggregateMetric numpy name metric
      (recordsOf numpy repetitions name)).map (fun cell => (metric, cell)) = some entry) ↔
      (metric ≠ "name" → ∀ repetition ∈ repetitions, repetition.ran name = true →
        ∃ value, repetition.measure numpy name metric = some value) := by
    intro metric
    by_cases isName : metric = "name"
    · rw [aggregateMetric, if_pos isName]
      exact ⟨fun _ proper => absurd isName proper, fun _ => ⟨_, rfl⟩⟩
    · rw [recordsOf, aggregateMetric_records _ name isName]
      simp only [Option.map_map, Option.map_eq_some_iff]
      constructor
      · rintro ⟨_, values, measured, _⟩ _ repetition member ran
        obtain ⟨value, _, found⟩ := mem_of_mapM_eq_some measured
          (List.mem_filter.mpr ⟨member, ran⟩)
        exact ⟨value, found⟩
      · intro measures
        obtain ⟨values, measured⟩ := mapM_isSome_iff.mpr fun repetition member =>
          measures isName repetition (List.mem_filter.mp member).1 (List.mem_filter.mp member).2
        exact ⟨_, values, measured, rfl⟩
  constructor
  · rintro ⟨row, computed⟩ metric member
    obtain ⟨cells, computed, _⟩ := aggregateBenchmark_eq_some_iff.mp computed
    obtain ⟨entry, _, found⟩ := mem_of_mapM_eq_some computed member
    exact (cell metric).mp ⟨entry, found⟩
  · intro measures
    obtain ⟨cells, computed⟩ := mapM_isSome_iff.mpr fun metric member =>
      (cell metric).mpr (measures metric member)
    exact ⟨Dict.ofEntries cells, aggregateBenchmark_eq_some_iff.mpr ⟨cells, computed, rfl⟩⟩

/-- The loop over the groups of records, once the metrics and the records are known. -/
theorem finalReport_eq_some_iff {first : Repetition Number} (ran : first.rows ≠ [])
    {rest : List (Repetition Number)} {report : List (Record Number)} :
    finalReport numpy (first :: rest) = some report ↔
      List.Forall₂ (fun name row => aggregateBenchmark numpy first.metrics name
        (recordsOf numpy (first :: rest) name) = some row)
        (Dict.group (allEntries numpy (first :: rest))).keys report := by
  have nonempty : first.metrics ≠ [] := List.cons_ne_nil _ _
  have unfolded : finalReport numpy (first :: rest) =
      if metricsOf ((allEntries numpy (first :: rest)).map (·.2)) = [] then none
      else (Dict.group (allEntries numpy (first :: rest))).entries.mapM fun data =>
        aggregateBenchmark numpy (metricsOf ((allEntries numpy (first :: rest)).map (·.2))) data.1
          data.2 := rfl
  rw [unfolded, metricsOf_allEntries ran, if_neg nonempty, mapM_eq_some_iff, Dict.keys,
    List.forall₂_map_left_iff]
  have records : ∀ data ∈ (Dict.group (allEntries numpy (first :: rest))).entries,
      data.2 = recordsOf numpy (first :: rest) data.1 := by
    rintro ⟨name, records⟩ member
    rw [Dict.mem_entries_group member, records_allEntries]
    rfl
  constructor
  · intro related
    refine ((List.forall₂_and_left _ _).mpr ⟨records, related⟩).imp fun data row both => ?_
    rw [← both.1]
    exact both.2
  · intro related
    refine ((List.forall₂_and_left _ _).mpr ⟨records, related⟩).imp fun data row both => ?_
    rw [both.1]
    exact both.2

theorem combinedReport_of_finalReport {first : Repetition Number} (ran : first.rows ≠ [])
    {rest : List (Repetition Number)} {report : List (Record Number)}
    (made : finalReport numpy (first :: rest) = some report) :
    CombinedReport numpy first rest report := by
  refine ⟨_, (Dict.group (allEntries numpy (first :: rest))).distinct, fun name => ?_, ?_⟩
  · exact Dict.mem_keys_group.trans mem_names_allEntries
  · exact ((finalReport_eq_some_iff ran).mp made).imp fun _ _ computed =>
      combinedRow_of_aggregateBenchmark computed

/-- The combined report is made when each repetition has a number for each metric of each
benchmark that ran in it. -/
theorem finalReport_isSome_iff {first : Repetition Number} (ran : first.rows ≠ [])
    {rest : List (Repetition Number)} :
    (∃ report, finalReport numpy (first :: rest) = some report) ↔
      ∀ repetition ∈ first :: rest, ∀ name, repetition.ran name = true →
        ∀ metric ∈ first.metrics, metric ≠ "name" →
          ∃ value, repetition.measure numpy name metric = some value := by
  simp only [finalReport_eq_some_iff ran, ← mapM_eq_some_iff]
  rw [mapM_isSome_iff]
  simp only [aggregateBenchmark_isSome_iff]
  constructor
  · intro measures repetition member name ranHere metric isMetric proper
    exact measures name (Dict.mem_keys_group.trans mem_names_allEntries |>.mpr
      ⟨repetition, member, ranHere⟩) metric isMetric proper repetition member ranHere
  · intro measures name _ metric isMetric proper repetition member ranHere
    exact measures repetition member name ranHere metric isMetric proper

/-! ### What a repetition must have measured -/

theorem std_isSome_iff (values : List Number) :
    (∃ value, (std numpy values).number? = some value) ↔ 2 ≤ values.length := by
  rw [std]
  split
  · rename_i few
    exact ⟨fun ⟨_, impossible⟩ => (nomatch impossible), fun enough => absurd few (by omega)⟩
  · rename_i enough
    exact ⟨fun _ => Nat.not_lt.mp enough, fun _ => ⟨_, rfl⟩⟩

/-- What a repetition says of a metric that is not one of the report's own. -/
theorem measure_counter (repetition : Repetition Number) (name : String) {counter : String}
    (proper : counter ∉ "name" :: aggregatedColumns.map renameColumn) :
    repetition.measure numpy name counter =
      match repetition.perfCounters with
      | none => none
      | some frame => if counter ∈ frame.counters then frame.value name counter else none := by
  have columns : aggregatedColumns.map renameColumn = ["Count", "real_time", "cpu_time",
      "iterations", "real_time_std", "cpu_time_std", "iterations_std"] := rfl
  simp only [columns, List.mem_cons, List.not_mem_nil, not_or, or_false] at proper
  obtain ⟨_, count, real, cpu, iterations, realStd, cpuStd, iterationsStd⟩ := proper
  simp only [Repetition.measure, count, real, cpu, iterations, realStd, cpuStd, iterationsStd,
    if_false]

omit [Field Number] in
theorem counter_proper {repetition : Repetition Number} {counter : String}
    (isCounter : counter ∈ repetition.counters) :
    counter ∉ "name" :: aggregatedColumns.map renameColumn := by
  rw [Repetition.counters] at isCounter
  split at isCounter
  · cases isCounter
  · rename_i frame _
    exact fun member => (List.nodup_append.mp frame.distinct).2.2 _ member _ isCounter rfl

/-- Of the report's own metrics only the standard deviations can be missing. -/
theorem measure_column (repetition : Repetition Number) (name : String)
    (twice : 2 ≤ (runsOf repetition.rows name).length) {metric : String}
    (isColumn : metric ∈ aggregatedColumns.map renameColumn) :
    ∃ value, repetition.measure numpy name metric = some value := by
  have deviates : ∀ column : RunRow Number → Number, ∃ value,
      (std numpy ((runsOf repetition.rows name).map column)).number? = some value := by
    intro column
    rw [std_isSome_iff, List.length_map]
    exact twice
  have columns : aggregatedColumns.map renameColumn = ["Count", "real_time", "cpu_time",
      "iterations", "real_time_std", "cpu_time_std", "iterations_std"] := rfl
  simp only [columns, List.mem_cons, List.not_mem_nil, or_false] at isColumn
  rcases isColumn with rfl | rfl | rfl | rfl | rfl | rfl | rfl
  · exact ⟨_, rfl⟩
  · exact ⟨_, rfl⟩
  · exact ⟨_, rfl⟩
  · exact ⟨_, rfl⟩
  · exact deviates (·.wallTimes)
  · exact deviates (·.cpuTimes)
  · exact deviates (·.iterations)

/-- A repetition has every number of a benchmark when the benchmark ran twice and has all
counters. -/
theorem measures_iff {first repetition : Repetition Number} {name : String} :
    (∀ metric ∈ first.metrics, metric ≠ "name" →
      ∃ value, repetition.measure numpy name metric = some value) ↔
      2 ≤ (runsOf repetition.rows name).length ∧ ∀ counter ∈ first.counters,
        ∃ frame, repetition.perfCounters = some frame ∧ counter ∈ frame.counters ∧
          ∃ value, frame.value name counter = some value := by
  constructor
  · intro measures
    refine ⟨?_, fun counter isCounter => ?_⟩
    · have deviates := measures "real_time_std"
        (List.mem_append_left _ (show _ ∈ _ by decide)) (by decide)
      have twice := (std_isSome_iff _).mp deviates
      rwa [List.length_map] at twice
    · have proper := counter_proper isCounter
      obtain ⟨value, found⟩ := measures counter (List.mem_append_right _ isCounter)
        fun isName => proper (isName ▸ List.mem_cons_self)
      rw [measure_counter repetition name proper] at found
      split at found
      · cases found
      · rename_i frame isFrame
        split at found
        · rename_i known
          exact ⟨frame, isFrame, known, value, found⟩
        · cases found
  · rintro ⟨twice, complete⟩ metric member proper
    rcases List.mem_append.mp member with isColumn | isCounter
    · rcases List.mem_cons.mp isColumn with isName | isColumn
      · exact absurd isName proper
      · exact measure_column repetition name twice isColumn
    · obtain ⟨frame, isFrame, known, value, found⟩ := complete metric isCounter
      rw [measure_counter repetition name (counter_proper isCounter), isFrame]
      exact ⟨value, (if_pos known).trans found⟩

/-- The reports of the repetitions can be combined, and are combined correctly, exactly when every
benchmark ran at least twice in each repetition in which it ran, and has there a value for each
performance counter of the first repetition. -/
theorem combinedReport_iff {first : Repetition Number} (ran : first.rows ≠ [])
    {rest : List (Repetition Number)} :
    (∃ report, finalReport numpy (first :: rest) = some report ∧
      CombinedReport numpy first rest report) ↔
      ∀ repetition ∈ first :: rest, ∀ row ∈ repetition.rows,
        2 ≤ (runsOf repetition.rows (reportedName row.benchmark)).length ∧
        ∀ counter ∈ first.counters, ∃ frame, repetition.perfCounters = some frame ∧
          counter ∈ frame.counters ∧
            ∃ value, frame.value (reportedName row.benchmark) counter = some value := by
  have made : (∃ report, finalReport numpy (first :: rest) = some report ∧
      CombinedReport numpy first rest report) ↔
      ∃ report, finalReport numpy (first :: rest) = some report :=
    ⟨fun ⟨report, made, _⟩ => ⟨report, made⟩,
      fun ⟨report, made⟩ => ⟨report, made, combinedReport_of_finalReport ran made⟩⟩
  rw [made, finalReport_isSome_iff ran]
  simp only [measures_iff, ran_iff, mem_groupNames]
  constructor
  · exact fun complete repetition member row inRows =>
      complete repetition member _ ⟨row, inRows, rfl⟩
  · rintro complete repetition member name ⟨row, inRows, rfl⟩
    exact complete repetition member row inRows

/-! ### Two repetitions -/

def roundHalfEven (value : Rat) : Int :=
  let low := value.floor
  if value - low < 1 / 2 then low
  else if 1 / 2 < value - low then low + 1
  else if low % 2 = 0 then low
  else low + 1

/-- NumPy on rationals; roots are those of squares. -/
def rationals : Numpy Rat where
  round := fun value => roundHalfEven (value * 1000) / 1000
  truncate := fun value => if 0 ≤ value then value.floor else value.ceil
  sqrt := Rat.sqrt

def runs (benchmark : String) (times : List Rat) : List (RunRow Rat) :=
  times.map fun time => ⟨benchmark, time, time, 10⟩

/-- Two benchmarks, one of which runs in the first repetition only. -/
def ranTwice : Repetition Rat := ⟨runs "bench (BM_A)" [1, 2, 3] ++ runs "bench (BM_B)" [4, 4], none⟩

def ranTwiceAgain : Repetition Rat := ⟨runs "bench (BM_A)" [5, 5], none⟩

theorem combinedReport_ranTwice : ∃ report,
    finalReport rationals [ranTwice, ranTwiceAgain] = some report ∧
      CombinedReport rationals ranTwice [ranTwiceAgain] report := by
  refine (combinedReport_iff (List.cons_ne_nil _ _)).mpr fun repetition member row inRows =>
    ⟨?_, fun counter isCounter => (nomatch isCounter)⟩
  have twice : ∀ repetition ∈ [ranTwice, ranTwiceAgain], ∀ row ∈ repetition.rows,
      2 ≤ (runsOf repetition.rows (reportedName row.benchmark)).length := by
    decide +kernel
  exact twice repetition member row inRows

/-- The benchmark runs once in the first repetition. -/
def ranOnce : Repetition Rat := ⟨runs "bench (BM_A)" [1], none⟩

/-- A single run has no standard deviation, and the combined report cannot be made. -/
theorem not_combinedReport_ranOnce : ¬ ∃ report,
    finalReport rationals [ranOnce, ranTwiceAgain] = some report ∧
      CombinedReport rationals ranOnce [ranTwiceAgain] report := by
  rintro ⟨report, made, _⟩
  have measures := (finalReport_isSome_iff (List.cons_ne_nil _ _)).mp ⟨report, made⟩ ranOnce
    List.mem_cons_self "BM_A" (by decide +kernel)
  have twice := (measures_iff.mp measures).1
  exact absurd twice (by decide +kernel)

end Fleetbench.Parallel
