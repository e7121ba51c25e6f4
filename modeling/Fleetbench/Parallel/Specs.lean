/-
This file models `_ParseBenchmarkThreads` and compares it with
`_ParseBenchmarkWeights`. Both read a name, a colon and a number. The one splits
at the last colon, the other at all of them, so it skips names with a colon.
-/

import Fleetbench.Parallel.WorkloadWeights
import Fleetbench.Parallel.Reporter

namespace Fleetbench.Parallel

open Library

/-! ### The parser of threads -/

/-- The thread count in one string, if it is valid; `int` is a parameter. -/
def parseThreads (int : String → Option Int) (spec : String) : Option (String × Int) :=
  match splitAtLast [':'] spec.toList with
  | some (benchmark, nThreads) => do
    let threads ← int (String.ofList nThreads)
    return (String.ofList benchmark, threads)
  | none => none

/-- `_ParseBenchmarkThreads`; invalid strings are skipped. -/
def parseBenchmarkThreads (int : String → Option Int) (benchmarkThreadsList : List String) :
    Dict String Int :=
  .ofEntries (benchmarkThreadsList.filterMap (parseThreads int))

/-! ### The format -/

section

variable {Number : Type}

/-- The text is a name, a colon and the text of a number. -/
def IsSpec (number : String → Option Number) (spec : String) (entry : String × Number) : Prop :=
  ∃ text : String, ':' ∉ text.toList ∧ spec = entry.1 ++ ":" ++ text ∧ number text = some entry.2

/-- What a text says in this format, if anything. -/
def specOf (number : String → Option Number) (spec : String) : Option (String × Number) :=
  match splitAtLast [':'] spec.toList with
  | some (name, text) => (number (String.ofList text)).map fun value => (String.ofList name, value)
  | none => none

theorem splitAtLast_singleton (c : Char) (text : List Char) :
    match splitAtLast [c] text with
    | some (before, after) => text = before ++ c :: after ∧ c ∉ after
    | none => c ∉ text := by
  induction text with
  | nil => exact List.not_mem_nil
  | cons first rest inductionHypothesis =>
    rw [splitAtLast]
    cases splits : splitAtLast [c] rest with
    | some parts =>
      rw [splits] at inductionHypothesis
      exact ⟨congrArg (first :: ·) inductionHypothesis.1, inductionHypothesis.2⟩
    | none =>
      rw [splits] at inductionHypothesis
      by_cases same : c = first
      · subst same
        rw [if_pos (List.singleton_prefix_cons_iff.mpr rfl)]
        exact ⟨rfl, inductionHypothesis⟩
      · rw [if_neg (fun begins => same (List.singleton_prefix_cons_iff.mp begins))]
        exact fun member => (List.mem_cons.mp member).elim same inductionHypothesis

theorem splitAtLast_of_colon {before after : List Char} (last : ':' ∉ after) :
    splitAtLast [':'] (before ++ ':' :: after) = some (before, after) := by
  have none : splitAtLast [':'] after = none := by
    cases splits : splitAtLast [':'] after with
    | none => rfl
    | some parts =>
      have found := splitAtLast_singleton ':' after
      rw [splits] at found
      exact absurd (found.1 ▸ List.mem_append_right _ List.mem_cons_self) last
  have found := splitAtLast_append before after (List.cons_ne_nil ':' [])
    (by rintro c rest ⟨⟩; exact none)
  rwa [List.append_assoc] at found

variable {number : String → Option Number}

theorem specOf_eq_some_iff {spec : String} {entry : String × Number} :
    specOf number spec = some entry ↔ IsSpec number spec entry := by
  constructor
  · intro found
    have parts := splitAtLast_singleton ':' spec.toList
    rw [specOf] at found
    split at found
    · rename_i name text splits
      rw [splits] at parts
      obtain ⟨value, isNumber, rfl⟩ := Option.map_eq_some_iff.mp found
      refine ⟨String.ofList text, by rw [String.toList_ofList]; exact parts.2, ?_, isNumber⟩
      rw [← String.toList_inj, parts.1]
      simp
    · cases found
  · rintro ⟨text, plain, rfl, isNumber⟩
    have chars : (entry.1 ++ ":" ++ text).toList = entry.1.toList ++ ':' :: text.toList := by
      simp
    have splits := @splitAtLast_of_colon entry.1.toList _ plain
    rw [specOf, chars, splits]
    show (number (String.ofList text.toList)).map _ = _
    rw [String.ofList_toList, String.ofList_toList, isNumber]
    rfl

end

/-! ### What the parsers read -/

theorem parseThreads_eq (int : String → Option Int) : parseThreads int = specOf int := by
  refine funext fun spec => ?_
  rw [parseThreads, specOf]
  split
  · rename_i name text _
    cases int (String.ofList text) <;> rfl
  · rfl

theorem three_fields {before : List Char} (colon : ':' ∈ before) (after : List Char) :
    ∃ first second third rest,
      before.splitOn ':' ++ [after] = first :: second :: third :: rest := by
  obtain ⟨left, right, rfl⟩ := List.append_of_mem colon
  have one := List.length_pos_iff.mpr (List.splitOn_ne_nil ':' left)
  have two := List.length_pos_iff.mpr (List.splitOn_ne_nil ':' right)
  have long : 3 ≤ ((left ++ ':' :: right).splitOn ':' ++ [after]).length := by
    rw [List.splitOn_append_cons_self, List.length_append, List.length_append,
      List.length_singleton]
    omega
  match (left ++ ':' :: right).splitOn ':' ++ [after], long with
  | first :: second :: third :: rest, _ => exact ⟨first, second, third, rest, rfl⟩

/-- Weights are read unless the name has a colon, too. -/
theorem parseWeight_eq (python : Python) (spec : String) :
    python.parseWeight spec = (specOf python.float spec).bind fun entry =>
      if ':' ∈ entry.1.toList then none else some (python.upper entry.1, entry.2) := by
  have parts := splitAtLast_singleton ':' spec.toList
  rw [Python.parseWeight, specOf]
  cases splits : splitAtLast [':'] spec.toList with
  | none =>
    rw [splits] at parts
    rw [List.splitOn_eq_singleton parts]
    rfl
  | some beforeAfter =>
    obtain ⟨before, after⟩ := beforeAfter
    rw [splits] at parts
    obtain ⟨text, last⟩ := parts
    rw [text, List.splitOn_append_cons_self, List.splitOn_eq_singleton last]
    show _ = ((python.float (String.ofList after)).map fun value =>
      (String.ofList before, value)).bind _
    by_cases colon : ':' ∈ before
    · have inside : ':' ∈ (String.ofList before).toList := by
        rw [String.toList_ofList]
        exact colon
      obtain ⟨first, second, third, rest, fields⟩ := three_fields colon after
      rw [fields]
      cases python.float (String.ofList after) with
      | none => rfl
      | some weight => exact (if_pos inside).symm
    · have outside : ':' ∉ (String.ofList before).toList := by
        rw [String.toList_ofList]
        exact colon
      rw [List.splitOn_eq_singleton colon]
      cases float : python.float (String.ofList after) with
      | none =>
        show (python.float (String.ofList after)).bind _ = none
        rw [float]
        rfl
      | some weight =>
        show (python.float (String.ofList after)).bind _ = if ':' ∈ (String.ofList before).toList
          then none else some (python.upper (String.ofList before), weight)
        rw [float, if_neg outside]
        rfl

/-- What a text says, with the name in upper case. -/
def upperSpecOf (python : Python) (spec : String) : Option (String × ℚ) :=
  (specOf python.float spec).map fun entry => (python.upper entry.1, entry.2)

theorem parseWeight_eq_or (python : Python) (spec : String) :
    python.parseWeight spec = none ∨ python.parseWeight spec = upperSpecOf python spec := by
  rw [parseWeight_eq, upperSpecOf]
  cases specOf python.float spec with
  | none => exact .inl rfl
  | some entry =>
    show (if ':' ∈ entry.1.toList then none else _) = none ∨
      (if ':' ∈ entry.1.toList then none else _) = _
    split
    · exact .inl rfl
    · exact .inr rfl

/-- A weight is read if and only if the name has no colon. -/
theorem parseWeight_eq_iff (python : Python) (spec : String) :
    python.parseWeight spec = upperSpecOf python spec ↔
      ∀ entry, IsSpec python.float spec entry → ':' ∉ entry.1.toList := by
  simp only [← specOf_eq_some_iff]
  rw [parseWeight_eq, upperSpecOf]
  cases specOf python.float spec with
  | none => exact ⟨fun _ _ impossible => (nomatch impossible), fun _ => rfl⟩
  | some entry =>
    show (if ':' ∈ entry.1.toList then none else some _) = some _ ↔ _
    by_cases colon : ':' ∈ entry.1.toList
    · rw [if_pos colon]
      exact ⟨fun impossible => (nomatch impossible), fun plain => absurd colon (plain entry rfl)⟩
    · rw [if_neg colon]
      refine ⟨fun _ other same => ?_, fun _ => rfl⟩
      cases same
      exact colon

/-- The parser of weights reads a list of specs as it should if and only if no name in a valid one
has a colon. -/
theorem parseBenchmarkWeights_eq_iff (python : Python) {specs : List String}
    (distinct : ((specs.filterMap (upperSpecOf python)).map Prod.fst).Nodup) :
    (python.parseBenchmarkWeights specs).entries = specs.filterMap (upperSpecOf python) ↔
      ∀ spec ∈ specs, ∀ entry, IsSpec python.float spec entry → ':' ∉ entry.1.toList := by
  have less := filterMap_sublist (parseWeight_eq_or python) specs
  rw [Python.parseBenchmarkWeights, Dict.entries_ofEntries ((less.map Prod.fst).nodup distinct),
    filterMap_eq_iff (parseWeight_eq_or python)]
  exact forall₂_congr fun spec _ => parseWeight_eq_iff python spec

/-- The parser of threads reads every list of specs as it should. -/
theorem parseBenchmarkThreads_eq (int : String → Option Int) {specs : List String}
    (distinct : ((specs.filterMap (specOf int)).map Prod.fst).Nodup) :
    (parseBenchmarkThreads int specs).entries = specs.filterMap (specOf int) := by
  rw [parseBenchmarkThreads, parseThreads_eq, Dict.entries_ofEntries distinct]

theorem specOf_text {Number : Type} {number : String → Option Number} (name : String)
    {text : String} {value : Number} (plain : ':' ∉ text.toList)
    (isNumber : number text = some value) :
    specOf number (name ++ ":" ++ text) = some (name, value) :=
  specOf_eq_some_iff.mpr ⟨text, plain, rfl, isNumber⟩

/-- The parser of threads inverts the format. The parser of weights does so if and only if no name
has a colon. -/
theorem specParsers_law (python : Python) (int : String → Option Int) :
    (∀ name text weight, ':' ∉ text.toList → python.float text = some weight →
      ((python.parseBenchmarkWeights [name ++ ":" ++ text]).entries =
        [(python.upper name, weight)] ↔ ':' ∉ name.toList)) ∧
    (∀ name text threads, ':' ∉ text.toList → int text = some threads →
      (parseBenchmarkThreads int [name ++ ":" ++ text]).entries = [(name, threads)]) ∧
    (∀ specs, ((specs.filterMap (upperSpecOf python)).map Prod.fst).Nodup →
      ((python.parseBenchmarkWeights specs).entries = specs.filterMap (upperSpecOf python) ↔
        ∀ spec ∈ specs, ∀ entry, IsSpec python.float spec entry → ':' ∉ entry.1.toList)) ∧
    ∀ specs, ((specs.filterMap (specOf int)).map fun entry => python.upper entry.1).Nodup →
      (parseBenchmarkThreads int specs).entries = specs.filterMap (specOf int) := by
  refine ⟨fun name text weight plain isNumber => ?_, fun name text threads plain isNumber => ?_,
    fun specs => parseBenchmarkWeights_eq_iff python, fun specs distinct => ?_⟩
  · have found := specOf_text name plain isNumber
    have read : [name ++ ":" ++ text].filterMap (upperSpecOf python) =
        [(python.upper name, weight)] := by
      rw [List.filterMap_cons, upperSpecOf, found]
      rfl
    have single := @parseBenchmarkWeights_eq_iff python [name ++ ":" ++ text] (by
      rw [read]
      exact List.nodup_singleton _)
    rw [read] at single
    rw [single, List.forall_mem_singleton]
    simp only [← specOf_eq_some_iff, found, Option.some_inj, forall_eq']
  · have read : [name ++ ":" ++ text].filterMap (specOf int) = [(name, threads)] := by
      rw [List.filterMap_cons, specOf_text name plain isNumber]
      rfl
    rw [parseBenchmarkThreads_eq int (by rw [read]; exact List.nodup_singleton _), read]
  · refine parseBenchmarkThreads_eq int (List.Nodup.of_map python.upper ?_)
    rwa [List.map_map]

/-- Integers with one digit. -/
def digitInt (text : String) : Option Int := (asciiPython.float text).map (·.num)

theorem specParsers_law_cord :
    ((asciiPython.parseBenchmarkWeights ["BM_CORD_Fleet" ++ ":" ++ "2"]).entries =
        [(asciiPython.upper "BM_CORD_Fleet", 2)] ↔ ':' ∉ "BM_CORD_Fleet".toList) ∧
      (parseBenchmarkThreads digitInt ["BM_A/b:1" ++ ":" ++ "4"]).entries = [("BM_A/b:1", 4)] ∧
      ((asciiPython.parseBenchmarkWeights ["a:1", "b", "c:1:x"]).entries =
          ["a:1", "b", "c:1:x"].filterMap (upperSpecOf asciiPython) ↔
        ∀ spec ∈ ["a:1", "b", "c:1:x"], ∀ entry, IsSpec asciiPython.float spec entry →
          ':' ∉ entry.1.toList) ∧
      (parseBenchmarkThreads digitInt ["a:1", "b", "c:1:2"]).entries =
        ["a:1", "b", "c:1:2"].filterMap (specOf digitInt) := by
  have law := specParsers_law asciiPython digitInt
  exact ⟨law.1 "BM_CORD_Fleet" "2" 2 (by decide) (by decide +kernel),
    law.2.1 "BM_A/b:1" "4" 4 (by decide) (by decide +kernel),
    law.2.2.1 _ (by decide +kernel), law.2.2.2 _ (by decide +kernel)⟩

/-- The weight of a benchmark whose name has a colon is skipped; its threads are not. -/
theorem not_parseBenchmarkWeights_colon :
    IsSpec asciiPython.float
        "BM_COMPRESSION_Brotli_COMPRESS_Fleet/compression_level:2/window_log:18:3"
        ("BM_COMPRESSION_Brotli_COMPRESS_Fleet/compression_level:2/window_log:18", 3) ∧
      (asciiPython.parseBenchmarkWeights
        ["BM_COMPRESSION_Brotli_COMPRESS_Fleet/compression_level:2/window_log:18:3"]).entries =
        [] ∧
      (parseBenchmarkThreads digitInt
        ["BM_COMPRESSION_Brotli_COMPRESS_Fleet/compression_level:2/window_log:18:3"]).entries =
        [("BM_COMPRESSION_Brotli_COMPRESS_Fleet/compression_level:2/window_log:18", 3)] :=
  ⟨⟨"3", by decide, by decide, by decide +kernel⟩, by decide +kernel, by decide +kernel⟩

end Fleetbench.Parallel
