/-
This file models the corpus of the compression benchmarks: the constructor that
goes over the entries of a zip archive, and the two scans that start at a lower
bound and stop at the first name that begins otherwise.

A benchmark asks for the files of its directory by the name of the directory. It
gets those of every directory whose name begins with that one.
-/

import Fleetbench.Library.SortedSet
import Fleetbench.Library.Dict
import Fleetbench.Library.Traverse
import Mathlib.Data.Char

namespace Fleetbench.Compression

open Library

/-! ### The corpus -/

/-- What the zip library tells: name and size of each entry, or that it cannot, and the bytes that
it reads of an entry into so many places. -/
structure ZipArchive where
  zipStatIndex : List (Option (List Char × Nat))
  zipFread : Nat → Nat → Option (List UInt8)

structure ZipEntry where
  size : Nat
  index : Nat
  deriving DecidableEq, Repr

structure CompressionCorpus where
  entries : Dict (List Char) ZipEntry
  corpora : SortedSet (List Char)
  directories : SortedSet (List Char)

theorem not_mem_of_mem_splitOn {separator : Char} {word part : List Char}
    (member : part ∈ word.splitOn separator) : separator ∉ part := by
  induction word generalizing part with
  | nil =>
    rw [List.splitOn_nil] at member
    rw [List.mem_singleton.mp member]
    exact List.not_mem_nil
  | cons letter word inductionHypothesis =>
    rw [List.splitOn_cons_eq_if_modifyHead] at member
    split at member
    · rcases List.mem_cons.mp member with rfl | later
      · exact List.not_mem_nil
      · exact inductionHypothesis later
    · rename_i other
      obtain ⟨first, rest, parts⟩ := List.exists_cons_of_ne_nil (List.splitOn_ne_nil separator word)
      rw [parts, List.modifyHead_cons] at member
      rw [parts] at inductionHypothesis
      rcases List.mem_cons.mp member with rfl | later
      · rw [List.mem_cons, not_or]
        refine ⟨fun same => other ?_, inductionHypothesis List.mem_cons_self⟩
        rw [same]
        exact beq_self_eq_true letter
      · exact inductionHypothesis (List.mem_cons_of_mem _ later)

/-- An entry of the archive, stored under the last two components of its name. -/
structure CorpusFile where
  dirname : List Char
  basename : List Char
  entry : ZipEntry
  plain : '/' ∉ dirname
  deriving DecidableEq

def CorpusFile.path (file : CorpusFile) : List Char := file.dirname ++ '/' :: file.basename

/-- What the constructor reads of an entry, whose name must have three components. -/
def readFile (stat : Option (List Char × Nat) × Nat) : Option CorpusFile := do
  let (name, size) ← stat.1
  let paths := name.splitOn '/'
  if long : 3 ≤ paths.length then
    some {
      dirname := paths[paths.length - 2]
      basename := paths[paths.length - 1]
      entry := ⟨size, stat.2⟩
      plain := not_mem_of_mem_splitOn (List.getElem_mem _) }
  else none

namespace CompressionCorpus

def empty : CompressionCorpus := ⟨.empty, .empty, .empty⟩

def addFile (corpus : CompressionCorpus) (file : CorpusFile) : CompressionCorpus where
  entries := corpus.entries.set file.path file.entry
  corpora := corpus.corpora.insert file.path
  directories := corpus.directories.insert file.dirname

/-- The constructor. -/
def construct (archive : ZipArchive) : Option CompressionCorpus :=
  archive.zipStatIndex.zipIdx.foldlM (fun corpus stat => (readFile stat).map corpus.addFile) empty

def getMatchingDirectories (corpus : CompressionCorpus) (front : List Char) : List (List Char) :=
  (corpus.directories.lowerBound front).takeWhile fun directory => front <+: directory

def getCorpora (corpus : CompressionCorpus) (archive : ZipArchive) (dirPath : List Char) :
    Option (List (List UInt8)) :=
  ((corpus.corpora.lowerBound dirPath).takeWhile fun path => dirPath <+: path).mapM fun path => do
    let entry ← corpus.entries.get? path
    archive.zipFread entry.index entry.size

end CompressionCorpus

/-! ### What the corpus holds -/

/-- All entries, if all can be read. -/
def ZipArchive.files (archive : ZipArchive) : Option (List CorpusFile) :=
  archive.zipStatIndex.zipIdx.mapM readFile

/-- The last file with a path. -/
def latestAt (files : List CorpusFile) (path : List Char) : Option CorpusFile :=
  files.reverse.find? fun file => file.path = path

/-- In the order of their paths, the wanted ones among the files that are the last of their path. -/
structure Selected (files : List CorpusFile) (wanted : CorpusFile → Prop)
    (found : List CorpusFile) : Prop where
  ascending : found.Pairwise fun first second => first.path < second.path
  mem_iff : ∀ file, file ∈ found ↔ latestAt files file.path = some file ∧ wanted file

namespace CompressionCorpus

/-- The corpus holds these files: under each path the last one. -/
structure Holds (corpus : CompressionCorpus) (files : List CorpusFile) : Prop where
  entries : ∀ path, corpus.entries.get? path = (latestAt files path).map CorpusFile.entry
  corpora : ∀ path, path ∈ corpus.corpora.keys ↔ ∃ file ∈ files, file.path = path
  directories : ∀ dirname, dirname ∈ corpus.directories.keys ↔
    ∃ file ∈ files, file.dirname = dirname

theorem holds_empty : empty.Holds [] where
  entries _ := rfl
  corpora _ :=
    ⟨fun member => absurd member List.not_mem_nil, fun ⟨_, member, _⟩ => nomatch member⟩
  directories _ :=
    ⟨fun member => absurd member List.not_mem_nil, fun ⟨_, member, _⟩ => nomatch member⟩

variable {corpus : CompressionCorpus} {files : List CorpusFile}

theorem mem_append_singleton_iff {Value : Type} {get : CorpusFile → Value} {value : Value}
    {file : CorpusFile} : (∃ other ∈ files ++ [file], get other = value) ↔
      value = get file ∨ ∃ other ∈ files, get other = value := by
  simp only [List.mem_append, List.mem_singleton, or_and_right, exists_or, exists_eq_left]
  rw [or_comm, eq_comm]

/-- One more round of the loop. -/
theorem Holds.addFile (holds : corpus.Holds files) (file : CorpusFile) :
    (corpus.addFile file).Holds (files ++ [file]) where
  entries path := by
    rw [latestAt, List.reverse_append, List.reverse_singleton, List.singleton_append,
      List.find?_cons]
    show (corpus.entries.set file.path file.entry).get? path = _
    by_cases same : file.path = path
    · subst same
      rw [Dict.get?_set_self, decide_eq_true rfl]
      rfl
    · rw [Dict.get?_set_of_ne _ (Ne.symm same), decide_eq_false same]
      exact holds.entries path
  corpora path := by
    rw [mem_append_singleton_iff, ← holds.corpora]
    exact SortedSet.mem_insert
  directories dirname := by
    rw [mem_append_singleton_iff, ← holds.directories]
    exact SortedSet.mem_insert

/-- The constructor fails if an entry cannot be read. -/
theorem construct_eq (archive : ZipArchive) :
    construct archive = archive.files.map fun files => files.foldl addFile empty :=
  foldlM_eq_map_foldl (fun _ _ => rfl) _ _

theorem holds_foldl {before : List CorpusFile} (holds : corpus.Holds before) :
    (files.foldl addFile corpus).Holds (before ++ files) := by
  induction files generalizing corpus before with
  | nil => exact (List.append_nil before).symm ▸ holds
  | cons file files inductionHypothesis =>
    have all := inductionHypothesis (holds.addFile file)
    rw [List.append_assoc] at all
    exact all

theorem holds_construct {archive : ZipArchive} (read : archive.files = some files) :
    ∃ corpus, construct archive = some corpus ∧ corpus.Holds files := by
  refine ⟨_, ?_, holds_foldl holds_empty⟩
  rw [construct_eq, read]
  rfl

/-! ### The scans -/

theorem mem_getMatchingDirectories (holds : corpus.Holds files) {front dirname : List Char} :
    dirname ∈ corpus.getMatchingDirectories front ↔
      front <+: dirname ∧ ∃ file ∈ files, file.dirname = dirname := by
  rw [getMatchingDirectories, takeWhile_lowerBound, List.mem_filter, holds.directories,
    decide_eq_true_iff, and_comm]

theorem path_of_latestAt {path : List Char} {file : CorpusFile}
    (latest : latestAt files path = some file) : file ∈ files ∧ file.path = path := by
  refine ⟨List.mem_reverse.mp (List.mem_of_find?_eq_some latest), ?_⟩
  have test := List.find?_some latest
  exact of_decide_eq_true test

theorem exists_latestAt {file : CorpusFile} (member : file ∈ files) :
    ∃ latest, latestAt files file.path = some latest := by
  refine Option.isSome_iff_exists.mp (List.find?_isSome.mpr ?_)
  exact ⟨file, List.mem_reverse.mpr member, decide_eq_true rfl⟩

/-- The scan reads every file whose path begins so. -/
theorem getCorpora_eq (holds : corpus.Holds files) (archive : ZipArchive) (dirPath : List Char) :
    ∃ found, corpus.getCorpora archive dirPath =
        found.mapM (fun file => archive.zipFread file.entry.index file.entry.size) ∧
      Selected files (fun file => dirPath <+: file.path) found := by
  have scanned := takeWhile_lowerBound corpus.corpora dirPath
  generalize listed : (corpus.corpora.keys.filter fun path => dirPath <+: path) = paths at scanned
  have mem_paths (path : List Char) : path ∈ paths ↔
      (∃ file ∈ files, file.path = path) ∧ dirPath <+: path := by
    rw [← listed, List.mem_filter, holds.corpora, decide_eq_true_iff]
  refine ⟨paths.filterMap (latestAt files), ?_, ?_, fun file => ?_⟩
  · rw [getCorpora, scanned]
    refine mapM_filterMap fun path member => ?_
    obtain ⟨⟨file, inside, rfl⟩, -⟩ := (mem_paths path).mp member
    obtain ⟨latest, isLatest⟩ := exists_latestAt inside
    refine ⟨latest, isLatest, ?_⟩
    rw [holds.entries file.path, isLatest]
    rfl
  · rw [List.pairwise_filterMap, ← listed]
    refine (corpus.corpora.ascending.filter _).imp fun below file latest later latest' => ?_
    rw [(path_of_latestAt latest).2, (path_of_latestAt latest').2]
    exact below
  · rw [List.mem_filterMap]
    constructor
    · rintro ⟨path, member, latest⟩
      obtain ⟨-, rfl⟩ := path_of_latestAt latest
      exact ⟨latest, ((mem_paths _).mp member).2⟩
    · rintro ⟨latest, begins⟩
      exact ⟨file.path, (mem_paths _).mpr ⟨⟨file, (path_of_latestAt latest).1, rfl⟩, begins⟩,
        latest⟩

/-! ### Directories -/

/-- What has no separator begins the path if and only if it begins the directory. -/
theorem prefix_path_iff {front : List Char} (plain : '/' ∉ front) (file : CorpusFile) :
    front <+: file.path ↔ front <+: file.dirname := by
  constructor
  · intro begins
    rcases Nat.lt_or_ge file.dirname.length front.length with long | short
    · have whole : file.dirname ++ ['/'] <+: front := by
        refine List.prefix_of_prefix_length_le ⟨file.basename, ?_⟩ begins ?_
        · rw [List.append_assoc]
          rfl
        · rw [List.length_append]
          exact long
      exact absurd (whole.subset (List.mem_append_right _ List.mem_cons_self)) plain
    · exact List.prefix_of_prefix_length_le begins (List.prefix_append _ _) short
  · exact fun begins => begins.trans (List.prefix_append _ _)

theorem dirname_eq_of_path_eq {file other : CorpusFile} (same : file.path = other.path) :
    file.dirname = other.dirname := by
  refine List.IsPrefix.eq_of_length_le ?_ (List.IsPrefix.length_le ?_)
  · exact (prefix_path_iff file.plain other).mp (same ▸ List.prefix_append _ _)
  · exact (prefix_path_iff other.plain file).mp (same ▸ List.prefix_append _ _)

/-- The name of a directory selects the files of all directories that match it. Others than its own
are among them unless no other directory matches. -/
theorem construct_getCorpora {archive : ZipArchive} (read : archive.files = some files) :
    ∃ corpus, construct archive = some corpus ∧ ∀ directory : List Char, '/' ∉ directory →
      ∃ found, corpus.getCorpora archive directory =
          found.mapM (fun file => archive.zipFread file.entry.index file.entry.size) ∧
        Selected files (fun file => file.dirname ∈ corpus.getMatchingDirectories directory) found ∧
        ((∀ file ∈ found, file.dirname = directory) ↔
          ∀ other ∈ corpus.getMatchingDirectories directory, other = directory) := by
  obtain ⟨corpus, constructed, holds⟩ := holds_construct read
  refine ⟨corpus, constructed, fun directory plain => ?_⟩
  obtain ⟨found, ran, ascending, mem_iff⟩ := getCorpora_eq holds archive directory
  have selected : Selected files
      (fun file => file.dirname ∈ corpus.getMatchingDirectories directory) found := by
    refine ⟨ascending, fun file => (mem_iff file).trans (and_congr_right fun latest => ?_)⟩
    rw [mem_getMatchingDirectories holds, prefix_path_iff plain]
    exact (and_iff_left ⟨file, (path_of_latestAt latest).1, rfl⟩).symm
  refine ⟨found, ran, selected, fun own other matching => ?_, fun only file member => ?_⟩
  · obtain ⟨-, file, inside, rfl⟩ := (mem_getMatchingDirectories holds).mp matching
    obtain ⟨latest, isLatest⟩ := exists_latestAt inside
    have samePath := (path_of_latestAt isLatest).2
    have same := dirname_eq_of_path_eq samePath
    rw [← same] at matching ⊢
    exact own latest ((selected.mem_iff latest).mpr ⟨samePath ▸ isLatest, matching⟩)
  · exact only _ ((selected.mem_iff file).mp member).2

def twoDirectories : ZipArchive where
  zipStatIndex := [some ("corpus/ZSTD_COMPRESS_AB/1".toList, 1),
    some ("corpus/ZSTD_COMPRESS_A/1".toList, 2)]
  zipFread index size := some (List.replicate size index.toUInt8)

def twoFiles : List CorpusFile :=
  [⟨"ZSTD_COMPRESS_AB".toList, "1".toList, ⟨1, 0⟩, by decide⟩,
    ⟨"ZSTD_COMPRESS_A".toList, "1".toList, ⟨2, 1⟩, by decide⟩]

/-- The directory with the shorter name also selects the file of the other. -/
theorem construct_twoDirectories :
    ∃ corpus, construct twoDirectories = some corpus ∧ ∀ directory : List Char, '/' ∉ directory →
      ∃ found, corpus.getCorpora twoDirectories directory =
          found.mapM (fun file => twoDirectories.zipFread file.entry.index file.entry.size) ∧
        Selected twoFiles (fun file => file.dirname ∈ corpus.getMatchingDirectories directory)
          found ∧
        ((∀ file ∈ found, file.dirname = directory) ↔
          ∀ other ∈ corpus.getMatchingDirectories directory, other = directory) :=
  construct_getCorpora rfl

end CompressionCorpus

end Fleetbench.Compression
