/-
This file has what the corpus generator works with: chunks of the dataset, the
parameters that they are compressed with, and the manager that holds the lookup
table. Ratios are exact rationals.

The compress functions are those of other packages, so they are a parameter: they
map the data to the compressed data, given the level unless it is Snappy.
-/

import Fleetbench.Library.Dict
import Mathlib.Algebra.Order.Floor.Ring
import Mathlib.Data.Rat.Floor

namespace Fleetbench.Corpora

open Library

/-- The exceptions that the generator may raise. -/
inductive PythonError where
  | indexError
  | zeroDivisionError
  | valueError
  deriving DecidableEq, Repr

/-- `int(value)`, which drops what is behind the point. -/
def toInt (value : ℚ) : Int := if 0 ≤ value then ⌊value⌋ else ⌈value⌉

theorem toInt_of_nonneg {value : ℚ} (nonneg : 0 ≤ value) : toInt value = ⌊value⌋ := if_pos nonneg

/-- The place that an index means: a negative one counts from the end. -/
def placeOf (length : Nat) (index : Int) : Int := if index < 0 then index + length else index

/-- `items[index]`. -/
def getItem {Item : Type*} (items : List Item) (index : Int) : Except PythonError Item :=
  if placeOf items.length index < 0 then .error .indexError
  else
    match items[(placeOf items.length index).toNat]? with
    | some item => .ok item
    | none => .error .indexError

theorem getItem_of_inRange {Item : Type*} {items : List Item} {index : Int} (nonneg : 0 ≤ index)
    (below : index < items.length) :
    ∃ item, items[index.toNat]? = some item ∧ getItem items index = .ok item := by
  have small : index.toNat < items.length := by omega
  have place : placeOf items.length index = index := if_neg (not_lt.mpr nonneg)
  refine ⟨items[index.toNat], List.getElem?_eq_getElem small, ?_⟩
  rw [getItem, place, if_neg (not_lt.mpr nonneg), List.getElem?_eq_getElem small]

/-- `range(0, stop, step)`. -/
def pyRange (stop : Int) (step : Nat) : List Nat :=
  List.range' 0 ((stop.toNat + step - 1) / step) step

/-! ### Chunks -/

abbrev Bytes := List UInt8

structure CorpusChunk where
  data : Bytes
  chunkId : Nat
  srcFile : String
  deriving DecidableEq, Repr

structure CompressionParameters where
  windowSize : Int
  compressionLevel : Int
  deriving DecidableEq, Repr

inductive Algorithm where
  | snappy
  | zstd
  | flate
  | brotli
  deriving DecidableEq, Repr

def Algorithm.windowSizes : Algorithm → List Int
  | .snappy => [16]
  | .zstd => [0]
  | .flate => [15]
  | .brotli => [18]

/-- The compression levels of the lookup table. -/
def Algorithm.compressionLevels : Algorithm → List Int
  | .snappy => [0]
  | .zstd => [-7, -5, -3, -1] ++ (List.range 17).map Int.ofNat ++ [20]
  | .flate => [-1] ++ (List.range' 1 9).map Int.ofNat
  | .brotli => (List.range 12).map Int.ofNat

/-! ### The manager -/

/-- `CorpusChunkManager`, with the fields that the lookup table and the chunk arrays need. -/
structure CorpusChunkManager where
  algorithm : Algorithm
  compressFunction : Bytes → Option Int → Bytes
  dataset : List String
  chunkSize : Nat := 1 * 1024
  maxRatioLookup : Dict CompressionParameters ℚ := .empty
  lookupTable : Dict CompressionParameters (List (List CorpusChunk)) := .empty

namespace CorpusChunkManager

variable (manager : CorpusChunkManager)

/-- Snappy has no levels. -/
def compress (data : Bytes) (compressionLevel : Option Int) : Bytes :=
  match manager.algorithm with
  | .snappy => manager.compressFunction data none
  | _ => manager.compressFunction data compressionLevel

/-- `uncompressed / len(compressed)`. -/
def ratio (uncompressed : Nat) (compressed : Bytes) : Except PythonError ℚ :=
  if compressed.length = 0 then .error .zeroDivisionError
  else .ok (uncompressed / compressed.length)

def computeCompressionRatio (chunkArray : List CorpusChunk)
    (compressionLevel : Option Int := none) : Except PythonError ℚ :=
  if chunkArray = [] then .ok (-1)
  else
    let uncompressedData := chunkArray.flatMap (·.data)
    ratio uncompressedData.length (manager.compress uncompressedData compressionLevel)

/-- The buckets for some parameters. There are none for parameters without an entry. -/
def bucketsOf (parameters : CompressionParameters) : List (List CorpusChunk) :=
  (manager.lookupTable.get? parameters).getD []

/-- Nothing is compressed to nothing. -/
def Compresses : Prop := ∀ data level, manager.compressFunction data level ≠ []

/-- The combinations of parameters that the table is made for. -/
def parametersList : List CompressionParameters :=
  manager.algorithm.compressionLevels.flatMap fun compressionLevel =>
    manager.algorithm.windowSizes.map fun windowSize => ⟨windowSize, compressionLevel⟩

theorem nodup_parametersList : manager.parametersList.Nodup := by
  rw [parametersList]
  cases manager.algorithm with
  | snappy => decide
  | zstd => decide
  | flate => decide
  | brotli => decide

variable {manager}

theorem ratio_of_ne_nil (uncompressed : Nat) {compressed : Bytes} (nonempty : compressed ≠ []) :
    ratio uncompressed compressed = .ok (uncompressed / compressed.length) :=
  if_neg (mt List.length_eq_zero_iff.mp nonempty)

theorem Compresses.compress_ne_nil (compresses : manager.Compresses) (data : Bytes)
    (compressionLevel : Option Int) : manager.compress data compressionLevel ≠ [] := by
  rw [compress]
  split
  · exact compresses data none
  · exact compresses data compressionLevel

/-- The ratio of an array with chunks is never negative. -/
theorem Compresses.computeCompressionRatio_nonneg (compresses : manager.Compresses)
    {chunkArray : List CorpusChunk} (nonempty : chunkArray ≠ []) (compressionLevel : Option Int) :
    ∃ ratio, manager.computeCompressionRatio chunkArray compressionLevel = .ok ratio ∧
      0 ≤ ratio := by
  have compressed := compresses.compress_ne_nil (chunkArray.flatMap (·.data)) compressionLevel
  rw [computeCompressionRatio, if_neg nonempty, ratio_of_ne_nil _ compressed]
  exact ⟨_, rfl, div_nonneg (Nat.cast_nonneg _) (Nat.cast_nonneg _)⟩

end CorpusChunkManager

end Fleetbench.Corpora
