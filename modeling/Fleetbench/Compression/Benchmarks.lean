/-
This file models `BM_Compress` and `BM_Decompress` of
`compression/compression_benchmark.cc` for any codec: the round that warms up,
the timed rounds, the check of what is decompressed, and what is reported.

With a lawful codec both benchmarks run to their end, however often the
benchmark library asks for another round, and report the same ratios. A file
that is compressed but never decompressed lets neither of them end.
-/

import Fleetbench.Compression.RawFrames
import Mathlib.Data.Nat.Cast.Order.Field
import Mathlib.Algebra.Order.Field.Rat
import Mathlib.Tactic.Linarith

namespace Fleetbench.Compression

open Library

/-! ### The benchmarks -/

/-- The lambda adds in `size_t`, and the sum is stored in an `int`. -/
def computeTotalNumChars (strings : List (List UInt8)) : Int :=
  strings.foldl (fun sum string => ZLib.toInt ((sum + string.length) % 2 ^ 64).toNat) 0

/-- The total, converted to `size_t`. -/
def batchSize (corpora : List (List UInt8)) : Nat :=
  (computeTotalNumChars corpora % 2 ^ 64).toNat

/-- What a benchmark reports: the sum of its ratios with the number of files that it is divided by,
and the iterations, of which every round counts as a batch. -/
structure Report where
  totalCompressionRatio : Nat
  files : Nat
  iterations : Nat
  deriving DecidableEq, Repr

section Benchmarks

variable {Context : Type} (codec : Codec Context (List UInt8) (List UInt8))

/-- The last loop of `BM_Compress`, which decompresses each file and compares it. A quotient of
sizes is a whole number. -/
def checkCompressed : Context → List (List UInt8) → List (List UInt8) → List (List UInt8) →
    Option Nat
  | context, corpus :: corpora, code :: compressed, old :: decompressed => do
    let (_, word, context) ← codec.decode context code old
    guard (corpus = word)
    guard (code.length ≠ 0)
    let total ← checkCompressed context corpora compressed decompressed
    return corpus.length / code.length + total
  | _, _, _, _ => some 0

/-- `BM_Compress`, if the library asks for this many rounds. -/
def bmCompress (context : Context) (rounds : Nat) (corpora : List (List UInt8)) :
    Option Report := do
  let blank := List.replicate corpora.length []
  let (compressed, context) ← writeRounds codec.encode corpora (rounds + 1) context blank
  let totalCompressionRatio ← checkCompressed codec context corpora compressed blank
  return ⟨totalCompressionRatio, corpora.length, rounds * batchSize corpora⟩

/-- The last loop of `BM_Decompress`. -/
def checkDecompressed : List (List UInt8) → List (List UInt8) → List (List UInt8) → Option Nat
  | corpus :: corpora, code :: compressed, word :: decompressed => do
    guard (corpus = word)
    guard (code.length ≠ 0)
    let total ← checkDecompressed corpora compressed decompressed
    return corpus.length / code.length + total
  | _, _, _ => some 0

/-- `BM_Decompress`. -/
def bmDecompress (context : Context) (rounds : Nat) (corpora : List (List UInt8)) :
    Option Report := do
  let blank := List.replicate corpora.length []
  let (compressed, context) ← writeAll codec.encode context corpora blank
  let (decompressed, _) ← writeRounds codec.overwrite compressed (rounds + 1) context blank
  let totalCompressionRatio ← checkDecompressed corpora compressed decompressed
  return ⟨totalCompressionRatio, corpora.length, rounds * batchSize corpora⟩

end Benchmarks

/-! ### Batches -/

theorem computeTotalNumChars_eq {corpora : List (List UInt8)}
    (small : corpora.flatten.length < 2 ^ 31) :
    computeTotalNumChars corpora = corpora.flatten.length := by
  -- the sum of the strings so far is what the accumulator holds
  have sums : ∀ (rest : List (List UInt8)) (sum : Nat), sum + rest.flatten.length < 2 ^ 31 →
      rest.foldl (fun (sum : Int) string => ZLib.toInt ((sum + string.length) % 2 ^ 64).toNat)
        (sum : Int) = (sum + rest.flatten.length : Nat) := by
    intro rest
    induction rest with
    | nil => exact fun sum _ => rfl
    | cons string rest inductionHypothesis =>
      intro sum small
      rw [List.flatten_cons, List.length_append] at small ⊢
      have next : ((sum + string.length : Int) % 2 ^ 64).toNat = sum + string.length := by omega
      rw [List.foldl_cons, next, ZLib.toInt_of_lt (by omega), inductionHypothesis _ (by omega),
        Nat.add_assoc]
  have all := sums corpora 0 (by omega)
  rw [Nat.zero_add] at all
  exact all

/-- Files of fewer than 2^31 bytes in all make a batch of their bytes. -/
theorem batchSize_eq {corpora : List (List UInt8)} (small : corpora.flatten.length < 2 ^ 31) :
    batchSize corpora = corpora.flatten.length := by
  unfold batchSize
  rw [computeTotalNumChars_eq small]
  omega

/-! ### Lawful codecs -/

/-- The whole quotients of the sizes. -/
def ratios (corpora compressed : List (List UInt8)) : Nat :=
  (List.zipWith (fun corpus code : List UInt8 => corpus.length / code.length) corpora
    compressed).sum

section Lawful

variable {Context : Type} {codec : Codec Context (List UInt8) (List UInt8)}
  {holds : Context → Prop} {codes : List UInt8 → List UInt8 → Prop} {context : Context}
  {corpora compressed : List (List UInt8)}

theorem length_blank (strings : List (List UInt8)) :
    (List.replicate strings.length ([] : List UInt8)).length = strings.length :=
  List.length_replicate

theorem checkCompressed_eq {blank : List (List UInt8)}
    (decodes : codec.Decodes holds codes corpora)
    (present : ∀ word code, codes word code → code ≠ []) (initially : holds context)
    (stand : List.Forall₂ codes corpora compressed) (places : blank.length = compressed.length) :
    checkCompressed codec context corpora compressed blank = some (ratios corpora compressed) := by
  induction stand generalizing context blank with
  | nil => rfl
  | @cons corpus code corpora compressed stands _ inductionHypothesis =>
    obtain ⟨old, blank, rfl⟩ := List.exists_cons_of_length_eq_add_one places
    obtain ⟨next, decoded, kept⟩ := decodes corpus List.mem_cons_self context code old initially
      stands
    have some_ : code.length ≠ 0 := (List.length_pos_iff.mpr (present _ _ stands)).ne'
    have rest := inductionHypothesis
      (fun word member => decodes word (List.mem_cons_of_mem _ member)) kept (Nat.succ.inj places)
    unfold checkCompressed
    refine Option.bind_eq_some_iff.mpr ⟨_, decoded, ?_⟩
    refine Option.bind_eq_some_iff.mpr ⟨(), if_pos rfl, ?_⟩
    refine Option.bind_eq_some_iff.mpr ⟨(), if_pos some_, ?_⟩
    exact Option.bind_eq_some_iff.mpr ⟨_, rest, rfl⟩

theorem checkDecompressed_eq (present : ∀ word code, codes word code → code ≠ [])
    (stand : List.Forall₂ codes corpora compressed) :
    checkDecompressed corpora compressed corpora = some (ratios corpora compressed) := by
  induction stand with
  | nil => rfl
  | cons stands _ inductionHypothesis =>
    have some_ := (List.length_pos_iff.mpr (present _ _ stands)).ne'
    unfold checkDecompressed
    refine Option.bind_eq_some_iff.mpr ⟨(), if_pos rfl, ?_⟩
    refine Option.bind_eq_some_iff.mpr ⟨(), if_pos some_, ?_⟩
    exact Option.bind_eq_some_iff.mpr ⟨_, inductionHypothesis, rfl⟩

/-- `BM_Compress` reports, and the codes that it measures stand for the files. -/
theorem bmCompress_reports (lawful : codec.Lawful holds codes corpora)
    (present : ∀ word code, codes word code → code ≠ []) (initially : holds context)
    (rounds : Nat) :
    ∃ compressed, List.Forall₂ codes corpora compressed ∧
      bmCompress codec context rounds corpora =
        some ⟨ratios corpora compressed, corpora.length, rounds * batchSize corpora⟩ := by
  obtain ⟨compressed, last, wrote, kept, stand⟩ := writeRounds_forall₂ (Nat.succ_pos rounds)
    initially (length_blank corpora) lawful.encode
  have checked := checkCompressed_eq lawful.decode present kept stand
    ((length_blank corpora).trans stand.length_eq)
  refine ⟨compressed, stand, Option.bind_eq_some_iff.mpr ⟨_, wrote, ?_⟩⟩
  exact Option.bind_eq_some_iff.mpr ⟨_, checked, rfl⟩

theorem bmDecompress_reports (lawful : codec.Lawful holds codes corpora)
    (present : ∀ word code, codes word code → code ≠ []) (initially : holds context)
    (rounds : Nat) :
    ∃ compressed, List.Forall₂ codes corpora compressed ∧
      bmDecompress codec context rounds corpora =
        some ⟨ratios corpora compressed, corpora.length, rounds * batchSize corpora⟩ := by
  obtain ⟨compressed, next, wrote, kept, stand⟩ := writeAll_forall₂ initially
    (length_blank corpora) lawful.encode
  obtain ⟨last, read, -⟩ := lawful.decode.writeRounds stand (Nat.succ_pos rounds) kept
    ((length_blank corpora).trans stand.length_eq)
  have checked := checkDecompressed_eq present stand
  refine ⟨compressed, stand, Option.bind_eq_some_iff.mpr ⟨_, wrote, ?_⟩⟩
  refine Option.bind_eq_some_iff.mpr ⟨_, read, ?_⟩
  exact Option.bind_eq_some_iff.mpr ⟨_, checked, rfl⟩

/-- A file that is refused fails the last loop. -/
theorem checkCompressed_eq_none {blank : List (List UInt8)}
    (stand : List.Forall₂ codes corpora compressed) (places : blank.length = compressed.length)
    {word : List UInt8} (member : word ∈ corpora) (refuses : codec.Refuses codes word) :
    checkCompressed codec context corpora compressed blank = none := by
  induction stand generalizing context blank with
  | nil => cases member
  | @cons corpus code corpora compressed stands _ inductionHypothesis =>
    obtain ⟨old, blank, rfl⟩ := List.exists_cons_of_length_eq_add_one places
    unfold checkCompressed
    refine Option.bind_eq_none_iff.mpr fun decoded found => ?_
    rcases List.mem_cons.mp member with rfl | later
    · cases (refuses context code old stands).symm.trans found
    · refine Option.bind_eq_none_iff.mpr fun _ _ => ?_
      refine Option.bind_eq_none_iff.mpr fun _ _ => ?_
      refine Option.bind_eq_none_iff.mpr fun total rest => ?_
      cases (inductionHypothesis (Nat.succ.inj places) later).symm.trans rest

theorem bmCompress_eq_none (encodes : codec.Encodes holds codes corpora) {word : List UInt8}
    (member : word ∈ corpora) (refuses : codec.Refuses codes word) (initially : holds context)
    (rounds : Nat) : bmCompress codec context rounds corpora = none := by
  obtain ⟨compressed, last, wrote, -, stand⟩ := writeRounds_forall₂ (Nat.succ_pos rounds)
    initially (length_blank corpora) encodes
  have fails : checkCompressed codec last corpora compressed (List.replicate corpora.length []) =
      none :=
    checkCompressed_eq_none stand ((length_blank corpora).trans stand.length_eq) member refuses
  refine Option.bind_eq_none_iff.mpr fun between found => ?_
  obtain rfl := Option.some.inj (wrote.symm.trans found)
  refine Option.bind_eq_none_iff.mpr fun total checked => ?_
  cases fails.symm.trans checked

theorem bmDecompress_eq_none (encodes : codec.Encodes holds codes corpora) {word : List UInt8}
    (member : word ∈ corpora) (refuses : codec.Refuses codes word) (initially : holds context)
    (rounds : Nat) : bmDecompress codec context rounds corpora = none := by
  obtain ⟨compressed, last, wrote, -, stand⟩ := writeAll_forall₂ initially (length_blank corpora)
    encodes
  obtain ⟨code, inside, stands⟩ : ∃ code ∈ compressed, codes word code := by
    obtain ⟨i, within, rfl⟩ := List.mem_iff_getElem.mp member
    have within' : i < compressed.length := stand.length_eq ▸ within
    exact ⟨_, List.getElem_mem within', (List.forall₂_iff_get.mp stand).2 i within within'⟩
  have refused : ∀ context old, codec.overwrite context code old = none := by
    intro context old
    rw [Codec.overwrite, refuses context code old stands, Option.map_none]
  have fails : writeRounds codec.overwrite compressed (rounds + 1) last
      (List.replicate corpora.length []) = none :=
    writeRounds_eq_none ((length_blank corpora).trans stand.length_eq) inside refused rounds
  refine Option.bind_eq_none_iff.mpr fun between found => ?_
  obtain rfl := Option.some.inj (wrote.symm.trans found)
  refine Option.bind_eq_none_iff.mpr fun read warmedUp => ?_
  cases fails.symm.trans warmedUp

end Lawful

/-! ### Ratios -/

/-- The ratios as they are. -/
def trueRatios (corpora compressed : List (List UInt8)) : ℚ :=
  (List.zipWith (fun corpus code : List UInt8 => (corpus.length : ℚ) / code.length) corpora
    compressed).sum

theorem ratio_bounds (corpus : List UInt8) {code : List UInt8} (present : code ≠ []) :
    ((corpus.length / code.length : Nat) : ℚ) ≤ (corpus.length : ℚ) / code.length ∧
      (corpus.length : ℚ) / code.length < (corpus.length / code.length : Nat) + 1 := by
  have positive : 0 < code.length := List.length_pos_iff.mpr present
  refine ⟨Nat.cast_div_le, ?_⟩
  rw [div_lt_iff₀ (Nat.cast_pos.mpr positive), mul_comm]
  exact_mod_cast Nat.lt_mul_div_succ corpus.length positive

/-- The sum of what is reported is right within the number of files. -/
theorem ratios_bounds {codes : List UInt8 → List UInt8 → Prop}
    (present : ∀ word code, codes word code → code ≠ [])
    {corpora compressed : List (List UInt8)} (stand : List.Forall₂ codes corpora compressed) :
    (ratios corpora compressed : ℚ) ≤ trueRatios corpora compressed ∧
      trueRatios corpora compressed ≤ ratios corpora compressed + corpora.length := by
  induction stand with
  | nil => exact ⟨le_refl _, by simp [trueRatios, ratios]⟩
  | @cons corpus code corpora compressed stands _ inductionHypothesis =>
    obtain ⟨below, above⟩ := ratio_bounds corpus (present _ _ stands)
    obtain ⟨below', above'⟩ := inductionHypothesis
    have one : (ratios (corpus :: corpora) (code :: compressed) : ℚ) =
        (corpus.length / code.length : Nat) + ratios corpora compressed := by
      rw [← Nat.cast_add]
      rfl
    have one' : trueRatios (corpus :: corpora) (code :: compressed) =
        (corpus.length : ℚ) / code.length + trueRatios corpora compressed := rfl
    rw [one, one', List.length_cons, Nat.cast_succ]
    constructor
    · exact add_le_add below below'
    · linarith

/-! ### The compressors -/

/-- The report is about codes that stand for the files: its ratios are right within one for each
file, and if the files are small enough its iterations are the bytes of the timed rounds. -/
structure Report.Sound (codes : List UInt8 → List UInt8 → Prop) (corpora : List (List UInt8))
    (rounds : Nat) (report : Report) : Prop where
  ratios : ∃ compressed, List.Forall₂ codes corpora compressed ∧
    (report.totalCompressionRatio : ℚ) ≤ trueRatios corpora compressed ∧
    trueRatios corpora compressed ≤ report.totalCompressionRatio + report.files
  files : report.files = corpora.length
  iterations : corpora.flatten.length < 2 ^ 31 →
    report.iterations = rounds * corpora.flatten.length

/-- Both benchmarks run to their end. -/
def Reports {Context : Type} (codec : Codec Context (List UInt8) (List UInt8)) (context : Context)
    (codes : List UInt8 → List UInt8 → Prop) (corpora : List (List UInt8)) (rounds : Nat) : Prop :=
  (∃ report, bmCompress codec context rounds corpora = some report ∧
      report.Sound codes corpora rounds) ∧
    ∃ report, bmDecompress codec context rounds corpora = some report ∧
      report.Sound codes corpora rounds

theorem reports_of_lawful {Context : Type} {codec : Codec Context (List UInt8) (List UInt8)}
    {holds : Context → Prop} {codes : List UInt8 → List UInt8 → Prop} {context : Context}
    {corpora : List (List UInt8)} (lawful : codec.Lawful holds codes corpora)
    (present : ∀ word code, codes word code → code ≠ []) (initially : holds context)
    (rounds : Nat) : Reports codec context codes corpora rounds := by
  have sound (compressed : List (List UInt8)) (stand : List.Forall₂ codes corpora compressed) :
      (⟨ratios corpora compressed, corpora.length, rounds * batchSize corpora⟩ : Report).Sound codes
        corpora rounds :=
    ⟨⟨compressed, stand, ratios_bounds present stand⟩, rfl, fun small => by
      rw [batchSize_eq small]⟩
  obtain ⟨compressed, stand, ran⟩ := bmCompress_reports lawful present initially rounds
  obtain ⟨compressed', stand', ran'⟩ := bmDecompress_reports lawful present initially rounds
  exact ⟨⟨_, ran, sound compressed stand⟩, ⟨_, ran', sound compressed' stand'⟩⟩

section Zlib

variable {Inflater Deflater State : Type} {zlib : WholeZlib Inflater Deflater}
  {compressionLevel windowLog : Int} {format : Decoder UInt8 UInt8 State}
  {at_ : Inflater → State → Prop} {writing : Deflater → List UInt8 → List UInt8 → Prop}
  {opened : Deflater → Parameters → Prop}

theorem bounded_storedZlib : storedZlib.Bounded 0 15 where
  opens := ⟨_, rfl⟩
  ends fresh input room started wide := by
    cases started
    have blocks := (length_storedBlocks true input).2
    have few : (storedBlocks true input).length ≤ input.length + input.length / 1000 + 12 := by
      omega
    have spare : room ≠ 0 := by omega
    have pending : ((StoredDeflater.start 0 (-15) 8).extended input .finish).pending =
        storedBlocks true input := List.append_nil _
    have left : (storedBlocks true input).drop room = [] :=
      List.drop_eq_nil_of_le (few.trans wide)
    show ((StoredDeflater.start 0 (-15) 8).deflate input room .finish).code = _ ∧
      ((StoredDeflater.start 0 (-15) 8).deflate input room .finish).output.length ≤ _
    unfold StoredDeflater.deflate
    rw [if_neg (by nofun), if_neg spare]
    dsimp only
    rw [pending, left, if_pos ⟨rfl, rfl⟩]
    exact ⟨rfl, (List.length_take_le' _ _).trans few⟩

end Zlib

/-- A Snappy that writes the length of its input, and the input behind that. -/
def plainSnappy : Snappy where
  compress input := littleEndian 4 input.length ++ input
  uncompress code output :=
    if 4 ≤ code.length ∧ fromLittleEndian (code.take 4) = code.length - 4 then (true, code.drop 4)
    else (false, output)

theorem roundTrips_plainSnappy : plainSnappy.RoundTrips where
  present input := List.append_ne_nil_of_left_ne_nil (List.cons_ne_nil _ _) input
  uncompress input output short := by
    have length : (littleEndian 4 input.length).length = 4 := length_littleEndian 4 _
    have front : (littleEndian 4 input.length ++ input).take 4 = littleEndian 4 input.length :=
      List.take_left' length
    have behind : (littleEndian 4 input.length ++ input).drop 4 = input := List.drop_left' length
    have whole : 4 ≤ (littleEndian 4 input.length ++ input).length ∧
        fromLittleEndian (littleEndian 4 input.length) =
          (littleEndian 4 input.length ++ input).length - 4 := by
      rw [fromLittleEndian_littleEndian, List.length_append, length]
      omega
    simp only [plainSnappy, front, behind]
    exact if_pos whole

end Fleetbench.Compression
