/-
This file models the compressors of `compression/algorithms.cc` as codecs: the
string they write replaces what `*output` held. The zstd and Snappy libraries
are parameters, as zlib and Brotli are, with what their manuals promise.

All four are lawful, zstd only on strings that are not empty: for a frame of
length zero `Decompress` takes the length for an error.

A failed `QCHECK` leaves no result.
-/

import Fleetbench.Compression.RoundTrip
import Fleetbench.Compression.BrotliRoundTrip
import Fleetbench.Compression.Registration
import Fleetbench.Library.Codec

namespace Fleetbench.Compression

open Library

/-- `std::string::resize`. -/
def resized (string : List UInt8) (size : Nat) : List UInt8 :=
  string.take size ++ List.replicate (size - string.length) 0

theorem length_resized (string : List UInt8) (size : Nat) :
    (resized string size).length = size := by
  rw [resized, List.length_append, List.length_take, List.length_replicate]
  omega

/-- Written from the start of a string that is then cut off within what was written. -/
theorem resized_overwrite {written : List UInt8} {size : Nat} (within : size ≤ written.length)
    (string : List UInt8) : resized (ZLib.overwrite string 0 written) size = written.take size := by
  rw [ZLib.overwrite, List.take_zero, List.nil_append, resized,
    List.take_append_of_le_length within, List.length_append,
    Nat.sub_eq_zero_of_le (Nat.le_add_right_of_le within), List.replicate_zero, List.append_nil]

/-! ### ZLibCompressor -/

section Zlib

variable {Inflater Deflater : Type} (zlib : WholeZlib Inflater Deflater)
  (flexibleWithGzipFooter : Bool) (compressionLevel windowLog : Int)

/-- `MinCompressbufSize`. -/
def minCompressbufSize (uncompressSize : Nat) : Nat :=
  (uncompressSize + uncompressSize / 1000 + 40) % 2 ^ 64

/-- `ZLibCompressor::Compress`. -/
def zlibCompress (input output : List UInt8) : Option (Nat × List UInt8) := do
  let object : ZLib Inflater Deflater :=
    { ZLib.new zlib.toZlib with
      settings.compressionLevel := compressionLevel
      settings.windowBits := windowLog }
  let object ← object.setGzipHeaderMode
  let output := resized output (minCompressbufSize input.length)
  let result := object.compress zlib (minCompressbufSize input.length) input
  guard (result.code = .ok)
  let output := resized (ZLib.overwrite output 0 result.written) result.destLen
  return (output.length, output)

/-- `ZLibCompressor::Decompress`. -/
def zlibDecompress (input output : List UInt8) : Option (Bool × List UInt8) := do
  let object : ZLib Inflater Deflater :=
    { ZLib.new zlib.toZlib with settings.windowBits := windowLog }
  let object ← object.setGzipHeaderMode
  let uncompressedLength := ZLib.gzipUncompressedLength input
  let output := resized output uncompressedLength
  let result ← object.uncompress zlib flexibleWithGzipFooter uncompressedLength input
  let output := resized (ZLib.overwrite output 0 result.written) result.destLen
  return (result.code = .ok, output)

/-- A new stream with these parameters, asked to finish with 0.1% and 12 bytes more room than input,
ends. -/
structure WholeZlib.Bounded : Prop where
  opens : ∃ fresh, zlib.deflateInit2 compressionLevel (-windowLog) 8 = .ok fresh
  ends : ∀ fresh input room, zlib.deflateInit2 compressionLevel (-windowLog) 8 = .ok fresh →
    input.length + input.length / 1000 + 12 ≤ room →
      (zlib.deflate fresh input room .finish).code = .streamEnd ∧
        (zlib.deflate fresh input room .finish).output.length ≤
          input.length + input.length / 1000 + 12

/-- The object of `Compress`. -/
def writerOf : ZLib Inflater Deflater :=
  { ZLib.new zlib.toZlib with
    settings.compressionLevel := compressionLevel
    settings.windowBits := windowLog
    settings.noHeaderMode := true
    settings.gzipHeaderMode := true }

/-- The object of `Decompress`. -/
def readerOf : ZLib Inflater Deflater :=
  { ZLib.new zlib.toZlib with
    settings.windowBits := windowLog
    settings.noHeaderMode := true
    settings.gzipHeaderMode := true }

theorem inHeader_readerOf : ZLib.InHeader (readerOf zlib windowLog) .fresh where
  mode := ⟨rfl, rfl, rfl, rfl, rfl⟩
  first := rfl
  parsed := rfl
  pending := GZipHeader.pending_fresh
  stream init := by cases init

variable {zlib compressionLevel windowLog}

theorem starts_writerOf {opened : Deflater → Parameters → Prop} (window : 0 < windowLog) :
    (writerOf zlib compressionLevel windowLog).Starts opened where
  settings := ⟨rfl, rfl, rfl, window⟩
  first := rfl
  compOpen := nofun

section Writing

variable {source : List UInt8} {State : Type} {format : Decoder UInt8 UInt8 State}
  {at_ : Inflater → State → Prop} {writing : Deflater → List UInt8 → List UInt8 → Prop}
  {opened : Deflater → Parameters → Prop}

/-- `CompressInit` opens a stream. -/
theorem compressInit_writerOf {fresh : Deflater} {destLen sourceLen : Nat}
    (started : zlib.deflateInit2 compressionLevel (-windowLog) 8 = .ok fresh)
    (sourceFits : sourceLen < 2 ^ 32) (destFits : destLen < 2 ^ 32) :
    (writerOf zlib compressionLevel windowLog).compressInit zlib destLen sourceLen =
      (.ok, ((writerOf zlib compressionLevel windowLog).withCompBuffers sourceLen
        destLen).startedComp fresh) := by
  rw [ZLib.compressInit_eq, if_neg (not_not_intro (Nat.mod_eq_of_lt sourceFits)),
    if_neg (not_not_intro (Nat.mod_eq_of_lt destFits))]
  show ZLib.freshComp zlib ((writerOf zlib compressionLevel windowLog).withCompBuffers sourceLen
    destLen) = _
  have opens : zlib.deflateInit2 ((writerOf zlib compressionLevel windowLog).withCompBuffers
      sourceLen destLen).settings.compressionLevel (ZLib.signedWindowBits
        ((writerOf zlib compressionLevel windowLog).withCompBuffers sourceLen destLen).settings)
      ((writerOf zlib compressionLevel windowLog).withCompBuffers sourceLen
        destLen).settings.memLevel = .ok fresh := started
  unfold ZLib.freshComp ZLib.deflateInit ZStream.deflateInit2
  simp only [opens, if_true]
  rfl

/-- Behind the header, a stream that ends with room to spare makes the call succeed. -/
theorem compressChunkOrAll_finishes {object prepared : ZLib Inflater Deflater}
    {stream next : Deflater} {output : List UInt8} {destLen : Nat}
    (ready : object.compressInit zlib destLen source.length = (.ok, prepared))
    (settings : ZLib.GzipWriting prepared.settings) (first : prepared.firstChunk = true)
    (state : prepared.compStream.state = some stream)
    (availIn : prepared.compStream.availIn = source.length)
    (availOut : prepared.compStream.availOut = destLen)
    (deflated : zlib.deflate stream source (destLen - ZLib.gzipHeaderBytes.length) .finish =
      ⟨.streamEnd, source.length, output, next⟩)
    (spare : output.length < destLen - ZLib.gzipHeaderBytes.length) :
    (object.compressChunkOrAll zlib destLen source .finish).code = .ok ∧
      (object.compressChunkOrAll zlib destLen source .finish).written =
        ZLib.gzipHeaderBytes ++ output := by
  have wide : ¬ prepared.compStream.availOut < ZLib.gzipHeaderBytes.length + 1 := by omega
  have left : destLen - ZLib.gzipHeaderBytes.length - output.length ≠ 0 := by omega
  have called : (object.compressAtMostOrAll zlib destLen source .finish).code = .ok ∧
      (object.compressAtMostOrAll zlib destLen source .finish).written =
        ZLib.gzipHeaderBytes ++ output := by
    unfold ZLib.compressAtMostOrAll
    rw [ready]
    dsimp only
    rw [if_neg (not_not_intro rfl), if_pos first]
    unfold ZLib.startGzip ZLib.writeGzipHeader
    rw [if_pos settings.gzip, if_neg wide]
    dsimp only [Option.map_some]
    rw [ZLib.startDictionary_none zlib (by exact settings.dictionary),
      if_neg (not_not_intro rfl)]
    unfold ZLib.deflateSource ZStream.deflate ZLib.concludeDeflate
    simp only [state, availIn, availOut, List.take_length, deflated, Nat.sub_self, true_or,
      true_and, left, ne_eq, not_false_eq_true, if_true, and_self]
  unfold ZLib.compressChunkOrAll
  dsimp only
  rw [called.1, if_neg (by nofun)]
  exact called

/-- The footer has room. -/
theorem finish_closes {result : ZLib.Compressed Inflater Deflater} {destLen : Nat}
    (counted : ZLib.Counted zlib result.object source)
    (measured : result.destLen = result.written.length)
    (room : result.written.length + 8 ≤ destLen) (short : destLen < 2 ^ 64) :
    (result.finish destLen).code = .ok ∧
      (result.finish destLen).written.length = result.written.length + 8 := by
  have wide : ¬ (destLen + 2 ^ 64 - result.destLen) % 2 ^ 64 < 8 := by omega
  have closes : ∃ footer, result.object.writeGzipFooter
      ((destLen + 2 ^ 64 - result.destLen) % 2 ^ 64) = some footer := ⟨_, if_neg wide⟩
  obtain ⟨footer, wrote⟩ := closes
  obtain rfl := ZLib.writeGzipFooter_eq counted wrote
  unfold ZLib.Compressed.finish
  rw [if_pos counted.settings.gzip, wrote]
  refine ⟨rfl, ?_⟩
  dsimp only
  rw [measured, ZLib.overwrite_length, List.length_append, length_footerOf]

variable (reuses : zlib.Reuses opened) (deflates : zlib.Deflates format writing)
  (inflates : InflatesWhole zlib.toZlib format at_)
  (bounded : zlib.Bounded compressionLevel windowLog) (window : 0 < windowLog)
  (short : source.length + source.length / 1000 + 40 < 2 ^ 31)

include reuses deflates inflates bounded window short

/-- `Compress` writes one member into its buffer. -/
theorem compress_writerOf {destLen : Nat}
    (same : destLen = source.length + source.length / 1000 + 40) :
    ZLib.Succeeds ((writerOf zlib compressionLevel windowLog).compress zlib destLen source) ∧
      ((writerOf zlib compressionLevel windowLog).compress zlib destLen source).written.length ≤
        destLen := by
  obtain ⟨fresh, started⟩ := bounded.opens
  have header : ZLib.gzipHeaderBytes.length = 10 := rfl
  have init : (writerOf zlib compressionLevel windowLog).compressInit zlib destLen source.length =
      (.ok, _) := compressInit_writerOf started (by omega) (by omega)
  obtain ⟨ended, few⟩ := bounded.ends fresh source (destLen - ZLib.gzipHeaderBytes.length) started
    (by omega)
  have writes := deflates.init compressionLevel (-windowLog) 8 fresh (by omega) started
  obtain ⟨consumed, -⟩ := deflates.last fresh [] [] source _ writes ended
  generalize called : zlib.deflate fresh source (destLen - ZLib.gzipHeaderBytes.length) .finish =
    deflated at ended few consumed
  obtain ⟨code, count, output, next⟩ := deflated
  obtain rfl : code = .streamEnd := ended
  obtain rfl : count = source.length := consumed
  have few : output.length ≤ source.length + source.length / 1000 + 12 := few
  have starts : (writerOf zlib compressionLevel windowLog).Starts opened := starts_writerOf window
  have settings := starts.settings
  obtain ⟨went, wrote⟩ := compressChunkOrAll_finishes init settings rfl rfl
    (Nat.mod_eq_of_lt (by omega)) (Nat.mod_eq_of_lt (by omega)) called (by omega)
  unfold ZLib.compress
  dsimp only
  generalize whole : (writerOf zlib compressionLevel windowLog).compressChunkOrAll zlib destLen
    source .finish = result at went wrote
  have length := congrArg List.length wrote
  rw [List.length_append] at length
  have few : output.length ≤ source.length + source.length / 1000 + 12 := few
  have before : ZLib.Writes zlib opened writing (writerOf zlib compressionLevel windowLog) [] [] :=
    .inl ⟨starts, rfl, rfl⟩
  obtain ⟨measured, counted, -⟩ := ZLib.compressChunkOrAll_ends reuses deflates
    inflates.toInflates before whole went (by omega)
  have reset : ZLib.Counted zlib result.object.reset source :=
    ⟨counted.settings, counted.size, counted.crc⟩
  have closes : ∀ object : ZLib Inflater Deflater, ZLib.Counted zlib object source →
      (({ result with object } : ZLib.Compressed Inflater Deflater).finish destLen).code = .ok ∧
        (({ result with object } : ZLib.Compressed Inflater Deflater).finish
          destLen).written.length = result.written.length + 8 := by
    intro object counting
    exact finish_closes counting measured (by show result.written.length + 8 ≤ destLen; omega)
      (by omega)
  obtain ⟨code, written⟩ := closes _ reset
  rw [if_neg (not_not_intro went)]
  refine ⟨⟨code, ?_⟩, ?_⟩
  · omega
  · omega

/-- `Compress` succeeds and leaves a member. -/
theorem zlibCompress_member (output : List UInt8) :
    ∃ member, zlibCompress zlib compressionLevel windowLog source output =
        some (member.length, member) ∧
      IsMember zlib.toZlib format member source ∧
      member.length ≤ source.length + source.length / 1000 + 40 := by
  have size : minCompressbufSize source.length = source.length + source.length / 1000 + 40 :=
    Nat.mod_eq_of_lt (Nat.lt_trans short (by decide))
  obtain ⟨succeeds, few⟩ :=
    compress_writerOf reuses deflates inflates bounded window short size
  have starts : (writerOf zlib compressionLevel windowLog).Starts opened := starts_writerOf window
  have ran : (writerOf zlib compressionLevel windowLog).compressAll zlib false
      (.whole (minCompressbufSize source.length) source) = some [_] := rfl
  obtain ⟨measured, data, written, decodes⟩ := ZLib.compressAll_member reuses deflates
    inflates.toInflates starts ran (List.forall_mem_singleton.mpr succeeds)
  rw [List.flatMap_singleton] at written
  have measured := List.forall_mem_singleton.mp measured
  rw [ZLib.output_of_measured measured] at written
  refine ⟨((writerOf zlib compressionLevel windowLog).compress zlib
    (minCompressbufSize source.length) source).written, ?_, ⟨ZLib.gzipHeaderBytes, data, _,
      written, ZLib.accepts_gzipHeaderBytes, decodes, rfl⟩, size ▸ few⟩
  have stored : resized (ZLib.overwrite (resized output (minCompressbufSize source.length)) 0
      ((writerOf zlib compressionLevel windowLog).compress zlib
        (minCompressbufSize source.length) source).written)
      ((writerOf zlib compressionLevel windowLog).compress zlib
        (minCompressbufSize source.length) source).destLen = _ :=
    (resized_overwrite (Nat.le_of_eq measured) _).trans (ZLib.output_of_measured measured)
  refine Option.bind_eq_some_iff.mpr ⟨(), if_pos succeeds.code, ?_⟩
  exact congrArg (fun output : List UInt8 => some (output.length, output)) stored

omit reuses deflates bounded window in
/-- `Decompress` gets back what a member says. -/
theorem zlibDecompress_member {member : List UInt8}
    (isMember : IsMember zlib.toZlib format member source) (sourceFits : member.length < 2 ^ 31)
    (output : List UInt8) :
    zlibDecompress zlib flexibleWithGzipFooter windowLog member output = some (true, source) := by
  have uncompressed := ZLib.gzipUncompressedLength_member isMember
    (show source.length < 2 ^ 32 by omega)
  obtain ⟨result, called, went, said, length⟩ := ZLib.uncompress_member inflates
    (inHeader_readerOf zlib windowLog) isMember sourceFits (Nat.le_refl _) (by omega)
    flexibleWithGzipFooter
  have within : result.destLen ≤ result.written.length := by
    have taken := congrArg List.length said
    rw [ZLib.Uncompressed.output, List.length_take] at taken
    omega
  have stored : resized (ZLib.overwrite (resized output (ZLib.gzipUncompressedLength member)) 0
      result.written) result.destLen = source := (resized_overwrite within _).trans said
  rw [← uncompressed] at called
  refine Option.bind_eq_some_iff.mpr ⟨result, called, ?_⟩
  dsimp only
  rw [stored, decide_eq_true went]
  rfl

end Writing

/-- `ZLibCompressor`, which has no context. -/
def zlibCodec (zlib : WholeZlib Inflater Deflater) (flexibleWithGzipFooter : Bool)
    (compressionLevel windowLog : Int) : Codec Unit (List UInt8) (List UInt8) where
  encode _ input output := (zlibCompress zlib compressionLevel windowLog input output).map
    fun (_, output) => (output, ())
  decode _ input output := (zlibDecompress zlib flexibleWithGzipFooter windowLog input output).map
    fun (accepted, output) => (accepted, output, ())

theorem zlibCodec_lawful {State : Type} {format : Decoder UInt8 UInt8 State}
    {at_ : Inflater → State → Prop} {writing : Deflater → List UInt8 → List UInt8 → Prop}
    {opened : Deflater → Parameters → Prop} (reuses : zlib.Reuses opened)
    (deflates : zlib.Deflates format writing) (inflates : InflatesWhole zlib.toZlib format at_)
    (bounded : zlib.Bounded compressionLevel windowLog) (window : 0 < windowLog)
    {words : List (List UInt8)}
    (short : ∀ word ∈ words, word.length + word.length / 1000 + 40 < 2 ^ 31) :
    (zlibCodec zlib flexibleWithGzipFooter compressionLevel windowLog).Lawful (fun _ => True)
      (fun word member => IsMember zlib.toZlib format member word ∧ member.length < 2 ^ 31)
      words where
  encode word member _ old _ := by
    obtain ⟨code, called, isMember, length⟩ := zlibCompress_member reuses deflates inflates bounded
      window (short word member) old
    exact ⟨code, (), Option.map_eq_some_iff.mpr ⟨_, called, rfl⟩, trivial, isMember,
      Nat.lt_of_le_of_lt length (short word member)⟩
  decode word member _ code old _ codes :=
    ⟨(), Option.map_eq_some_iff.mpr ⟨_, zlibDecompress_member flexibleWithGzipFooter inflates
      (short word member) codes.1 codes.2 old, rfl⟩, trivial⟩

end Zlib

/-! ### ZstdCompressor -/

/-- `ZSTD_c_compressionLevel` and `ZSTD_c_windowLog`. -/
inductive ZstdParameter where
  | compressionLevel
  | windowLog
  deriving DecidableEq, Repr

/-- The zstd library, with the states of its contexts. What is an error has no result. -/
structure Zstd (CCtx DCtx : Type) where
  createCCtx : CCtx
  createDCtx : DCtx
  setParameter : CCtx → ZstdParameter → Int → CCtx
  compressBound : Nat → Option Nat
  /-- `ZSTD_compress2` with this much room. -/
  compress2 : CCtx → Nat → List UInt8 → Option (List UInt8) × CCtx
  getDecompressedSize : List UInt8 → Nat
  decompressDCtx : DCtx → Nat → List UInt8 → Option (List UInt8) × DCtx

namespace Zstd

variable {CCtx DCtx : Type} (zstd : Zstd CCtx DCtx)

/-- The constructor of `ZstdCompressor`. -/
def construct (compressionLevel windowLog : Int) : CCtx × DCtx :=
  (zstd.setParameter (zstd.setParameter zstd.createCCtx .compressionLevel compressionLevel)
    .windowLog windowLog, zstd.createDCtx)

/-- `ZstdCompressor::Compress`. -/
def compress (contexts : CCtx × DCtx) (input output : List UInt8) :
    Option (Nat × List UInt8 × CCtx × DCtx) := do
  let outputSize ← zstd.compressBound input.length
  let output := resized output outputSize
  let (finalSize, cctx) := zstd.compress2 contexts.1 output.length input
  let written ← finalSize
  let output := resized (ZLib.overwrite output 0 written) written.length
  return (written.length, output, cctx, contexts.2)

/-- `ZstdCompressor::Decompress`. -/
def decompress (contexts : CCtx × DCtx) (input output : List UInt8) :
    Option (Bool × List UInt8 × CCtx × DCtx) := do
  let outputSize := zstd.getDecompressedSize input
  guard (outputSize ≠ 0)
  let output := resized output outputSize
  let (finalSize, dctx) := zstd.decompressDCtx contexts.2 outputSize input
  let written ← finalSize
  return (true, ZLib.overwrite output 0 written, contexts.1, dctx)

def codec : Codec (CCtx × DCtx) (List UInt8) (List UInt8) where
  encode contexts input output := (zstd.compress contexts input output).map
    fun (_, output, contexts) => (output, contexts)
  decode contexts input output := zstd.decompress contexts input output

/-- Whatever a context was used for, it makes one frame of an input that fits in the bound, with the
length of the input, and any context reads it back. -/
structure Frames (frame : List UInt8 → List UInt8 → Prop) : Prop where
  bound : ∀ size, size < 2 ^ 63 → ∃ bound, zstd.compressBound size = some bound
  compress2 : ∀ cctx input bound, zstd.compressBound input.length = some bound →
    ∃ output next, zstd.compress2 cctx bound input = (some output, next) ∧ frame input output
  present : ∀ input output, frame input output → output ≠ []
  size : ∀ input output, frame input output → zstd.getDecompressedSize output = input.length
  decompressDCtx : ∀ dctx input output, frame input output →
    ∃ next, zstd.decompressDCtx dctx input.length output = (some input, next)

variable {zstd} {frame : List UInt8 → List UInt8 → Prop} (frames : zstd.Frames frame)

include frames

theorem compress_frame (contexts : CCtx × DCtx) {input : List UInt8}
    (short : input.length < 2 ^ 63) (output : List UInt8) :
    ∃ written next, zstd.compress contexts input output = some (written.length, written, next) ∧
      frame input written := by
  obtain ⟨bound, bounds⟩ := frames.bound _ short
  obtain ⟨written, next, called, isFrame⟩ := frames.compress2 contexts.1 input bound bounds
  refine ⟨written, (next, contexts.2), ?_, isFrame⟩
  unfold compress
  simp only [bounds, Option.bind_eq_bind, Option.bind_some, length_resized, called,
    resized_overwrite (Nat.le_refl _), List.take_length, Option.pure_def]

/-- A frame of a string that is not empty is read back. -/
theorem decompress_frame (contexts : CCtx × DCtx) {input written : List UInt8}
    (present : input ≠ []) (isFrame : frame input written) (output : List UInt8) :
    ∃ next, zstd.decompress contexts written output = some (true, input, next) := by
  obtain ⟨next, called⟩ := frames.decompressDCtx contexts.2 input written isFrame
  have length : input.length ≠ 0 := (List.length_pos_iff.mpr present).ne'
  refine ⟨(contexts.1, next), ?_⟩
  have stored : ZLib.overwrite (resized output input.length) 0 input = input := by
    rw [ZLib.overwrite, List.take_zero, List.nil_append, Nat.zero_add,
      List.drop_eq_nil_of_le (Nat.le_of_eq (length_resized _ _)), List.append_nil]
  unfold decompress
  rw [frames.size _ _ isFrame]
  refine Option.bind_eq_some_iff.mpr ⟨(), if_pos length, ?_⟩
  simp only [called, Option.bind_eq_bind, Option.bind_some, stored, Option.pure_def]

/-- The frame of the empty string fails the check of its size. -/
theorem decompress_empty (contexts : CCtx × DCtx) {written : List UInt8}
    (isFrame : frame [] written) (output : List UInt8) :
    zstd.decompress contexts written output = none := by
  unfold decompress
  rw [frames.size _ _ isFrame]
  rfl

theorem codec_encodes {words : List (List UInt8)} (short : ∀ word ∈ words, word.length < 2 ^ 63) :
    zstd.codec.Encodes (fun _ => True) frame words := by
  intro word member contexts old _
  obtain ⟨written, next, called, isFrame⟩ := compress_frame frames contexts (short word member) old
  exact ⟨written, next, Option.map_eq_some_iff.mpr ⟨_, called, rfl⟩, trivial, isFrame⟩

theorem codec_lawful {words : List (List UInt8)} (short : ∀ word ∈ words, word.length < 2 ^ 63)
    (present : [] ∉ words) : zstd.codec.Lawful (fun _ => True) frame words where
  encode := codec_encodes frames short
  decode word member contexts code old _ isFrame := by
    have some_ : word ≠ [] := fun empty => present (empty ▸ member)
    obtain ⟨next, called⟩ := decompress_frame frames contexts some_ isFrame old
    exact ⟨next, called, trivial⟩

theorem codec_refuses : zstd.codec.Refuses frame [] :=
  fun contexts _ old isFrame => decompress_empty frames contexts isFrame old

end Zstd

/-! ### SnappyCompressor -/

/-- The Snappy library. `Uncompress` says whether the input was sound, and what is in the string it
was given. -/
structure Snappy where
  compress : List UInt8 → List UInt8
  uncompress : List UInt8 → List UInt8 → Bool × List UInt8

namespace Snappy

variable (snappy : Snappy)

/-- `SnappyCompressor`. -/
def codec : Codec Unit (List UInt8) (List UInt8) where
  encode _ input _ := some (snappy.compress input, ())
  decode _ input output :=
    some ((snappy.uncompress input output).1, (snappy.uncompress input output).2, ())

/-- An input whose length fits in 32 bits is read back. -/
structure RoundTrips : Prop where
  present : ∀ input, snappy.compress input ≠ []
  uncompress : ∀ input output, input.length < 2 ^ 32 →
    snappy.uncompress (snappy.compress input) output = (true, input)

theorem codec_lawful {snappy : Snappy} (roundTrips : snappy.RoundTrips)
    {words : List (List UInt8)} (short : ∀ word ∈ words, word.length < 2 ^ 32) :
    snappy.codec.Lawful (fun _ => True) (fun word code => code = snappy.compress word) words where
  encode word _ _ _ _ := ⟨_, (), rfl, trivial, rfl⟩
  decode word member _ code old _ made := by
    subst made
    refine ⟨(), ?_, trivial⟩
    show some ((snappy.uncompress (snappy.compress word) old).1,
      (snappy.uncompress (snappy.compress word) old).2, ()) = _
    rw [roundTrips.uncompress word old (short word member)]

end Snappy

/-! ### BrotliCompressor -/

section Brotli

variable {DecoderState EncoderState Format : Type}

/-- `BrotliCompressor`, with fuel for its loops. -/
def brotliCodec (decoder : BrotliDecoder DecoderState) (encoder : BrotliEncoder EncoderState)
    (compressor : BrotliCompressor) (fuel : Nat) : Codec Unit (List UInt8) (List UInt8) where
  encode _ input output := (encoder.compress compressor fuel input output).map
    fun (_, output) => (output, ())
  decode _ input output := (decoder.decompress fuel input output).map
    fun (accepted, output) => (accepted, output, ())

/-- What the compressor makes of a string if its loops get enough fuel. -/
def Yields (encoder : BrotliEncoder EncoderState) (compressor : BrotliCompressor)
    (word code : List UInt8) : Prop :=
  ∃ enough, ∀ fuel, enough ≤ fuel →
    encoder.compress compressor fuel word [] = some (code.length, code)

variable {decoder : BrotliDecoder DecoderState} {encoder : BrotliEncoder EncoderState}
  {compressor : BrotliCompressor} {format : Decoder UInt8 UInt8 Format}
  {holding : DecoderState → Place Format → List UInt8 → Prop}
  {writing : BrotliEncoderOperation → EncoderState → List UInt8 → List UInt8 → Prop}
  {work : EncoderState → Nat}

theorem Yields.unique {word first second : List UInt8}
    (yields : Yields encoder compressor word first)
    (yields' : Yields encoder compressor word second) : first = second := by
  obtain ⟨enough, run⟩ := yields
  obtain ⟨enough', run'⟩ := yields'
  have same := (run _ (Nat.le_max_left enough enough')).symm.trans
    (run' _ (Nat.le_max_right enough enough'))
  exact (Prod.mk.inj (Option.some.inj same)).2

/-- Finitely many things that hold from some number on hold together from some number on. -/
theorem exists_enough {Value : Type} {holds : Value → Nat → Prop} (values : List Value)
    (eventually : ∀ value ∈ values, ∃ enough, ∀ fuel, enough ≤ fuel → holds value fuel) :
    ∃ enough, ∀ fuel, enough ≤ fuel → ∀ value ∈ values, holds value fuel := by
  induction values with
  | nil => exact ⟨0, fun _ _ => List.forall_mem_nil _⟩
  | cons value values inductionHypothesis =>
    obtain ⟨enough, one⟩ := eventually value List.mem_cons_self
    obtain ⟨enough', rest⟩ := inductionHypothesis fun value member =>
      eventually value (List.mem_cons_of_mem _ member)
    exact ⟨max enough enough', fun fuel more => List.forall_mem_cons.mpr
      ⟨one fuel (Nat.le_trans (Nat.le_max_left _ _) more),
        rest fuel (Nat.le_trans (Nat.le_max_right _ _) more)⟩⟩

theorem brotliCodec_lawful (decodes : decoder.Decodes format holding)
    (encodes : encoder.Encodes compressor format writing work) (words : List (List UInt8)) :
    ∃ enough, ∀ fuel, enough ≤ fuel →
      (brotliCodec decoder encoder compressor fuel).Lawful (fun _ => True)
        (fun word code => Yields encoder compressor word code ∧ code ≠ []) words := by
  -- of each word, the code and the fuel that both directions need for it
  have each : ∀ word ∈ words, ∃ enough, ∀ fuel, enough ≤ fuel → ∃ code,
      encoder.compress compressor fuel word [] = some (code.length, code) ∧
        Yields encoder compressor word code ∧ code ≠ [] ∧
        decoder.decompress fuel code [] = some (true, word) := by
    intro word _
    obtain ⟨code, enough, compresses, isStream⟩ := compress_returns encodes word []
    obtain ⟨enough', decompresses⟩ := compressed_returns decodes isStream []
    refine ⟨max enough enough', fun fuel more => ⟨code,
      compresses fuel (Nat.le_trans (Nat.le_max_left _ _) more), ⟨enough, compresses⟩, ?_,
      decompresses fuel (Nat.le_trans (Nat.le_max_right _ _) more)⟩⟩
    rintro rfl
    cases isStream
  obtain ⟨enough, all⟩ := exists_enough words each
  refine ⟨enough, fun fuel more => ⟨?_, ?_⟩⟩
  · intro word member _ old _
    obtain ⟨code, compressed, yields, present, -⟩ := all fuel more word member
    exact ⟨code, (), Option.map_eq_some_iff.mpr ⟨_, compressed, rfl⟩, trivial, yields, present⟩
  · intro word member _ code old _ codes
    obtain ⟨made, -, yields, -, decompressed⟩ := all fuel more word member
    obtain rfl := yields.unique codes.1
    exact ⟨(), Option.map_eq_some_iff.mpr ⟨_, decompressed, rfl⟩, trivial⟩

end Brotli

end Fleetbench.Compression
