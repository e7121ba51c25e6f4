/-
This file models the compression of the class `ZLib`: the stream that is
reused if it can be, the header that the wrapper writes before the compressed
data, and the footer that it writes behind it.
-/

import Fleetbench.Compression.Deflate
import Fleetbench.Compression.Uncompress

namespace Fleetbench.Compression.ZLib

variable {Inflater Deflater : Type} (zlib : WholeZlib Inflater Deflater)

/-- `MinFooterSize`. -/
def minFooterSize (object : ZLib Inflater Deflater) : Nat :=
  if object.settings.gzipHeaderMode then 2 + 8 else 2

/-- `CompressErrorInit`. -/
def compressErrorInit (object : ZLib Inflater Deflater) : ZLib Inflater Deflater :=
  (if object.compInit then object.closeComp else object).reset

/-- The bytes of `GZIP_HEADER`. -/
def gzipHeaderBytes : List UInt8 :=
  [0x1f, 0x8b, 8, 0, 0, 0, 0, 0, 2, 0xff]

/-- `WriteGzipHeader`, which wants room for the zero byte behind the header as well. -/
def writeGzipHeader (object : ZLib Inflater Deflater) :
    Option (List UInt8 × ZLib Inflater Deflater) :=
  if object.compStream.availOut < gzipHeaderBytes.length + 1 then none
  else
    some (gzipHeaderBytes, { object with
      compStream.availOut := object.compStream.availOut - gzipHeaderBytes.length })

/-- A number as four bytes, the lowest first. -/
def footerBytes (value : Nat) : List UInt8 :=
  [0, 8, 16, 24].map fun shift => UInt8.ofNat ((value >>> shift) &&& 255)

/-- `WriteGzipFooter`. -/
def writeGzipFooter (object : ZLib Inflater Deflater) (destLen : Nat) : Option (List UInt8) :=
  if destLen < 8 then none
  else some (footerBytes object.crc.toNat ++ footerBytes object.uncompressedSize)

/-! ### Starting to compress -/

/-- The window size that `deflateInit2` is given. -/
def signedWindowBits (settings : Settings) : Int :=
  if settings.noHeaderMode then -settings.windowBits else settings.windowBits

/-- `DeflateInit`. -/
def deflateInit (object : ZLib Inflater Deflater) : ZCode × ZLib Inflater Deflater :=
  let settings := object.settings
  let (err, stream) := object.compStream.deflateInit2 zlib settings.compressionLevel
    (signedWindowBits settings) settings.memLevel
  if err = .ok then
    (err, { object with
      compStream := stream
      initSettings := { object.initSettings with
        compressionLevel := settings.compressionLevel
        windowBits := settings.windowBits
        memLevel := settings.memLevel
        noHeaderMode := settings.noHeaderMode } })
  else (err, { object with compStream := stream })

/-- The properties that cannot be adjusted differ from those of the last initialization. -/
def propertiesChanged (object : ZLib Inflater Deflater) : Prop :=
  object.initSettings.dictionary.map Dictionary.address ≠
      object.settings.dictionary.map Dictionary.address ∨
    object.initSettings.dictLen ≠ object.settings.dictLen ∨
    object.initSettings.windowBits ≠ object.settings.windowBits ∨
    object.initSettings.memLevel ≠ object.settings.memLevel ∨
    object.initSettings.noHeaderMode ≠ object.settings.noHeaderMode

instance (object : ZLib Inflater Deflater) : Decidable object.propertiesChanged :=
  inferInstanceAs (Decidable (_ ∨ _ ∨ _ ∨ _ ∨ _))

/-- `deflateParams`, if the level has changed. -/
def adjustLevel (object : ZLib Inflater Deflater) : ZLib Inflater Deflater :=
  if object.compInit ∧
      object.initSettings.compressionLevel ≠ object.settings.compressionLevel then
    let (err, stream) := object.compStream.deflateParams zlib object.settings.compressionLevel
    if err = .ok then
      { object with
        compStream := stream
        initSettings.compressionLevel := object.settings.compressionLevel }
    else { object with compStream := stream }.closeComp
  else object

/-- The stream is ended if properties have changed. -/
def dropComp (object : ZLib Inflater Deflater) : ZLib Inflater Deflater :=
  if object.compInit ∧ object.propertiesChanged then object.closeComp else object

/-- The part of `CompressInit` for the first chunk. -/
def prepareComp (object : ZLib Inflater Deflater) : ZCode × ZLib Inflater Deflater :=
  let object := (object.dropComp.reuseComp zlib.toZlib).adjustLevel zlib
  if object.compInit then (.ok, object)
  else
    let (err, object) := object.deflateInit zlib
    if err = .ok then (.ok, { object with compInit := true }) else (err, object)

/-- `CompressInit`: lengths that do not fit in an unsigned int are refused. -/
def compressInit (object : ZLib Inflater Deflater) (destLen sourceLen : Nat) :
    ZCode × ZLib Inflater Deflater :=
  let object := { object with compStream.availIn := sourceLen % 2 ^ 32 }
  if object.compStream.availIn ≠ sourceLen then (.bufError, object)
  else
    let object := { object with compStream.availOut := destLen % 2 ^ 32 }
    if object.compStream.availOut ≠ destLen then (.bufError, object)
    else if object.firstChunk then object.prepareComp zlib
    else (.ok, object)

/-! ### One call -/

/-- What a call of one of the functions that compress leaves behind: the code, the bytes it wrote
to `dest`, and `*destLen` and `*sourceLen`. -/
structure Compressed (Inflater Deflater : Type) where
  code : ZCode
  written : List UInt8
  destLen : Nat
  sourceLen : Nat
  object : ZLib Inflater Deflater

/-- The bytes of `dest` up to the length that is returned. -/
def Compressed.output (result : Compressed Inflater Deflater) : List UInt8 :=
  result.written.take result.destLen

/-- What `CompressAtMostOrAll` returns in `*destLen`: the difference of two totals, of which the
earlier one is an `int`, as an `int`. -/
def compressedSize (totalOut : Nat) (earlier : Int) : Nat :=
  (toInt (((totalOut : Int) - earlier) % 2 ^ 64).toNat % 2 ^ 64).toNat

/-- The part of `CompressAtMostOrAll` behind the call of `deflate`: the code to return and the
metadata. -/
def concludeDeflate (object : ZLib Inflater Deflater) (earlier : Int) (destLen : Nat)
    (source written : List UInt8) (err : ZCode) : Compressed Inflater Deflater :=
  let availIn := object.compStream.availIn
  let consumed := (source.length + 2 ^ 64 - availIn) % 2 ^ 64
  let conclude (err : ZCode) :=
    let err := if err = .streamEnd then .ok else err
    Compressed.mk err written (compressedSize object.compStream.totalOut earlier) availIn
      { object with
        uncompressedSize := (object.uncompressedSize + consumed) % 2 ^ 64
        crc :=
          if object.settings.gzipHeaderMode then zlib.crc32 object.crc (source.take consumed)
          else object.crc }
  if (err = .streamEnd ∨ err = .ok) ∧ availIn = 0 ∧ object.compStream.availOut ≠ 0 then
    conclude err
  else if err = .streamEnd ∧ 0 < availIn then ⟨.bufError, written, destLen, availIn, object⟩
  else if err ≠ .ok ∧ err ≠ .streamEnd ∧ err ≠ .bufError then
    ⟨err, written, destLen, availIn, object.compressErrorInit⟩
  else if object.compStream.availOut = 0 then conclude .bufError
  else conclude err

/-- The part of `CompressAtMostOrAll` from the call of `deflate` on. -/
def deflateSource (object : ZLib Inflater Deflater) (earlier : Int) (destLen : Nat)
    (source written : List UInt8) (flushMode : Flush) : Compressed Inflater Deflater :=
  let (err, output, stream) := object.compStream.deflate zlib source flushMode
  { object with compStream := stream }.concludeDeflate zlib earlier destLen source
    (written ++ output) err

/-- The gzip header before the first chunk: its bytes, if there is room for them. -/
def startGzip (object : ZLib Inflater Deflater) : Option (List UInt8 × ZLib Inflater Deflater) :=
  if object.settings.gzipHeaderMode then
    object.writeGzipHeader.map fun (header, object) =>
      (header, { object with crc := zlib.crc32 0 [] })
  else some ([], object)

/-- `deflateSetDictionary` before the first chunk. -/
def startDictionary (object : ZLib Inflater Deflater) : ZCode × ZLib Inflater Deflater :=
  match object.settings.dictionary with
  | some dictionary =>
    let (err, stream) := object.compStream.deflateSetDictionary zlib
      (dictionary.bytes.take object.settings.dictLen)
    let object := { object with compStream := stream }
    if err ≠ .ok then (err, object)
    else
      (.ok, { object with
        initSettings.dictionary := object.settings.dictionary
        initSettings.dictLen := object.settings.dictLen })
  | none => (.ok, object)

theorem startDictionary_none {object : ZLib Inflater Deflater}
    (noDictionary : object.settings.dictionary = none) :
    object.startDictionary zlib = (.ok, object) := by
  unfold startDictionary
  rw [noDictionary]

/-- `CompressAtMostOrAll`. -/
def compressAtMostOrAll (object : ZLib Inflater Deflater) (destLen : Nat) (source : List UInt8)
    (flushMode : Flush) : Compressed Inflater Deflater :=
  let (err, object) := object.compressInit zlib destLen source.length
  if err ≠ .ok then ⟨err, [], destLen, source.length, object⟩
  else
    let earlier := toInt object.compStream.totalOut
    if object.firstChunk then
      match object.startGzip zlib with
      | none => ⟨.bufError, [], destLen, source.length, object⟩
      | some (header, object) =>
        let (err, object) := object.startDictionary zlib
        if err ≠ .ok then ⟨err, header, destLen, source.length, object⟩
        else
          { object with uncompressedSize := 0, firstChunk := false }.deflateSource zlib
            (earlier - header.length) destLen source header flushMode
    else object.deflateSource zlib earlier destLen source [] flushMode

/-- `CompressChunkOrAll`. -/
def compressChunkOrAll (object : ZLib Inflater Deflater) (destLen : Nat) (source : List UInt8)
    (flushMode : Flush) : Compressed Inflater Deflater :=
  let result := object.compressAtMostOrAll zlib destLen source flushMode
  if result.code = .bufError then { result with object := result.object.compressErrorInit }
  else result

/-- `CompressChunk`. -/
def compressChunk (object : ZLib Inflater Deflater) (destLen : Nat) (source : List UInt8) :
    Compressed Inflater Deflater :=
  object.compressChunkOrAll zlib destLen source .syncFlush

/-- `CompressAtMost`. -/
def compressAtMost (object : ZLib Inflater Deflater) (destLen : Nat) (source : List UInt8) :
    Compressed Inflater Deflater :=
  object.compressAtMostOrAll zlib destLen source .syncFlush

/-! ### The end -/

/-- The footer that `CompressChunkDone` and `Compress` write behind the data. -/
def Compressed.finish (result : Compressed Inflater Deflater) (origDestLen : Nat) :
    Compressed Inflater Deflater :=
  if result.object.settings.gzipHeaderMode then
    match result.object.writeGzipFooter ((origDestLen + 2 ^ 64 - result.destLen) % 2 ^ 64) with
    | none => { result with code := .bufError }
    | some footer =>
      { result with
        code := .ok
        written := overwrite result.written result.destLen footer
        destLen := (result.destLen + 8) % 2 ^ 64 }
  else { result with code := .ok }

/-- `CompressChunkDone`, which aborts without a chunk if assertions are compiled in. -/
def compressChunkDone (assertions : Bool) (object : ZLib Inflater Deflater) (destLen : Nat) :
    Option (Compressed Inflater Deflater) :=
  if destLen < object.minFooterSize then some ⟨.bufError, [], 0, 0, object⟩
  else if assertions ∧ ¬ (object.firstChunk = false ∧ object.compInit = true) then none
  else
    let result := object.compressChunkOrAll zlib destLen [] .finish
    let closed := { result with object := result.object.reset }
    if result.code ≠ .ok then some closed else some (closed.finish destLen)

/-- `Compress`. -/
def compress (object : ZLib Inflater Deflater) (destLen : Nat) (source : List UInt8) :
    Compressed Inflater Deflater :=
  let result := object.compressChunkOrAll zlib destLen source .finish
  if result.code ≠ .ok then result
  else { result with object := result.object.reset }.finish destLen

end Fleetbench.Compression.ZLib
