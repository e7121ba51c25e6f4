/-
This file models the public interface of the class `ZLib` as a whole: the
setters, the functions for a whole buffer, and runs of calls on one object
with what the caller gets to see of each.
-/

import Fleetbench.Compression.Compress

namespace Fleetbench.Compression

namespace ZLib

variable {Inflater Deflater : Type} (zlib : WholeZlib Inflater Deflater)

/-! ### Setters -/

/-- `SetDictionary`. -/
def setDictionary (object : ZLib Inflater Deflater) (dictionary : Option Dictionary)
    (dictLen : Nat) : Option (ZLib Inflater Deflater) :=
  { object with
    settings.dictionary := dictionary
    settings.dictLen := dictLen }.checkValidParams

/-! ### Whole buffers -/

/-- `Uncompress`. -/
def uncompress (flexibleWithGzipFooter : Bool) (object : ZLib Inflater Deflater) (destLen : Nat)
    (source : List UInt8) : Option (Uncompressed Inflater Deflater) :=
  (object.uncompressChunkOrAll zlib.toZlib flexibleWithGzipFooter destLen source .finish).bind
    fun result =>
      if result.code ≠ .ok then some { result with object := result.object.reset }
      else
        (result.object.uncompressChunkDone zlib.toZlib flexibleWithGzipFooter).map
          fun (done, object) =>
            { result with code := if done then .ok else .dataError, object := object }

/-- `GzipUncompressedLength`. -/
def gzipUncompressedLength (source : List UInt8) : Nat :=
  if source.length ≤ 4 then 0
  else
    (source.getD (source.length - 1) 0).toNat <<< 24 +
      (source.getD (source.length - 2) 0).toNat <<< 16 +
      (source.getD (source.length - 3) 0).toNat <<< 8 +
      (source.getD (source.length - 4) 0).toNat

/-- `HasGzipHeader`. -/
def hasGzipHeader (source : List UInt8) : Option Bool :=
  (GZipHeader.fresh.readMore source (toInt source.length)).map fun (_, status) =>
    match status with
    | .completeHeader _ => true
    | _ => false

/-- What `UncompressGzipAndAllocate` leaves behind; the bytes of the buffer that it allocated, if
it keeps it. -/
structure Allocated (Inflater Deflater : Type) where
  code : ZCode
  dest : Option (List UInt8)
  destLen : Nat
  object : ZLib Inflater Deflater

/-- `UncompressGzipAndAllocate`. -/
def uncompressGzipAndAllocate (flexibleWithGzipFooter : Bool) (malloc : Nat → Bool)
    (object : ZLib Inflater Deflater) (destLen : Nat) (source : List UInt8) :
    Option (Allocated Inflater Deflater) :=
  let uncompressLength := gzipUncompressedLength source
  if object.settings.gzipHeaderMode = false then some ⟨.versionError, none, destLen, object⟩
  else if destLen < uncompressLength then
    (hasGzipHeader source).map fun found =>
      ⟨if found then .memError else .dataError, none, destLen, object⟩
  else if malloc uncompressLength = false then some ⟨.memError, none, uncompressLength, object⟩
  else
    (object.uncompress zlib flexibleWithGzipFooter uncompressLength source).map fun result =>
      ⟨result.code, if result.code = .ok then some result.output else none, result.destLen,
        result.object⟩

end ZLib

/-! ### Calls -/

/-- Compression and decompression share the flag `first_chunk_`. -/
inductive Direction where
  | compression
  | decompression
  deriving DecidableEq, Repr

/-- A call of a public function; the accessors are one call. -/
inductive PublicCall where
  | setNoHeaderMode (noHeaderMode : Bool)
  | setGzipHeaderMode
  | setDontHideStreamEnd
  | setCompressionLevel (level : Int)
  | setCompressionWindowSizeInBits (bits : Int)
  | setCompressionMemLevel (level : Int)
  | setDictionary (dictionary : Option Dictionary) (dictLen : Nat)
  | reset
  | reinit
  | compress (destLen : Nat) (source : List UInt8)
  | compressChunk (destLen : Nat) (source : List UInt8)
  | compressAtMost (destLen : Nat) (source : List UInt8)
  | compressChunkDone (destLen : Nat)
  | uncompress (destLen : Nat) (source : List UInt8)
  | uncompressChunk (destLen : Nat) (source : List UInt8)
  | uncompressAtMost (destLen : Nat) (source : List UInt8)
  | uncompressChunkDone
  | uncompressGzipAndAllocate (destLen : Nat) (source : List UInt8)
  | observe
  deriving DecidableEq, Repr

namespace PublicCall

def direction : PublicCall → Option Direction
  | compress _ _ | compressChunk _ _ | compressAtMost _ _ | compressChunkDone _ =>
    some .compression
  | uncompress _ _ | uncompressChunk _ _ | uncompressAtMost _ _ | uncompressChunkDone
  | uncompressGzipAndAllocate _ _ => some .decompression
  | _ => none

end PublicCall

/-- What the caller sees of a call. Only some functions say how much of the source is left. -/
inductive Answer where
  | nothing
  | coded (code : ZCode) (written : List UInt8) (destLen : Nat) (left : Option Nat)
  | decided (value : Bool)
  | allocated (code : ZCode) (dest : Option (List UInt8)) (destLen : Nat)
  | observed (noHeaderMode firstChunk : Bool) (dictionary : Option Nat) (minFooterSize : Nat)
      (footerComplete footerValid : Bool) (uncompressedSize : Nat)
  deriving DecidableEq, Repr

/-- What a call depends on besides the object: the flag, whether assertions are compiled in, and
which allocations succeed. -/
structure Environment where
  flexibleWithGzipFooter : Bool
  assertions : Bool
  malloc : Nat → Bool

namespace ZLib

variable {Inflater Deflater : Type}

def Compressed.answer (result : Compressed Inflater Deflater) (left : Option Nat) :
    Answer × ZLib Inflater Deflater :=
  (.coded result.code result.written result.destLen left, result.object)

def Uncompressed.answer (result : Uncompressed Inflater Deflater) (left : Option Nat) :
    Answer × ZLib Inflater Deflater :=
  (.coded result.code result.written result.destLen left, result.object)

def Allocated.answer (result : Allocated Inflater Deflater) : Answer × ZLib Inflater Deflater :=
  (.allocated result.code result.dest result.destLen, result.object)

/-- The accessors. -/
def observe (object : ZLib Inflater Deflater) : Answer :=
  .observed object.settings.noHeaderMode object.firstChunk
    (object.settings.dictionary.map Dictionary.address) object.minFooterSize
    object.isGzipFooterComplete object.isGzipFooterValid object.uncompressedSize

variable (zlib : WholeZlib Inflater Deflater) (environment : Environment)

/-- A public call on an object, unless it aborts. -/
def perform (object : ZLib Inflater Deflater) :
    PublicCall → Option (Answer × ZLib Inflater Deflater)
  | .setNoHeaderMode noHeaderMode =>
    (object.setNoHeaderMode noHeaderMode).map fun next => (.nothing, next)
  | .setGzipHeaderMode => object.setGzipHeaderMode.map fun next => (.nothing, next)
  | .setDontHideStreamEnd =>
    some (.nothing, { object with settings.dontHideZstreamEnd := true })
  | .setCompressionLevel level =>
    some (.nothing, { object with settings.compressionLevel := level })
  | .setCompressionWindowSizeInBits bits =>
    some (.nothing, { object with settings.windowBits := bits })
  | .setCompressionMemLevel level =>
    some (.nothing, { object with settings.memLevel := level })
  | .setDictionary dictionary dictLen =>
    (object.setDictionary dictionary dictLen).map fun next => (.nothing, next)
  | .reset => some (.nothing, object.reset)
  | .reinit => some (.nothing, object.reinit zlib.toZlib)
  | .compress destLen source => some ((object.compress zlib destLen source).answer none)
  | .compressChunk destLen source =>
    some ((object.compressChunk zlib destLen source).answer none)
  | .compressAtMost destLen source =>
    let result := object.compressAtMost zlib destLen source
    some (result.answer (some result.sourceLen))
  | .compressChunkDone destLen =>
    (object.compressChunkDone zlib environment.assertions destLen).map (·.answer none)
  | .uncompress destLen source =>
    (object.uncompress zlib environment.flexibleWithGzipFooter destLen source).map
      (·.answer none)
  | .uncompressChunk destLen source =>
    (object.uncompressChunk zlib.toZlib environment.flexibleWithGzipFooter destLen source).map
      (·.answer none)
  | .uncompressAtMost destLen source =>
    (object.uncompressAtMostOrAll zlib.toZlib environment.flexibleWithGzipFooter destLen source
      .syncFlush).map fun result => result.answer (some result.sourceLen)
  | .uncompressChunkDone =>
    (object.uncompressChunkDone zlib.toZlib environment.flexibleWithGzipFooter).map
      fun (done, next) => (.decided done, next)
  | .uncompressGzipAndAllocate destLen source =>
    (object.uncompressGzipAndAllocate zlib environment.flexibleWithGzipFooter environment.malloc
      destLen source).map Allocated.answer
  | .observe => some (object.observe, object)

/-- A run of calls: what the caller sees of each, and the object behind them. -/
def performAll (object : ZLib Inflater Deflater) :
    List PublicCall → Option (List Answer × ZLib Inflater Deflater)
  | [] => some ([], object)
  | call :: calls =>
    (object.perform zlib environment call).bind fun (answer, next) =>
      (next.performAll calls).map fun (answers, last) => (answer :: answers, last)

end ZLib

end Fleetbench.Compression
