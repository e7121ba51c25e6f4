/-
This file models the class `ZLib` of the compression library and its chunked
decompression: the header that `GZipHeader` parses, the compressed data that
zlib inflates, and the eight bytes of the footer, which may arrive together
with the end of the data or later.

A call that aborts the process has no result. Buffers are lists of bytes; the
bytes that a call writes to `dest` are part of its result.
-/

import Fleetbench.Compression.GzipHeader
import Fleetbench.Compression.Zlib

namespace Fleetbench.Compression

/-! ### The object -/

/-- A dictionary is compared by its address. -/
structure Dictionary where
  address : Nat
  bytes : List UInt8
  deriving DecidableEq, Repr

structure Settings where
  dictionary : Option Dictionary
  dictLen : Nat
  compressionLevel : Int
  windowBits : Int
  memLevel : Int
  noHeaderMode : Bool
  gzipHeaderMode : Bool
  dontHideZstreamEnd : Bool
  deriving DecidableEq, Repr

/-- The class `ZLib`, with the states of zlib's two kinds of streams. -/
structure ZLib (Inflater Deflater : Type) where
  settings : Settings
  initSettings : Settings
  compStream : ZStream Deflater
  compInit : Bool
  uncompStream : ZStream Inflater
  uncompInit : Bool
  crc : UInt32
  uncompressedSize : Nat
  gzipHeader : GZipHeader
  gzipFooter : List UInt8
  gzipFooterBytes : Int
  firstChunk : Bool

namespace ZLib

variable {Inflater Deflater : Type} (zlib : Zlib Inflater Deflater)

/-- The settings that `Reinit` makes. -/
def defaultSettings : Settings where
  dictionary := none
  dictLen := 0
  compressionLevel := -1
  windowBits := maxWbits
  memLevel := 8
  noHeaderMode := false
  gzipHeaderMode := false
  dontHideZstreamEnd := false

def closeComp (object : ZLib Inflater Deflater) : ZLib Inflater Deflater :=
  { object with compStream := object.compStream.close, compInit := false }

def closeUncomp (object : ZLib Inflater Deflater) : ZLib Inflater Deflater :=
  { object with uncompStream := object.uncompStream.close, uncompInit := false }

/-- The window size that stands for the header mode. -/
def wbits (object : ZLib Inflater Deflater) : Int :=
  if object.settings.noHeaderMode then -maxWbits else maxWbits

def reuseComp (object : ZLib Inflater Deflater) : ZLib Inflater Deflater :=
  if object.compInit then
    let (err, stream) := object.compStream.deflateReset zlib
    if err = .ok then { object with compStream := stream }
    else { object with compStream := stream }.closeComp
  else object

/-- `inflateReset2` on the stream, which also says whether it went well. -/
def resetUncomp (object : ZLib Inflater Deflater) : ZCode × ZLib Inflater Deflater :=
  let (err, stream) := object.uncompStream.inflateReset2 zlib object.wbits
  if err = .ok then
    (err, { object with
      uncompStream := stream
      initSettings.noHeaderMode := object.settings.noHeaderMode })
  else (err, { object with uncompStream := stream })

/-- `Reinit`. -/
def reinit (object : ZLib Inflater Deflater) : ZLib Inflater Deflater :=
  let object := { object with settings := defaultSettings }.reuseComp zlib
  let object :=
    if object.uncompInit then
      let (err, object) := object.resetUncomp zlib
      if err = .ok then object else object.closeUncomp
    else object
  { object with
    crc := 0
    uncompressedSize := 0
    gzipHeader := .fresh
    gzipFooterBytes := -1
    firstChunk := true }

/-- The constructor; the fields that it leaves alone are blank. -/
def new : ZLib Inflater Deflater :=
  let object : ZLib Inflater Deflater :=
    { settings := defaultSettings
      initSettings := defaultSettings
      compStream := .blank
      compInit := false
      uncompStream := .blank
      uncompInit := false
      crc := 0
      uncompressedSize := 0
      gzipHeader := .fresh
      gzipFooter := List.replicate 8 0
      gzipFooterBytes := -1
      firstChunk := true }
  let object := object.reinit zlib
  { object with initSettings := object.settings }

/-- `Reset`. -/
def reset (object : ZLib Inflater Deflater) : ZLib Inflater Deflater :=
  { object with firstChunk := true, gzipHeader := .fresh }

/-- `CheckValidParams` aborts on a dictionary without zlib headers. -/
def checkValidParams (object : ZLib Inflater Deflater) : Option (ZLib Inflater Deflater) :=
  if object.settings.dictionary.isSome ∧
      (object.settings.noHeaderMode ∨ object.settings.gzipHeaderMode) then
    none
  else some object

def setNoHeaderMode (object : ZLib Inflater Deflater) (noHeaderMode : Bool) :
    Option (ZLib Inflater Deflater) :=
  let object := { object with settings.noHeaderMode := noHeaderMode }
  if object.initSettings.noHeaderMode ≠ object.settings.noHeaderMode then
    let object := if object.compInit then object.closeComp else object
    let object := if object.uncompInit then object.closeUncomp else object
    object.checkValidParams
  else object.reset.checkValidParams

def setGzipHeaderMode (object : ZLib Inflater Deflater) : Option (ZLib Inflater Deflater) :=
  ({ object with settings.gzipHeaderMode := true }.setNoHeaderMode true).bind checkValidParams

/-! ### Starting to uncompress -/

/-- `InflateInit`. -/
def inflateInit (object : ZLib Inflater Deflater) : ZCode × ZLib Inflater Deflater :=
  let (err, stream) := object.uncompStream.inflateInit2 zlib object.wbits
  if err = .ok then
    (err, { object with
      uncompStream := stream
      initSettings.noHeaderMode := object.settings.noHeaderMode })
  else (err, { object with uncompStream := stream })

/-- `UncompressErrorInit`. -/
def uncompressErrorInit (object : ZLib Inflater Deflater) : ZLib Inflater Deflater :=
  (if object.uncompInit then object.closeUncomp else object).reset

/-- The part of `UncompressInit` for the first chunk. -/
def prepareUncomp (object : ZLib Inflater Deflater) : ZCode × ZLib Inflater Deflater :=
  let object :=
    if object.uncompInit ∧
        (object.initSettings.dictionary.map Dictionary.address ≠
            object.settings.dictionary.map Dictionary.address ∨
          object.initSettings.dictLen ≠ object.settings.dictLen) then
      object.closeUncomp
    else object
  let object :=
    if object.uncompInit then
      let (err, object) := object.resetUncomp zlib
      if err = .ok then object else object.uncompressErrorInit
    else object
  if object.uncompInit then (.ok, object)
  else
    let (err, object) := object.inflateInit zlib
    if err = .ok then (.ok, { object with uncompInit := true }) else (err, object)

/-- `UncompressInit`: lengths that do not fit in an unsigned int are refused. -/
def uncompressInit (object : ZLib Inflater Deflater) (destLen sourceLen : Nat) :
    ZCode × ZLib Inflater Deflater :=
  let object := { object with uncompStream.availIn := sourceLen % 2 ^ 32 }
  if object.uncompStream.availIn ≠ sourceLen then (.bufError, object)
  else
    let object := { object with uncompStream.availOut := destLen % 2 ^ 32 }
    if object.uncompStream.availOut ≠ destLen then (.bufError, object)
    else if object.firstChunk then object.prepareUncomp zlib
    else (.ok, object)

/-! ### One call -/

/-- What a call of one of the functions that uncompress leaves behind: the code, the bytes it
wrote to `dest`, and `*destLen` and `*sourceLen`. -/
structure Uncompressed (Inflater Deflater : Type) where
  code : ZCode
  written : List UInt8
  destLen : Nat
  sourceLen : Nat
  object : ZLib Inflater Deflater

/-- The bytes of `dest` up to the length that is returned. -/
def Uncompressed.output (result : Uncompressed Inflater Deflater) : List UInt8 :=
  result.written.take result.destLen

/-- `memcpy` into a buffer. -/
def overwrite (buffer : List UInt8) (offset : Nat) (bytes : List UInt8) : List UInt8 :=
  buffer.take offset ++ bytes ++ buffer.drop (offset + bytes.length)

theorem length_overwrite {buffer bytes : List UInt8} {offset : Nat}
    (fits : offset + bytes.length ≤ buffer.length) :
    (overwrite buffer offset bytes).length = buffer.length := by
  rw [overwrite, List.length_append, List.length_append, List.length_take, List.length_drop]
  omega

theorem take_overwrite {buffer bytes : List UInt8} {offset : Nat}
    (fits : offset ≤ buffer.length) :
    (overwrite buffer offset bytes).take (offset + bytes.length) = buffer.take offset ++ bytes := by
  have length : (buffer.take offset ++ bytes).length = offset + bytes.length := by
    rw [List.length_append, List.length_take, Nat.min_eq_left fits]
  rw [overwrite, List.take_append_of_le_length (Nat.le_of_eq length.symm),
    List.take_of_length_le (Nat.le_of_eq length)]

/-- The difference of two readings of a counter that wraps around. -/
theorem counter_delta {before count : Nat} (readable : before < 2 ^ 64) (few : count < 2 ^ 64) :
    ((before + count) % 2 ^ 64 + 2 ^ 64 - before) % 2 ^ 64 = count := by
  omega

/-- The conversion of a length to `int`. -/
def toInt (length : Nat) : Int :=
  if length % 2 ^ 32 < 2 ^ 31 then (length % 2 ^ 32 : Nat) else (length % 2 ^ 32 : Nat) - 2 ^ 32

theorem toInt_of_lt {length : Nat} (fits : length < 2 ^ 31) : toInt length = length := by
  rw [toInt, Nat.mod_eq_of_lt (Nat.lt_trans fits (by decide)), if_pos fits]

theorem toInt_nonneg_iff (length : Nat) : ¬ toInt length < 0 ↔ length % 2 ^ 32 < 2 ^ 31 := by
  unfold toInt
  split <;> omega

/-- The part of `UncompressAtMostOrAll` behind the calls of `inflate`: the footer, if the stream
ended, the code to return and the metadata. -/
def concludeInflate (flexibleWithGzipFooter : Bool) (object : ZLib Inflater Deflater)
    (oldTotalIn oldTotalOut destLen : Nat) (source written : List UInt8) (err : ZCode) :
    Option (Uncompressed Inflater Deflater) :=
  let bytesRead := (object.uncompStream.totalIn + 2 ^ 64 - oldTotalIn) % 2 ^ 64
  let availIn := object.uncompStream.availIn
  let conclude (object : ZLib Inflater Deflater) (err : ZCode) (sourceLen : Nat) :=
    let err :=
      if err = .streamEnd ∧ object.settings.dontHideZstreamEnd = false then .ok else err
    let destLen := (object.uncompStream.totalOut + 2 ^ 64 - oldTotalOut) % 2 ^ 64
    let crc :=
      if object.settings.gzipHeaderMode then zlib.crc32 object.crc (written.take (destLen % 2 ^ 32))
      else object.crc
    some (Uncompressed.mk err written destLen sourceLen
      { object with uncompressedSize := object.uncompStream.totalOut, crc := crc })
  if source.length < bytesRead then none
  else if err = .streamEnd ∧ (object.gzipFooterBytes = -1 ∨ object.gzipFooterBytes < 8) ∧
      (availIn ≤ 8 ∨ flexibleWithGzipFooter) then
    let footerBytes := min availIn 8
    conclude
      { object with
        gzipFooterBytes := footerBytes
        gzipFooter := overwrite object.gzipFooter 0 ((source.drop bytesRead).take footerBytes) }
      err (availIn - footerBytes)
  else if (err = .streamEnd ∨ err = .ok) ∧ availIn = 0 then conclude object err availIn
  else if err = .streamEnd ∧ 0 < availIn then
    -- The message has the first 20 of these bytes. A negative length of it aborts.
    if toInt availIn < 0 then none
    else some ⟨.dataError, written, destLen, availIn, object.uncompressErrorInit⟩
  else if err ≠ .ok ∧ err ≠ .streamEnd ∧ err ≠ .bufError then
    some ⟨err, written, destLen, availIn, object.uncompressErrorInit⟩
  else if object.uncompStream.availOut = 0 then conclude object .bufError availIn
  else conclude object err availIn

/-- The part of `UncompressAtMostOrAll` that calls `inflate`, a second time if zlib asks for the
dictionary. -/
def inflateSource (flexibleWithGzipFooter : Bool) (object : ZLib Inflater Deflater)
    (oldTotalIn oldTotalOut destLen : Nat) (source : List UInt8) (flushMode : Flush) :
    Option (Uncompressed Inflater Deflater) :=
  let (err, written, stream) := object.uncompStream.inflate zlib source flushMode
  let object := { object with uncompStream := stream }
  match object.settings.dictionary with
  | some dictionary =>
    if err = .needDict then
      let (err, stream) := object.uncompStream.inflateSetDictionary zlib
        (dictionary.bytes.take object.settings.dictLen)
      let object := { object with uncompStream := stream }
      if err ≠ .ok then some ⟨err, written, destLen, source.length, object.uncompressErrorInit⟩
      else
        let rest := source.drop ((object.uncompStream.totalIn + 2 ^ 64 - oldTotalIn) % 2 ^ 64)
        let (err, more, stream) := object.uncompStream.inflate zlib rest flushMode
        let object := { object with
          uncompStream := stream
          initSettings.dictionary := object.settings.dictionary
          initSettings.dictLen := object.settings.dictLen }
        object.concludeInflate zlib flexibleWithGzipFooter oldTotalIn oldTotalOut destLen source
          (written ++ more) err
    else
      object.concludeInflate zlib flexibleWithGzipFooter oldTotalIn oldTotalOut destLen source
        written err
  | none =>
    object.concludeInflate zlib flexibleWithGzipFooter oldTotalIn oldTotalOut destLen source
      written err

/-- `inflateSetDictionary` before the first chunk, when there are no zlib headers. -/
def presetDictionary (object : ZLib Inflater Deflater) : ZCode × ZLib Inflater Deflater :=
  match object.settings.dictionary with
  | some dictionary =>
    if object.settings.gzipHeaderMode ∨ object.settings.noHeaderMode then
      let (err, stream) := object.uncompStream.inflateSetDictionary zlib
        (dictionary.bytes.take object.settings.dictLen)
      let object := { object with uncompStream := stream }
      if err ≠ .ok then (err, object.uncompressErrorInit)
      else
        (.ok, { object with
          initSettings.dictionary := object.settings.dictionary
          initSettings.dictLen := object.settings.dictLen })
    else (.ok, object)
  | none => (.ok, object)

/-- `UncompressAtMostOrAll` from `UncompressInit` on, with the source behind the header. -/
def uncompressSource (flexibleWithGzipFooter : Bool) (object : ZLib Inflater Deflater)
    (destLen : Nat) (source : List UInt8) (flushMode : Flush) :
    Option (Uncompressed Inflater Deflater) :=
  let (err, object) := object.uncompressInit zlib destLen source.length
  if err ≠ .ok then some ⟨err, [], destLen, source.length, object⟩
  else
    let oldTotalIn := object.uncompStream.totalIn
    let oldTotalOut := object.uncompStream.totalOut
    if object.firstChunk then
      let (err, object) := object.presetDictionary zlib
      if err ≠ .ok then some ⟨err, [], destLen, source.length, object⟩
      else
        let object := { object with firstChunk := false }
        if source.length = 0 then some ⟨.ok, [], 0, 0, object⟩
        else
          object.inflateSource zlib flexibleWithGzipFooter oldTotalIn oldTotalOut destLen source
            flushMode
    else
      object.inflateSource zlib flexibleWithGzipFooter oldTotalIn oldTotalOut destLen source
        flushMode

theorem readMore_of_lt {parser : GZipHeader} {source : List UInt8}
    (fits : source.length < 2 ^ 31) :
    parser.readMore source (toInt source.length) = some (parser.readLoop source) := by
  rw [toInt_of_lt fits, GZipHeader.readMore, if_neg (by omega), Int.toNat_natCast,
    List.take_length]

/-- The part of `UncompressAtMostOrAll` that reads the header. -/
def readHeader (flexibleWithGzipFooter : Bool) (object : ZLib Inflater Deflater) (destLen : Nat)
    (source : List UInt8) (flushMode : Flush) : Option (Uncompressed Inflater Deflater) :=
  match object.gzipHeader.readMore source (toInt source.length) with
  | none => none
  | some (header, status) =>
    let object := { object with gzipHeader := header }
    match status with
    | .incompleteHeader => some ⟨.ok, [], 0, 0, object⟩
    | .invalidHeader => some ⟨.dataError, [], destLen, source.length, object.reset⟩
    | .completeHeader beyond =>
      { object with crc := zlib.crc32 0 [] }.uncompressSource zlib flexibleWithGzipFooter destLen
        (source.drop ((toInt source.length).toNat - beyond.length)) flushMode

/-- The part of `UncompressAtMostOrAll` that only reads the footer. -/
def readFooter (flexibleWithGzipFooter : Bool) (object : ZLib Inflater Deflater) (destLen : Nat)
    (source : List UInt8) : Option (Uncompressed Inflater Deflater) :=
  let footerBytes := object.gzipFooterBytes.toNat
  if 8 < (footerBytes + source.length) % 2 ^ 64 ∧ flexibleWithGzipFooter = false then
    some ⟨.dataError, [], destLen, source.length, object.reset⟩
  else
    let len := min (8 - footerBytes) source.length
    some ⟨.ok, [], 0, source.length - len,
      { object with
        gzipFooter := overwrite object.gzipFooter footerBytes (source.take len)
        gzipFooterBytes := object.gzipFooterBytes + len }⟩

/-- `UncompressAtMostOrAll`. -/
def uncompressAtMostOrAll (flexibleWithGzipFooter : Bool) (object : ZLib Inflater Deflater)
    (destLen : Nat) (source : List UInt8) (flushMode : Flush) :
    Option (Uncompressed Inflater Deflater) :=
  if object.firstChunk then
    let object := { object with gzipFooterBytes := -1 }
    if object.settings.gzipHeaderMode then
      object.readHeader zlib flexibleWithGzipFooter destLen source flushMode
    else object.uncompressSource zlib flexibleWithGzipFooter destLen source flushMode
  else if 0 ≤ object.gzipFooterBytes then
    object.readFooter flexibleWithGzipFooter destLen source
  else object.uncompressSource zlib flexibleWithGzipFooter destLen source flushMode

/-- `UncompressChunkOrAll`. -/
def uncompressChunkOrAll (flexibleWithGzipFooter : Bool) (object : ZLib Inflater Deflater)
    (destLen : Nat) (source : List UInt8) (flushMode : Flush) :
    Option (Uncompressed Inflater Deflater) :=
  (object.uncompressAtMostOrAll zlib flexibleWithGzipFooter destLen source flushMode).map
    fun result =>
      if result.code = .bufError then { result with object := result.object.uncompressErrorInit }
      else result

/-- `UncompressChunk`. -/
def uncompressChunk (flexibleWithGzipFooter : Bool) (object : ZLib Inflater Deflater)
    (destLen : Nat) (source : List UInt8) : Option (Uncompressed Inflater Deflater) :=
  object.uncompressChunkOrAll zlib flexibleWithGzipFooter destLen source .syncFlush

/-! ### The end -/

/-- `IsGzipFooterComplete`. -/
def isGzipFooterComplete (object : ZLib Inflater Deflater) : Bool :=
  object.gzipFooterBytes ≠ -1 ∧ 8 ≤ object.gzipFooterBytes

/-- Four bytes of the footer as a number. -/
def footerWord (object : ZLib Inflater Deflater) (index : Nat) : Nat :=
  (object.gzipFooter.getD (index + 3) 0).toNat <<< 24 +
    (object.gzipFooter.getD (index + 2) 0).toNat <<< 16 +
    (object.gzipFooter.getD (index + 1) 0).toNat <<< 8 +
    (object.gzipFooter.getD index 0).toNat

/-- `IsGzipFooterValid`. -/
def isGzipFooterValid (object : ZLib Inflater Deflater) : Bool :=
  object.isGzipFooterComplete ∧ object.footerWord 4 = object.uncompressedSize &&& 0xffffffff ∧
    object.crc.toNat = object.footerWord 0

/-- `UncompressChunkDone`. -/
def uncompressChunkDone (flexibleWithGzipFooter : Bool) (object : ZLib Inflater Deflater) :
    Option (Bool × ZLib Inflater Deflater) :=
  if object.firstChunk ∨ object.uncompInit = false then some (false, object)
  else
    (object.uncompressChunkOrAll zlib flexibleWithGzipFooter 0 [] .finish).map fun result =>
      if result.code ≠ .ok then (false, result.object)
      else
        let object := result.object.reset
        if flexibleWithGzipFooter then (true, object)
        else if object.gzipFooterBytes ≠ -1 ∧ object.gzipFooterBytes ≠ 0 ∧
            object.gzipFooterBytes ≠ 8 then
          (false, object)
        else if object.settings.gzipHeaderMode then (object.isGzipFooterValid, object)
        else (true, object)

end ZLib

end Fleetbench.Compression
