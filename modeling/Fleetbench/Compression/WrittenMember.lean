/-
This file proves what compression in gzip mode puts out. A sequence of chunks
writes the header, then what `deflate` makes of the chunks, and then a footer
with the checksum and the length of all of them: a member that decodes to
their concatenation.

`*destLen` is computed as an `int`, so the results are about calls that write
fewer than 2^31 bytes.
-/

import Fleetbench.Compression.Acceptance
import Fleetbench.Compression.CompressAlike

namespace Fleetbench.Compression

open Library

/-! ### What deflate promises -/

/-- The functions encode to the raw deflate format. A stream has read some bytes and put out others
since its start; a call that goes on stops when the input or the room is used up, and one that ends
the stream has completed a word of the format that decodes to all that was read. -/
structure WholeZlib.Deflates {Inflater Deflater State : Type} (zlib : WholeZlib Inflater Deflater)
    (format : Decoder UInt8 UInt8 State) (writing : Deflater → List UInt8 → List UInt8 → Prop) :
    Prop where
  init : ∀ level windowBits memLevel fresh, windowBits < 0 →
    zlib.deflateInit2 level windowBits memLevel = .ok fresh → writing fresh [] []
  fits : FitsRoom zlib
  more : ∀ stream read written input room, writing stream read written →
    (zlib.deflate stream input room .syncFlush).code = .ok →
      ((zlib.deflate stream input room .syncFlush).output.length = room ∨
        (zlib.deflate stream input room .syncFlush).consumed = input.length) ∧
      writing (zlib.deflate stream input room .syncFlush).next
        (read ++ input.take (zlib.deflate stream input room .syncFlush).consumed)
        (written ++ (zlib.deflate stream input room .syncFlush).output)
  unended : ∀ stream input room, (zlib.deflate stream input room .syncFlush).code ≠ .streamEnd
  full : ∀ stream input room, (zlib.deflate stream input room .finish).code = .ok →
    (zlib.deflate stream input room .finish).output.length = room
  last : ∀ stream read written input room, writing stream read written →
    (zlib.deflate stream input room .finish).code = .streamEnd →
      (zlib.deflate stream input room .finish).consumed = input.length ∧
      format.Decodes (written ++ (zlib.deflate stream input room .finish).output) (read ++ input)

namespace ZLib

variable {Inflater Deflater State : Type} {zlib : WholeZlib Inflater Deflater}
  {format : Decoder UInt8 UInt8 State} {at_ : Inflater → State → Prop}
  {writing : Deflater → List UInt8 → List UInt8 → Prop} {opened : Deflater → Parameters → Prop}
  {object : ZLib Inflater Deflater}

/-! ### Numbers -/

theorem toInt_mod (length : Nat) : ∃ wraps : Int, toInt length = length + wraps * 2 ^ 32 := by
  unfold toInt
  split
  · exact ⟨-(length / 2 ^ 32 : Nat), by omega⟩
  · exact ⟨-(length / 2 ^ 32 : Nat) - 1, by omega⟩

/-- The size is right if it fits in an `int`, even when the total does not. -/
theorem compressedSize_eq {totalOut count header : Nat} (few : header + count < 2 ^ 31) :
    compressedSize ((totalOut + count) % 2 ^ 64) (toInt totalOut - header) = header + count := by
  obtain ⟨wraps, same⟩ := toInt_mod totalOut
  have low : (((((totalOut + count) % 2 ^ 64 : Nat) : Int) - (toInt totalOut - header)) %
      2 ^ 64).toNat % 2 ^ 32 = header + count := by
    rw [same]
    omega
  unfold compressedSize
  rw [toInt, low, if_pos few]
  omega

theorem footerBytes_eq (value : Nat) : footerBytes value = littleEndian 4 value := by
  have byte (shift power : Nat) (isPower : 2 ^ shift = power) :
      UInt8.ofNat ((value >>> shift) &&& 255) = UInt8.ofNat (value / power) := by
    rw [Nat.shiftRight_eq_div_pow, isPower]
    refine UInt8.toNat_inj.mp ?_
    rw [UInt8.toNat_ofNat', UInt8.toNat_ofNat']
    show (_ &&& (2 ^ 8 - 1)) % _ = _
    rw [Nat.and_two_pow_sub_one_eq_mod]
    omega
  show [UInt8.ofNat ((value >>> 0) &&& 255), UInt8.ofNat ((value >>> 8) &&& 255),
      UInt8.ofNat ((value >>> 16) &&& 255), UInt8.ofNat ((value >>> 24) &&& 255)] =
    [UInt8.ofNat value, UInt8.ofNat (value / 256), UInt8.ofNat (value / 256 / 256),
      UInt8.ofNat (value / 256 / 256 / 256)]
  rw [byte 0 1 rfl, byte 8 256 rfl, byte 16 (256 * 256) rfl, byte 24 (256 * 256 * 256) rfl,
    Nat.div_one, Nat.div_div_eq_div_mul, Nat.div_div_eq_div_mul]

theorem littleEndian_mod (value : Nat) :
    littleEndian 4 (value % 2 ^ 64) = littleEndian 4 (value % 2 ^ 32) := by
  refine fromLittleEndian_inj rfl ?_
  rw [fromLittleEndian_littleEndian, fromLittleEndian_littleEndian]
  omega

/-! ### One call of deflate -/

/-- The settings of an object that writes members: gzip headers around raw streams, no dictionary,
and a size of the window. -/
structure GzipWriting (settings : Settings) : Prop where
  gzip : settings.gzipHeaderMode = true
  noHeader : settings.noHeaderMode = true
  dictionary : settings.dictionary = none
  window : 0 < settings.windowBits

/-- The object has counted the bytes that were read. -/
structure Counted (zlib : WholeZlib Inflater Deflater) (object : ZLib Inflater Deflater)
    (read : List UInt8) : Prop where
  settings : GzipWriting object.settings
  size : object.uncompressedSize = read.length % 2 ^ 64
  crc : object.crc = zlib.crc32 0 read

/-- Inside a sequence, the stream has read some bytes and put out others. -/
structure Underway (zlib : WholeZlib Inflater Deflater)
    (writing : Deflater → List UInt8 → List UInt8 → Prop) (object : ZLib Inflater Deflater)
    (read written : List UInt8) : Prop extends Counted zlib object read where
  later : object.firstChunk = false
  stream : ∃ stream, object.compStream.state = some stream ∧ writing stream read written

/-- A call that went well has used up its input and left room. -/
theorem concludeDeflate_ok {earlier : Int} {destLen : Nat} {source written : List UInt8}
    {err : ZCode} (short : source.length < 2 ^ 64)
    (used : err = .ok → object.compStream.availOut = 0 ∨ object.compStream.availIn = 0)
    (succeeded : (object.concludeDeflate zlib earlier destLen source written err).code = .ok) :
    (err = .streamEnd ∨ err = .ok) ∧ object.compStream.availOut ≠ 0 ∧
      object.concludeDeflate zlib earlier destLen source written err =
        ⟨.ok, written, compressedSize object.compStream.totalOut earlier, 0, { object with
          uncompressedSize := (object.uncompressedSize + source.length) % 2 ^ 64
          crc :=
            if object.settings.gzipHeaderMode then zlib.crc32 object.crc source
            else object.crc }⟩ := by
  have whole : (err = .streamEnd ∨ err = .ok) ∧ object.compStream.availIn = 0 ∧
      object.compStream.availOut ≠ 0 := by
    unfold concludeDeflate at succeeded
    dsimp only at succeeded
    split at succeeded
    · assumption
    · rename_i partly
      split at succeeded
      · cases succeeded
      · rename_i noExcess
        split at succeeded
        · rename_i failed
          exact absurd succeeded failed.1
        · split at succeeded
          · cases succeeded
          · rename_i room
            by_cases ended : err = .streamEnd
            · exact absurd ⟨.inl ended, Nat.eq_zero_of_not_pos fun left => noExcess ⟨ended, left⟩,
                room⟩ partly
            · rw [if_neg ended] at succeeded
              exact absurd ⟨.inr succeeded, (used succeeded).resolve_left room, room⟩ partly
  have consumed : (source.length + 2 ^ 64 - object.compStream.availIn) % 2 ^ 64 =
      source.length := by
    rw [whole.2.1]
    omega
  have reported : (if err = .streamEnd then ZCode.ok else err) = .ok := by
    rcases whole.1 with rfl | rfl
    · rfl
    · rfl
  refine ⟨whole.1, whole.2.2, ?_⟩
  unfold concludeDeflate
  dsimp only
  rw [if_pos whole, consumed, reported, List.take_length, whole.2.1]

/-- The object is ready for `deflate`, with buffers of these lengths. -/
structure Poised (zlib : WholeZlib Inflater Deflater)
    (writing : Deflater → List UInt8 → List UInt8 → Prop) (object : ZLib Inflater Deflater)
    (sourceLen room : Nat) (read written : List UInt8) : Prop
    extends Underway zlib writing object read written where
  availIn : object.compStream.availIn = sourceLen
  availOut : object.compStream.availOut = room
  short : sourceLen < 2 ^ 32

section Deflate

variable (inflates : Inflates zlib.toZlib format at_) (deflates : zlib.Deflates format writing)
  {read written source header : List UInt8} {room destLen : Nat}
  (poised : Poised zlib writing object source.length room read written)

include inflates deflates poised

/-- What the part from the call of `deflate` on leaves behind if it goes well. -/
theorem deflateSource_ok {flushMode : Flush} {result : Compressed Inflater Deflater}
    (called : object.deflateSource zlib (toInt object.compStream.totalOut - header.length) destLen
      source header flushMode = result)
    (succeeded : result.code = .ok) (few : result.written.length < 2 ^ 31) :
    ∃ stream, object.compStream.state = some stream ∧ writing stream read written ∧
      ((zlib.deflate stream source room flushMode).code = .streamEnd ∨
        (zlib.deflate stream source room flushMode).code = .ok) ∧
      (zlib.deflate stream source room flushMode).output.length ≠ room ∧
      result.written = header ++ (zlib.deflate stream source room flushMode).output ∧
      result.destLen = result.written.length ∧
      result.object.compStream.state = some (zlib.deflate stream source room flushMode).next ∧
      result.object.firstChunk = false ∧ Counted zlib result.object (read ++ source) := by
  obtain ⟨stream, found, writes⟩ := poised.stream
  have short : source.length < 2 ^ 64 := Nat.lt_trans poised.short (by decide)
  have fits := deflates.fits stream source room flushMode
  refine ⟨stream, found, writes, ?_⟩
  unfold deflateSource ZStream.deflate at called
  rw [found] at called
  dsimp only at called
  rw [poised.availIn, poised.availOut, List.take_length] at called
  generalize called' : zlib.deflate stream source room flushMode = deflated at called fits ⊢
  subst called
  have used (ok : deflated.code = .ok) :
      room - deflated.output.length = 0 ∨ source.length - deflated.consumed = 0 := by
    rw [← called'] at ok ⊢
    cases flushMode with
    | syncFlush =>
      rcases (deflates.more stream read written source room writes ok).1 with full | consumed
      · rw [full]
        exact .inl (Nat.sub_self room)
      · rw [consumed]
        exact .inr (Nat.sub_self source.length)
    | finish =>
      rw [deflates.full stream source room ok]
      exact .inl (Nat.sub_self room)
  obtain ⟨code, left, whole⟩ := concludeDeflate_ok short used succeeded
  have left' : room - deflated.output.length ≠ 0 := left
  rw [whole] at few ⊢
  have few' : header.length + deflated.output.length < 2 ^ 31 := by
    rwa [← List.length_append]
  refine ⟨code, fun full => left' (by rw [full, Nat.sub_self]), rfl, ?_, rfl, poised.later, ?_⟩
  · exact (compressedSize_eq few').trans List.length_append.symm
  · refine ⟨poised.settings, ?_, ?_⟩
    · show (object.uncompressedSize + source.length) % 2 ^ 64 = _
      rw [poised.size, List.length_append, Nat.mod_add_mod]
    · show (if object.settings.gzipHeaderMode then zlib.crc32 object.crc source
        else object.crc) = _
      rw [if_pos poised.settings.gzip, poised.crc, crc32_append inflates]

end Deflate

/-! ### One chunk -/

/-- The object is before the first chunk of a member. -/
structure Starts (opened : Deflater → Parameters → Prop) (object : ZLib Inflater Deflater) :
    Prop where
  settings : GzipWriting object.settings
  first : object.firstChunk = true
  compOpen : object.CompOpen opened

/-- The object has read some bytes of the data and put out some of the member, of which the header
comes first. -/
def Writes (zlib : WholeZlib Inflater Deflater) (opened : Deflater → Parameters → Prop)
    (writing : Deflater → List UInt8 → List UInt8 → Prop) (object : ZLib Inflater Deflater)
    (read member : List UInt8) : Prop :=
  (object.Starts opened ∧ read = [] ∧ member = []) ∨
    ∃ written, member = gzipHeaderBytes ++ written ∧ Underway zlib writing object read written

/-- The stream is raw. -/
theorem signedWindowBits_neg {settings : Settings} (gzip : GzipWriting settings) :
    signedWindowBits settings < 0 := by
  unfold signedWindowBits
  rw [gzip.noHeader, if_pos rfl]
  have window := gzip.window
  omega

/-- The object with the header written and nothing compressed. -/
def headed (zlib : WholeZlib Inflater Deflater) (object : ZLib Inflater Deflater) :
    ZLib Inflater Deflater :=
  { object with
    compStream.availOut := object.compStream.availOut - gzipHeaderBytes.length
    crc := zlib.crc32 0 []
    uncompressedSize := 0
    firstChunk := false }

/-- `CompressAtMostOrAll` from the header on. -/
theorem compressAtMostOrAll_headed {prepared : ZLib Inflater Deflater} {destLen : Nat}
    {source : List UInt8} {flushMode : Flush} (settings : GzipWriting prepared.settings)
    (first : prepared.firstChunk = true)
    (ready : object.compressInit zlib destLen source.length = (.ok, prepared))
    (succeeded : (object.compressAtMostOrAll zlib destLen source flushMode).code = .ok) :
    object.compressAtMostOrAll zlib destLen source flushMode =
      (prepared.headed zlib).deflateSource zlib
        (toInt (prepared.headed zlib).compStream.totalOut - (gzipHeaderBytes.length : Nat)) destLen
        source gzipHeaderBytes flushMode := by
  unfold compressAtMostOrAll at succeeded ⊢
  rw [ready] at succeeded ⊢
  dsimp only at succeeded ⊢
  rw [if_neg (not_not_intro rfl), if_pos first] at succeeded ⊢
  unfold startGzip writeGzipHeader at succeeded ⊢
  rw [if_pos settings.gzip] at succeeded ⊢
  by_cases narrow : prepared.compStream.availOut < gzipHeaderBytes.length + 1
  · rw [if_pos narrow] at succeeded
    cases succeeded
  · rw [if_neg narrow]
    dsimp only [Option.map_some]
    rw [startDictionary_none zlib, if_neg (not_not_intro rfl)]
    · rfl
    · exact settings.dictionary

section Chunk

variable (reuses : zlib.Reuses opened) (deflates : zlib.Deflates format writing)
  (inflates : Inflates zlib.toZlib format at_) {read member source : List UInt8} {destLen : Nat}

include reuses deflates

/-- The first call prepares the stream and writes the header. -/
theorem compressAtMostOrAll_first (starts : object.Starts opened) {flushMode : Flush}
    (succeeded : (object.compressAtMostOrAll zlib destLen source flushMode).code = .ok) :
    ∃ (poised : ZLib Inflater Deflater) (room : Nat),
      Poised zlib writing poised source.length room [] [] ∧
      object.compressAtMostOrAll zlib destLen source flushMode =
        poised.deflateSource zlib
          (toInt poised.compStream.totalOut - (gzipHeaderBytes.length : Nat)) destLen source
          gzipHeaderBytes flushMode := by
  have compOpen' : (object.withCompBuffers source.length destLen).CompOpen opened :=
    starts.compOpen
  have prepared := prepareComp_prepared reuses compOpen'
  have ready := compressInit_eq zlib object destLen source.length
  rw [if_pos starts.first] at ready
  have refused {code : ZCode} {refusing : ZLib Inflater Deflater} (failed : code ≠ .ok)
      (same : object.compressInit zlib destLen source.length = (code, refusing)) : False := by
    unfold compressAtMostOrAll at succeeded
    rw [same] at succeeded
    dsimp only at succeeded
    rw [if_pos failed] at succeeded
    exact failed succeeded
  by_cases fits : source.length % 2 ^ 32 ≠ source.length
  · rw [if_pos fits] at ready
    exact (refused (by nofun) ready).elim
  · rw [if_neg fits] at ready
    by_cases fits' : destLen % 2 ^ 32 ≠ destLen
    · rw [if_pos fits'] at ready
      exact (refused (by nofun) ready).elim
    · rw [if_neg fits'] at ready
      unfold PreparedComp at prepared
      cases started : zlib.opening (parameters (object.withCompBuffers source.length
          destLen).settings) with
      | error code =>
        rw [started] at prepared
        obtain ⟨failed, stream, -, same⟩ := prepared
        exact (refused failed (ready.trans same)).elim
      | ok fresh =>
        rw [started] at prepared
        have narrowed : source.length % 2 ^ 32 = source.length := Decidable.not_not.mp fits
        refine ⟨_, destLen % 2 ^ 32 - gzipHeaderBytes.length, ?_,
          compressAtMostOrAll_headed ?_ ?_ (ready.trans prepared) succeeded⟩
        · exact ⟨⟨⟨starts.settings, rfl, rfl⟩, rfl, fresh, rfl,
            deflates.init _ _ _ fresh (signedWindowBits_neg starts.settings) started⟩, narrowed,
            rfl, by omega⟩
        · exact starts.settings
        · exact starts.first

omit reuses deflates in
/-- A later call hands the source to `deflate`. -/
theorem compressAtMostOrAll_later {written : List UInt8}
    (underway : Underway zlib writing object read written) {flushMode : Flush}
    (succeeded : (object.compressAtMostOrAll zlib destLen source flushMode).code = .ok) :
    Poised zlib writing (object.withCompBuffers source.length destLen) source.length
        (destLen % 2 ^ 32) read written ∧
      object.compressAtMostOrAll zlib destLen source flushMode =
        (object.withCompBuffers source.length destLen).deflateSource zlib
          (toInt object.compStream.totalOut - (([] : List UInt8).length : Nat)) destLen source []
          flushMode := by
  have ready := compressInit_eq zlib object destLen source.length
  unfold compressAtMostOrAll at succeeded ⊢
  rw [underway.later, if_neg Bool.false_ne_true] at ready
  by_cases fits : source.length % 2 ^ 32 ≠ source.length
  · rw [if_pos fits] at ready
    rw [ready] at succeeded
    cases succeeded
  · rw [if_neg fits] at ready
    by_cases fits' : destLen % 2 ^ 32 ≠ destLen
    · rw [if_pos fits'] at ready
      rw [ready] at succeeded
      cases succeeded
    · rw [if_neg fits'] at ready
      have narrowed : source.length % 2 ^ 32 = source.length := Decidable.not_not.mp fits
      have later : (object.withCompBuffers source.length destLen).firstChunk = false :=
        underway.later
      rw [ready]
      dsimp only
      rw [if_neg (not_not_intro rfl), later, if_neg Bool.false_ne_true]
      refine ⟨⟨⟨⟨underway.settings, underway.size, underway.crc⟩, underway.later,
        underway.stream⟩, narrowed, rfl, by omega⟩, ?_⟩
      rw [List.length_nil, Int.natCast_zero, Int.sub_zero]
      rfl

/-- Every call that goes well is a call of `deflate` behind the header. -/
theorem compressAtMostOrAll_poised (writes : Writes zlib opened writing object read member)
    {flushMode : Flush}
    (succeeded : (object.compressAtMostOrAll zlib destLen source flushMode).code = .ok) :
    ∃ (poised : ZLib Inflater Deflater) (room : Nat) (header written : List UInt8),
      Poised zlib writing poised source.length room read written ∧
      member ++ header = gzipHeaderBytes ++ written ∧
      object.compressAtMostOrAll zlib destLen source flushMode =
        poised.deflateSource zlib (toInt poised.compStream.totalOut - (header.length : Nat)) destLen
          source header flushMode := by
  rcases writes with ⟨starts, rfl, rfl⟩ | ⟨written, rfl, underway⟩
  · obtain ⟨poised, room, ready, same⟩ :=
      compressAtMostOrAll_first reuses deflates starts succeeded
    exact ⟨poised, room, gzipHeaderBytes, [], ready, rfl, same⟩
  · obtain ⟨ready, same⟩ := compressAtMostOrAll_later underway succeeded
    exact ⟨_, _, [], written, ready, List.append_nil _, same⟩

include inflates

omit reuses deflates inflates in
theorem compressChunkOrAll_ok {flushMode : Flush}
    (succeeded : (object.compressChunkOrAll zlib destLen source flushMode).code = .ok) :
    object.compressChunkOrAll zlib destLen source flushMode =
        object.compressAtMostOrAll zlib destLen source flushMode ∧
      (object.compressAtMostOrAll zlib destLen source flushMode).code = .ok := by
  unfold compressChunkOrAll at succeeded ⊢
  dsimp only at succeeded ⊢
  by_cases full : (object.compressAtMostOrAll zlib destLen source flushMode).code = .bufError
  · rw [if_pos full, full] at succeeded
    cases succeeded
  · rw [if_neg full] at succeeded ⊢
    exact ⟨rfl, succeeded⟩

/-- A chunk takes the object from one part of the member to the next. -/
theorem compressChunk_writes (writes : Writes zlib opened writing object read member)
    {result : Compressed Inflater Deflater}
    (called : object.compressChunk zlib destLen source = result) (succeeded : result.code = .ok)
    (few : result.written.length < 2 ^ 31) :
    result.destLen = result.written.length ∧
      Writes zlib opened writing result.object (read ++ source) (member ++ result.written) := by
  subst called
  unfold compressChunk at succeeded few ⊢
  obtain ⟨same, succeeded'⟩ := compressChunkOrAll_ok succeeded
  obtain ⟨poised, room, header, written, ready, front, called⟩ :=
    compressAtMostOrAll_poised reuses deflates writes succeeded'
  have called' := (same.trans called).symm
  obtain ⟨stream, -, writes', code, left, said, destLen', state, later, counted⟩ :=
    deflateSource_ok inflates deflates ready called' succeeded few
  have went := code.resolve_left (deflates.unended stream source room)
  obtain ⟨stops, goesOn⟩ := deflates.more stream read written source room writes' went
  rw [stops.resolve_left left, List.take_length] at goesOn
  refine ⟨destLen', .inr ⟨_, ?_, counted, later, _, state, goesOn⟩⟩
  rw [said, ← List.append_assoc, front, List.append_assoc]

/-- The end of the stream completes the data. -/
theorem compressChunkOrAll_ends (writes : Writes zlib opened writing object read member)
    {result : Compressed Inflater Deflater}
    (called : object.compressChunkOrAll zlib destLen source .finish = result)
    (succeeded : result.code = .ok) (few : result.written.length < 2 ^ 31) :
    result.destLen = result.written.length ∧ Counted zlib result.object (read ++ source) ∧
      ∃ data, member ++ result.written = gzipHeaderBytes ++ data ∧
        format.Decodes data (read ++ source) := by
  subst called
  obtain ⟨same, succeeded'⟩ := compressChunkOrAll_ok succeeded
  obtain ⟨poised, room, header, written, ready, front, called⟩ :=
    compressAtMostOrAll_poised reuses deflates writes succeeded'
  have called' := (same.trans called).symm
  obtain ⟨stream, -, writes', code, left, said, destLen', -, -, counted⟩ :=
    deflateSource_ok inflates deflates ready called' succeeded few
  have ended := code.resolve_right fun ok => left (deflates.full stream source room ok)
  refine ⟨destLen', counted, _, ?_, (deflates.last stream read written source room writes' ended).2⟩
  rw [said, ← List.append_assoc, front, List.append_assoc]

end Chunk

/-! ### The footer -/

theorem overwrite_length (buffer bytes : List UInt8) :
    overwrite buffer buffer.length bytes = buffer ++ bytes := by
  rw [overwrite, List.take_length, List.drop_eq_nil_of_le (Nat.le_add_right _ _), List.append_nil]

theorem writeGzipFooter_eq {read : List UInt8} (counted : Counted zlib object read) {destLen : Nat}
    {footer : List UInt8} (wrote : object.writeGzipFooter destLen = some footer) :
    footer = footerOf zlib.toZlib read := by
  unfold writeGzipFooter at wrote
  split at wrote
  · cases wrote
  · cases wrote
    rw [footerBytes_eq, footerBytes_eq, counted.crc, counted.size, littleEndian_mod]
    rfl

/-- The footer follows the data. -/
theorem finish_ok {result closed : Compressed Inflater Deflater} {read : List UInt8}
    {origDestLen : Nat} (counted : Counted zlib result.object read)
    (destLen : result.destLen = result.written.length)
    (finished : result.finish origDestLen = closed) (succeeded : closed.code = .ok)
    (few : closed.written.length < 2 ^ 31) :
    closed.destLen = closed.written.length ∧
      closed.written = result.written ++ footerOf zlib.toZlib read := by
  unfold Compressed.finish at finished
  rw [if_pos counted.settings.gzip] at finished
  split at finished
  · subst finished
    cases succeeded
  · rename_i footer wrote
    subst finished
    obtain rfl := writeGzipFooter_eq counted wrote
    dsimp only at few ⊢
    rw [destLen, overwrite_length, List.length_append, length_footerOf] at few ⊢
    exact ⟨Nat.mod_eq_of_lt (by omega), rfl⟩

/-! ### Whole members -/

/-- The calls that compress some bytes to a member: one for all of them, or one for each chunk. -/
inductive MemberCalls where
  | whole (destLen : Nat) (source : List UInt8)
  | chunked (calls : List Call) (destLen : Nat)

def MemberCalls.source : MemberCalls → List UInt8
  | whole _ source => source
  | chunked calls _ => bytesOf calls

/-- Calls of `CompressChunk`, one after the other: their results, and the object behind them. -/
def compressChunks (zlib : WholeZlib Inflater Deflater) :
    ZLib Inflater Deflater → List Call →
      List (Compressed Inflater Deflater) × ZLib Inflater Deflater
  | object, [] => ([], object)
  | object, call :: calls =>
    let result := object.compressChunk zlib call.destLen call.chunk
    let rest := compressChunks zlib result.object calls
    (result :: rest.1, rest.2)

/-- The results of all calls, the last of which ends the member. -/
def compressAll (zlib : WholeZlib Inflater Deflater) (assertions : Bool)
    (object : ZLib Inflater Deflater) :
    MemberCalls → Option (List (Compressed Inflater Deflater))
  | .whole destLen source => some [object.compress zlib destLen source]
  | .chunked calls destLen =>
    let chunks := object.compressChunks zlib calls
    (chunks.2.compressChunkDone zlib assertions destLen).map fun result => chunks.1 ++ [result]

/-- A call returns `Z_OK` and writes few enough bytes that an `int` can say how many. -/
structure Succeeds (result : Compressed Inflater Deflater) : Prop where
  code : result.code = .ok
  few : result.written.length < 2 ^ 31

/-- `*destLen` is the number of bytes that were written. -/
def Measured (result : Compressed Inflater Deflater) : Prop :=
  result.destLen = result.written.length

theorem output_of_measured {result : Compressed Inflater Deflater} (measured : Measured result) :
    result.output = result.written := by
  rw [Compressed.output, measured, List.take_length]

theorem length_written_le_finish {result closed : Compressed Inflater Deflater}
    {origDestLen : Nat} (finished : result.finish origDestLen = closed) :
    result.written.length ≤ closed.written.length := by
  subst finished
  unfold Compressed.finish
  split
  · split
    · exact Nat.le_refl _
    · rw [overwrite, List.length_append, List.length_append, List.length_take, List.length_drop]
      omega
  · exact Nat.le_refl _

section Whole

variable (reuses : zlib.Reuses opened) (deflates : zlib.Deflates format writing)
  (inflates : Inflates zlib.toZlib format at_) {read member source : List UInt8} {destLen : Nat}

include reuses deflates inflates

theorem compressChunks_writes {calls : List Call}
    (writes : Writes zlib opened writing object read member)
    (succeed : ∀ result ∈ (object.compressChunks zlib calls).1, Succeeds result) :
    (∀ result ∈ (object.compressChunks zlib calls).1, Measured result) ∧
      Writes zlib opened writing (object.compressChunks zlib calls).2 (read ++ bytesOf calls)
        (member ++ (object.compressChunks zlib calls).1.flatMap Compressed.output) := by
  induction calls generalizing object read member with
  | nil =>
    refine ⟨List.forall_mem_nil _, ?_⟩
    show Writes zlib opened writing object (read ++ []) (member ++ [])
    rwa [List.append_nil, List.append_nil]
  | cons call calls inductionHypothesis =>
    unfold compressChunks at succeed ⊢
    dsimp only at succeed ⊢
    generalize called : object.compressChunk zlib call.destLen call.chunk = result at succeed ⊢
    obtain ⟨first, others⟩ := List.forall_mem_cons.mp succeed
    obtain ⟨measured, behind⟩ :=
      compressChunk_writes reuses deflates inflates writes called first.code first.few
    obtain ⟨measured', last⟩ := inductionHypothesis behind others
    refine ⟨List.forall_mem_cons.mpr ⟨measured, measured'⟩, ?_⟩
    rw [bytesOf, List.flatMap_cons, List.flatMap_cons, ← List.append_assoc, ← List.append_assoc,
      output_of_measured measured]
    exact last

/-- The call that ends the data writes the rest of it and the footer. -/
theorem ended_member (writes : Writes zlib opened writing object read member)
    {result closed : Compressed Inflater Deflater}
    (called : object.compressChunkOrAll zlib destLen source .finish = result)
    (went : result.code = .ok)
    (finished : ({ result with object := result.object.reset } :
      Compressed Inflater Deflater).finish destLen = closed) (succeeds : Succeeds closed) :
    Measured closed ∧ ∃ data,
      member ++ closed.output = gzipHeaderBytes ++ data ++ footerOf zlib.toZlib (read ++ source) ∧
        format.Decodes data (read ++ source) := by
  have longer := length_written_le_finish finished
  have short : result.written.length < 2 ^ 31 := Nat.lt_of_le_of_lt longer succeeds.few
  obtain ⟨destLen', counted, data, front, decodes⟩ :=
    compressChunkOrAll_ends reuses deflates inflates writes called went short
  have closes := fun (closing : Counted zlib result.object.reset (read ++ source)) destLen =>
    finish_ok closing destLen finished succeeds.code succeeds.few
  obtain ⟨measured, written⟩ := closes ⟨counted.settings, counted.size, counted.crc⟩ destLen'
  refine ⟨measured, data, ?_, decodes⟩
  rw [output_of_measured measured, written, ← List.append_assoc]
  exact congrArg (· ++ _) front

/-- Calls that all go well write a member, of which every call returns its part. -/
theorem compressAll_member (starts : object.Starts opened) {assertions : Bool}
    {calls : MemberCalls} {results : List (Compressed Inflater Deflater)}
    (ran : object.compressAll zlib assertions calls = some results)
    (succeed : ∀ result ∈ results, Succeeds result) :
    (∀ result ∈ results, Measured result) ∧ ∃ data,
      results.flatMap Compressed.output =
          gzipHeaderBytes ++ data ++ footerOf zlib.toZlib calls.source ∧
        format.Decodes data calls.source := by
  have writes : Writes zlib opened writing object [] [] := .inl ⟨starts, rfl, rfl⟩
  cases calls with
  | whole destLen source =>
    cases ran
    have succeeds := succeed _ List.mem_cons_self
    have ended : Measured (object.compress zlib destLen source) ∧ ∃ data,
        [] ++ (object.compress zlib destLen source).output =
            gzipHeaderBytes ++ data ++ footerOf zlib.toZlib ([] ++ source) ∧
          format.Decodes data ([] ++ source) := by
      unfold compress at succeeds ⊢
      dsimp only at succeeds ⊢
      split at succeeds
      · rename_i failed
        exact absurd succeeds.code failed
      · rename_i went
        rw [if_neg went]
        exact ended_member reuses deflates inflates writes rfl (Decidable.not_not.mp went) rfl
          succeeds
    rw [List.flatMap_singleton]
    exact ⟨List.forall_mem_singleton.mpr ended.1, ended.2⟩
  | chunked calls destLen =>
    obtain ⟨closed, done, rfl⟩ := Option.map_eq_some_iff.mp ran
    obtain ⟨succeed', succeeds⟩ := List.forall_mem_append.mp succeed
    have succeeds' := List.forall_mem_singleton.mp succeeds
    obtain ⟨measured, between⟩ := compressChunks_writes reuses deflates inflates writes succeed'
    rw [List.nil_append, List.nil_append] at between
    unfold compressChunkDone at done
    split at done
    · cases done
      cases succeeds'.code
    · split at done
      · cases done
      · dsimp only at done
        split at done
        · rename_i failed
          cases done
          exact absurd succeeds'.code failed
        · rename_i went
          obtain ⟨measured', data, written, decodes⟩ := ended_member reuses deflates inflates
            between rfl (Decidable.not_not.mp went) (Option.some.inj done) succeeds'
          rw [List.append_nil] at written decodes
          refine ⟨List.forall_mem_append.mpr ⟨measured, List.forall_mem_singleton.mpr measured'⟩,
            data, ?_, decodes⟩
          rw [List.flatMap_append, List.flatMap_singleton]
          exact written

end Whole

end ZLib

end Fleetbench.Compression
