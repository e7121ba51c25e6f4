/-
This file is about the length that compression reports in `*destLen`. It is
computed as an `int`, with the length of the header taken off in advance, and
then used to place the footer. So it is right for a call that writes fewer than
2^31 bytes; for any other the report is a number above the size of the buffer,
and the footer is written outside of it.
-/

import Fleetbench.Compression.RoundTrip

namespace Fleetbench.Compression

open Library

namespace ZLib

variable {Inflater Deflater : Type} {zlib : WholeZlib Inflater Deflater}
  {object : ZLib Inflater Deflater}

/-! ### The call of deflate -/

/-- The header that `CompressAtMostOrAll` writes and the object on which it calls `deflate`, if it
gets there. -/
def deflateCall (zlib : WholeZlib Inflater Deflater) (object : ZLib Inflater Deflater)
    (destLen sourceLen : Nat) : Option (List UInt8 × ZLib Inflater Deflater) :=
  let (err, object) := object.compressInit zlib destLen sourceLen
  if err ≠ .ok then none
  else if object.firstChunk then
    (object.startGzip zlib).bind fun (header, object) =>
      let (err, object) := object.startDictionary zlib
      if err ≠ .ok then none
      else some (header, { object with uncompressedSize := 0, firstChunk := false })
  else some ([], object)

theorem startDictionary_totalOut (zlib : WholeZlib Inflater Deflater)
    (object : ZLib Inflater Deflater) :
    (object.startDictionary zlib).2.compStream.totalOut = object.compStream.totalOut ∧
      (object.startDictionary zlib).2.compStream.availOut = object.compStream.availOut := by
  unfold startDictionary ZStream.deflateSetDictionary
  split
  · dsimp only
    split <;> split <;> exact ⟨rfl, rfl⟩
  · exact ⟨rfl, rfl⟩

/-- The header takes room from `deflate`, and leaves the total alone. -/
theorem startGzip_eq {next : ZLib Inflater Deflater} {header : List UInt8}
    (started : object.startGzip zlib = some (header, next)) :
    next.compStream.totalOut = object.compStream.totalOut ∧
      next.compStream.availOut + header.length = object.compStream.availOut := by
  unfold startGzip writeGzipHeader at started
  split at started
  · split at started
    · cases started
    · rename_i room
      cases started
      refine ⟨rfl, ?_⟩
      show object.compStream.availOut - gzipHeaderBytes.length + gzipHeaderBytes.length = _
      omega
  · cases started
    exact ⟨rfl, rfl⟩

/-- Preparing the stream leaves its buffers alone. -/
theorem prepareComp_availOut (zlib : WholeZlib Inflater Deflater)
    (object : ZLib Inflater Deflater) :
    (object.prepareComp zlib).2.compStream.availOut = object.compStream.availOut := by
  have dropped : object.dropComp.compStream.availOut = object.compStream.availOut := by
    unfold dropComp
    split <;> rfl
  have reused (object : ZLib Inflater Deflater) :
      (object.reuseComp zlib.toZlib).compStream.availOut = object.compStream.availOut := by
    unfold reuseComp ZStream.deflateReset
    dsimp only
    cases object.compStream.state with
    | none =>
      split
      · rfl
      · rfl
    | some state =>
      split
      · dsimp only
        split <;> rfl
      · rfl
  have adjusted (object : ZLib Inflater Deflater) :
      (object.adjustLevel zlib).compStream.availOut = object.compStream.availOut := by
    unfold adjustLevel ZStream.deflateParams
    dsimp only
    cases object.compStream.state with
    | none =>
      split
      · rfl
      · rfl
    | some state =>
      split
      · dsimp only
        split <;> rfl
      · rfl
  have opened (object : ZLib Inflater Deflater) :
      (object.deflateInit zlib).2.compStream.availOut = object.compStream.availOut := by
    unfold deflateInit ZStream.deflateInit2
    dsimp only
    split
    · split <;> rfl
    · split <;> rfl
  unfold prepareComp
  dsimp only
  split
  · exact (adjusted _).trans ((reused _).trans dropped)
  · split
    · exact (opened _).trans ((adjusted _).trans ((reused _).trans dropped))
    · exact (opened _).trans ((adjusted _).trans ((reused _).trans dropped))

/-- A stream that is ready has the buffer of the call. -/
theorem compressInit_availOut {destLen sourceLen : Nat} {ready : ZLib Inflater Deflater}
    (made : object.compressInit zlib destLen sourceLen = (.ok, ready)) :
    ready.compStream.availOut = destLen ∧ destLen < 2 ^ 32 := by
  rw [compressInit_eq] at made
  split at made
  · cases made
  · split at made
    · cases made
    · rename_i _ destFits
      have narrowed : destLen % 2 ^ 32 = destLen := Decidable.not_not.mp destFits
      refine ⟨?_, by omega⟩
      split at made
      · have kept := prepareComp_availOut zlib (object.withCompBuffers sourceLen destLen)
        rw [made] at kept
        exact kept.trans narrowed
      · cases made
        exact narrowed

/-- Up to the call of `deflate` the total does not change, and the header and the room that is left
fill the buffer. -/
theorem deflateCall_eq {destLen sourceLen : Nat} {header : List UInt8}
    {prepared : ZLib Inflater Deflater}
    (called : object.deflateCall zlib destLen sourceLen = some (header, prepared)) :
    (prepared.compStream.availOut + header.length = destLen ∧ destLen < 2 ^ 32) ∧
      ∀ source flushMode, source.length = sourceLen →
        object.compressAtMostOrAll zlib destLen source flushMode =
          prepared.deflateSource zlib
            (toInt prepared.compStream.totalOut - (header.length : Nat)) destLen source header
            flushMode := by
  unfold deflateCall at called
  unfold compressAtMostOrAll
  rcases made : object.compressInit zlib destLen sourceLen with ⟨err, ready⟩
  rw [made] at called
  dsimp only at called
  by_cases failed : err ≠ .ok
  · rw [if_pos failed] at called
    cases called
  · obtain rfl : err = .ok := Decidable.not_not.mp failed
    have room := compressInit_availOut made
    rw [if_neg failed] at called
    by_cases first : ready.firstChunk = true
    · rw [if_pos first] at called
      cases started : ready.startGzip zlib with
      | none =>
        rw [started] at called
        cases called
      | some headed =>
        obtain ⟨written, next⟩ := headed
        obtain ⟨sameTotal, fills⟩ := startGzip_eq started
        have dictionary := startDictionary_totalOut zlib next
        rw [started, Option.bind_some] at called
        dsimp only at called
        split at called
        · cases called
        · rename_i preset
          cases called
          refine ⟨?_, fun source flushMode length => ?_⟩
          · refine ⟨?_, room.2⟩
            show (next.startDictionary zlib).2.compStream.availOut + header.length = _
            rw [dictionary.2, fills, room.1]
          · rw [length, made]
            dsimp only
            rw [if_neg failed, if_pos first, started]
            dsimp only
            rw [if_neg preset, dictionary.1, sameTotal]
    · rw [if_neg first] at called
      cases called
      refine ⟨room, fun source flushMode length => ?_⟩
      rw [length, made]
      dsimp only
      rw [if_neg failed, if_neg first, List.length_nil, Int.natCast_zero, Int.sub_zero]

/-- A call that goes well gets as far as `deflate`. -/
theorem deflateCall_of_ok {destLen : Nat} {source : List UInt8} {flushMode : Flush}
    (succeeded : (object.compressAtMostOrAll zlib destLen source flushMode).code = .ok) :
    ∃ header prepared,
      object.deflateCall zlib destLen source.length = some (header, prepared) := by
  unfold compressAtMostOrAll at succeeded
  unfold deflateCall
  rcases made : object.compressInit zlib destLen source.length with ⟨err, ready⟩
  rw [made] at succeeded
  dsimp only at succeeded ⊢
  split at succeeded
  · rename_i failed
    exact absurd succeeded failed
  · rename_i went
    rw [if_neg went]
    split at succeeded
    · rename_i first
      rw [if_pos first]
      cases started : ready.startGzip zlib with
      | none =>
        rw [started] at succeeded
        cases succeeded
      | some headed =>
        obtain ⟨header, next⟩ := headed
        rw [started] at succeeded
        dsimp only at succeeded
        rw [Option.bind_some]
        dsimp only
        split at succeeded
        · rename_i failed
          exact absurd succeeded failed
        · rename_i preset
          exact ⟨_, _, if_neg preset⟩
    · rename_i later
      exact ⟨_, _, if_neg later⟩

/-! ### What is reported -/

/-- The bytes that a call writes do not fit in an `int`: the report is wrong by
`2 ^ 64 - 2 ^ 32`. -/
theorem compressedSize_wraps {totalOut count header : Nat} (many : 2 ^ 31 ≤ header + count)
    (fits : header + count < 2 ^ 32) :
    compressedSize ((totalOut + count) % 2 ^ 64) (toInt totalOut - header) =
      header + count + (2 ^ 64 - 2 ^ 32) := by
  obtain ⟨wraps, same⟩ := toInt_mod totalOut
  have low : (((((totalOut + count) % 2 ^ 64 : Nat) : Int) - (toInt totalOut - header)) %
      2 ^ 64).toNat % 2 ^ 32 = header + count := by
    rw [same]
    omega
  unfold compressedSize
  rw [toInt, low, if_neg (by omega)]
  omega

theorem compressedSize_eq_iff {totalOut count header : Nat} (fits : header + count < 2 ^ 32) :
    compressedSize ((totalOut + count) % 2 ^ 64) (toInt totalOut - header) = header + count ↔
      header + count < 2 ^ 31 := by
  constructor
  · intro right
    by_contra many
    rw [compressedSize_wraps (Nat.le_of_not_lt many) fits] at right
    omega
  · exact compressedSize_eq

/-- What is reported behind a call of `deflate`. -/
theorem concludeDeflate_destLen {earlier : Int} {destLen : Nat} {source written : List UInt8}
    {err : ZCode} {result : Compressed Inflater Deflater}
    (concluded : object.concludeDeflate zlib earlier destLen source written err = result)
    (returned : result.code = .ok ∨ result.code = .bufError) :
    (err = .streamEnd ∨ err = .ok ∨ err = .bufError) ∧ result.written = written ∧
      (result.destLen = compressedSize object.compStream.totalOut earlier ∧
          ¬ (err = .streamEnd ∧ 0 < object.compStream.availIn) ∨
        (result.code = .bufError ∧ result.destLen = destLen) ∧
          err = .streamEnd ∧ 0 < object.compStream.availIn) := by
  unfold concludeDeflate at concluded
  dsimp only at concluded
  split at concluded
  · rename_i whole
    subst concluded
    refine ⟨whole.1.imp_right .inl, rfl, .inl ⟨rfl, fun excess => ?_⟩⟩
    rw [whole.2.1] at excess
    exact Nat.lt_irrefl 0 excess.2
  · split at concluded
    · rename_i excess
      subst concluded
      exact ⟨.inl excess.1, rfl, .inr ⟨⟨rfl, rfl⟩, excess⟩⟩
    · rename_i noExcess
      split at concluded
      · rename_i failed
        subst concluded
        rcases returned with ok | full
        · exact absurd ok failed.1
        · exact absurd full failed.2.2
      · rename_i settled
        have known : err = .streamEnd ∨ err = .ok ∨ err = .bufError := by
          by_contra other
          push Not at other
          exact settled ⟨other.2.1, other.1, other.2.2⟩
        split at concluded
        · subst concluded
          exact ⟨known, rfl, .inl ⟨rfl, noExcess⟩⟩
        · subst concluded
          exact ⟨known, rfl, .inl ⟨rfl, noExcess⟩⟩

section Outcome

variable (zlib) (object) (destLen : Nat) (source : List UInt8) (flushMode : Flush)

/-- The bytes that the header and `deflate` write in a call can be counted in an `int`. -/
def FitsInt : Prop :=
  ∀ header prepared, object.deflateCall zlib destLen source.length = some (header, prepared) →
    header.length + (prepared.compStream.deflate zlib source flushMode).2.1.length < 2 ^ 31

/-- `deflate` uses up the room of a call. -/
def RunsOut : Prop :=
  ∃ header prepared, object.deflateCall zlib destLen source.length = some (header, prepared) ∧
    (prepared.compStream.deflate zlib source flushMode).2.2.availOut = 0

/-- `deflate` ends the stream before the end of the source, which should never happen. -/
def EndsEarly : Prop :=
  ∃ header prepared, object.deflateCall zlib destLen source.length = some (header, prepared) ∧
    (prepared.compStream.deflate zlib source flushMode).1 = .streamEnd ∧
    0 < (prepared.compStream.deflate zlib source flushMode).2.2.availIn

end Outcome

/-- What a stream counts in a call of `deflate`, if it has been initialized. -/
theorem deflate_counts (fits : FitsRoom zlib) {stream next : ZStream Deflater}
    {source output : List UInt8} {flushMode : Flush} {err : ZCode}
    (called : stream.deflate zlib source flushMode = (err, output, next))
    (returned : err = .streamEnd ∨ err = .ok ∨ err = .bufError) :
    output.length ≤ stream.availOut ∧
      next.availOut = stream.availOut - output.length ∧
      next.totalOut = (stream.totalOut + output.length) % 2 ^ 64 := by
  unfold ZStream.deflate at called
  split at called
  · cases called
    rcases returned with ended | ok | full
    · cases ended
    · cases ok
    · cases full
  · cases called
    exact ⟨fits _ _ _ _, rfl, rfl⟩

/-- What is reported behind a call that gets as far as `deflate`. -/
theorem compressAtMostOrAll_destLen (fits : FitsRoom zlib) {destLen : Nat}
    {source header output : List UInt8} {flushMode : Flush} {prepared : ZLib Inflater Deflater}
    {err : ZCode} {next : ZStream Deflater}
    (called : object.deflateCall zlib destLen source.length = some (header, prepared))
    (deflated : prepared.compStream.deflate zlib source flushMode = (err, output, next))
    {result : Compressed Inflater Deflater}
    (made : object.compressAtMostOrAll zlib destLen source flushMode = result)
    (returned : result.code = .ok ∨ result.code = .bufError) :
    result.written = header ++ output ∧ next.availOut + (header.length + output.length) = destLen ∧
      destLen < 2 ^ 32 ∧
      (result.destLen = compressedSize ((prepared.compStream.totalOut + output.length) % 2 ^ 64)
            (toInt prepared.compStream.totalOut - (header.length : Nat)) ∧
          ¬ (err = .streamEnd ∧ 0 < next.availIn) ∨
        (result.code = .bufError ∧ result.destLen = destLen) ∧ err = .streamEnd ∧
          0 < next.availIn) := by
  obtain ⟨⟨room, destFits⟩, same⟩ := deflateCall_eq called
  rw [same source flushMode rfl] at made
  unfold deflateSource at made
  rw [deflated] at made
  obtain ⟨known, written, reported⟩ := concludeDeflate_destLen made returned
  obtain ⟨few, left, total⟩ := deflate_counts fits deflated known
  refine ⟨written, by omega, destFits, ?_⟩
  rwa [← total]

section Called

variable {destLen : Nat} {source header : List UInt8} {flushMode : Flush}
  {prepared : ZLib Inflater Deflater}
  (called : object.deflateCall zlib destLen source.length = some (header, prepared))

include called

theorem fitsInt_iff : FitsInt zlib object destLen source flushMode ↔
    header.length + (prepared.compStream.deflate zlib source flushMode).2.1.length < 2 ^ 31 := by
  constructor
  · exact fun fitsInt => fitsInt header prepared called
  · intro few header' prepared' called'
    cases called.symm.trans called'
    exact few

theorem endsEarly_iff : EndsEarly zlib object destLen source flushMode ↔
    (prepared.compStream.deflate zlib source flushMode).1 = .streamEnd ∧
      0 < (prepared.compStream.deflate zlib source flushMode).2.2.availIn := by
  constructor
  · rintro ⟨header', prepared', called', ends⟩
    cases called.symm.trans called'
    exact ends
  · exact fun ends => ⟨header, prepared, called, ends⟩

end Called

/-- The length of a chunk is right when it fits in an `int`. -/
theorem compressAtMostOrAll_destLen_iff (fits : FitsRoom zlib) {destLen : Nat} {source : List UInt8}
    {flushMode : Flush} {result : Compressed Inflater Deflater}
    (made : object.compressAtMostOrAll zlib destLen source flushMode = result)
    (returned : result.code = .ok ∨
      result.code = .bufError ∧ RunsOut zlib object destLen source flushMode) :
    result.destLen = result.written.length ↔
      FitsInt zlib object destLen source flushMode ∨
        EndsEarly zlib object destLen source flushMode := by
  obtain ⟨header, prepared, called, empty⟩ : ∃ header prepared,
      object.deflateCall zlib destLen source.length = some (header, prepared) ∧
        (result.code = .bufError →
          (prepared.compStream.deflate zlib source flushMode).2.2.availOut = 0) := by
    rcases returned with ok | ⟨-, header, prepared, called, empty⟩
    · obtain ⟨header, prepared, called⟩ := deflateCall_of_ok (made ▸ ok)
      refine ⟨header, prepared, called, fun full => ?_⟩
      rw [full] at ok
      cases ok
    · exact ⟨header, prepared, called, fun _ => empty⟩
  rw [fitsInt_iff called, endsEarly_iff called]
  rcases deflated : prepared.compStream.deflate zlib source flushMode with ⟨err, output, next⟩
  obtain ⟨written, fills, destFits, reported⟩ :=
    compressAtMostOrAll_destLen fits called deflated made (returned.imp_right And.left)
  dsimp only
  have length := congrArg List.length written
  rw [List.length_append] at length
  rw [length]
  rcases reported with ⟨size, onTime⟩ | ⟨⟨full, size⟩, early⟩
  · rw [size, compressedSize_eq_iff (by omega), or_iff_left onTime]
  · have left := empty full
    rw [deflated] at left
    change next.availOut = 0 at left
    rw [size]
    exact ⟨fun _ => .inr early, fun _ => by omega⟩

/-! ### Whole calls -/

/-- The footer behind a chunk goes to `dest + *destLen`, which is inside of the buffer. -/
def FooterInside (chunk : Compressed Inflater Deflater) (destLen : Nat) : Prop :=
  chunk.object.settings.gzipHeaderMode = true → chunk.destLen + 8 ≤ destLen

/-- A footer has eight bytes, and there is room for them. -/
theorem length_of_writeGzipFooter {room : Nat} {footer : List UInt8}
    (wrote : object.writeGzipFooter room = some footer) : footer.length = 8 ∧ 8 ≤ room := by
  unfold writeGzipFooter at wrote
  split at wrote
  · cases wrote
  · rename_i enough
    cases wrote
    rw [List.length_append, footerBytes_eq, footerBytes_eq, length_littleEndian,
      length_littleEndian]
    exact ⟨rfl, Nat.le_of_not_lt enough⟩

/-- With the footer, the report is right if that of the chunk was. -/
theorem finish_destLen_iff {chunk result : Compressed Inflater Deflater} {destLen : Nat}
    (inside : chunk.written.length ≤ destLen) (destFits : destLen < 2 ^ 32)
    (size : chunk.destLen = chunk.written.length ∧ chunk.written.length < 2 ^ 31 ∨
      chunk.destLen = chunk.written.length + (2 ^ 64 - 2 ^ 32) ∧ 2 ^ 31 ≤ chunk.written.length)
    (finished : chunk.finish destLen = result) (succeeded : result.code = .ok) :
    result.destLen = result.written.length ∧ FooterInside chunk destLen ↔
      chunk.written.length < 2 ^ 31 := by
  unfold Compressed.finish at finished
  by_cases gzip : chunk.object.settings.gzipHeaderMode = true
  · rw [if_pos gzip] at finished
    split at finished
    · subst finished
      cases succeeded
    · rename_i footer wrote
      obtain ⟨length, room⟩ := length_of_writeGzipFooter wrote
      subst finished
      dsimp only
      rcases size with ⟨right, few⟩ | ⟨wrong, many⟩
      · have fills : chunk.written.length + 8 ≤ destLen := by
          rw [right] at room
          omega
        rw [right, overwrite_length, List.length_append, length, Nat.mod_eq_of_lt (by omega)]
        refine ⟨fun _ => few, fun _ => ⟨rfl, fun _ => ?_⟩⟩
        rw [right]
        exact fills
      · refine ⟨fun ⟨_, footer⟩ => ?_, fun few => absurd few (Nat.not_lt_of_le many)⟩
        have within := footer gzip
        omega
  · rw [if_neg gzip] at finished
    subst finished
    dsimp only
    rcases size with ⟨right, few⟩ | ⟨wrong, many⟩
    · exact ⟨fun _ => few, fun _ => ⟨right, fun on => absurd on gzip⟩⟩
    · exact ⟨fun ⟨right, _⟩ => by omega, fun few => absurd few (Nat.not_lt_of_le many)⟩

/-- A last chunk that goes well, and the footer behind it. -/
theorem closed_destLen_iff (fits : FitsRoom zlib) {destLen : Nat} {source : List UInt8}
    {chunk result : Compressed Inflater Deflater}
    (made : object.compressChunkOrAll zlib destLen source .finish = chunk)
    (went : chunk.code = .ok)
    (finished : { chunk with object := chunk.object.reset }.finish destLen = result)
    (succeeded : result.code = .ok) :
    result.destLen = result.written.length ∧ FooterInside chunk destLen ↔
      FitsInt zlib object destLen source .finish := by
  subst made
  obtain ⟨same, went'⟩ := compressChunkOrAll_ok went
  obtain ⟨header, prepared, called⟩ := deflateCall_of_ok went'
  rcases deflated : prepared.compStream.deflate zlib source .finish with ⟨err, output, next⟩
  obtain ⟨written, fills, destFits, reported⟩ :=
    compressAtMostOrAll_destLen fits called deflated same.symm (.inl went)
  have length := congrArg List.length written
  rw [List.length_append] at length
  rw [fitsInt_iff called, deflated]
  show _ ↔ header.length + output.length < 2 ^ 31
  rw [← length]
  have closes := fun inside size => finish_destLen_iff inside destFits size finished succeeded
  refine closes ?_ ?_
  · show (object.compressChunkOrAll zlib destLen source .finish).written.length ≤ destLen
    omega
  · show (object.compressChunkOrAll zlib destLen source .finish).destLen = _ ∧ _ ∨
      (object.compressChunkOrAll zlib destLen source .finish).destLen = _ ∧ _
    rcases reported with ⟨size, -⟩ | ⟨⟨full, -⟩, -⟩
    · rcases Nat.lt_or_ge (header.length + output.length) (2 ^ 31) with few | many
      · rw [size, compressedSize_eq few]
        exact .inl ⟨length.symm, length.symm ▸ few⟩
      · rw [size, compressedSize_wraps many (by omega)]
        exact .inr ⟨congrArg (· + (2 ^ 64 - 2 ^ 32)) length.symm, length.symm ▸ many⟩
    · rw [went] at full
      cases full

/-- `*destLen` is the number of bytes that were written, and the footer is in the buffer, exactly
when the bytes that the header and `deflate` write can be counted in an `int`: in a chunk that goes
well or runs out of room, and in calls that end a stream. -/
theorem destLen_eq_written_iff (fits : FitsRoom zlib) (object : ZLib Inflater Deflater)
    (destLen : Nat) (source : List UInt8) :
    (∀ flushMode result, object.compressAtMostOrAll zlib destLen source flushMode = result →
      (result.code = .ok ∨
        result.code = .bufError ∧ RunsOut zlib object destLen source flushMode) →
      (result.destLen = result.written.length ↔
        FitsInt zlib object destLen source flushMode ∨
          EndsEarly zlib object destLen source flushMode)) ∧
    (∀ result, object.compress zlib destLen source = result → result.code = .ok →
      (result.destLen = result.written.length ∧
          FooterInside (object.compressChunkOrAll zlib destLen source .finish) destLen ↔
        FitsInt zlib object destLen source .finish)) ∧
    ∀ assertions result, object.compressChunkDone zlib assertions destLen = some result →
      result.code = .ok →
      (result.destLen = result.written.length ∧
          FooterInside (object.compressChunkOrAll zlib destLen [] .finish) destLen ↔
        FitsInt zlib object destLen [] .finish) := by
  refine ⟨fun flushMode result made returned =>
    compressAtMostOrAll_destLen_iff fits made returned, fun result made succeeded => ?_,
    fun assertions result made succeeded => ?_⟩
  · unfold compress at made
    by_cases failed : (object.compressChunkOrAll zlib destLen source .finish).code ≠ .ok
    · rw [if_pos failed] at made
      exact absurd (made ▸ succeeded) failed
    · rw [if_neg failed] at made
      exact closed_destLen_iff fits rfl (Decidable.not_not.mp failed) made succeeded
  · unfold compressChunkDone at made
    split at made
    · cases made
      cases succeeded
    · split at made
      · cases made
      · by_cases failed : (object.compressChunkOrAll zlib destLen [] .finish).code ≠ .ok
        · rw [if_pos failed] at made
          cases made
          exact absurd succeeded failed
        · rw [if_neg failed] at made
          cases made
          exact closed_destLen_iff fits rfl (Decidable.not_not.mp failed) rfl succeeded

theorem fitsRoom_storedZlib : FitsRoom storedZlib := deflates_storedZlib.fits

/-- A short call in gzip mode. -/
theorem destLen_eq_written_short :
    (gzipObject.compress storedZlib 100 [0x61]).destLen =
        (gzipObject.compress storedZlib 100 [0x61]).written.length ∧
      FooterInside (gzipObject.compressChunkOrAll storedZlib 100 [0x61] .finish) 100 := by
  have few : FitsInt storedZlib gzipObject 100 [0x61] .finish := by
    have checked : ((gzipObject.deflateCall storedZlib 100 1).all fun (header, prepared) =>
        header.length + (prepared.compStream.deflate storedZlib [0x61] .finish).2.1.length <
          2 ^ 31) = true := by
      decide +kernel
    intro header prepared called
    change gzipObject.deflateCall storedZlib 100 1 = some (header, prepared) at called
    rw [called] at checked
    exact of_decide_eq_true checked
  exact ((destLen_eq_written_iff fitsRoom_storedZlib gzipObject 100 [0x61]).2.1 _ rfl
    (by decide +kernel)).mpr few

/-! ### Long outputs -/

/-- What the first call of an object in gzip mode hands to `deflate`. -/
theorem deflateCall_gzipObject {destLen sourceLen : Nat} (enough : 11 ≤ destLen)
    (destFits : destLen < 2 ^ 32) (sourceFits : sourceLen < 2 ^ 32) : ∃ prepared,
    gzipObject.deflateCall storedZlib destLen sourceLen = some (gzipHeaderBytes, prepared) ∧
      prepared.compStream = ⟨some (.start 0 (-15) 8), sourceLen, destLen - 10, 0, 0⟩ ∧
      prepared.settings.gzipHeaderMode = true := by
  have narrowed : sourceLen % 2 ^ 32 = sourceLen := Nat.mod_eq_of_lt sourceFits
  have narrowed' : destLen % 2 ^ 32 = destLen := Nat.mod_eq_of_lt destFits
  have made : gzipObject.compressInit storedZlib destLen sourceLen =
      (gzipObject.withCompBuffers sourceLen destLen).prepareComp storedZlib := by
    rw [compressInit_eq, if_neg (not_not_intro narrowed), if_neg (not_not_intro narrowed')]
    rfl
  unfold deflateCall
  rw [made]
  unfold withCompBuffers
  rw [narrowed, narrowed']
  show ∃ prepared, ((if destLen < 11 then none else _ : Option (List UInt8 × _)).map _).bind _ =
    some _ ∧ _
  rw [if_neg (Nat.not_lt_of_le enough)]
  exact ⟨_, rfl, rfl, rfl⟩

/-- A call of `deflate` that reads everything and leaves room goes well. -/
theorem compressAtMostOrAll_of_deflate {destLen : Nat} {source header output : List UInt8}
    {flushMode : Flush} {prepared : ZLib Inflater Deflater} {err : ZCode} {next : ZStream Deflater}
    (called : object.deflateCall zlib destLen source.length = some (header, prepared))
    (deflated : prepared.compStream.deflate zlib source flushMode = (err, output, next))
    (went : err = .streamEnd ∨ err = .ok) (used : next.availIn = 0) (room : next.availOut ≠ 0) :
    (object.compressAtMostOrAll zlib destLen source flushMode).code = .ok ∧
      (object.compressAtMostOrAll zlib destLen source flushMode).object.settings =
        prepared.settings := by
  rw [(deflateCall_eq called).2 source flushMode rfl]
  unfold deflateSource
  rw [deflated]
  unfold concludeDeflate
  dsimp only
  rw [if_pos ⟨went, used, room⟩]
  rcases went with rfl | rfl
  · exact ⟨rfl, rfl⟩
  · exact ⟨rfl, rfl⟩

/-- A footer is written if there is room for it. -/
theorem finish_code_ok {chunk : Compressed Inflater Deflater} {origDestLen : Nat}
    (room : 8 ≤ (origDestLen + 2 ^ 64 - chunk.destLen) % 2 ^ 64) :
    (chunk.finish origDestLen).code = .ok := by
  unfold Compressed.finish
  split
  · split
    · rename_i refused
      unfold writeGzipFooter at refused
      rw [if_neg (Nat.not_lt_of_le room)] at refused
      cases refused
    · rfl
  · rfl

/-- A source of 2 GiB that does not get shorter is compressed, but the report is wrong and the
footer is outside of the buffer. -/
theorem compress_long {source : List UInt8} (long : source.length = 2147483648) :
    (gzipObject.compressAtMostOrAll storedZlib 4294967295 source .finish).code = .ok ∧
      (gzipObject.compressAtMostOrAll storedZlib 4294967295 source .finish).destLen ≠
        (gzipObject.compressAtMostOrAll storedZlib 4294967295 source .finish).written.length ∧
      (gzipObject.compress storedZlib 4294967295 source).code = .ok ∧
      ¬ FooterInside (gzipObject.compressChunkOrAll storedZlib 4294967295 source .finish)
        4294967295 := by
  have sourceFits : source.length < 2 ^ 32 := by omega
  obtain ⟨prepared, called, stream, gzip⟩ :=
    deflateCall_gzipObject (show 11 ≤ 4294967295 by decide) (by decide) sourceFits
  obtain ⟨lower, upper⟩ := length_storedBlocks true source
  have produced : (StoredDeflater.start 0 (-15) 8).produced source .finish =
      storedBlocks true source := List.append_nil _
  obtain ⟨last, ended, -⟩ := deflate_flushed (show (-15 : Int) < 0 by decide) rfl rfl
    (show ((StoredDeflater.start 0 (-15) 8).produced source .finish).length <
        4294967295 - 10 by
      rw [produced]
      omega)
  rw [produced] at ended
  have call : storedZlib.deflate (.start 0 (-15) 8) source (4294967295 - 10) .finish =
    ⟨.streamEnd, source.length, storedBlocks true source, last⟩ := ended
  generalize blocks : storedBlocks true source = output at call lower upper
  have deflated : prepared.compStream.deflate storedZlib source .finish =
      (.streamEnd, output, ⟨some last, source.length - source.length,
        4294967295 - 10 - output.length, (0 + source.length) % 2 ^ 64,
        (0 + output.length) % 2 ^ 64⟩) := by
    rw [stream]
    unfold ZStream.deflate
    dsimp only
    rw [List.take_length, call]
  have room : 4294967295 - 10 - output.length ≠ 0 := by omega
  obtain ⟨went, settings⟩ :=
    compressAtMostOrAll_of_deflate called deflated (.inl rfl) (Nat.sub_self _) room
  obtain ⟨written, fills, -, reported⟩ :=
    compressAtMostOrAll_destLen fitsRoom_storedZlib called deflated rfl (.inl went)
  have header : gzipHeaderBytes.length = 10 := rfl
  have size := reported.resolve_right fun early => by
    rw [went] at early
    cases early.1.1
  have wraps := size.1
  rw [compressedSize_wraps (by omega) (by omega), header] at wraps
  have chunk : gzipObject.compressChunkOrAll storedZlib 4294967295 source .finish =
      gzipObject.compressAtMostOrAll storedZlib 4294967295 source .finish := by
    unfold compressChunkOrAll
    dsimp only
    rw [if_neg (by rw [went]; nofun)]
  refine ⟨went, ?_, ?_, fun inside => ?_⟩
  · rw [wraps, written, List.length_append, header]
    omega
  · unfold compress
    dsimp only
    rw [chunk, if_neg (not_not_intro went)]
    refine finish_code_ok ?_
    show 8 ≤ (4294967295 + 2 ^ 64 -
      (gzipObject.compressAtMostOrAll storedZlib 4294967295 source .finish).destLen) % 2 ^ 64
    omega
  · rw [chunk] at inside
    have within := inside (settings ▸ gzip)
    omega

/-- Not every successful call reports what it wrote: one that stores 2 GiB does not, and its footer
is not in the buffer. -/
theorem not_destLen_eq_written_long : FitsRoom storedZlib ∧
    ∃ source : List UInt8, source.length = 2147483648 ∧
      (gzipObject.compressAtMostOrAll storedZlib 4294967295 source .finish).code = .ok ∧
      (gzipObject.compressAtMostOrAll storedZlib 4294967295 source .finish).destLen ≠
        (gzipObject.compressAtMostOrAll storedZlib 4294967295 source .finish).written.length ∧
      (gzipObject.compress storedZlib 4294967295 source).code = .ok ∧
      ¬ FooterInside (gzipObject.compressChunkOrAll storedZlib 4294967295 source .finish)
        4294967295 :=
  have long : (List.replicate 2147483648 (0 : UInt8)).length = 2147483648 := List.length_replicate
  ⟨fitsRoom_storedZlib, _, long, compress_long long⟩

end ZLib

end Fleetbench.Compression
