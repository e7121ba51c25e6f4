/-
This file proves that chunked decompression in gzip mode follows the phases of
a member: after every call the object represents how far the bytes given to it
have come, and a call answers with what its own bytes add to the output. The
flag that tolerates bad footers is off.

A call may go well although its bytes break the format: zlib has not looked at
all of them if the room for output was used up. Then the stream is lost.
-/

import Fleetbench.Compression.Member
import Fleetbench.Compression.Uncompress

namespace Fleetbench.Compression.ZLib

open Library

variable {Inflater Deflater State : Type} {zlib : Zlib Inflater Deflater}
  {format : Decoder UInt8 UInt8 State} {at_ : Inflater → State → Prop}

/-! ### What an object represents -/

/-- The settings: gzip headers, no dictionary, and the end of the stream is not reported. -/
structure GzipMode (object : ZLib Inflater Deflater) : Prop where
  gzip : object.settings.gzipHeaderMode = true
  noHeader : object.settings.noHeaderMode = true
  dictionary : object.settings.dictionary = none
  hidden : object.settings.dontHideZstreamEnd = false
  footerSize : object.gzipFooter.length = 8

theorem GzipMode.congr {object after : ZLib Inflater Deflater} (mode : object.GzipMode)
    (settings : after.settings = object.settings) (footerSize : after.gzipFooter.length = 8) :
    after.GzipMode where
  gzip := settings ▸ mode.gzip
  noHeader := settings ▸ mode.noHeader
  dictionary := settings ▸ mode.dictionary
  hidden := settings ▸ mode.hidden
  footerSize := footerSize

structure InHeader (object : ZLib Inflater Deflater) (parser : GZipHeader) : Prop where
  mode : object.GzipMode
  first : object.firstChunk = true
  parsed : object.gzipHeader = parser
  pending : parser.Pending
  stream : object.uncompInit = true → ∃ stream, object.uncompStream.state = some stream

structure InBody (zlib : Zlib Inflater Deflater) (at_ : Inflater → State → Prop)
    (object : ZLib Inflater Deflater) (state : State) (output : List UInt8) : Prop where
  mode : object.GzipMode
  notFirst : object.firstChunk = false
  init : object.uncompInit = true
  footerBytes : object.gzipFooterBytes = -1
  crc : object.crc = zlib.crc32 0 output
  totalIn : object.uncompStream.totalIn < 2 ^ 64
  totalOut : object.uncompStream.totalOut = output.length % 2 ^ 64
  stream : ∃ stream, object.uncompStream.state = some stream ∧ at_ stream state

structure InFooter (zlib : Zlib Inflater Deflater) (object : ZLib Inflater Deflater)
    (output kept : List UInt8) : Prop where
  mode : object.GzipMode
  notFirst : object.firstChunk = false
  init : object.uncompInit = true
  footerBytes : object.gzipFooterBytes = kept.length
  short : kept.length ≤ 8
  kept : object.gzipFooter.take kept.length = kept
  crc : object.crc = zlib.crc32 0 output
  size : object.uncompressedSize = output.length % 2 ^ 64

/-- The object inflates data whose end it has not seen. -/
structure Inflating (object : ZLib Inflater Deflater) : Prop where
  mode : object.GzipMode
  notFirst : object.firstChunk = false
  init : object.uncompInit = true
  footerBytes : object.gzipFooterBytes = -1
  totalIn : object.uncompStream.totalIn < 2 ^ 64

theorem InBody.inflating {object : ZLib Inflater Deflater} {state : State} {output : List UInt8}
    (body : InBody zlib at_ object state output) : object.Inflating :=
  ⟨body.mode, body.notFirst, body.init, body.footerBytes, body.totalIn⟩

structure InLoss (zlib : Zlib Inflater Deflater) (object : ZLib Inflater Deflater) : Prop
    extends Inflating object where
  stream : ∃ stream, object.uncompStream.state = some stream ∧ Lost zlib stream

def Represents (zlib : Zlib Inflater Deflater) (at_ : Inflater → State → Prop)
    (object : ZLib Inflater Deflater) : Phase State → Prop
  | .header parser => InHeader object parser
  | .body state output => InBody zlib at_ object state output
  | .footer output kept => InFooter zlib object output kept
  | .refused _ => InLoss zlib object

/-- A call leads to the phase. If the bytes are refused, it fails, or aborts, or the stream is lost;
otherwise it goes well, and its output is what the phase adds to the output before. -/
def Answers (zlib : Zlib Inflater Deflater) (at_ : Inflater → State → Prop)
    (earlier : List UInt8) (answer : Option (Uncompressed Inflater Deflater))
    (phase : Phase State) : Prop :=
  ((∃ output, phase = .refused output) ∧
      ∀ result, answer = some result → result.code = .ok → InLoss zlib result.object) ∨
    ∃ result, answer = some result ∧ result.code = .ok ∧
      Represents zlib at_ result.object phase ∧ phase.output = earlier ++ result.output

/-- An answer that is not `Z_OK` refuses the bytes. -/
theorem answers_of_failed {earlier output : List UInt8}
    {answer : Option (Uncompressed Inflater Deflater)}
    (failed : ∀ result, answer = some result → result.code ≠ .ok) :
    Answers zlib at_ earlier answer (.refused output) :=
  .inl ⟨⟨output, rfl⟩, fun result isResult ok => absurd ok (failed result isResult)⟩

/-! ### Checksums -/

theorem crc32_append (inflates : Inflates zlib format at_) (value : UInt32)
    (front back : List UInt8) :
    zlib.crc32 value (front ++ back) = zlib.crc32 (zlib.crc32 value front) back := by
  obtain ⟨step, folds⟩ := inflates.crc
  rw [folds, folds, folds, List.foldl_append]

/-! ### Inflating -/

/-- Without a dictionary `inflate` is called once. -/
theorem inflateSource_eq {object : ZLib Inflater Deflater} {stream : Inflater}
    {oldTotalIn oldTotalOut destLen : Nat} {source : List UInt8} {flushMode : Flush}
    (dictionary : object.settings.dictionary = none)
    (live : object.uncompStream.state = some stream)
    (availIn : object.uncompStream.availIn = source.length) {inflated : Inflated Inflater}
    (call : zlib.inflate stream source object.uncompStream.availOut flushMode = inflated) :
    object.inflateSource zlib false oldTotalIn oldTotalOut destLen source flushMode =
      { object with uncompStream :=
          { state := some inflated.next
            availIn := source.length - inflated.consumed
            availOut := object.uncompStream.availOut - inflated.output.length
            totalIn := (object.uncompStream.totalIn + inflated.consumed) % 2 ^ 64
            totalOut :=
              (object.uncompStream.totalOut + inflated.output.length) % 2 ^ 64 } }.concludeInflate
        zlib false oldTotalIn oldTotalOut destLen source inflated.output inflated.code := by
  rw [inflateSource, ZStream.inflate, live]
  simp only [availIn, List.take_length, call, dictionary]

section Conclude

variable {object : ZLib Inflater Deflater} {oldTotalIn oldTotalOut destLen bytesRead : Nat}
  {source written : List UInt8}

/-- The object with the metadata of a call that went well. -/
def withMetadata (zlib : Zlib Inflater Deflater) (object : ZLib Inflater Deflater)
    (written : List UInt8) : ZLib Inflater Deflater :=
  { object with
    uncompressedSize := object.uncompStream.totalOut
    crc := zlib.crc32 object.crc written }

theorem concludeInflate_of_ok (mode : object.GzipMode)
    (read : (object.uncompStream.totalIn + 2 ^ 64 - oldTotalIn) % 2 ^ 64 = bytesRead)
    (within : bytesRead ≤ source.length)
    (wrote : (object.uncompStream.totalOut + 2 ^ 64 - oldTotalOut) % 2 ^ 64 = written.length)
    (few : written.length < 2 ^ 32) (allRead : object.uncompStream.availIn = 0) :
    object.concludeInflate zlib false oldTotalIn oldTotalOut destLen source written .ok =
      some ⟨.ok, written, written.length, 0, object.withMetadata zlib written⟩ := by
  rw [concludeInflate]
  simp only [read, wrote, if_neg (Nat.not_lt_of_le within), allRead, mode.gzip,
    Nat.mod_eq_of_lt few, List.take_length, reduceCtorEq, false_and, if_false, or_true, true_and,
    if_true]
  rfl

theorem concludeInflate_of_end (mode : object.GzipMode)
    (read : (object.uncompStream.totalIn + 2 ^ 64 - oldTotalIn) % 2 ^ 64 = bytesRead)
    (within : bytesRead ≤ source.length)
    (wrote : (object.uncompStream.totalOut + 2 ^ 64 - oldTotalOut) % 2 ^ 64 = written.length)
    (few : written.length < 2 ^ 32) (footerBytes : object.gzipFooterBytes = -1)
    (short : object.uncompStream.availIn ≤ 8) :
    object.concludeInflate zlib false oldTotalIn oldTotalOut destLen source written .streamEnd =
      some ⟨.ok, written, written.length, 0,
        { object with
          gzipFooterBytes := object.uncompStream.availIn
          gzipFooter := overwrite object.gzipFooter 0
            ((source.drop bytesRead).take object.uncompStream.availIn) }.withMetadata zlib
              written⟩ := by
  rw [concludeInflate]
  simp only [read, wrote, if_neg (Nat.not_lt_of_le within), short, footerBytes, mode.gzip,
    mode.hidden, Nat.min_eq_left short, Nat.sub_self, Nat.mod_eq_of_lt few, List.take_length,
    true_or, and_self, if_true]
  rfl

theorem concludeInflate_of_excess
    (read : (object.uncompStream.totalIn + 2 ^ 64 - oldTotalIn) % 2 ^ 64 = bytesRead)
    (within : bytesRead ≤ source.length) (excess : 8 < object.uncompStream.availIn) :
    object.concludeInflate zlib false oldTotalIn oldTotalOut destLen source written .streamEnd =
      if toInt object.uncompStream.availIn < 0 then none
      else some ⟨.dataError, written, destLen, object.uncompStream.availIn,
        object.uncompressErrorInit⟩ := by
  rw [concludeInflate]
  have positive : 0 < object.uncompStream.availIn := by omega
  simp only [read, if_neg (Nat.not_lt_of_le within), Nat.not_le_of_lt excess, Bool.false_eq_true,
    or_self, and_false, if_false, Nat.ne_of_gt positive, positive, and_self, if_true]

theorem concludeInflate_of_error {err : ZCode}
    (read : (object.uncompStream.totalIn + 2 ^ 64 - oldTotalIn) % 2 ^ 64 = bytesRead)
    (within : bytesRead ≤ source.length) (notOk : err ≠ .ok) (notEnd : err ≠ .streamEnd) :
    ∃ result, object.concludeInflate zlib false oldTotalIn oldTotalOut destLen source written err =
      some result ∧ result.code ≠ .ok := by
  rw [concludeInflate]
  simp only [read, if_neg (Nat.not_lt_of_le within), notOk, notEnd, false_and, or_self, if_false]
  split
  · exact ⟨_, rfl, notOk⟩
  · split
    · exact ⟨_, rfl, by simp⟩
    · exact ⟨_, rfl, notOk⟩

/-- If no end was reached, `Z_OK` means that all was read or that there is room left. -/
theorem concludeInflate_of_not_end {err : ZCode} {result : Uncompressed Inflater Deflater}
    (concluded : object.concludeInflate zlib false oldTotalIn oldTotalOut destLen source written
      err = some result) (notEnd : err ≠ .streamEnd) (ok : result.code = .ok) :
    err = .ok ∧ (object.uncompStream.availIn = 0 ∨ object.uncompStream.availOut ≠ 0) ∧
      ∃ size crc, result.object = { object with uncompressedSize := size, crc := crc } := by
  unfold concludeInflate at concluded
  simp only [notEnd, false_and, false_or, if_false] at concluded
  split at concluded
  · cases concluded
  · split at concluded
    · rename_i allRead
      cases concluded
      exact ⟨ok, .inl allRead.2, _, _, rfl⟩
    · split at concluded
      · rename_i failed
        cases concluded
        exact absurd ok failed.1
      · split at concluded
        · cases concluded
          cases ok
        · rename_i room
          cases concluded
          exact ⟨ok, .inr room, _, _, rfl⟩

end Conclude

/-- A call that is stuck reports an error, or leaves the stream lost. -/
theorem inflateSource_of_stuck {object : ZLib Inflater Deflater} {source : List UInt8}
    {destLen oldTotalIn oldTotalOut : Nat} {flushMode : Flush} {stream : Inflater}
    (inflating : object.Inflating) (live : object.uncompStream.state = some stream)
    (availIn : object.uncompStream.availIn = source.length)
    (availOut : object.uncompStream.availOut = destLen)
    (stuck : (zlib.inflate stream source destLen flushMode).Stuck source destLen (Lost zlib))
    {result : Uncompressed Inflater Deflater}
    (called : object.inflateSource zlib false oldTotalIn oldTotalOut destLen source flushMode =
      some result) (ok : result.code = .ok) :
    (zlib.inflate stream source destLen flushMode).code = .ok ∧ InLoss zlib result.object := by
  rw [← availOut] at stuck ⊢
  rw [inflateSource_eq inflating.mode.dictionary live availIn rfl] at called
  obtain ⟨went, left, _, _, same⟩ := concludeInflate_of_not_end called stuck.notEnd ok
  have within := stuck.within
  have full := stuck.full went
  have all := Nat.le_antisymm within (Nat.sub_eq_zero_iff_le.mp
    (left.resolve_right (not_not_intro (by rw [full, Nat.sub_self]))))
  refine ⟨went, ?_⟩
  rw [same]
  exact ⟨⟨inflating.mode.congr rfl inflating.mode.footerSize, inflating.notFirst, inflating.init,
    inflating.footerBytes, Nat.mod_lt _ (Nat.two_pow_pos 64)⟩, _, rfl, stuck.next went all⟩

/-- `inflate` on the end of the data and a part of the footer. -/
theorem inflateSource_of_end (inflates : Inflates zlib format at_)
    {object : ZLib Inflater Deflater} {state : State} {output source more unread : List UInt8}
    {destLen : Nat} {flushMode : Flush} {stream next : Inflater}
    (body : InBody zlib at_ object state output)
    (sourceFits : source.length < 2 ^ 32) (destFits : destLen < 2 ^ 32)
    (availIn : object.uncompStream.availIn = source.length)
    (availOut : object.uncompStream.availOut = destLen)
    (live : object.uncompStream.state = some stream)
    (fed : format.feed state source = .last more unread) (short : unread.length ≤ 8)
    (enough : more.length ≤ destLen)
    (call : zlib.inflate stream source destLen flushMode =
      ⟨.streamEnd, source.length - unread.length, more, next⟩) :
    ∃ result, object.inflateSource zlib false object.uncompStream.totalIn
        object.uncompStream.totalOut destLen source flushMode = some result ∧
      result.code = .ok ∧ result.output = more ∧ result.destLen = more.length ∧
      InFooter zlib result.object (output ++ more) unread := by
  have mode := body.mode
  have outBefore : object.uncompStream.totalOut < 2 ^ 64 := by
    rw [body.totalOut]
    exact Nat.mod_lt _ (Nat.two_pow_pos 64)
  have few : more.length < 2 ^ 32 := Nat.lt_of_le_of_lt enough destFits
  have writable : more.length < 2 ^ 64 := Nat.lt_trans few (by decide)
  obtain ⟨word, split, -⟩ := format.feed_eq_last_iff.mp fed
  have length : source.length = word.length + unread.length := by
    rw [split, List.length_append]
  have consumed : source.length - unread.length = word.length := by omega
  have left : source.length - word.length = unread.length := by omega
  rw [← availOut, consumed] at call
  rw [inflateSource_eq mode.dictionary live availIn call]
  simp only [left]
  have read := counter_delta body.totalIn (show word.length < 2 ^ 64 by omega)
  have within : word.length ≤ source.length := by omega
  have stored : (source.drop word.length).take unread.length = unread := by
    rw [split, List.drop_left, List.take_length]
  have fits : 0 + unread.length ≤ object.gzipFooter.length := by
    rw [mode.footerSize, Nat.zero_add]
    exact short
  have size := length_overwrite fits
  refine ⟨_, concludeInflate_of_end (mode.congr rfl mode.footerSize) read within
    (counter_delta outBefore writable) few body.footerBytes short, rfl, List.take_length, rfl, ?_⟩
  simp only [stored]
  refine ⟨mode.congr rfl (size.trans mode.footerSize), body.notFirst, body.init, rfl, short,
    ?_, ?_, ?_⟩
  · show (overwrite object.gzipFooter 0 unread).take unread.length = unread
    rw [← Nat.zero_add unread.length, take_overwrite (Nat.zero_le _)]
    rfl
  · show zlib.crc32 object.crc more = _
    rw [body.crc, ← crc32_append inflates]
  · show (object.uncompStream.totalOut + more.length) % 2 ^ 64 = _
    rw [body.totalOut, List.length_append, Nat.mod_add_mod]

/-- `inflate` on a part of the data, which may contain its end. -/
theorem inflateSource_answers (inflates : Inflates zlib format at_)
    {object : ZLib Inflater Deflater} {state : State} {output source : List UInt8} {destLen : Nat}
    (body : InBody zlib at_ object state output) (present : source ≠ [])
    (sourceFits : source.length < 2 ^ 32) (destFits : destLen < 2 ^ 32)
    (availIn : object.uncompStream.availIn = source.length)
    (availOut : object.uncompStream.availOut = destLen)
    (enough : (format.feed state source).output.length ≤ destLen) :
    Answers zlib at_ output
      (object.inflateSource zlib false object.uncompStream.totalIn object.uncompStream.totalOut
        destLen source .syncFlush) (Phase.readBody format state output source) := by
  obtain ⟨stream, live, reads⟩ := body.stream
  have mode := body.mode
  have readable : source.length < 2 ^ 64 := Nat.lt_trans sourceFits (by decide)
  have outBefore : object.uncompStream.totalOut < 2 ^ 64 := by
    rw [body.totalOut]
    exact Nat.mod_lt _ (Nat.two_pow_pos 64)
  rw [Phase.readBody]
  cases fed : format.feed state source with
  | more after more =>
    rw [fed] at enough
    have few : more.length < 2 ^ 32 := Nat.lt_of_le_of_lt enough destFits
    have writable : more.length < 2 ^ 64 := Nat.lt_trans few (by decide)
    obtain ⟨next, call, reads'⟩ := inflates.more stream state source destLen reads present after
      more fed enough
    rw [← availOut] at call
    rw [inflateSource_eq mode.dictionary live availIn call]
    refine .inr ⟨_, concludeInflate_of_ok (mode.congr rfl mode.footerSize)
      (counter_delta body.totalIn readable) (Nat.le_refl _) (counter_delta outBefore writable)
      few (Nat.sub_self _), rfl, ?_, ?_⟩
    · refine ⟨mode.congr rfl mode.footerSize, body.notFirst, body.init, body.footerBytes, ?_,
        Nat.mod_lt _ (Nat.two_pow_pos 64), ?_, next, rfl, reads'⟩
      · show zlib.crc32 object.crc more = _
        rw [body.crc, ← crc32_append inflates]
      · show (object.uncompStream.totalOut + more.length) % 2 ^ 64 = _
        rw [body.totalOut, List.length_append, Nat.mod_add_mod]
    · show output ++ more = output ++ more.take more.length
      rw [List.take_length]
  | last more unread =>
    rw [fed] at enough
    obtain ⟨next, call⟩ := inflates.last stream state source destLen reads more unread fed enough
    simp only
    by_cases short : unread.length ≤ 8
    · rw [if_pos short]
      obtain ⟨result, went, code, said, -, footer⟩ := inflateSource_of_end inflates body sourceFits
        destFits availIn availOut live fed short enough call
      exact .inr ⟨result, went, code, footer, congrArg (output ++ ·) said.symm⟩
    · rw [if_neg short]
      obtain ⟨word, split, -⟩ := format.feed_eq_last_iff.mp fed
      have length : source.length = word.length + unread.length := by
        rw [split, List.length_append]
      have consumed : source.length - unread.length = word.length := by omega
      have within : word.length ≤ source.length := by omega
      have excess : 8 < source.length - word.length := by omega
      rw [← availOut, consumed] at call
      rw [inflateSource_eq mode.dictionary live availIn call, concludeInflate_of_excess
        (counter_delta body.totalIn (show word.length < 2 ^ 64 by omega)) within excess]
      refine answers_of_failed fun result isResult => ?_
      split at isResult
      · cases isResult
      · cases isResult
        simp
  | bad more =>
    rw [fed] at enough
    have stuck := inflates.bad stream state source destLen reads more fed enough
    exact .inl ⟨⟨_, rfl⟩, fun result called ok =>
      (inflateSource_of_stuck body.inflating live availIn availOut stuck called ok).2⟩

/-! ### The first chunk of data -/

/-- What `UncompressInit` does to the object before the first chunk: the stream is at its start,
and what the decoder goes by is untouched. -/
structure Prepared (format : Decoder UInt8 UInt8 State) (at_ : Inflater → State → Prop)
    (object after : ZLib Inflater Deflater) : Prop where
  settings : after.settings = object.settings
  gzipFooter : after.gzipFooter = object.gzipFooter
  footerBytes : after.gzipFooterBytes = object.gzipFooterBytes
  crc : after.crc = object.crc
  first : after.firstChunk = object.firstChunk
  availIn : after.uncompStream.availIn = object.uncompStream.availIn
  availOut : after.uncompStream.availOut = object.uncompStream.availOut
  totalIn : after.uncompStream.totalIn = 0
  totalOut : after.uncompStream.totalOut = 0
  init : after.uncompInit = true
  stream : ∃ stream, after.uncompStream.state = some stream ∧ at_ stream format.start

theorem wbits_of_noHeader {object : ZLib Inflater Deflater}
    (noHeader : object.settings.noHeaderMode = true) : object.wbits = -maxWbits := by
  rw [wbits, noHeader, if_pos rfl]

theorem inflateInit_prepared (inflates : Inflates zlib format at_) {object : ZLib Inflater Deflater}
    (noHeader : object.settings.noHeaderMode = true) :
    ∃ after, object.inflateInit zlib = (.ok, after) ∧
      Prepared format at_ object { after with uncompInit := true } := by
  obtain ⟨stream, call, starts⟩ := inflates.init
  rw [inflateInit, ZStream.inflateInit2, wbits_of_noHeader noHeader, call]
  exact ⟨_, rfl, rfl, rfl, rfl, rfl, rfl, rfl, rfl, rfl, rfl, rfl, stream, rfl, starts⟩

theorem resetUncomp_prepared (inflates : Inflates zlib format at_) {object : ZLib Inflater Deflater}
    (noHeader : object.settings.noHeaderMode = true) (init : object.uncompInit = true)
    {stream : Inflater} (live : object.uncompStream.state = some stream) :
    ∃ after, object.resetUncomp zlib = (.ok, after) ∧ Prepared format at_ object after := by
  obtain ⟨next, call, starts⟩ := inflates.reset stream
  rw [resetUncomp, ZStream.inflateReset2, wbits_of_noHeader noHeader, live]
  simp only [call]
  exact ⟨_, rfl, rfl, rfl, rfl, rfl, rfl, rfl, rfl, rfl, rfl, init, next, rfl, starts⟩

/-- The end of `prepareUncomp` on an object without a stream. -/
theorem initialise_prepared (inflates : Inflates zlib format at_) {object : ZLib Inflater Deflater}
    (noHeader : object.settings.noHeaderMode = true) (blank : object.uncompInit = false) :
    ∃ after, (if object.uncompInit then ((.ok, object) : ZCode × ZLib Inflater Deflater)
      else
        let (err, object) := object.inflateInit zlib
        if err = .ok then (.ok, { object with uncompInit := true }) else (err, object)) =
        (.ok, after) ∧ Prepared format at_ object after := by
  obtain ⟨after, call, prepared⟩ := inflateInit_prepared inflates noHeader
  rw [blank, call]
  exact ⟨_, rfl, prepared⟩

theorem prepareUncomp_prepared (inflates : Inflates zlib format at_)
    {object : ZLib Inflater Deflater} (noHeader : object.settings.noHeaderMode = true)
    (live : object.uncompInit = true → ∃ stream, object.uncompStream.state = some stream) :
    ∃ after, object.prepareUncomp zlib = (.ok, after) ∧ Prepared format at_ object after := by
  rw [prepareUncomp]
  cases init : object.uncompInit with
  | false =>
    obtain ⟨after, call, prepared⟩ := initialise_prepared inflates noHeader init
    refine ⟨after, ?_, prepared⟩
    simp only [init, Bool.false_eq_true, false_and, if_false]
    simpa only [init, Bool.false_eq_true, if_false] using call
  | true =>
    by_cases changed : object.initSettings.dictionary.map Dictionary.address ≠
          object.settings.dictionary.map Dictionary.address ∨
        object.initSettings.dictLen ≠ object.settings.dictLen
    · obtain ⟨after, call, prepared⟩ :=
        initialise_prepared inflates
          (show object.closeUncomp.settings.noHeaderMode = true from noHeader) rfl
      refine ⟨after, ?_, prepared.settings, prepared.gzipFooter, prepared.footerBytes, prepared.crc,
        prepared.first, prepared.availIn, prepared.availOut, prepared.totalIn, prepared.totalOut,
        prepared.init, prepared.stream⟩
      have closed : object.closeUncomp.uncompInit = false := rfl
      simp only [changed, and_self, if_true, closed, Bool.false_eq_true, if_false]
      simpa only [closed, Bool.false_eq_true, if_false] using call
    · obtain ⟨stream, state⟩ := live init
      obtain ⟨after, call, prepared⟩ := resetUncomp_prepared inflates noHeader init state
      refine ⟨after, ?_, prepared⟩
      simp only [init, changed, and_false, if_false, if_true, call, prepared.init]

/-- The object with a call's buffers handed to the stream. -/
def withBuffers (object : ZLib Inflater Deflater) (availIn availOut : Nat) :
    ZLib Inflater Deflater :=
  { object with uncompStream.availIn := availIn, uncompStream.availOut := availOut }

theorem uncompressInit_of_fits {object : ZLib Inflater Deflater} {destLen sourceLen : Nat}
    (sourceFits : sourceLen < 2 ^ 32) (destFits : destLen < 2 ^ 32) :
    object.uncompressInit zlib destLen sourceLen =
      if object.firstChunk then (object.withBuffers sourceLen destLen).prepareUncomp zlib
      else (.ok, object.withBuffers sourceLen destLen) := by
  rw [uncompressInit]
  simp only [Nat.mod_eq_of_lt sourceFits, Nat.mod_eq_of_lt destFits, ne_eq, not_true_eq_false,
    if_false]
  rfl

theorem InBody.withBuffers {object : ZLib Inflater Deflater} {state : State}
    {output : List UInt8} (body : InBody zlib at_ object state output) (availIn availOut : Nat) :
    InBody zlib at_ (object.withBuffers availIn availOut) state output :=
  ⟨body.mode.congr rfl body.mode.footerSize, body.notFirst, body.init, body.footerBytes, body.crc,
    body.totalIn, body.totalOut, body.stream⟩

theorem Prepared.inBody {object after : ZLib Inflater Deflater} (mode : object.GzipMode)
    (footerBytes : object.gzipFooterBytes = -1) (crc : object.crc = zlib.crc32 0 [])
    (prepared : Prepared format at_ object after) :
    InBody zlib at_ { after with firstChunk := false } format.start [] where
  mode := mode.congr prepared.settings (prepared.gzipFooter ▸ mode.footerSize)
  notFirst := rfl
  init := prepared.init
  footerBytes := prepared.footerBytes.trans footerBytes
  crc := prepared.crc.trans crc
  totalIn := prepared.totalIn ▸ Nat.two_pow_pos 64
  totalOut := prepared.totalOut
  stream := prepared.stream

/-- Behind a complete header, the first bytes of the data are handed to `inflate`. -/
theorem uncompressSource_first (inflates : Inflates zlib format at_) {flexible : Bool}
    {object : ZLib Inflater Deflater} {source : List UInt8} {destLen : Nat} (mode : object.GzipMode)
    (first : object.firstChunk = true) (footerBytes : object.gzipFooterBytes = -1)
    (crc : object.crc = zlib.crc32 0 [])
    (live : object.uncompInit = true → ∃ stream, object.uncompStream.state = some stream)
    (sourceFits : source.length < 2 ^ 32) (destFits : destLen < 2 ^ 32) (flushMode : Flush) :
    ∃ after : ZLib Inflater Deflater, InBody zlib at_ after format.start [] ∧
      after.uncompStream.availIn = source.length ∧ after.uncompStream.availOut = destLen ∧
      object.uncompressSource zlib flexible destLen source flushMode =
        if source.length = 0 then some ⟨.ok, [], 0, 0, after⟩
        else
          after.inflateSource zlib flexible after.uncompStream.totalIn after.uncompStream.totalOut
            destLen source flushMode := by
  have mode' : (object.withBuffers source.length destLen).GzipMode :=
    mode.congr rfl mode.footerSize
  obtain ⟨after, call, prepared⟩ := prepareUncomp_prepared inflates mode'.noHeader live
  have body := prepared.inBody mode' footerBytes crc
  have still : after.firstChunk = true := prepared.first.trans first
  have preset : after.presetDictionary zlib = (.ok, after) := by
    rw [presetDictionary, body.mode.dictionary]
  refine ⟨_, body, prepared.availIn, prepared.availOut, ?_⟩
  rw [uncompressSource, uncompressInit_of_fits sourceFits destFits]
  simp only [first, if_true, call, ne_eq, not_true_eq_false, if_false, still, preset]

/-- The first call that finds the header complete goes on with the bytes behind it. -/
theorem uncompressSource_answers_first (inflates : Inflates zlib format at_)
    {object : ZLib Inflater Deflater} {source : List UInt8} {destLen : Nat} (mode : object.GzipMode)
    (first : object.firstChunk = true) (footerBytes : object.gzipFooterBytes = -1)
    (crc : object.crc = zlib.crc32 0 [])
    (live : object.uncompInit = true → ∃ stream, object.uncompStream.state = some stream)
    (sourceFits : source.length < 2 ^ 32) (destFits : destLen < 2 ^ 32)
    (enough : (format.feed format.start source).output.length ≤ destLen) :
    Answers zlib at_ [] (object.uncompressSource zlib false destLen source .syncFlush)
      (Phase.readBody format format.start [] source) := by
  obtain ⟨after, body, availIn, availOut, same⟩ := uncompressSource_first inflates mode first
    footerBytes crc live sourceFits destFits .syncFlush
  rw [same]
  by_cases none : source.length = 0
  · rw [if_pos none]
    obtain rfl := List.length_eq_zero_iff.mp none
    exact .inr ⟨_, rfl, rfl, body, rfl⟩
  · rw [if_neg none]
    exact inflateSource_answers inflates body (fun nil => none (nil ▸ rfl)) sourceFits destFits
      availIn availOut enough

/-- Later chunks are handed to `inflate` as they are. -/
theorem uncompressSource_later {object : ZLib Inflater Deflater} (inflating : object.Inflating)
    {source : List UInt8} {destLen : Nat} (sourceFits : source.length < 2 ^ 32)
    (destFits : destLen < 2 ^ 32) (flexible : Bool) (flushMode : Flush) :
    object.uncompressSource zlib flexible destLen source flushMode =
      (object.withBuffers source.length destLen).inflateSource zlib flexible
        object.uncompStream.totalIn object.uncompStream.totalOut destLen source flushMode := by
  have notFirst : (object.withBuffers source.length destLen).firstChunk = false :=
    inflating.notFirst
  rw [uncompressSource, uncompressInit_of_fits sourceFits destFits, inflating.notFirst]
  simp only [Bool.false_eq_true, if_false, ne_eq, not_true_eq_false, notFirst]
  rfl

theorem uncompressSource_answers (inflates : Inflates zlib format at_)
    {object : ZLib Inflater Deflater} {state : State} {output source : List UInt8} {destLen : Nat}
    (body : InBody zlib at_ object state output) (present : source ≠ [])
    (sourceFits : source.length < 2 ^ 32) (destFits : destLen < 2 ^ 32)
    (enough : (format.feed state source).output.length ≤ destLen) :
    Answers zlib at_ output (object.uncompressSource zlib false destLen source .syncFlush)
      (Phase.readBody format state output source) := by
  have ready := body.withBuffers source.length destLen
  rw [uncompressSource_later body.inflating sourceFits destFits]
  exact inflateSource_answers inflates ready present sourceFits destFits rfl rfl enough

/-- No call gets a lost stream anywhere else. -/
theorem uncompressAtMostOrAll_of_loss {object : ZLib Inflater Deflater}
    (loss : InLoss zlib object) {source : List UInt8} {destLen : Nat}
    (sourceFits : source.length < 2 ^ 32) (destFits : destLen < 2 ^ 32) {flushMode : Flush}
    {result : Uncompressed Inflater Deflater}
    (called : object.uncompressAtMostOrAll zlib false destLen source flushMode = some result)
    (ok : result.code = .ok) :
    InLoss zlib result.object ∧ ¬ (source = [] ∧ destLen = 0) := by
  obtain ⟨stream, live, lost⟩ := loss.stream
  rw [uncompressAtMostOrAll, loss.notFirst, if_neg Bool.false_ne_true, loss.footerBytes,
    if_neg (by decide), uncompressSource_later loss.toInflating sourceFits destFits] at called
  have inflating : (object.withBuffers source.length destLen).Inflating :=
    ⟨loss.mode.congr rfl loss.mode.footerSize, loss.notFirst, loss.init, loss.footerBytes,
      loss.totalIn⟩
  obtain ⟨went, still⟩ := inflateSource_of_stuck inflating live rfl rfl
    ((allLost_lost zlib).stuck stream lost source destLen flushMode) called ok
  refine ⟨still, ?_⟩
  rintro ⟨rfl, rfl⟩
  exact (allLost_lost zlib).starved stream lost flushMode went

/-! ### One chunk -/

/-- Behind a complete header, the bytes beyond it are uncompressed. -/
theorem readHeader_beyond {object : ZLib Inflater Deflater} {after : GZipHeader}
    {source beyond : List UInt8} (pending : object.gzipHeader.Pending)
    (sourceFits : source.length < 2 ^ 31)
    (run : object.gzipHeader.readLoop source = (after, .completeHeader beyond)) (flexible : Bool)
    (destLen : Nat) (flushMode : Flush) :
    beyond.length ≤ source.length ∧
      object.readHeader zlib flexible destLen source flushMode =
        { object with gzipHeader := after, crc := zlib.crc32 0 [] }.uncompressSource zlib flexible
          destLen beyond flushMode := by
  have outcome := GZipHeader.outcome_readLoop pending source
  rw [run] at outcome
  obtain ⟨word, split, -⟩ := GZipHeader.decoder.feed_eq_last_iff.mp outcome.symm
  have behind : source.drop (source.length - beyond.length) = beyond := by
    rw [split, List.length_append, Nat.add_sub_cancel, List.drop_left]
  have shorter : beyond.length ≤ source.length := by
    rw [split, List.length_append]
    exact Nat.le_add_left _ _
  refine ⟨shorter, ?_⟩
  rw [readHeader, readMore_of_lt sourceFits, run]
  simp only [toInt_of_lt sourceFits, Int.toNat_natCast, behind]

theorem readHeader_answers (inflates : Inflates zlib format at_)
    {object : ZLib Inflater Deflater} {parser : GZipHeader} {source : List UInt8} {destLen : Nat}
    (header : InHeader object parser) (footerBytes : object.gzipFooterBytes = -1)
    (sourceFits : source.length < 2 ^ 31) (destFits : destLen < 2 ^ 32)
    (enough : ((Phase.header parser).read format source).output.length ≤ destLen) :
    Answers zlib at_ [] (object.readHeader zlib false destLen source .syncFlush)
      ((Phase.header parser).read format source) := by
  have outcome := GZipHeader.outcome_readLoop header.pending source
  rw [Phase.read] at enough ⊢
  cases run : parser.readLoop source with
  | mk after status =>
    rw [run] at outcome
    cases status with
    | incompleteHeader =>
      rw [← outcome, readHeader, header.parsed, readMore_of_lt sourceFits, run]
      refine .inr ⟨_, rfl, rfl, ?_, rfl⟩
      exact ⟨header.mode.congr rfl header.mode.footerSize, header.first, rfl,
        GZipHeader.pending_readLoop header.pending.sound run, header.stream⟩
    | invalidHeader =>
      rw [← outcome, readHeader, header.parsed, readMore_of_lt sourceFits, run]
      exact answers_of_failed (by simp)
    | completeHeader beyond =>
      rw [← outcome] at enough ⊢
      obtain ⟨shorter, same⟩ := readHeader_beyond (header.parsed ▸ header.pending) sourceFits
        (header.parsed ▸ run) false destLen .syncFlush
      simp only [GZipHeader.outcome, Phase.output_readBody, List.nil_append] at enough
      simp only [GZipHeader.outcome]
      rw [same]
      exact uncompressSource_answers_first inflates
        (header.mode.congr rfl header.mode.footerSize) header.first footerBytes rfl header.stream
        (by omega) destFits enough

theorem readFooter_answers {object : ZLib Inflater Deflater} {output kept source : List UInt8}
    {destLen : Nat} (footer : InFooter zlib object output kept)
    (sourceFits : source.length < 2 ^ 32) :
    Answers zlib at_ output (object.readFooter false destLen source)
      ((Phase.footer output kept).read format source) := by
  have short := footer.short
  have length : object.gzipFooterBytes.toNat = kept.length := by
    rw [footer.footerBytes, Int.toNat_natCast]
  have small : (kept.length + source.length) % 2 ^ 64 = kept.length + source.length :=
    Nat.mod_eq_of_lt (by omega)
  rw [readFooter, Phase.read]
  simp only [length, small, and_true]
  by_cases whole : kept.length + source.length ≤ 8
  · have len : min (8 - kept.length) source.length = source.length :=
      Nat.min_eq_right (by omega)
    have fits : kept.length + source.length ≤ object.gzipFooter.length := by
      rw [footer.mode.footerSize]
      exact whole
    rw [if_neg (Nat.not_lt_of_le whole), if_pos whole, len, List.take_length]
    refine .inr ⟨_, rfl, rfl, ?_, ?_⟩
    · refine ⟨footer.mode.congr rfl ((length_overwrite fits).trans footer.mode.footerSize),
        footer.notFirst, footer.init, ?_, ?_, ?_, footer.crc, footer.size⟩
      · show object.gzipFooterBytes + source.length = ((kept ++ source).length : Int)
        rw [footer.footerBytes, List.length_append, Int.natCast_add]
      · rw [List.length_append]
        exact whole
      · show (overwrite object.gzipFooter kept.length source).take (kept ++ source).length = _
        rw [List.length_append, take_overwrite (by omega), footer.kept]
    · exact (List.append_nil output).symm
  · rw [if_pos (Nat.lt_of_not_le whole), if_neg whole]
    exact answers_of_failed (by simp)

structure Call where
  chunk : List UInt8
  destLen : Nat

/-- A call that the decoder is made for: a chunk that is not empty and whose length fits, in an
`int` while the header is read and in an unsigned int anyway, and enough room for output. -/
structure Fits (format : Decoder UInt8 UInt8 State) (phase : Phase State) (call : Call) : Prop where
  present : call.chunk ≠ []
  chunkFits : call.chunk.length < 2 ^ 32
  headerFits : ∀ parser, phase = .header parser → call.chunk.length < 2 ^ 31
  destFits : call.destLen < 2 ^ 32
  enough : (phase.read format call.chunk).output.length ≤ phase.output.length + call.destLen

theorem uncompressAtMostOrAll_answers (inflates : Inflates zlib format at_)
    {object : ZLib Inflater Deflater} {phase : Phase State} {call : Call}
    (represents : Represents zlib at_ object phase) (fits : Fits format phase call) :
    Answers zlib at_ phase.output
      (object.uncompressAtMostOrAll zlib false call.destLen call.chunk .syncFlush)
      (phase.read format call.chunk) := by
  have enough := fits.enough
  cases phase with
  | header parser =>
    have header : InHeader object parser := represents
    rw [uncompressAtMostOrAll, header.first, if_pos rfl]
    simp only [header.mode.gzip, if_true]
    refine readHeader_answers inflates ?_ rfl (fits.headerFits parser rfl) fits.destFits ?_
    · exact ⟨header.mode.congr rfl header.mode.footerSize, rfl, header.parsed, header.pending,
        header.stream⟩
    · rwa [Phase.output, List.length_nil, Nat.zero_add] at enough
  | body state output =>
    have body : InBody zlib at_ object state output := represents
    rw [uncompressAtMostOrAll, body.notFirst, if_neg Bool.false_ne_true, body.footerBytes,
      if_neg (by decide)]
    rw [Phase.read, Phase.output_readBody, List.length_append] at enough
    exact uncompressSource_answers inflates body fits.present fits.chunkFits fits.destFits
      (Nat.le_of_add_le_add_left enough)
  | footer output kept =>
    have footer : InFooter zlib object output kept := represents
    rw [uncompressAtMostOrAll, footer.notFirst, if_neg Bool.false_ne_true, footer.footerBytes,
      if_pos (by omega)]
    exact readFooter_answers footer fits.chunkFits
  | refused output =>
    have loss : InLoss zlib object := represents
    exact .inl ⟨⟨output, rfl⟩, fun result called ok =>
      (uncompressAtMostOrAll_of_loss loss fits.chunkFits fits.destFits called ok).1⟩

/-- Where `UncompressChunkOrAll` goes well, it does what `UncompressAtMostOrAll` does. -/
theorem uncompressChunkOrAll_eq_of_ok {object : ZLib Inflater Deflater} {destLen : Nat}
    {source : List UInt8} {flexible : Bool} {flushMode : Flush}
    {result : Uncompressed Inflater Deflater} (ok : result.code = .ok) :
    object.uncompressChunkOrAll zlib flexible destLen source flushMode = some result ↔
      object.uncompressAtMostOrAll zlib flexible destLen source flushMode = some result := by
  rw [uncompressChunkOrAll, Option.map_eq_some_iff]
  constructor
  · rintro ⟨inner, called, same⟩
    split at same
    · rename_i full
      rw [← same, full] at ok
      cases ok
    · exact same ▸ called
  · exact fun called => ⟨result, called, if_neg (by rw [ok]; decide)⟩

/-- `UncompressChunkOrAll` answers as `UncompressAtMostOrAll` does. -/
theorem uncompressChunkOrAll_answers {object : ZLib Inflater Deflater} {destLen : Nat}
    {source earlier : List UInt8} {flushMode : Flush} {phase : Phase State}
    (answers : Answers zlib at_ earlier
      (object.uncompressAtMostOrAll zlib false destLen source flushMode) phase) :
    Answers zlib at_ earlier (object.uncompressChunkOrAll zlib false destLen source flushMode)
      phase := by
  rcases answers with ⟨refused, lost⟩ | ⟨result, called, went, represents, output⟩
  · exact .inl ⟨refused, fun result called ok =>
      lost result ((uncompressChunkOrAll_eq_of_ok ok).mp called) ok⟩
  · exact .inr ⟨result, (uncompressChunkOrAll_eq_of_ok went).mpr called, went, represents, output⟩

/-- One chunk takes the object from one phase to the next. -/
theorem uncompressChunk_answers (inflates : Inflates zlib format at_)
    {object : ZLib Inflater Deflater} {phase : Phase State} {call : Call}
    (represents : Represents zlib at_ object phase) (fits : Fits format phase call) :
    Answers zlib at_ phase.output (object.uncompressChunk zlib false call.destLen call.chunk)
      (phase.read format call.chunk) :=
  uncompressChunkOrAll_answers (uncompressAtMostOrAll_answers inflates represents fits)

end Fleetbench.Compression.ZLib
