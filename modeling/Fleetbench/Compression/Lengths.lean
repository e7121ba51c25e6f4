/-
This file is about the lengths that `Compress` and `Uncompress` accept. Lengths
that do not fit in an unsigned int are refused where a stream is prepared. In
gzip mode the header is parsed before that, with the length of the source as an
`int`: a call can end there, or abort. In the other modes a call can abort where
it reports what follows the end of the stream, whose length is an `int` as well.
-/

import Fleetbench.Compression.OneShot

namespace Fleetbench.Compression

open Library

namespace ZLib

variable {Inflater Deflater : Type} {zlib : WholeZlib Inflater Deflater}
  {object : ZLib Inflater Deflater}

/-! ### Calls that return -/

theorem inflateSetDictionary_counts (zlib : WholeZlib Inflater Deflater)
    (stream : ZStream Inflater) (dictionary : List UInt8) :
    (stream.inflateSetDictionary zlib.toZlib dictionary).2.totalIn = stream.totalIn ∧
      (stream.inflateSetDictionary zlib.toZlib dictionary).2.availIn = stream.availIn := by
  unfold ZStream.inflateSetDictionary
  split <;> exact ⟨rfl, rfl⟩

/-- Between two objects the input and the footer have been left alone, the count of what was read
can only have started again, and so can the chunks. -/
structure SameInput (before after : ZLib Inflater Deflater) : Prop where
  availIn : after.uncompStream.availIn = before.uncompStream.availIn
  totalIn : after.uncompStream.totalIn = before.uncompStream.totalIn ∨
    after.uncompStream.totalIn = 0
  footerBytes : after.gzipFooterBytes = before.gzipFooterBytes
  firstChunk : before.firstChunk = true → after.firstChunk = true

theorem SameInput.refl (object : ZLib Inflater Deflater) : SameInput object object :=
  ⟨rfl, .inl rfl, rfl, id⟩

theorem SameInput.trans {first second third : ZLib Inflater Deflater}
    (before : SameInput first second) (after : SameInput second third) : SameInput first third := by
  refine ⟨after.availIn.trans before.availIn, ?_, after.footerBytes.trans before.footerBytes,
    after.firstChunk ∘ before.firstChunk⟩
  rcases after.totalIn with same | again
  · rw [same]
    exact before.totalIn
  · exact .inr again

theorem sameInput_uncompressErrorInit (object : ZLib Inflater Deflater) :
    SameInput object object.uncompressErrorInit := by
  unfold uncompressErrorInit
  split <;> exact ⟨rfl, .inl rfl, rfl, fun _ => rfl⟩

theorem sameInput_inflateInit (zlib : WholeZlib Inflater Deflater)
    (object : ZLib Inflater Deflater) :
    SameInput object (object.inflateInit zlib.toZlib).2 := by
  unfold inflateInit ZStream.inflateInit2
  dsimp only
  split
  · split <;> exact ⟨rfl, .inr rfl, rfl, id⟩
  · split <;> exact ⟨rfl, .inl rfl, rfl, id⟩

theorem sameInput_resetUncomp (zlib : WholeZlib Inflater Deflater)
    (object : ZLib Inflater Deflater) :
    SameInput object (object.resetUncomp zlib.toZlib).2 := by
  unfold resetUncomp ZStream.inflateReset2
  dsimp only
  split
  · split <;> exact ⟨rfl, .inl rfl, rfl, id⟩
  · split <;> exact ⟨rfl, .inr rfl, rfl, id⟩

/-- Preparing the stream leaves its input alone. -/
theorem sameInput_prepareUncomp (zlib : WholeZlib Inflater Deflater)
    (object : ZLib Inflater Deflater) :
    SameInput object (object.prepareUncomp zlib.toZlib).2 := by
  have dropped {changed : Prop} [Decidable changed] :
      SameInput object (if changed then object.closeUncomp else object) := by
    split <;> exact ⟨rfl, .inl rfl, rfl, id⟩
  have reused (object : ZLib Inflater Deflater) : SameInput object
      (if object.uncompInit = true then
        if (object.resetUncomp zlib.toZlib).1 = .ok then (object.resetUncomp zlib.toZlib).2
        else (object.resetUncomp zlib.toZlib).2.uncompressErrorInit
      else object) := by
    have reset := sameInput_resetUncomp zlib object
    split
    · split
      · exact reset
      · exact reset.trans (sameInput_uncompressErrorInit _)
    · exact .refl object
  have started (object : ZLib Inflater Deflater) : SameInput object
      (if object.uncompInit = true then (.ok, object)
      else if (object.inflateInit zlib.toZlib).1 = .ok then
        (.ok, { (object.inflateInit zlib.toZlib).2 with uncompInit := true })
      else object.inflateInit zlib.toZlib : ZCode × ZLib Inflater Deflater).2 := by
    have opened := sameInput_inflateInit zlib object
    split
    · exact .refl object
    · split
      · exact ⟨opened.availIn, opened.totalIn, opened.footerBytes, opened.firstChunk⟩
      · exact opened
  exact dropped.trans ((reused _).trans (started _))

theorem SameInput.readable {before after : ZLib Inflater Deflater} (same : SameInput before after)
    (readable : before.uncompStream.totalIn < 2 ^ 64) : after.uncompStream.totalIn < 2 ^ 64 := by
  have total := same.totalIn
  omega

/-- What `UncompressInit` leaves for the calls of `inflate`, if it goes well: the whole source. -/
structure Loaded (before after : ZLib Inflater Deflater) (sourceLen : Nat) : Prop where
  availIn : after.uncompStream.availIn = sourceLen
  fits : sourceLen < 2 ^ 32
  footerBytes : after.gzipFooterBytes = before.gzipFooterBytes
  firstChunk : before.firstChunk = true → after.firstChunk = true

theorem uncompressInit_prepares (zlib : WholeZlib Inflater Deflater) (destLen sourceLen : Nat)
    (readable : object.uncompStream.totalIn < 2 ^ 64) :
    (object.uncompressInit zlib.toZlib destLen sourceLen).2.uncompStream.totalIn < 2 ^ 64 ∧
      ((object.uncompressInit zlib.toZlib destLen sourceLen).1 = .ok →
        Loaded object (object.uncompressInit zlib.toZlib destLen sourceLen).2 sourceLen) := by
  rw [uncompressInit_eq]
  split
  · exact ⟨readable, nofun⟩
  · rename_i short
    have narrowed : sourceLen % 2 ^ 32 = sourceLen := Decidable.not_not.mp short
    have fits : sourceLen < 2 ^ 32 := by omega
    split
    · exact ⟨readable, nofun⟩
    · split
      · have same := sameInput_prepareUncomp zlib (object.withUncompBuffers sourceLen destLen)
        exact ⟨same.readable readable, fun _ =>
          ⟨same.availIn.trans narrowed, fits, same.footerBytes, same.firstChunk⟩⟩
      · exact ⟨readable, fun _ => ⟨narrowed, fits, rfl, id⟩⟩

theorem presetDictionary_keeps (zlib : WholeZlib Inflater Deflater)
    (object : ZLib Inflater Deflater) :
    SameInput object (object.presetDictionary zlib.toZlib).2 ∧
      (object.presetDictionary zlib.toZlib).2.uncompStream.totalIn =
        object.uncompStream.totalIn := by
  unfold presetDictionary
  split
  · rename_i dictionary _
    split
    · obtain ⟨total, left⟩ := inflateSetDictionary_counts zlib object.uncompStream
        (dictionary.bytes.take object.settings.dictLen)
      dsimp only
      split
      · unfold uncompressErrorInit
        split <;> exact ⟨⟨left, .inl total, rfl, fun _ => rfl⟩, total⟩
      · exact ⟨⟨left, .inl total, rfl, id⟩, total⟩
    · exact ⟨.refl object, rfl⟩
  · exact ⟨.refl object, rfl⟩

/-! ### The calls of `inflate` -/

/-- The code and the stream behind the calls of `inflate`: there is a second one if zlib asks for
the dictionary, and nothing is left to say if it refuses that. -/
def inflateCalls (zlib : Zlib Inflater Deflater) (object : ZLib Inflater Deflater)
    (oldTotalIn : Nat) (source : List UInt8) (flushMode : Flush) :
    Option (ZCode × ZStream Inflater) :=
  let (err, _, stream) := object.uncompStream.inflate zlib source flushMode
  match object.settings.dictionary with
  | some dictionary =>
    if err = .needDict then
      let (err, stream) := stream.inflateSetDictionary zlib
        (dictionary.bytes.take object.settings.dictLen)
      if err ≠ .ok then none
      else
        let rest := source.drop ((stream.totalIn + 2 ^ 64 - oldTotalIn) % 2 ^ 64)
        let (err, _, stream) := stream.inflate zlib rest flushMode
        some (err, stream)
    else some (err, stream)
  | none => some (err, stream)

/-- From the stream that `UncompressInit` prepares, `inflate` comes to an end and leaves so much of
the source that its length is negative as an `int`. -/
def LeavesTooMuch (zlib : Zlib Inflater Deflater) (object : ZLib Inflater Deflater) (destLen : Nat)
    (source : List UInt8) (flushMode : Flush) : Prop :=
  ∃ prepared primed stream,
    object.uncompressInit zlib destLen source.length = (.ok, prepared) ∧
    prepared.presetDictionary zlib = (.ok, primed) ∧
    primed.inflateCalls zlib prepared.uncompStream.totalIn source flushMode =
      some (.streamEnd, stream) ∧
    2 ^ 31 ≤ stream.availIn

section Returns

variable (fits : FitsInput zlib.toZlib)

include fits

/-- What a stream counts in a call of `inflate`. -/
theorem inflate_counts {stream next : ZStream Inflater} {source output : List UInt8}
    {flushMode : Flush} {err : ZCode} (readable : stream.totalIn < 2 ^ 64)
    (called : stream.inflate zlib.toZlib source flushMode = (err, output, next)) :
    ∃ count ≤ stream.availIn, count ≤ source.length ∧
      next.totalIn = (stream.totalIn + count) % 2 ^ 64 ∧ next.availIn = stream.availIn - count := by
  unfold ZStream.inflate at called
  split at called
  · cases called
    exact ⟨0, Nat.zero_le _, Nat.zero_le _, (Nat.mod_eq_of_lt readable).symm, rfl⟩
  · rename_i state found
    cases called
    have count := fits state (source.take stream.availIn) stream.availOut flushMode
    rw [List.length_take] at count
    exact ⟨_, Nat.le_trans count (Nat.min_le_left _ _), Nat.le_trans count (Nat.min_le_right _ _),
      rfl, rfl⟩

/-- What the calls of `inflate` leave to `concludeInflate`: no more was read than there was. -/
structure Inflatable (object after : ZLib Inflater Deflater) (source : List UInt8) : Prop where
  footerBytes : after.gzipFooterBytes = object.gzipFooterBytes
  readable : after.uncompStream.totalIn < 2 ^ 64
  within : (after.uncompStream.totalIn + 2 ^ 64 - object.uncompStream.totalIn) % 2 ^ 64 ≤
    source.length
  availIn : after.uncompStream.availIn ≤ source.length

theorem inflateSource_cases (flexible : Bool) (oldTotalOut destLen : Nat) {source : List UInt8}
    {flushMode : Flush} (readable : object.uncompStream.totalIn < 2 ^ 64)
    (availIn : object.uncompStream.availIn = source.length) :
    (object.inflateCalls zlib.toZlib object.uncompStream.totalIn source flushMode = none ∧
      ∃ result, object.inflateSource zlib.toZlib flexible object.uncompStream.totalIn oldTotalOut
          destLen source flushMode = some result ∧
        result.object.uncompStream.totalIn < 2 ^ 64) ∨
    ∃ (after : ZLib Inflater Deflater) (written : List UInt8) (err : ZCode),
      object.inflateCalls zlib.toZlib object.uncompStream.totalIn source flushMode =
        some (err, after.uncompStream) ∧
      object.inflateSource zlib.toZlib flexible object.uncompStream.totalIn oldTotalOut destLen
          source flushMode =
        after.concludeInflate zlib.toZlib flexible object.uncompStream.totalIn oldTotalOut destLen
          source written err ∧
      Inflatable object after source := by
  unfold inflateSource inflateCalls
  rcases called : object.uncompStream.inflate zlib.toZlib source flushMode with
    ⟨err, written, stream⟩
  obtain ⟨count, few, -, total, left⟩ := inflate_counts fits readable called
  have readable' : stream.totalIn < 2 ^ 64 := total ▸ Nat.mod_lt _ (by decide)
  have within : (stream.totalIn + 2 ^ 64 - object.uncompStream.totalIn) % 2 ^ 64 ≤
      source.length := by
    omega
  have once : Inflatable object { object with uncompStream := stream } source :=
    ⟨rfl, readable', within, by show stream.availIn ≤ _; omega⟩
  dsimp only
  rcases given : object.settings.dictionary with _ | dictionary
  · exact .inr ⟨{ object with uncompStream := stream }, written, err, rfl, rfl, once⟩
  · dsimp only
    by_cases asks : err = .needDict
    · rw [if_pos asks, if_pos asks]
      obtain ⟨sameTotal, sameLeft⟩ := inflateSetDictionary_counts zlib stream
        (dictionary.bytes.take object.settings.dictLen)
      generalize stream.inflateSetDictionary zlib.toZlib
        (dictionary.bytes.take object.settings.dictLen) = preset at sameTotal sameLeft ⊢
      obtain ⟨code, primed⟩ := preset
      dsimp only at sameTotal sameLeft ⊢
      by_cases refused : code ≠ .ok
      · rw [if_pos refused, if_pos refused]
        refine .inl ⟨rfl, _, rfl, (sameInput_uncompressErrorInit _).readable ?_⟩
        exact sameTotal.trans_lt readable'
      · rw [if_neg refused, if_neg refused]
        rcases called' : primed.inflate zlib.toZlib
          (source.drop ((primed.totalIn + 2 ^ 64 - object.uncompStream.totalIn) % 2 ^ 64))
          flushMode with ⟨code', more, last⟩
        obtain ⟨count', few', short', total', left'⟩ :=
          inflate_counts fits (sameTotal.trans_lt readable') called'
        rw [List.length_drop] at short'
        refine .inr ⟨{ object with
          uncompStream := last
          initSettings.dictionary := some dictionary
          initSettings.dictLen := object.settings.dictLen }, written ++ more, code', rfl, rfl, rfl,
          total' ▸ Nat.mod_lt _ (by decide), ?_, ?_⟩
        · show (last.totalIn + 2 ^ 64 - object.uncompStream.totalIn) % 2 ^ 64 ≤ source.length
          omega
        · show last.availIn ≤ source.length
          omega
    · rw [if_neg asks, if_neg asks]
      exact .inr ⟨{ object with uncompStream := stream }, written, err, rfl, rfl, once⟩

omit fits in
/-- The check behind `inflate` goes well if no more was read than there was, unless too much is left
behind the end. -/
theorem concludeInflate_isSome {after : ZLib Inflater Deflater} {source : List UInt8}
    (inflatable : Inflatable object after source) {flexible : Bool} {oldTotalOut destLen : Nat}
    {written : List UInt8} {err : ZCode} (few : err = .streamEnd →
      flexible = true ∧ object.gzipFooterBytes < 8 ∨ after.uncompStream.availIn < 2 ^ 31) :
    ∃ result, after.concludeInflate zlib.toZlib flexible object.uncompStream.totalIn oldTotalOut
        destLen source written err = some result ∧
      result.object.uncompStream.totalIn < 2 ^ 64 := by
  obtain ⟨sameFooter, readable, within, -⟩ := inflatable
  have closed : after.uncompressErrorInit.uncompStream.totalIn < 2 ^ 64 :=
    (sameInput_uncompressErrorInit after).readable readable
  unfold concludeInflate
  dsimp only
  rw [if_neg (Nat.not_lt_of_le within)]
  split
  · exact ⟨_, rfl, readable⟩
  · rename_i noFooter
    split
    · exact ⟨_, rfl, readable⟩
    · split
      · rename_i ended
        have short : after.uncompStream.availIn < 2 ^ 31 := by
          refine (few ended.1).resolve_left fun lenient => noFooter ?_
          exact ⟨ended.1, .inr (sameFooter.trans_lt lenient.2), .inr lenient.1⟩
        rw [if_neg ((toInt_nonneg_iff _).mpr (by omega))]
        exact ⟨_, rfl, closed⟩
      · split
        · exact ⟨_, rfl, closed⟩
        · split <;> exact ⟨_, rfl, readable⟩

omit fits in
/-- The message about what is left aborts if there is too much of it. -/
theorem concludeInflate_aborts {after : ZLib Inflater Deflater}
    {oldTotalIn oldTotalOut destLen : Nat} {source written : List UInt8}
    (many : 2 ^ 31 ≤ after.uncompStream.availIn)
    (fit : after.uncompStream.availIn < 2 ^ 32) :
    after.concludeInflate zlib.toZlib false oldTotalIn oldTotalOut destLen source written
      .streamEnd = none := by
  have negative : toInt after.uncompStream.availIn < 0 :=
    Decidable.not_not.mp (mt (toInt_nonneg_iff _).mp (by omega))
  have excess : ¬ after.uncompStream.availIn ≤ 8 := by omega
  have extra : 0 < after.uncompStream.availIn := by omega
  unfold concludeInflate
  refine ite_eq_left_iff.mpr fun _ => ?_
  rw [if_neg (fun footer => footer.2.2.elim excess Bool.false_ne_true),
    if_neg (fun whole => extra.ne' whole.2), if_pos ⟨rfl, extra⟩, if_pos negative]

/-- Behind the calls of `inflate` a call returns unless too much is left. -/
theorem inflateSource_isSome {flexible : Bool} {oldTotalOut destLen : Nat} {source : List UInt8}
    {flushMode : Flush} (readable : object.uncompStream.totalIn < 2 ^ 64)
    (availIn : object.uncompStream.availIn = source.length)
    (few : flexible = true ∧ object.gzipFooterBytes < 8 ∨ source.length < 2 ^ 31 ∨
      ∀ stream, object.inflateCalls zlib.toZlib object.uncompStream.totalIn source flushMode =
        some (.streamEnd, stream) → stream.availIn < 2 ^ 31) :
    ∃ result, object.inflateSource zlib.toZlib flexible object.uncompStream.totalIn oldTotalOut
        destLen source flushMode = some result ∧
      result.object.uncompStream.totalIn < 2 ^ 64 := by
  have cases := @inflateSource_cases _ _ zlib object fits flexible oldTotalOut destLen source
    flushMode readable availIn
  rcases cases with ⟨-, returns⟩ | ⟨after, written, err, calls, same, inflatable⟩
  · exact returns
  · rw [same]
    refine concludeInflate_isSome inflatable ?_
    rintro rfl
    rcases few with lenient | short | left
    · exact .inl lenient
    · exact .inr (Nat.lt_of_le_of_lt inflatable.availIn short)
    · exact .inr (left _ calls)

theorem inflateSource_aborts {oldTotalOut destLen : Nat} {source : List UInt8} {flushMode : Flush}
    (readable : object.uncompStream.totalIn < 2 ^ 64)
    (availIn : object.uncompStream.availIn = source.length) (fit : source.length < 2 ^ 32)
    {stream : ZStream Inflater}
    (calls : object.inflateCalls zlib.toZlib object.uncompStream.totalIn source flushMode =
      some (.streamEnd, stream)) (many : 2 ^ 31 ≤ stream.availIn) :
    2 ^ 31 ≤ source.length ∧
      object.inflateSource zlib.toZlib false object.uncompStream.totalIn oldTotalOut destLen source
        flushMode = none := by
  have cases := @inflateSource_cases _ _ zlib object fits false oldTotalOut destLen source flushMode
    readable availIn
  rcases cases with ⟨none, -⟩ | ⟨after, written, err, calls', same, inflatable⟩
  · cases none.symm.trans calls
  · cases calls'.symm.trans calls
    rw [same]
    exact ⟨Nat.le_trans many inflatable.availIn,
      concludeInflate_aborts many (Nat.lt_of_le_of_lt inflatable.availIn fit)⟩

/-- From `UncompressInit` on, a call returns unless it reports too much behind the end. -/
theorem uncompressSource_isSome {flexible : Bool} {destLen : Nat} {source : List UInt8}
    {flushMode : Flush} (readable : object.uncompStream.totalIn < 2 ^ 64)
    (few : flexible = true ∧ object.gzipFooterBytes < 8 ∨ source.length < 2 ^ 31 ∨
      2 ^ 32 ≤ source.length ∨ object.firstChunk = true ∧
        ¬ object.LeavesTooMuch zlib.toZlib destLen source flushMode) :
    ∃ result, object.uncompressSource zlib.toZlib flexible destLen source flushMode = some result ∧
      result.object.uncompStream.totalIn < 2 ^ 64 := by
  obtain ⟨readable', prepares⟩ := uncompressInit_prepares zlib destLen source.length readable
  unfold uncompressSource
  rcases init : object.uncompressInit zlib.toZlib destLen source.length with ⟨err, prepared⟩
  rw [init] at readable' prepares
  dsimp only at readable' prepares ⊢
  by_cases failed : err ≠ .ok
  · rw [if_pos failed]
    exact ⟨_, rfl, readable'⟩
  · rw [if_neg failed]
    obtain rfl : err = .ok := Decidable.not_not.mp failed
    obtain ⟨availIn, fit, footerBytes, first⟩ := prepares rfl
    split
    · obtain ⟨same, total⟩ := presetDictionary_keeps zlib prepared
      rcases preset : prepared.presetDictionary zlib.toZlib with ⟨code, primed⟩
      rw [preset] at same total
      dsimp only at same total ⊢
      rw [← total] at readable' ⊢
      by_cases refused : code ≠ .ok
      · rw [if_pos refused]
        exact ⟨_, rfl, readable'⟩
      · rw [if_neg refused]
        obtain rfl : code = .ok := Decidable.not_not.mp refused
        split
        · exact ⟨_, rfl, readable'⟩
        · have returns := fun readable availIn =>
            @inflateSource_isSome _ _ zlib { primed with firstChunk := false } fits flexible
              prepared.uncompStream.totalOut destLen source flushMode readable availIn
          refine returns readable' (same.availIn.trans availIn) ?_
          rcases few with lenient | short | long | ⟨-, few⟩
          · exact .inl ⟨lenient.1, (same.footerBytes.trans footerBytes).trans_lt lenient.2⟩
          · exact .inr (.inl short)
          · exact absurd fit (Nat.not_lt_of_le long)
          · refine .inr (.inr fun stream calls => ?_)
            by_contra many
            exact few ⟨prepared, primed, stream, init, preset, total ▸ calls, Nat.not_lt.mp many⟩
    · rename_i later
      refine inflateSource_isSome fits readable' availIn ?_
      rcases few with lenient | short | long | ⟨begins, -⟩
      · exact .inl ⟨lenient.1, footerBytes.trans_lt lenient.2⟩
      · exact .inr (.inl short)
      · exact absurd fit (Nat.not_lt_of_le long)
      · exact absurd (first begins) later

/-- It aborts where it does so. -/
theorem uncompressSource_aborts {destLen : Nat} {source : List UInt8} {flushMode : Flush}
    (begins : object.firstChunk = true) (readable : object.uncompStream.totalIn < 2 ^ 64)
    (many : object.LeavesTooMuch zlib.toZlib destLen source flushMode) :
    object.uncompressSource zlib.toZlib false destLen source flushMode = none := by
  obtain ⟨prepared, primed, stream, init, preset, calls, many⟩ := many
  obtain ⟨readable', prepares⟩ := uncompressInit_prepares zlib destLen source.length readable
  rw [init] at readable' prepares
  obtain ⟨availIn, fit, -, first⟩ := prepares rfl
  obtain ⟨same, total⟩ := presetDictionary_keeps zlib prepared
  rw [preset] at same total
  dsimp only at readable' availIn same total
  rw [← total] at readable' calls
  have aborts := fun readable availIn =>
    @inflateSource_aborts _ _ zlib { primed with firstChunk := false } fits
      prepared.uncompStream.totalOut destLen source flushMode readable availIn fit stream calls many
  obtain ⟨long, aborted⟩ := aborts readable' (same.availIn.trans availIn)
  have nonempty : source.length ≠ 0 := by omega
  unfold uncompressSource
  rw [init]
  dsimp only
  rw [if_neg (not_not_intro rfl), if_pos (first begins), preset]
  dsimp only
  rw [if_neg (not_not_intro rfl), if_neg nonempty, ← total]
  exact aborted

/-- The call at the end does not parse a header, so it returns. -/
theorem uncompressChunkDone_isSome {flexible : Bool}
    (readable : object.uncompStream.totalIn < 2 ^ 64) :
    (object.uncompressChunkDone zlib.toZlib flexible).isSome = true := by
  unfold uncompressChunkDone
  split
  · rfl
  · rename_i running
    have later : ¬ object.firstChunk = true := fun first => running (.inl first)
    rw [Option.isSome_map]
    unfold uncompressChunkOrAll uncompressAtMostOrAll
    rw [Option.isSome_map, if_neg later]
    split
    · unfold readFooter
      dsimp only
      split <;> rfl
    · obtain ⟨result, called, -⟩ := @uncompressSource_isSome _ _ zlib object fits flexible 0 []
        .finish readable (.inr (.inl (by decide)))
      rw [called]
      rfl

/-- A first call does not come to an abort: not in `GZipHeader::ReadMore`, where the length of the
source must not be negative as an `int`, and not where it reports what is left behind the end. -/
def AbortsNowhere (zlib : Zlib Inflater Deflater) (flexible : Bool)
    (object : ZLib Inflater Deflater) (destLen : Nat) (source : List UInt8) (flushMode : Flush) :
    Prop :=
  (object.settings.gzipHeaderMode = true → source.length % 2 ^ 32 < 2 ^ 31) ∧
    (object.settings.gzipHeaderMode = false → flexible = false →
      ¬ { object with gzipFooterBytes := -1 }.LeavesTooMuch zlib destLen source flushMode)

theorem uncompressAtMostOrAll_isSome {flexible : Bool} {destLen : Nat} {source : List UInt8}
    {flushMode : Flush} (first : object.firstChunk = true)
    (readable : object.uncompStream.totalIn < 2 ^ 64)
    (nowhere : AbortsNowhere zlib.toZlib flexible object destLen source flushMode) :
    ∃ result,
      object.uncompressAtMostOrAll zlib.toZlib flexible destLen source flushMode = some result ∧
        result.object.uncompStream.totalIn < 2 ^ 64 := by
  obtain ⟨positive, few⟩ := nowhere
  unfold uncompressAtMostOrAll
  rw [if_pos first]
  dsimp only
  split
  · rename_i gzip
    have nonneg := (toInt_nonneg_iff source.length).mpr (positive gzip)
    unfold readHeader GZipHeader.readMore
    rw [if_neg nonneg]
    dsimp only
    generalize object.gzipHeader.readLoop (source.take (toInt source.length).toNat) = parsed
    obtain ⟨header, status⟩ := parsed
    cases status with
    | incompleteHeader => exact ⟨_, rfl, readable⟩
    | invalidHeader => exact ⟨_, rfl, readable⟩
    | completeHeader beyond =>
      -- What follows the header is short, or so long that `UncompressInit` refuses it.
      refine uncompressSource_isSome fits readable (.inr ?_)
      have length : (toInt source.length).toNat = source.length % 2 ^ 32 := by
        unfold toInt
        rw [if_pos (positive gzip), Int.toNat_natCast]
      have below := positive gzip
      rw [List.length_drop, length, ← or_assoc]
      exact .inl (by omega)
  · rename_i plain
    refine uncompressSource_isSome fits readable ?_
    cases flexible with
    | true => exact .inl ⟨rfl, by show (-1 : Int) < 8; decide⟩
    | false => exact .inr (.inr (.inr ⟨first, few (Bool.eq_false_iff.mpr plain) rfl⟩))

theorem uncompressAtMostOrAll_aborts {flexible : Bool} {destLen : Nat} {source : List UInt8}
    {flushMode : Flush} (first : object.firstChunk = true)
    (readable : object.uncompStream.totalIn < 2 ^ 64)
    (somewhere : ¬ AbortsNowhere zlib.toZlib flexible object destLen source flushMode) :
    object.uncompressAtMostOrAll zlib.toZlib flexible destLen source flushMode = none := by
  unfold uncompressAtMostOrAll
  rw [if_pos first]
  dsimp only
  by_cases gzip : object.settings.gzipHeaderMode = true
  · have negative : ¬ source.length % 2 ^ 32 < 2 ^ 31 := fun positive =>
      somewhere ⟨fun _ => positive, fun plain => absurd gzip (Bool.eq_false_iff.mp plain)⟩
    rw [if_pos gzip]
    unfold readHeader GZipHeader.readMore
    rw [if_pos (Decidable.not_not.mp (mt (toInt_nonneg_iff _).mp negative))]
  · rw [if_neg gzip]
    cases flexible with
    | true => exact absurd ⟨fun gzip' => absurd gzip' gzip, nofun⟩ somewhere
    | false =>
      have many : { object with gzipFooterBytes := -1 }.LeavesTooMuch zlib.toZlib destLen source
          flushMode := by
        by_contra few
        exact somewhere ⟨fun gzip' => absurd gzip' gzip, fun _ _ => few⟩
      exact uncompressSource_aborts fits first readable many

/-- `Uncompress` returns exactly when its first call does not come to an abort. -/
theorem uncompress_isSome_iff {flexible : Bool} {destLen : Nat} {source : List UInt8}
    (first : object.firstChunk = true) (readable : object.uncompStream.totalIn < 2 ^ 64) :
    (object.uncompress zlib flexible destLen source).isSome = true ↔
      AbortsNowhere zlib.toZlib flexible object destLen source .finish := by
  constructor
  · intro returns
    by_contra somewhere
    have aborts := uncompressAtMostOrAll_aborts fits first readable somewhere
    unfold uncompress uncompressChunkOrAll at returns
    rw [aborts] at returns
    cases returns
  · intro nowhere
    obtain ⟨result, called, readable'⟩ : ∃ result,
        object.uncompressChunkOrAll zlib.toZlib flexible destLen source .finish = some result ∧
          result.object.uncompStream.totalIn < 2 ^ 64 := by
      obtain ⟨result, called, readable'⟩ :=
        uncompressAtMostOrAll_isSome fits first readable nowhere
      refine ⟨_, congrArg (Option.map _) called, ?_⟩
      dsimp only
      split
      · exact (sameInput_uncompressErrorInit _).readable readable'
      · exact readable'
    unfold uncompress
    rw [called, Option.bind_some]
    split
    · rfl
    · rw [Option.isSome_map]
      exact uncompressChunkDone_isSome fits readable'

end Returns

/-! ### Lengths that do not fit -/

/-- One of the lengths does not fit in an unsigned int. -/
def Oversized (destLen sourceLen : Nat) : Prop :=
  2 ^ 32 ≤ destLen ∨ 2 ^ 32 ≤ sourceLen

theorem compressInit_oversized (zlib : WholeZlib Inflater Deflater) {destLen sourceLen : Nat}
    (oversized : Oversized destLen sourceLen) :
    (object.compressInit zlib destLen sourceLen).1 = .bufError := by
  rw [compressInit_eq]
  unfold Oversized at oversized
  split
  · rfl
  · split
    · rfl
    · omega

/-- `Compress` refuses them in every mode. -/
theorem compress_oversized (zlib : WholeZlib Inflater Deflater) {destLen : Nat}
    {source : List UInt8} (oversized : Oversized destLen source.length) :
    (object.compress zlib destLen source).code = .bufError := by
  have refused := @compressInit_oversized _ _ object zlib _ _ oversized
  have code : (object.compressAtMostOrAll zlib destLen source .finish).code = .bufError := by
    unfold compressAtMostOrAll
    generalize object.compressInit zlib destLen source.length = prepared at refused
    obtain ⟨err, prepared⟩ := prepared
    obtain rfl : err = .bufError := refused
    rfl
  have code' : (object.compressChunkOrAll zlib destLen source .finish).code = .bufError := by
    unfold compressChunkOrAll
    dsimp only
    rw [if_pos code]
    exact code
  unfold compress
  dsimp only
  rw [if_pos (by rw [code']; nofun)]
  exact code'

/-- So does the part of `Uncompress` behind the header. -/
theorem uncompressSource_oversized (zlib : WholeZlib Inflater Deflater) {flexible : Bool}
    {destLen : Nat} {source : List UInt8} {flushMode : Flush}
    (oversized : Oversized destLen source.length) : ∃ result,
    object.uncompressSource zlib.toZlib flexible destLen source flushMode = some result ∧
      result.code = .bufError := by
  have refused : (object.uncompressInit zlib.toZlib destLen source.length).1 = .bufError := by
    rw [uncompressInit_eq]
    unfold Oversized at oversized
    split
    · rfl
    · split
      · rfl
      · omega
  unfold uncompressSource
  generalize object.uncompressInit zlib.toZlib destLen source.length = prepared at refused
  obtain ⟨err, prepared⟩ := prepared
  obtain rfl : err = .bufError := refused
  exact ⟨_, rfl, rfl⟩

/-- An error of the first call is the one that `Uncompress` returns. -/
theorem uncompress_of_failed (zlib : WholeZlib Inflater Deflater) {flexible : Bool} {destLen : Nat}
    {source : List UInt8} {result : Uncompressed Inflater Deflater}
    (called : object.uncompressAtMostOrAll zlib.toZlib flexible destLen source .finish =
      some result) (failed : result.code ≠ .ok) : ∃ result',
    object.uncompress zlib flexible destLen source = some result' ∧ result'.code = result.code := by
  obtain ⟨chunk, called', code⟩ : ∃ chunk,
      object.uncompressChunkOrAll zlib.toZlib flexible destLen source .finish = some chunk ∧
        chunk.code = result.code := by
    refine ⟨_, congrArg (Option.map _) called, ?_⟩
    dsimp only
    split <;> rfl
  unfold uncompress
  rw [called', Option.bind_some, if_pos (code ▸ failed)]
  exact ⟨_, rfl, code⟩

/-- The bytes complete the header that the parser is reading. -/
def HeaderComplete (parser : GZipHeader) (bytes : List UInt8) : Prop :=
  ∃ beyond, (parser.readLoop bytes).2 = .completeHeader beyond

/-- The first chunk in gzip mode, given what its header is read as. -/
theorem uncompressAtMostOrAll_gzip (zlib : WholeZlib Inflater Deflater) (flexible : Bool)
    (destLen : Nat) {source : List UInt8} (first : object.firstChunk = true)
    (gzip : object.settings.gzipHeaderMode = true)
    (positive : source.length % 2 ^ 32 < 2 ^ 31) (header : GZipHeader)
    (status : GZipHeader.Status) :
    object.gzipHeader.readLoop (source.take (source.length % 2 ^ 32)) = (header, status) →
    object.uncompressAtMostOrAll zlib.toZlib flexible destLen source .finish =
      match status with
      | .incompleteHeader =>
        some ⟨.ok, [], 0, 0, { object with gzipFooterBytes := -1, gzipHeader := header }⟩
      | .invalidHeader =>
        some ⟨.dataError, [], destLen, source.length,
          { object with gzipFooterBytes := -1, gzipHeader := header }.reset⟩
      | .completeHeader beyond =>
        { object with
          gzipFooterBytes := -1
          gzipHeader := header
          crc := zlib.crc32 0 [] }.uncompressSource zlib.toZlib flexible destLen
          (source.drop (source.length % 2 ^ 32 - beyond.length)) .finish := by
  have length : (toInt source.length).toNat = source.length % 2 ^ 32 := by
    unfold toInt
    rw [if_pos positive, Int.toNat_natCast]
  intro parsed
  unfold uncompressAtMostOrAll readHeader GZipHeader.readMore
  rw [if_pos first]
  dsimp only
  rw [if_pos gzip, if_neg ((toInt_nonneg_iff _).mpr positive), length]
  cases status <;> rw [parsed]

/-- In gzip mode the refusal comes behind a complete header only. -/
theorem uncompress_gzip_oversized_iff {flexible : Bool} {destLen : Nat} {source : List UInt8}
    (first : object.firstChunk = true) (gzip : object.settings.gzipHeaderMode = true)
    (positive : source.length % 2 ^ 32 < 2 ^ 31) (oversized : Oversized destLen source.length) :
    (∃ result, object.uncompress zlib flexible destLen source = some result ∧
        result.code = .bufError) ↔
      HeaderComplete object.gzipHeader (source.take (source.length % 2 ^ 32)) := by
  unfold HeaderComplete
  rcases parsed : object.gzipHeader.readLoop (source.take (source.length % 2 ^ 32)) with
    ⟨header, status⟩
  have called :=
    uncompressAtMostOrAll_gzip zlib flexible destLen first gzip positive header status parsed
  cases status with
  | incompleteHeader =>
    constructor
    · rintro ⟨result, returned, code⟩
      unfold uncompress uncompressChunkOrAll at returned
      rw [called, Option.map_some, if_neg (by simp), Option.bind_some,
        if_neg (by simp)] at returned
      unfold uncompressChunkDone at returned
      rw [if_pos (.inl first)] at returned
      cases returned
      cases code
    · rintro ⟨beyond, complete⟩
      cases complete
  | invalidHeader =>
    constructor
    · rintro ⟨result, returned, code⟩
      obtain ⟨result', returned', code'⟩ := uncompress_of_failed zlib called (by simp)
      cases returned.symm.trans returned'
      cases code.symm.trans code'
    · rintro ⟨beyond, complete⟩
      cases complete
  | completeHeader beyond =>
    refine ⟨fun _ => ⟨beyond, rfl⟩, fun _ => ?_⟩
    have rest : Oversized destLen
        (source.drop (source.length % 2 ^ 32 - beyond.length)).length := by
      unfold Oversized at oversized ⊢
      rw [List.length_drop]
      omega
    obtain ⟨result, refused, code⟩ := uncompressSource_oversized zlib rest
    obtain ⟨result', returned, code'⟩ :=
      uncompress_of_failed zlib (called.trans refused) (by simp [code])
    exact ⟨result', returned, code'.trans code⟩

/-- The documented contract: lengths that do not fit in an unsigned int are refused with
`Z_BUF_ERROR`, and no lengths abort the process. -/
structure LengthContract (zlib : WholeZlib Inflater Deflater) (flexible : Bool)
    (object : ZLib Inflater Deflater) (destLen : Nat) (source : List UInt8) : Prop where
  compress : Oversized destLen source.length →
    (object.compress zlib destLen source).code = .bufError
  uncompress : Oversized destLen source.length → ∃ result,
    object.uncompress zlib flexible destLen source = some result ∧ result.code = .bufError
  returns : (object.uncompress zlib flexible destLen source).isSome = true

theorem fitsInput_storedZlib : FitsInput storedZlib.toZlib :=
  inflateWith_consumed storedFormat

/-- A new object in raw mode. -/
def rawObject : ZLib StoredState StoredDeflater :=
  { ZLib.new storedZlib.toZlib with settings.noHeaderMode := true }

/-- An empty stored block with 2 GiB behind it. -/
theorem leavesTooMuch_storedBlock {rest : List UInt8} (length : rest.length = 2147483648) :
    rawObject.LeavesTooMuch storedZlib.toZlib 100 (storedBlock true [] ++ rest) .finish := by
  have ended := @feed_storedBlock true [] (by decide) rest
  have few : ([] : List UInt8).length ≤ 100 := by decide
  obtain ⟨next, call⟩ := inflateFrom_last ended few
  have block : (storedBlock true []).length = 5 := rfl
  have source : (storedBlock true [] ++ rest).length = 2147483653 := by
    rw [List.length_append, block, length]
  have inflated : inflateWith storedFormat .block
      ((storedBlock true [] ++ rest).take 2147483653) 100 .finish =
        ⟨.streamEnd, 5, [], next⟩ := by
    rw [List.take_of_length_le (Nat.le_of_eq source)]
    rw [source, length] at call
    unfold inflateWith
    rw [call]
    exact if_neg (by simp)
  generalize storedBlock true [] ++ rest = bytes at source inflated
  have called : ZStream.inflate storedZlib.toZlib ⟨some .block, 2147483653, 100, 0, 0⟩ bytes
      .finish = (.streamEnd, [], ⟨some next, 2147483648, 100, 5, 0⟩) := by
    unfold ZStream.inflate
    dsimp only
    rw [show storedZlib.inflate .block (bytes.take 2147483653) 100 .finish = _ from inflated]
    rfl
  let prepared := (rawObject.uncompressInit storedZlib.toZlib 100 2147483653).2
  refine ⟨prepared, prepared, ⟨some next, 2147483648, 100, 5, 0⟩, ?_, rfl, ?_, Nat.le_refl _⟩
  · rw [source]
    rfl
  · exact congrArg (fun answer => some (answer.1, answer.2.2)) called

end ZLib

end Fleetbench.Compression
