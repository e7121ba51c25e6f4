/-
This file is about calls that compress or uncompress a whole buffer. Each of
them leaves the object before a first chunk, so that the next one does what it
would do alone, except for one: uncompressing a buffer that ends inside the
gzip header leaves the parser of the header there.
-/

import Fleetbench.Compression.HeaderLayout
import Fleetbench.Compression.Reinit

namespace Fleetbench.Compression

open Library

/-- What `inflate` says at the end of the input: asked for the end of the stream it either reaches
the end or fails, and a stream that has read nothing does not end. -/
structure WholeZlib.Finishes {Inflater Deflater : Type} (zlib : WholeZlib Inflater Deflater) :
    Prop where
  finish : ∀ stream input room, (zlib.inflate stream input room .finish).code ≠ .ok
  start : ∀ windowBits fresh room flushMode, zlib.inflateInit2 windowBits = .ok fresh →
    (zlib.inflate fresh [] room flushMode).code ≠ .streamEnd

namespace ZLib

variable {Inflater Deflater : Type} {zlib : WholeZlib Inflater Deflater}
  {opened : Deflater → Parameters → Prop} {object : ZLib Inflater Deflater}

/-! ### Between two calls -/

/-- The object is before a first chunk, and before the header. -/
structure Rested (object : ZLib Inflater Deflater) : Prop where
  firstChunk : object.firstChunk = true
  gzipHeader : object.gzipHeader = .fresh

theorem rested_reset (object : ZLib Inflater Deflater) : object.reset.Rested :=
  ⟨rfl, rfl⟩

theorem rested_compressErrorInit (object : ZLib Inflater Deflater) :
    object.compressErrorInit.Rested :=
  rested_reset _

theorem rested_uncompressErrorInit (object : ZLib Inflater Deflater) :
    object.uncompressErrorInit.Rested :=
  rested_reset _

/-! ### Compression -/

/-- A call that failed for another reason than space has reset the object. -/
def Compressed.Rests (result : Compressed Inflater Deflater) : Prop :=
  result.code = .ok ∨ result.code = .bufError ∨ result.object.Rested

theorem concludeDeflate_rests (zlib : WholeZlib Inflater Deflater)
    (object : ZLib Inflater Deflater) (earlier : Int) (destLen : Nat)
    (source written : List UInt8) (err : ZCode) :
    (object.concludeDeflate zlib earlier destLen source written err).Rests := by
  unfold concludeDeflate Compressed.Rests
  dsimp only
  split
  · rename_i whole
    rcases whole.1 with rfl | rfl
    · exact .inl rfl
    · exact .inl rfl
  · split
    · exact .inr (.inl rfl)
    · split
      · exact .inr (.inr (rested_compressErrorInit _))
      · split
        · exact .inr (.inl rfl)
        · rename_i known _
          by_cases ended : err = .streamEnd
          · rw [if_pos ended]
            exact .inl rfl
          · rw [if_neg ended]
            by_cases succeeded : err = .ok
            · exact .inl succeeded
            · exact .inr (.inl (Decidable.not_not.mp fun other => known ⟨succeeded, ended, other⟩))

section Compress

variable (reuses : zlib.Reuses opened) (compOpen : object.CompOpen opened)
  (rested : object.Rested) (noDictionary : object.settings.dictionary = none)

include reuses compOpen rested noDictionary

theorem compressAtMostOrAll_rests (destLen : Nat) (source : List UInt8) (flushMode : Flush) :
    (object.compressAtMostOrAll zlib destLen source flushMode).Rests := by
  have kept := (compressInit_prepares reuses.maintains reuses.honest compOpen destLen
    source.length).1
  unfold compressAtMostOrAll
  dsimp only
  generalize object.compressInit zlib destLen source.length = prepared at kept
  have first := kept.firstChunk.trans rested.firstChunk
  split
  · exact .inr (.inr ⟨first, kept.gzipHeader.trans rested.gzipHeader⟩)
  · split
    · exact .inr (.inl rfl)
    · rename_i header between started
      have begun : prepared.2.KeptByCompression between ∧
          (prepared.2.CompOpen opened → between.CompOpen opened) ∧
          between.compInit = prepared.2.compInit := startGzip_prepares started
      have dictionary : between.settings.dictionary = none := by
        rw [begun.1.settings, kept.kept.settings]
        exact noDictionary
      rw [startDictionary_none zlib dictionary, if_neg (not_not_intro rfl)]
      exact concludeDeflate_rests zlib _ _ _ _ _ _

theorem compress_rests (destLen : Nat) (source : List UInt8) :
    (object.compress zlib destLen source).object.Rested := by
  have rests := compressAtMostOrAll_rests reuses compOpen rested noDictionary destLen source .finish
  unfold compress compressChunkOrAll
  dsimp only
  split
  · rename_i full
    rw [if_pos (by rw [full]; nofun)]
    exact rested_compressErrorInit _
  · rename_i other
    split
    · rename_i failed
      exact (rests.resolve_left failed).resolve_left other
    · rw [finish_object]
      exact rested_reset _

end Compress

/-! ### Decompression -/

theorem inflate_ne_ok (finishes : zlib.Finishes) (stream : ZStream Inflater)
    (source : List UInt8) : (stream.inflate zlib.toZlib source .finish).1 ≠ .ok := by
  unfold ZStream.inflate
  cases stream.state with
  | none => nofun
  | some state => exact finishes.finish _ _ _

/-- Without a dictionary `inflate` is called once. -/
theorem inflateSource_once (zlib : Zlib Inflater Deflater)
    (noDictionary : object.settings.dictionary = none) (flexible : Bool)
    (oldTotalIn oldTotalOut destLen : Nat) (source : List UInt8) (flushMode : Flush) :
    object.inflateSource zlib flexible oldTotalIn oldTotalOut destLen source flushMode =
      ({ object with uncompStream := (object.uncompStream.inflate zlib source flushMode).2.2 } :
        ZLib Inflater Deflater).concludeInflate zlib flexible oldTotalIn oldTotalOut destLen source
        (object.uncompStream.inflate zlib source flushMode).2.1
        (object.uncompStream.inflate zlib source flushMode).1 := by
  unfold inflateSource
  dsimp only
  rw [noDictionary]

/-- A call that went well has read the end of the stream. -/
theorem concludeInflate_ends {flexible : Bool} {oldTotalIn oldTotalOut destLen : Nat}
    {source written : List UInt8} {err : ZCode} {result : Uncompressed Inflater Deflater}
    (footer : object.gzipFooterBytes = -1) (finished : err ≠ .ok)
    (concluded : object.concludeInflate zlib.toZlib flexible oldTotalIn oldTotalOut destLen source
      written err = some result) (succeeded : result.code = .ok) :
    result.object.firstChunk = object.firstChunk ∧ 0 ≤ result.object.gzipFooterBytes := by
  unfold concludeInflate at concluded
  dsimp only at concluded
  split at concluded
  · cases concluded
  · split at concluded
    · cases concluded
      exact ⟨rfl, Int.natCast_nonneg _⟩
    · rename_i within noEnd
      have noEnd' (ended : err = .streamEnd) : object.uncompStream.availIn ≠ 0 := fun empty =>
        noEnd ⟨ended, .inl footer, .inl (empty ▸ Nat.zero_le 8)⟩
      split at concluded
      · rename_i whole
        exact absurd whole.2 (noEnd' (whole.1.resolve_right finished))
      · split at concluded
        · split at concluded
          · cases concluded
          · cases concluded
            cases succeeded
        · rename_i noExcess
          split at concluded
          · cases concluded
            exact absurd succeeded finished
          · split at concluded
            · cases concluded
              cases succeeded
            · cases concluded
              have ended : err = .streamEnd := Classical.byContradiction fun other => by
                dsimp only at succeeded
                rw [if_neg fun both => other both.1] at succeeded
                exact finished succeeded
              exact absurd ⟨ended, Nat.pos_of_ne_zero (noEnd' ended)⟩ noExcess

/-- Nor has `inflate` been asked for less. -/
theorem inflateSource_ends (finishes : zlib.Finishes)
    (noDictionary : object.settings.dictionary = none) (footer : object.gzipFooterBytes = -1)
    {flexible : Bool} {oldTotalIn oldTotalOut destLen : Nat} {source : List UInt8}
    {result : Uncompressed Inflater Deflater}
    (uncompressed : object.inflateSource zlib.toZlib flexible oldTotalIn oldTotalOut destLen source
      .finish = some result) (succeeded : result.code = .ok) :
    result.object.firstChunk = object.firstChunk ∧ 0 ≤ result.object.gzipFooterBytes := by
  rw [inflateSource_once zlib.toZlib noDictionary] at uncompressed
  have finished := inflate_ne_ok finishes object.uncompStream source
  generalize object.uncompStream.inflate zlib.toZlib source .finish = inflated
    at uncompressed finished
  have ends := fun footer => concludeInflate_ends footer finished uncompressed succeeded
  exact ends footer

/-- The stream has not been read from. -/
def AtStart (zlib : WholeZlib Inflater Deflater) (object : ZLib Inflater Deflater) : Prop :=
  ∃ windowBits fresh, zlib.inflateInit2 windowBits = .ok fresh ∧
    object.uncompStream.state = some fresh

/-- Inside a sequence, either the footer is to be read or nothing has been read. -/
structure Closable (zlib : WholeZlib Inflater Deflater) (object : ZLib Inflater Deflater) :
    Prop where
  firstChunk : object.firstChunk = false
  read : 0 ≤ object.gzipFooterBytes ∨ object.AtStart zlib

section Uncompress

variable (reuses : zlib.Reuses opened) (finishes : zlib.Finishes)
  (uncompOpen : object.UncompOpen) (noDictionary : object.settings.dictionary = none)

include reuses uncompOpen

theorem uncompressInit_starts (first : object.firstChunk = true) {destLen sourceLen : Nat}
    (succeeded : (object.uncompressInit zlib.toZlib destLen sourceLen).1 = .ok) :
    (object.uncompressInit zlib.toZlib destLen sourceLen).2.AtStart zlib ∧
      (object.uncompressInit zlib.toZlib destLen sourceLen).2.gzipFooterBytes =
        object.gzipFooterBytes ∧
      (object.uncompressInit zlib.toZlib destLen sourceLen).2.settings = object.settings ∧
      (object.uncompressInit zlib.toZlib destLen sourceLen).2.firstChunk = true := by
  have uncompOpen' : (object.withUncompBuffers sourceLen destLen).UncompOpen := uncompOpen
  have prepared := prepareUncomp_fresh reuses uncompOpen'
  rw [uncompressInit_eq] at succeeded ⊢
  split at succeeded
  · cases succeeded
  · rename_i whole
    rw [if_neg whole]
    split at succeeded
    · cases succeeded
    · rename_i fits
      rw [if_neg fits, if_pos first]
      unfold PreparedUncomp at prepared
      cases started : zlib.inflateInit2 (object.withUncompBuffers sourceLen destLen).wbits with
      | ok fresh =>
        rw [started] at prepared
        rw [prepared]
        exact ⟨⟨_, fresh, started, rfl⟩, rfl, rfl, first⟩
      | error code =>
        rw [started] at prepared
        obtain ⟨failed, stream, same⟩ := prepared
        rw [same] at succeeded
        exact absurd succeeded failed

include finishes noDictionary

theorem uncompressSource_closes (first : object.firstChunk = true)
    (footer : object.gzipFooterBytes = -1) {flexible : Bool} {destLen : Nat} {source : List UInt8}
    {result : Uncompressed Inflater Deflater}
    (uncompressed : object.uncompressSource zlib.toZlib flexible destLen source .finish =
      some result) (succeeded : result.code = .ok) : Closable zlib result.object := by
  unfold uncompressSource at uncompressed
  dsimp only at uncompressed
  split at uncompressed
  · rename_i failed
    cases uncompressed
    exact absurd succeeded failed
  · rename_i ready
    obtain ⟨atStart, footer', settings, first'⟩ :=
      uncompressInit_starts reuses uncompOpen first (Decidable.not_not.mp ready)
    generalize object.uncompressInit zlib.toZlib destLen source.length = prepared
      at uncompressed atStart footer' settings first'
    have preset : prepared.2.presetDictionary zlib.toZlib = (.ok, prepared.2) := by
      unfold presetDictionary
      rw [settings, noDictionary]
    rw [if_pos first', preset, if_neg (not_not_intro rfl)] at uncompressed
    split at uncompressed
    · cases uncompressed
      exact ⟨rfl, .inr atStart⟩
    · have ends := fun noDictionary footer =>
        inflateSource_ends finishes noDictionary footer uncompressed succeeded
      obtain ⟨later, read⟩ := ends (settings ▸ noDictionary) (footer'.trans footer)
      exact ⟨later, .inl read⟩

/-- The first of the two calls of `Uncompress`. -/
theorem uncompressAtMostOrAll_closes (rested : object.Rested) {flexible : Bool} {destLen : Nat}
    {source : List UInt8} (short : source.length < 2 ^ 31)
    (whole : object.settings.gzipHeaderMode = true → Continues GZipHeader.Layout source →
      source = []) {result : Uncompressed Inflater Deflater}
    (uncompressed : object.uncompressAtMostOrAll zlib.toZlib flexible destLen source .finish =
      some result) (succeeded : result.code = .ok) :
    result.object.Rested ∨ Closable zlib result.object := by
  unfold uncompressAtMostOrAll at uncompressed
  rw [if_pos rested.firstChunk] at uncompressed
  dsimp only at uncompressed
  split at uncompressed
  · rename_i gzip
    unfold readHeader at uncompressed
    dsimp only at uncompressed
    rw [rested.gzipHeader, readMore_of_lt short] at uncompressed
    have outcome := GZipHeader.outcome_readLoop GZipHeader.pending_fresh source
    cases run : GZipHeader.fresh.readLoop source with
    | mk header status =>
      rw [run] at uncompressed outcome
      cases status with
      | incompleteHeader =>
        cases uncompressed
        have empty : source = [] := by
          rcases GZipHeader.feed_cases source with ⟨_, _, _, _, fed⟩ | ⟨-, fed⟩ | ⟨continues, -⟩
          · cases outcome.trans fed
          · cases outcome.trans fed
          · exact whole gzip continues
        rw [empty, GZipHeader.readLoop_nil_of_not_finished
          GZipHeader.pending_fresh.unfinished] at run
        exact .inl ⟨rested.firstChunk, (congrArg Prod.fst run).symm⟩
      | invalidHeader =>
        cases uncompressed
        cases succeeded
      | completeHeader beyond =>
        refine .inr (uncompressSource_closes reuses finishes ?_ ?_ ?_ ?_ uncompressed succeeded)
        · exact uncompOpen
        · exact noDictionary
        · exact rested.firstChunk
        · rfl
  · refine .inr (uncompressSource_closes reuses finishes ?_ ?_ ?_ ?_ uncompressed succeeded)
    · exact uncompOpen
    · exact noDictionary
    · exact rested.firstChunk
    · rfl

end Uncompress

section Done

variable (finishes : zlib.Finishes)
  (noDictionary : object.settings.dictionary = none)

include finishes noDictionary

/-- A stream that has not been read from does not end with an empty source. -/
theorem inflateSource_nil_fails (atStart : object.AtStart zlib) {flexible : Bool}
    {oldTotalIn oldTotalOut destLen : Nat} {result : Uncompressed Inflater Deflater}
    (uncompressed : object.inflateSource zlib.toZlib flexible oldTotalIn oldTotalOut destLen []
      .finish = some result) : result.code = .bufError ∨ result.object.Rested := by
  rw [inflateSource_once zlib.toZlib noDictionary] at uncompressed
  have finished := inflate_ne_ok finishes object.uncompStream []
  have unended : (object.uncompStream.inflate zlib.toZlib [] .finish).1 ≠ .streamEnd := by
    obtain ⟨windowBits, fresh, started, found⟩ := atStart
    unfold ZStream.inflate
    rw [found]
    have unended := finishes.start windowBits fresh object.uncompStream.availOut .finish started
    rwa [← List.take_nil] at unended
  generalize object.uncompStream.inflate zlib.toZlib [] .finish = inflated
    at uncompressed finished unended
  unfold concludeInflate at uncompressed
  dsimp only at uncompressed
  split at uncompressed
  · cases uncompressed
  · rw [if_neg fun ended => unended ended.1,
      if_neg fun ended => ended.1.elim unended finished,
      if_neg fun ended => unended ended.1] at uncompressed
    split at uncompressed
    · cases uncompressed
      exact .inr (rested_uncompressErrorInit _)
    · rename_i known
      have space : inflated.1 = .bufError := Classical.byContradiction fun other =>
        known ⟨finished, unended, other⟩
      split at uncompressed
      · cases uncompressed
        exact .inl rfl
      · cases uncompressed
        exact .inl ((if_neg fun ended => unended ended.1).trans space)

omit finishes noDictionary in
/-- Inside a sequence, an empty source is handed to `inflate`. -/
theorem uncompressSource_nil (zlib : Zlib Inflater Deflater) (later : object.firstChunk = false)
    (flexible : Bool) (flushMode : Flush) :
    object.uncompressSource zlib flexible 0 [] flushMode =
      (object.withUncompBuffers 0 0).inflateSource zlib flexible object.uncompStream.totalIn
        object.uncompStream.totalOut 0 [] flushMode := by
  have ready : object.uncompressInit zlib 0 ([] : List UInt8).length =
      (.ok, object.withUncompBuffers 0 0) := by
    rw [uncompressInit_eq]
    show (if object.firstChunk then _ else _) = _
    rw [later, if_neg Bool.false_ne_true]
    rfl
  unfold uncompressSource
  rw [ready]
  show (if object.firstChunk then _ else _) = _
  rw [later, if_neg Bool.false_ne_true]
  rfl

theorem uncompressChunkOrAll_nil_closes (closable : Closable zlib object) {flexible : Bool}
    {result : Uncompressed Inflater Deflater}
    (uncompressed : object.uncompressChunkOrAll zlib.toZlib flexible 0 [] .finish = some result) :
    result.code = .ok ∨ result.object.Rested := by
  obtain ⟨called, concluded, rfl⟩ := Option.map_eq_some_iff.mp uncompressed
  unfold uncompressAtMostOrAll at concluded
  rw [closable.firstChunk, if_neg Bool.false_ne_true] at concluded
  split at concluded
  · unfold readFooter at concluded
    dsimp only at concluded
    split at concluded
    · cases concluded
      exact .inr (rested_reset _)
    · cases concluded
      exact .inl rfl
  · rename_i before
    obtain ⟨windowBits, fresh, started, found⟩ := closable.read.resolve_left before
    rw [uncompressSource_nil zlib.toZlib closable.firstChunk] at concluded
    have fails : called.code = .bufError ∨ called.object.Rested := by
      refine inflateSource_nil_fails finishes ?_ ⟨windowBits, fresh, started, ?_⟩ concluded
      · exact noDictionary
      · exact found
    split
    · exact .inr (rested_uncompressErrorInit _)
    · rename_i other
      exact .inr (fails.resolve_left other)

theorem uncompressChunkDone_rests
    (running : object.firstChunk = false → object.uncompInit = true)
    (begun : object.Rested ∨ Closable zlib object) {flexible : Bool} {answer : Bool}
    {last : ZLib Inflater Deflater}
    (done : object.uncompressChunkDone zlib.toZlib flexible = some (answer, last)) :
    last.Rested := by
  unfold uncompressChunkDone at done
  split at done
  · rename_i idle
    cases done
    refine begun.resolve_right fun closable => ?_
    rcases idle with first | closed
    · cases first.symm.trans closable.firstChunk
    · cases closed.symm.trans (running closable.firstChunk)
  · rename_i busy
    have closable : Closable zlib object := begun.resolve_left fun rested =>
      busy (.inl rested.firstChunk)
    obtain ⟨result, called, same⟩ := Option.map_eq_some_iff.mp done
    have closes := uncompressChunkOrAll_nil_closes finishes noDictionary closable called
    split at same
    · rename_i failed
      cases same
      exact closes.resolve_left failed
    · dsimp only at same
      split at same
      · cases same
        exact rested_reset _
      · split at same
        · cases same
          exact rested_reset _
        · split at same
          · cases same
            exact rested_reset _
          · cases same
            exact rested_reset _

end Done

theorem uncompress_rests (reuses : zlib.Reuses opened) (finishes : zlib.Finishes)
    (uncompOpen : object.UncompOpen) (noDictionary : object.settings.dictionary = none)
    (rested : object.Rested) {flexible : Bool} {destLen : Nat} {source : List UInt8}
    (short : source.length < 2 ^ 31)
    (whole : object.settings.gzipHeaderMode = true → Continues GZipHeader.Layout source →
      source = []) {result : Uncompressed Inflater Deflater}
    (uncompressed : object.uncompress zlib flexible destLen source = some result) :
    result.object.Rested := by
  obtain ⟨called, first, second⟩ := Option.bind_eq_some_iff.mp uncompressed
  have settled := uncompressChunkOrAll_settles reuses.honest uncompOpen first
  split at second
  · cases second
    exact rested_reset _
  · rename_i succeeded
    obtain ⟨⟨answer, last⟩, done, same⟩ := Option.map_eq_some_iff.mp second
    cases same
    refine uncompressChunkDone_rests finishes ?_ (settled.engaged ?_) ?_ done
    · rw [settled.kept.settings]
      exact noDictionary
    · intro later
      cases rested.firstChunk.symm.trans later
    · obtain ⟨inner, uncompressed', rfl⟩ := Option.map_eq_some_iff.mp first
      by_cases full : inner.code = .bufError
      · rw [if_pos full] at succeeded
        exact absurd (Decidable.not_not.mp succeeded) (by rw [full]; nofun)
      · rw [if_neg full] at succeeded ⊢
        exact uncompressAtMostOrAll_closes reuses finishes uncompOpen noDictionary rested short
          whole uncompressed' (Decidable.not_not.mp succeeded)

end ZLib

/-! ### Runs -/

namespace PublicCall

/-- A call that compresses or uncompresses a whole buffer. -/
def OneShot : PublicCall → Prop
  | compress destLen source | uncompress destLen source =>
    destLen < 2 ^ 31 ∧ source.length < 2 ^ 31
  | _ => False

/-- A call that makes one of the settings. -/
def Configures : PublicCall → Prop
  | setNoHeaderMode _ | setGzipHeaderMode | setDontHideStreamEnd | setCompressionLevel _
  | setCompressionWindowSizeInBits _ | setCompressionMemLevel _ | setDictionary _ _ => True
  | _ => False

/-- A call that uncompresses the beginning of a gzip header and nothing behind it. -/
def CutsHeader (settings : Settings) : PublicCall → Prop
  | uncompress _ source =>
    settings.gzipHeaderMode = true ∧ source ≠ [] ∧ Continues GZipHeader.Layout source
  | _ => False

end PublicCall

namespace ZLib

variable {Inflater Deflater : Type} {zlib : WholeZlib Inflater Deflater}
  {opened : Deflater → Parameters → Prop} {environment : Environment}

/-- Between two calls that each deal with a whole buffer. -/
structure Ready (opened : Deflater → Parameters → Prop) (settings : Settings)
    (object : ZLib Inflater Deflater) : Prop where
  noted : object.Noted opened
  rested : object.Rested
  settings : object.settings = settings

theorem rested_closeBoth {object : ZLib Inflater Deflater} (rested : object.Rested) :
    object.closeBoth.Rested := by
  rw [closeBoth_eq]
  exact ⟨rested.firstChunk, rested.gzipHeader⟩

theorem rested_setNoHeaderMode {object after : ZLib Inflater Deflater} (rested : object.Rested)
    {mode : Bool} (set : object.setNoHeaderMode mode = some after) : after.Rested := by
  rw [setNoHeaderMode_eq set]
  split
  · exact rested_reset _
  · exact rested_closeBoth ⟨rested.firstChunk, rested.gzipHeader⟩

theorem rested_configured {object next : ZLib Inflater Deflater} (rested : object.Rested)
    {call : PublicCall} (configures : call.Configures) {answer : Answer}
    (performed : object.perform zlib environment call = some (answer, next)) : next.Rested := by
  cases call with
  | setNoHeaderMode mode =>
    obtain ⟨_, set, same⟩ := Option.map_eq_some_iff.mp performed
    cases same
    exact rested_setNoHeaderMode rested set
  | setGzipHeaderMode =>
    obtain ⟨_, set, same⟩ := Option.map_eq_some_iff.mp performed
    cases same
    have gzip : ({ object with settings.gzipHeaderMode := true } :
        ZLib Inflater Deflater).Rested := ⟨rested.firstChunk, rested.gzipHeader⟩
    exact rested_setNoHeaderMode gzip (setGzipHeaderMode_eq set)
  | setDictionary dictionary dictLen =>
    obtain ⟨_, set, same⟩ := Option.map_eq_some_iff.mp performed
    cases same
    rw [checkValidParams_eq set]
    exact ⟨rested.firstChunk, rested.gzipHeader⟩
  | setDontHideStreamEnd | setCompressionLevel | setCompressionWindowSizeInBits
  | setCompressionMemLevel =>
    cases performed
    exact ⟨rested.firstChunk, rested.gzipHeader⟩
  | _ => cases configures

/-- Setters leave an object ready. -/
theorem ready_of_configured (reuses : zlib.Reuses opened) {setters : List PublicCall}
    (configures : ∀ call ∈ setters, call.Configures) {answers : List Answer}
    {fresh : ZLib Inflater Deflater}
    (configured : (ZLib.new zlib.toZlib).performAll zlib environment setters =
      some (answers, fresh)) : fresh.Ready opened fresh.settings := by
  rw [performAll_eq] at configured
  have throughout : Throughout (perform zlib environment) (fun _ call => call.Configures)
      (ZLib.new zlib.toZlib) setters :=
    throughout_of_forall fun _ call member => configures call member
  have noted : fresh.Noted opened := by
    refine runAll_invariant ?_ (noted_new zlib) throughout configured
    intro object call answer next noted configures performed
    refine noted_step reuses noted ?_ performed
    rintro rfl
    cases configures
  have rested : fresh.Rested :=
    runAll_invariant
      (fun _ _ _ _ rested configures performed => rested_configured rested configures performed)
      ⟨rfl, rfl⟩ throughout configured
  exact ⟨noted, rested, rfl⟩

theorem ready_step (reuses : zlib.Reuses opened) (finishes : zlib.Finishes) {settings : Settings}
    (noDictionary : settings.dictionary = none) {object next : ZLib Inflater Deflater}
    {call : PublicCall} {answer : Answer} (ready : object.Ready opened settings)
    (oneShot : call.OneShot) (whole : ¬ call.CutsHeader settings)
    (performed : object.perform zlib environment call = some (answer, next)) :
    next.Ready opened settings := by
  have noDictionary' : object.settings.dictionary = none := by
    rw [ready.settings]
    exact noDictionary
  have noted : next.Noted opened := by
    refine noted_step reuses ready.noted ?_ performed
    rintro rfl
    cases oneShot
  cases call with
  | compress destLen source =>
    cases performed
    have settled := compress_settles reuses.maintains reuses.honest ready.noted.comp destLen source
    exact ⟨noted, compress_rests reuses ready.noted.comp ready.rested noDictionary' destLen source,
      settled.kept.settings.trans ready.settings⟩
  | uncompress destLen source =>
    obtain ⟨result, uncompressed, same⟩ := Option.map_eq_some_iff.mp performed
    cases same
    have settled := uncompress_settles reuses.honest ready.noted.uncomp uncompressed
    have entire (gzip : object.settings.gzipHeaderMode = true)
        (continues : Continues GZipHeader.Layout source) : source = [] :=
      Classical.byContradiction fun present =>
        whole ⟨ready.settings ▸ gzip, present, continues⟩
    exact ⟨noted, uncompress_rests reuses finishes ready.noted.uncomp noDictionary' ready.rested
      oneShot.2 entire uncompressed, settled.kept.settings.trans ready.settings⟩
  | _ => cases oneShot

/-- Objects that are ready with the same settings answer a call alike. -/
theorem answers_of_ready (reuses : zlib.Reuses opened) {settings : Settings}
    {first second : ZLib Inflater Deflater} (ready : first.Ready opened settings)
    (ready' : second.Ready opened settings) {call : PublicCall} (oneShot : call.OneShot) :
    (first.perform zlib environment call).map Prod.fst =
      (second.perform zlib environment call).map Prod.fst := by
  have alike : Alike False first second :=
    ⟨ready.settings.trans ready'.settings.symm,
      ready.rested.gzipHeader.trans ready'.rested.gzipHeader.symm,
      ready.rested.firstChunk.trans ready'.rested.firstChunk.symm,
      False.elim, False.elim, False.elim, False.elim, False.elim, False.elim, False.elim⟩
  have idle (later : first.firstChunk = false) : False := by
    cases ready.rested.firstChunk.symm.trans later
  cases call with
  | compress destLen source =>
    have compressing : Compressing False first second :=
      { alike with running := fun later => (idle later).elim }
    have same := compress_alike reuses ready.noted.comp ready'.noted.comp compressing destLen source
    show some _ = some _
    rw [Compressed.answer, Compressed.answer, same.code, same.written, same.destLen]
  | uncompress destLen source =>
    have uncompressing : Uncompressing False first second :=
      { alike with running := fun later => (idle later).elim }
    have same := uncompress_alike reuses ready.noted.uncomp ready'.noted.uncomp
      environment.flexibleWithGzipFooter uncompressing ready.noted.footer ready'.noted.footer
      destLen source
    have step : SameStep (fun _ _ => True)
        (first.perform zlib environment (.uncompress destLen source))
        (second.perform zlib environment (.uncompress destLen source)) := by
      refine sameStep_map (fun _ _ same => ⟨?_, trivial⟩) same
      rw [Uncompressed.answer, Uncompressed.answer, same.code, same.written, same.destLen]
    exact step.map_fst
  | _ => cases oneShot

/-- Calls that each deal with a whole buffer do what they would do alone, as long as none of the
earlier ones uncompressed a buffer that ends inside the gzip header. -/
theorem oneShot_independent (reuses : zlib.Reuses opened) (finishes : zlib.Finishes)
    {setters history : List PublicCall} (configures : ∀ call ∈ setters, call.Configures)
    {settings answers : List Answer} {fresh object : ZLib Inflater Deflater}
    (configured : (ZLib.new zlib.toZlib).performAll zlib environment setters =
      some (settings, fresh))
    (noDictionary : fresh.settings.dictionary = none)
    (oneShots : ∀ call ∈ history, call.OneShot)
    (whole : ∀ call ∈ history, ¬ call.CutsHeader fresh.settings)
    (ran : fresh.performAll zlib environment history = some (answers, object))
    {call : PublicCall} (oneShot : call.OneShot) :
    (object.perform zlib environment call).map Prod.fst =
      (fresh.perform zlib environment call).map Prod.fst := by
  have ready := ready_of_configured reuses configures configured
  rw [performAll_eq] at ran
  have throughout : Throughout (perform zlib environment)
      (fun _ call => call.OneShot ∧ ¬ call.CutsHeader fresh.settings) fresh history :=
    throughout_of_forall fun _ call member => ⟨oneShots call member, whole call member⟩
  have ready' : object.Ready opened fresh.settings := by
    refine runAll_invariant ?_ ready throughout ran
    intro object call answer next ready allowed performed
    exact ready_step reuses finishes noDictionary ready allowed.1 allowed.2 performed
  exact answers_of_ready reuses ready' ready oneShot

/-! ### Runs with stored blocks -/

theorem finishes_storedZlib : storedZlib.Finishes where
  finish stream input room := by
    show (inflateWith storedFormat stream input room .finish).code ≠ .ok
    unfold inflateWith
    dsimp only
    split
    · intro succeeded
      cases succeeded
    · rename_i other
      exact fun succeeded => other ⟨succeeded, .inr rfl⟩
  start windowBits fresh room flushMode started := by
    show (inflateWith storedFormat fresh [] room flushMode).code ≠ .streamEnd
    unfold inflateWith inflateFrom
    rw [if_pos ⟨rfl, .inl ⟨rfl, rfl⟩⟩]
    intro ended
    cases ended

/-- A gzip member whose data is the letter a. -/
def smallMember : List UInt8 :=
  [0x1f, 0x8b, 8, 0, 0, 0, 0, 0, 0, 3, 1, 1, 0, 0xfe, 0xff, 0x61, 0x43, 0xbe, 0xb7, 0xe8, 1, 0, 0,
    0]

/-- A new object in gzip header mode. -/
def gzipObject : ZLib StoredState StoredDeflater :=
  { ZLib.new storedZlib.toZlib with
    settings.compressionLevel := 0
    settings.noHeaderMode := true
    settings.gzipHeaderMode := true }

/-- The object behind a call that compressed something and one whose buffer was too small. -/
def crampedObject : ZLib StoredState StoredDeflater :=
  ((gzipObject.compress storedZlib 100 [1, 2, 3]).object.compress storedZlib 12 [4]).object

theorem oneShot_independent_crampedObject :
    (crampedObject.perform storedZlib debugEnvironment (.uncompress 10 smallMember)).map Prod.fst =
      (gzipObject.perform storedZlib debugEnvironment (.uncompress 10 smallMember)).map
        Prod.fst := by
  have configured : (ZLib.new storedZlib.toZlib).performAll storedZlib debugEnvironment
      [.setCompressionLevel 0, .setGzipHeaderMode] = some (_, gzipObject) := rfl
  have ran : gzipObject.performAll storedZlib debugEnvironment
      [.compress 100 [1, 2, 3], .compress 12 [4]] = some (_, crampedObject) := rfl
  refine oneShot_independent reuses_storedZlib finishes_storedZlib ?_ configured rfl ?_ ?_ ran ?_
  · simp [PublicCall.Configures]
  · simp [PublicCall.OneShot]
  · simp [PublicCall.CutsHeader]
  · simp [PublicCall.OneShot, smallMember]

/-- A buffer that ends inside the header makes the next call refuse a member. -/
theorem not_oneShot_independent_cutHeader :
    (∃ opened, storedZlib.Reuses opened) ∧ storedZlib.Finishes ∧
      ((ZLib.new storedZlib.toZlib).performAll storedZlib debugEnvironment
          [.setGzipHeaderMode, .uncompress 10 [0x1f], .uncompress 10 smallMember]).map Prod.fst =
        some [.nothing, .coded .dataError [] 0 none, .coded .dataError [] 10 none] ∧
      ((ZLib.new storedZlib.toZlib).performAll storedZlib debugEnvironment
          [.setGzipHeaderMode, .uncompress 10 smallMember]).map Prod.fst =
        some [.nothing, .coded .ok [0x61] 1 none] :=
  ⟨⟨_, reuses_storedZlib⟩, finishes_storedZlib, by decide +kernel, by decide +kernel⟩

end ZLib

end Fleetbench.Compression
