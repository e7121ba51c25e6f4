/-
This file compares two objects of the class `ZLib`. What a call does depends on
the settings, on the parser of the header and, inside a sequence of chunks, on
the stream of the sequence; two objects that agree on these answer alike, and
agree again behind the call.
-/

import Fleetbench.Compression.Reuse
import Fleetbench.Library.Machine

namespace Fleetbench.Compression.ZLib

open Library

variable {Inflater Deflater : Type} {zlib : WholeZlib Inflater Deflater}
  {opened : Deflater → Parameters → Prop} {seen : Prop} {first second : ZLib Inflater Deflater}

/-! ### Objects that agree -/

/-- The objects agree on what every call depends on and, if it is to be seen, on what the accessors
say and on what a change of the header mode depends on. -/
structure Alike (seen : Prop) (first second : ZLib Inflater Deflater) : Prop where
  settings : first.settings = second.settings
  gzipHeader : first.gzipHeader = second.gzipHeader
  firstChunk : first.firstChunk = second.firstChunk
  mode : seen → first.initSettings.noHeaderMode = second.initSettings.noHeaderMode
  crc : seen → first.crc = second.crc
  uncompressedSize : seen → first.uncompressedSize = second.uncompressedSize
  gzipFooterBytes : seen → first.gzipFooterBytes = second.gzipFooterBytes
  gzipFooter : seen → first.gzipFooter.take first.gzipFooterBytes.toNat =
    second.gzipFooter.take second.gzipFooterBytes.toNat
  comp : seen → first.settings.noHeaderMode = true → first.compInit = second.compInit
  uncomp : seen → first.settings.noHeaderMode = true → first.uncompInit = second.uncompInit

/-- The same compression stream. -/
structure SameComp (first second : ZLib Inflater Deflater) : Prop where
  compInit : first.compInit = second.compInit
  compStream : first.compStream = second.compStream

/-- The same data behind a first chunk that was compressed. -/
structure CompAlike (first second : ZLib Inflater Deflater) : Prop
    extends SameComp first second where
  uncompressedSize : first.uncompressedSize = second.uncompressedSize
  crc : first.settings.gzipHeaderMode = true → first.crc = second.crc

/-- The objects agree, and a sequence in progress is one that compresses. -/
structure Compressing (seen : Prop) (first second : ZLib Inflater Deflater) : Prop
    extends Alike seen first second where
  running : first.firstChunk = false → CompAlike first second

/-! ### Compression -/

/-- The same answer, and objects that agree behind it. -/
structure SameCompressed (seen : Prop) (first second : Compressed Inflater Deflater) : Prop where
  code : first.code = second.code
  written : first.written = second.written
  destLen : first.destLen = second.destLen
  sourceLen : first.sourceLen = second.sourceLen
  objects : Compressing seen first.object second.object
  compressed : first.code = .ok → CompAlike first.object second.object

theorem Compressing.reset (agree : Alike seen first second) :
    Compressing seen first.reset second.reset :=
  { agree with gzipHeader := rfl, firstChunk := rfl, running := nofun }

theorem Compressing.compressErrorInit (agree : Alike seen first second) :
    Compressing seen first.compressErrorInit second.compressErrorInit := by
  have closed (object : ZLib Inflater Deflater) : object.compressErrorInit =
      { object.reset with
        compStream := object.compressErrorInit.compStream
        compInit := false } := by
    unfold ZLib.compressErrorInit
    cases initialized : object.compInit with
    | true => rfl
    | false =>
      rw [if_neg Bool.false_ne_true, ← initialized]
      rfl
  rw [closed first, closed second]
  exact { agree with
    gzipHeader := rfl
    firstChunk := rfl
    comp := fun _ _ => rfl
    running := nofun }

/-- `next_in` and `next_out` are set up. -/
def withCompBuffers (object : ZLib Inflater Deflater) (sourceLen destLen : Nat) :
    ZLib Inflater Deflater :=
  { object with
    compStream.availIn := sourceLen % 2 ^ 32
    compStream.availOut := destLen % 2 ^ 32 }

theorem compressInit_eq (zlib : WholeZlib Inflater Deflater) (object : ZLib Inflater Deflater)
    (destLen sourceLen : Nat) :
    object.compressInit zlib destLen sourceLen =
      if sourceLen % 2 ^ 32 ≠ sourceLen then
        (.bufError, { object with compStream.availIn := sourceLen % 2 ^ 32 })
      else if destLen % 2 ^ 32 ≠ destLen then
        (.bufError, object.withCompBuffers sourceLen destLen)
      else if object.firstChunk then (object.withCompBuffers sourceLen destLen).prepareComp zlib
      else (.ok, object.withCompBuffers sourceLen destLen) :=
  rfl

section Prepare

variable (reuses : zlib.Reuses opened) (firstOpen : first.CompOpen opened)
  (secondOpen : second.CompOpen opened)

include reuses firstOpen secondOpen

theorem prepareComp_alike (agree : Alike seen first second)
    (availIn : first.compStream.availIn = second.compStream.availIn)
    (availOut : first.compStream.availOut = second.compStream.availOut) :
    (first.prepareComp zlib).1 = (second.prepareComp zlib).1 ∧
      Alike seen (first.prepareComp zlib).2 (second.prepareComp zlib).2 ∧
      ((first.prepareComp zlib).1 = .ok →
        SameComp (first.prepareComp zlib).2 (second.prepareComp zlib).2) := by
  have prepared := prepareComp_prepared reuses firstOpen
  have prepared' := prepareComp_prepared reuses secondOpen
  unfold PreparedComp at prepared prepared'
  have mode : first.settings.noHeaderMode = second.settings.noHeaderMode :=
    congrArg Settings.noHeaderMode agree.settings
  have asked : zlib.opening (parameters second.settings) =
      zlib.opening (parameters first.settings) := by rw [agree.settings]
  rw [asked] at prepared'
  cases started : zlib.opening (parameters first.settings) with
  | ok fresh =>
    rw [started] at prepared prepared'
    rw [prepared, prepared']
    refine ⟨rfl, { agree with mode := fun _ => mode, comp := fun _ _ => rfl }, fun _ => ⟨rfl, ?_⟩⟩
    show ZStream.mk (some fresh) first.compStream.availIn first.compStream.availOut 0 0 =
      ZStream.mk (some fresh) second.compStream.availIn second.compStream.availOut 0 0
    rw [availIn, availOut]
  | error code =>
    rw [started] at prepared prepared'
    obtain ⟨failed, stream, -, same⟩ := prepared
    obtain ⟨-, stream', -, same'⟩ := prepared'
    rw [same, same']
    exact ⟨rfl, { agree with comp := fun _ _ => rfl }, fun succeeded => absurd succeeded failed⟩

theorem compressInit_alike (agree : Compressing seen first second) (destLen sourceLen : Nat) :
    (first.compressInit zlib destLen sourceLen).1 =
        (second.compressInit zlib destLen sourceLen).1 ∧
      Compressing seen (first.compressInit zlib destLen sourceLen).2
        (second.compressInit zlib destLen sourceLen).2 ∧
      ((first.compressInit zlib destLen sourceLen).1 = .ok →
        SameComp (first.compressInit zlib destLen sourceLen).2
          (second.compressInit zlib destLen sourceLen).2) := by
  have narrow (later : first.firstChunk = false) :
      ({ first.compStream with availIn := sourceLen % 2 ^ 32 } : ZStream Deflater) =
        { second.compStream with availIn := sourceLen % 2 ^ 32 } := by
    rw [(agree.running later).compStream]
  have fitted (later : first.firstChunk = false) :
      (first.withCompBuffers sourceLen destLen).compStream =
        (second.withCompBuffers sourceLen destLen).compStream := by
    unfold withCompBuffers
    rw [(agree.running later).compStream]
  rw [compressInit_eq, compressInit_eq]
  split
  · exact ⟨rfl, { agree with running := fun later =>
      { agree.running later with compStream := narrow later } }, nofun⟩
  · split
    · exact ⟨rfl, { agree with running := fun later =>
        { agree.running later with compStream := fitted later } }, nofun⟩
    · by_cases start : first.firstChunk = true
      · rw [if_pos start, if_pos (agree.firstChunk.symm.trans start)]
        have firstOpen' : (first.withCompBuffers sourceLen destLen).CompOpen opened := firstOpen
        have secondOpen' : (second.withCompBuffers sourceLen destLen).CompOpen opened := secondOpen
        obtain ⟨code, alike, same⟩ := prepareComp_alike reuses firstOpen' secondOpen'
          { agree.toAlike with } rfl rfl
        refine ⟨code, { alike with running := fun later => ?_ }, same⟩
        have kept := (prepareComp_prepares reuses.maintains reuses.honest firstOpen').1.firstChunk
        cases (kept.trans start).symm.trans later
      · have later := Bool.eq_false_iff.mpr start
        rw [if_neg start, if_neg (agree.firstChunk ▸ start)]
        refine ⟨rfl, { agree with running := fun _ => ?_ }, fun _ => ?_⟩
        · exact { agree.running later with compStream := fitted later }
        · exact ⟨(agree.running later).compInit, fitted later⟩

end Prepare

/-- Before a first chunk the objects agree, and so do their compression streams and, if it is
needed, the checksums. -/
structure Starting (seen : Prop) (first second : ZLib Inflater Deflater) : Prop
    extends Alike seen first second, SameComp first second where
  start : first.firstChunk = true
  checksum : first.settings.gzipHeaderMode = true → first.crc = second.crc

theorem startGzip_alike (zlib : WholeZlib Inflater Deflater) (agree : Alike seen first second)
    (same : SameComp first second) (start : first.firstChunk = true) :
    SameStep (Starting seen) (first.startGzip zlib) (second.startGzip zlib) := by
  have room : first.compStream.availOut = second.compStream.availOut :=
    congrArg ZStream.availOut same.compStream
  unfold startGzip
  by_cases gzip : first.settings.gzipHeaderMode = true
  · rw [if_pos gzip, if_pos (agree.settings ▸ gzip)]
    unfold writeGzipHeader
    by_cases narrow : first.compStream.availOut < gzipHeaderBytes.length + 1
    · rw [if_pos narrow, if_pos (room ▸ narrow)]
      exact .none
    · rw [if_neg narrow, if_neg (room ▸ narrow)]
      refine .some ⟨rfl, { agree, same with
        crc := fun _ => rfl
        compStream := ?_
        start := start
        checksum := fun _ => rfl }⟩
      exact congrArg (fun stream : ZStream Deflater =>
          { stream with availOut := stream.availOut - gzipHeaderBytes.length }) same.compStream
  · rw [if_neg gzip, if_neg (agree.settings ▸ gzip)]
    exact .some ⟨rfl, { agree, same with
      start := start
      checksum := fun impossible => absurd impossible gzip }⟩

theorem startDictionary_alike (zlib : WholeZlib Inflater Deflater)
    (agree : Starting seen first second) :
    (first.startDictionary zlib).1 = (second.startDictionary zlib).1 ∧
      Starting seen (first.startDictionary zlib).2 (second.startDictionary zlib).2 := by
  unfold startDictionary
  rw [← agree.settings]
  cases first.settings.dictionary with
  | none => exact ⟨rfl, agree⟩
  | some dictionary =>
    dsimp only
    have called : first.compStream.deflateSetDictionary zlib
          (dictionary.bytes.take first.settings.dictLen) =
        second.compStream.deflateSetDictionary zlib
          (dictionary.bytes.take first.settings.dictLen) := by rw [agree.compStream]
    rw [called]
    split
    · exact ⟨rfl, { agree with settings := rfl, compStream := rfl }⟩
    · exact ⟨rfl, { agree with settings := rfl, compStream := rfl }⟩

/-- The metadata with some more bytes of input. -/
def withInput (zlib : Zlib Inflater Deflater) (object : ZLib Inflater Deflater) (count : Nat)
    (bytes : List UInt8) : ZLib Inflater Deflater :=
  { object with
    uncompressedSize := (object.uncompressedSize + count) % 2 ^ 64
    crc :=
      if object.settings.gzipHeaderMode then zlib.crc32 object.crc bytes else object.crc }

theorem withInput_alike (zlib : WholeZlib Inflater Deflater) (agree : Alike seen first second)
    (same : CompAlike first second) (count : Nat) (bytes : List UInt8) :
    Alike seen (first.withInput zlib.toZlib count bytes)
        (second.withInput zlib.toZlib count bytes) ∧
      CompAlike (first.withInput zlib.toZlib count bytes)
        (second.withInput zlib.toZlib count bytes) := by
  have size : (first.withInput zlib.toZlib count bytes).uncompressedSize =
      (second.withInput zlib.toZlib count bytes).uncompressedSize := by
    unfold withInput
    rw [same.uncompressedSize]
  have crc (equal : first.crc = second.crc) : (first.withInput zlib.toZlib count bytes).crc =
      (second.withInput zlib.toZlib count bytes).crc := by
    unfold withInput
    rw [equal, agree.settings]
  exact ⟨{ agree with uncompressedSize := fun _ => size, crc := fun seen => crc (agree.crc seen) },
    { same with uncompressedSize := size, crc := fun gzip => crc (same.crc gzip) }⟩

theorem concludeDeflate_alike (zlib : WholeZlib Inflater Deflater)
    (agree : Alike seen first second) (same : CompAlike first second) (earlier : Int)
    (destLen : Nat) (source written : List UInt8) (err : ZCode) :
    SameCompressed seen (first.concludeDeflate zlib earlier destLen source written err)
      (second.concludeDeflate zlib earlier destLen source written err) := by
  have availIn : first.compStream.availIn = second.compStream.availIn :=
    congrArg ZStream.availIn same.compStream
  have availOut : first.compStream.availOut = second.compStream.availOut :=
    congrArg ZStream.availOut same.compStream
  have totalOut : first.compStream.totalOut = second.compStream.totalOut :=
    congrArg ZStream.totalOut same.compStream
  have data (count : Nat) (bytes : List UInt8) := withInput_alike zlib agree same count bytes
  have concluded (err : ZCode) (destLen left count : Nat) (bytes : List UInt8) :
      SameCompressed seen ⟨err, written, destLen, left, first.withInput zlib.toZlib count bytes⟩
        ⟨err, written, destLen, left, second.withInput zlib.toZlib count bytes⟩ :=
    ⟨rfl, rfl, rfl, rfl, { (data count bytes).1 with running := fun _ => (data count bytes).2 },
      fun _ => (data count bytes).2⟩
  unfold concludeDeflate
  dsimp only
  rw [availIn, availOut, totalOut]
  split
  · exact concluded _ _ _ _ _
  · split
    · exact ⟨rfl, rfl, rfl, rfl, { agree with running := fun _ => same }, nofun⟩
    · split
      · rename_i failed
        exact ⟨rfl, rfl, rfl, rfl, Compressing.compressErrorInit agree,
          fun ok => absurd ok failed.1⟩
      · split
        · exact concluded _ _ _ _ _
        · exact concluded _ _ _ _ _

theorem deflateSource_alike (zlib : WholeZlib Inflater Deflater)
    (agree : Alike seen first second) (same : CompAlike first second) (earlier : Int)
    (destLen : Nat) (source written : List UInt8) (flushMode : Flush) :
    SameCompressed seen (first.deflateSource zlib earlier destLen source written flushMode)
      (second.deflateSource zlib earlier destLen source written flushMode) := by
  unfold deflateSource
  rw [same.compStream]
  refine concludeDeflate_alike zlib ?_ ?_ _ _ _ _ _
  · exact { agree with }
  · exact { same with compStream := rfl }

section Compress

variable (reuses : zlib.Reuses opened) (firstOpen : first.CompOpen opened)
  (secondOpen : second.CompOpen opened) (agree : Compressing seen first second)

include reuses firstOpen secondOpen agree

theorem compressAtMostOrAll_alike (destLen : Nat) (source : List UInt8) (flushMode : Flush) :
    SameCompressed seen (first.compressAtMostOrAll zlib destLen source flushMode)
      (second.compressAtMostOrAll zlib destLen source flushMode) := by
  obtain ⟨code, alike, same⟩ :=
    compressInit_alike reuses firstOpen secondOpen agree destLen source.length
  unfold compressAtMostOrAll
  dsimp only
  generalize first.compressInit zlib destLen source.length = prepared at code alike same
  generalize second.compressInit zlib destLen source.length = prepared' at code alike same
  rw [← code]
  split
  · rename_i failed
    exact ⟨rfl, rfl, rfl, rfl, alike, fun ok => absurd ok failed⟩
  · rename_i succeeded
    have same' := same (Decidable.not_not.mp succeeded)
    have totalOut : prepared.2.compStream.totalOut = prepared'.2.compStream.totalOut :=
      congrArg ZStream.totalOut same'.compStream
    rw [← totalOut, ← alike.firstChunk]
    split
    · rename_i start
      have started := startGzip_alike zlib alike.toAlike same' start
      generalize prepared.2.startGzip zlib = begun at started
      generalize prepared'.2.startGzip zlib = begun' at started
      cases started with
      | none => exact ⟨rfl, rfl, rfl, rfl, alike, nofun⟩
      | @some a b started =>
        obtain ⟨header, between⟩ := a
        obtain ⟨_, between'⟩ := b
        obtain ⟨rfl, starting⟩ := started
        obtain ⟨code', starting'⟩ := startDictionary_alike zlib starting
        dsimp only
        generalize between.startDictionary zlib = ready at code' starting'
        generalize between'.startDictionary zlib = ready' at code' starting'
        rw [← code']
        split
        · rename_i failed
          refine ⟨rfl, rfl, rfl, rfl, { starting'.toAlike with running := fun later => ?_ },
            fun ok => absurd ok failed⟩
          cases starting'.start.symm.trans later
        · refine deflateSource_alike zlib ?_ ?_ _ _ _ _ _
          · exact { starting'.toAlike with
              uncompressedSize := fun _ => rfl
              firstChunk := rfl }
          · exact { starting'.toSameComp with
              uncompressedSize := rfl
              crc := starting'.checksum }
    · rename_i later
      exact deflateSource_alike zlib alike.toAlike
        (alike.running (Bool.eq_false_iff.mpr later)) _ _ _ _ _

theorem compressChunkOrAll_alike (destLen : Nat) (source : List UInt8) (flushMode : Flush) :
    SameCompressed seen (first.compressChunkOrAll zlib destLen source flushMode)
      (second.compressChunkOrAll zlib destLen source flushMode) := by
  have same := compressAtMostOrAll_alike reuses firstOpen secondOpen agree destLen source flushMode
  unfold compressChunkOrAll
  dsimp only
  rw [← same.code]
  split
  · rename_i full
    exact ⟨rfl, same.written, same.destLen, same.sourceLen,
      Compressing.compressErrorInit same.objects.toAlike, fun ok => by cases full.symm.trans ok⟩
  · exact same

omit reuses firstOpen secondOpen agree in
/-- The footer depends on the checksum and the size, which agree. -/
theorem finish_alike {result result' : Compressed Inflater Deflater}
    (same : SameCompressed seen result result') (compressed : result.code = .ok)
    (origDestLen : Nat) :
    SameCompressed seen ({ result with object := result.object.reset }.finish origDestLen)
      ({ result' with object := result'.object.reset }.finish origDestLen) := by
  have data := same.compressed compressed
  have objects : Compressing seen result.object.reset result'.object.reset :=
    Compressing.reset same.objects.toAlike
  have data' : CompAlike result.object.reset result'.object.reset := { data with }
  unfold Compressed.finish
  dsimp only
  rw [← objects.settings, ← same.destLen]
  generalize (origDestLen + 2 ^ 64 - result.destLen) % 2 ^ 64 = room
  split
  · rename_i gzip
    have footer : result'.object.reset.writeGzipFooter room =
        result.object.reset.writeGzipFooter room := by
      unfold writeGzipFooter
      rw [data'.crc gzip, data'.uncompressedSize]
    rw [footer]
    cases result.object.reset.writeGzipFooter room with
    | none => exact ⟨rfl, same.written, rfl, same.sourceLen, objects, nofun⟩
    | some footer =>
      rw [same.written]
      exact ⟨rfl, rfl, rfl, same.sourceLen, objects, fun _ => data'⟩
  · exact ⟨rfl, same.written, rfl, same.sourceLen, objects, fun _ => data'⟩

theorem compress_alike (destLen : Nat) (source : List UInt8) :
    SameCompressed seen (first.compress zlib destLen source)
      (second.compress zlib destLen source) := by
  have same := compressChunkOrAll_alike reuses firstOpen secondOpen agree destLen source .finish
  unfold compress
  dsimp only
  by_cases failed : (first.compressChunkOrAll zlib destLen source .finish).code ≠ .ok
  · rw [if_pos failed, if_pos (same.code ▸ failed)]
    exact same
  · rw [if_neg failed, if_neg (same.code ▸ failed)]
    exact finish_alike same (Decidable.not_not.mp failed) destLen

theorem compressChunkDone_alike (assertions : Bool) (destLen : Nat) :
    Option.Rel (SameCompressed seen) (first.compressChunkDone zlib assertions destLen)
      (second.compressChunkDone zlib assertions destLen) := by
  have same := compressChunkOrAll_alike reuses firstOpen secondOpen agree destLen [] .finish
  have small : first.minFooterSize = second.minFooterSize := by
    unfold minFooterSize
    rw [agree.settings]
  have asserts : (assertions = true ∧ ¬ (first.firstChunk = false ∧ first.compInit = true)) ↔
      assertions = true ∧ ¬ (second.firstChunk = false ∧ second.compInit = true) := by
    rw [← agree.firstChunk]
    refine and_congr_right fun _ => not_congr (and_congr_right fun later => ?_)
    rw [(agree.running later).compInit]
  unfold compressChunkDone
  dsimp only
  rw [small]
  split
  · exact .some ⟨rfl, rfl, rfl, rfl, agree, nofun⟩
  · by_cases aborts : assertions = true ∧ ¬ (first.firstChunk = false ∧ first.compInit = true)
    · rw [if_pos aborts, if_pos (asserts.mp aborts)]
      exact .none
    · rw [if_neg aborts, if_neg (mt asserts.mpr aborts)]
      by_cases failed : (first.compressChunkOrAll zlib destLen [] .finish).code ≠ .ok
      · rw [if_pos failed, if_pos (same.code ▸ failed)]
        exact .some ⟨same.code, same.written, same.destLen, same.sourceLen,
          Compressing.reset same.objects.toAlike, fun ok => absurd ok failed⟩
      · rw [if_neg failed, if_neg (same.code ▸ failed)]
        exact .some (finish_alike same (Decidable.not_not.mp failed) destLen)

end Compress

end Fleetbench.Compression.ZLib
