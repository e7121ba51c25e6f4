/-
This file compares the decompression of two objects of the class `ZLib` that
agree. The footer is read piece by piece into a buffer that no call clears, so
the objects agree on as many bytes of it as have been read.
-/

import Fleetbench.Compression.CompressAlike

namespace Fleetbench.Compression.ZLib

open Library

variable {Inflater Deflater : Type} {zlib : WholeZlib Inflater Deflater}
  {opened : Deflater → Parameters → Prop} {seen : Prop} {first second : ZLib Inflater Deflater}

/-! ### Objects that agree -/

/-- The same decompression stream. -/
structure SameUncomp (first second : ZLib Inflater Deflater) : Prop where
  uncompInit : first.uncompInit = second.uncompInit
  uncompStream : first.uncompStream = second.uncompStream

/-- The same part of the footer, and the same data before it, once there is a part of it. -/
structure SameFooter (first second : ZLib Inflater Deflater) : Prop where
  count : first.gzipFooterBytes = second.gzipFooterBytes
  bytes : first.gzipFooter.take first.gzipFooterBytes.toNat =
    second.gzipFooter.take second.gzipFooterBytes.toNat
  size : 0 ≤ first.gzipFooterBytes → first.uncompressedSize = second.uncompressedSize
  crc : 0 ≤ first.gzipFooterBytes → first.settings.gzipHeaderMode = true → first.crc = second.crc

/-- The same data: the part of the footer, and the checksum if it is needed. -/
structure SameData (first second : ZLib Inflater Deflater) : Prop
    extends SameFooter first second where
  checksum : first.settings.gzipHeaderMode = true → first.crc = second.crc

/-- The same data and the same stream behind a first chunk that was uncompressed. -/
structure UncompAlike (first second : ZLib Inflater Deflater) : Prop
    extends SameUncomp first second, SameData first second where
  counted : first.uncompStream.totalIn < 2 ^ 64

/-- The objects agree, and a sequence in progress is one that uncompresses. -/
structure Uncompressing (seen : Prop) (first second : ZLib Inflater Deflater) : Prop
    extends Alike seen first second where
  running : first.firstChunk = false → UncompAlike first second

/-- The same answer, and objects that agree behind it. -/
structure SameResult (seen : Prop) (first second : Uncompressed Inflater Deflater) : Prop where
  code : first.code = second.code
  written : first.written = second.written
  destLen : first.destLen = second.destLen
  sourceLen : first.sourceLen = second.sourceLen
  objects : Uncompressing seen first.object second.object

/-- The same answer; behind a call that went well, the footer agrees as well. -/
structure SameUncompressed (seen : Prop) (first second : Uncompressed Inflater Deflater) : Prop
    extends SameResult seen first second where
  footer : first.code = .ok → SameFooter first.object second.object

theorem Uncompressing.reset (agree : Alike seen first second) :
    Uncompressing seen first.reset second.reset :=
  { agree with gzipHeader := rfl, firstChunk := rfl, running := nofun }

theorem Uncompressing.uncompressErrorInit (agree : Alike seen first second) :
    Uncompressing seen first.uncompressErrorInit second.uncompressErrorInit := by
  have closed (object : ZLib Inflater Deflater) : object.uncompressErrorInit =
      { object.reset with
        uncompStream := object.uncompressErrorInit.uncompStream
        uncompInit := false } := by
    unfold ZLib.uncompressErrorInit
    cases initialized : object.uncompInit with
    | true => rfl
    | false =>
      rw [if_neg Bool.false_ne_true, ← initialized]
      rfl
  rw [closed first, closed second]
  exact { agree with
    gzipHeader := rfl
    firstChunk := rfl
    uncomp := fun _ _ => rfl
    running := nofun }

/-! ### The first chunk -/

/-- `next_in` and `next_out` are set up. -/
def withUncompBuffers (object : ZLib Inflater Deflater) (sourceLen destLen : Nat) :
    ZLib Inflater Deflater :=
  { object with
    uncompStream.availIn := sourceLen % 2 ^ 32
    uncompStream.availOut := destLen % 2 ^ 32 }

theorem uncompressInit_eq (zlib : Zlib Inflater Deflater) (object : ZLib Inflater Deflater)
    (destLen sourceLen : Nat) :
    object.uncompressInit zlib destLen sourceLen =
      if sourceLen % 2 ^ 32 ≠ sourceLen then
        (.bufError, { object with uncompStream.availIn := sourceLen % 2 ^ 32 })
      else if destLen % 2 ^ 32 ≠ destLen then
        (.bufError, object.withUncompBuffers sourceLen destLen)
      else if object.firstChunk then
        (object.withUncompBuffers sourceLen destLen).prepareUncomp zlib
      else (.ok, object.withUncompBuffers sourceLen destLen) :=
  rfl

/-- The objects are ready for `inflate`, and the whole source is still to be read. -/
structure Fitted (sourceLen : Nat) (first second : ZLib Inflater Deflater) : Prop
    extends UncompAlike first second where
  availIn : first.uncompStream.availIn = sourceLen
  short : sourceLen < 2 ^ 32

section Prepare

variable (reuses : zlib.Reuses opened) (firstOpen : first.UncompOpen)
  (secondOpen : second.UncompOpen) (data : SameData first second)

include reuses firstOpen secondOpen data

theorem prepareUncomp_alike (agree : Alike seen first second)
    (short : first.uncompStream.availIn < 2 ^ 32)
    (availIn : first.uncompStream.availIn = second.uncompStream.availIn)
    (availOut : first.uncompStream.availOut = second.uncompStream.availOut) :
    (first.prepareUncomp zlib.toZlib).1 = (second.prepareUncomp zlib.toZlib).1 ∧
      Alike seen (first.prepareUncomp zlib.toZlib).2 (second.prepareUncomp zlib.toZlib).2 ∧
      ((first.prepareUncomp zlib.toZlib).1 = .ok →
        Fitted first.uncompStream.availIn (first.prepareUncomp zlib.toZlib).2
          (second.prepareUncomp zlib.toZlib).2) := by
  have prepared := prepareUncomp_fresh reuses firstOpen
  have prepared' := prepareUncomp_fresh reuses secondOpen
  unfold PreparedUncomp at prepared prepared'
  have mode : first.settings.noHeaderMode = second.settings.noHeaderMode :=
    congrArg Settings.noHeaderMode agree.settings
  have wbits : second.wbits = first.wbits := by
    unfold ZLib.wbits
    rw [mode]
  rw [wbits] at prepared'
  cases started : zlib.inflateInit2 first.wbits with
  | ok fresh =>
    rw [started] at prepared prepared'
    rw [prepared, prepared']
    refine ⟨rfl, { agree with mode := fun _ => mode, uncomp := fun _ _ => rfl }, fun _ => ?_⟩
    refine { data with
      uncompInit := rfl
      uncompStream := ?_
      counted := show 0 < 2 ^ 64 by decide
      availIn := rfl
      short := short }
    show ZStream.mk (some fresh) first.uncompStream.availIn first.uncompStream.availOut 0 0 =
      ZStream.mk (some fresh) second.uncompStream.availIn second.uncompStream.availOut 0 0
    rw [availIn, availOut]
  | error code =>
    rw [started] at prepared prepared'
    obtain ⟨failed, stream, same⟩ := prepared
    obtain ⟨-, stream', same'⟩ := prepared'
    rw [same, same']
    exact ⟨rfl, { agree with uncomp := fun _ _ => rfl }, fun succeeded => absurd succeeded failed⟩

theorem uncompressInit_alike (agree : Uncompressing seen first second) (destLen sourceLen : Nat) :
    (first.uncompressInit zlib.toZlib destLen sourceLen).1 =
        (second.uncompressInit zlib.toZlib destLen sourceLen).1 ∧
      Uncompressing seen (first.uncompressInit zlib.toZlib destLen sourceLen).2
        (second.uncompressInit zlib.toZlib destLen sourceLen).2 ∧
      ((first.uncompressInit zlib.toZlib destLen sourceLen).1 = .ok →
        Fitted sourceLen (first.uncompressInit zlib.toZlib destLen sourceLen).2
          (second.uncompressInit zlib.toZlib destLen sourceLen).2) := by
  have narrow (later : first.firstChunk = false) :
      ({ first.uncompStream with availIn := sourceLen % 2 ^ 32 } : ZStream Inflater) =
        { second.uncompStream with availIn := sourceLen % 2 ^ 32 } := by
    rw [(agree.running later).uncompStream]
  have fitted (later : first.firstChunk = false) :
      (first.withUncompBuffers sourceLen destLen).uncompStream =
        (second.withUncompBuffers sourceLen destLen).uncompStream := by
    unfold withUncompBuffers
    rw [(agree.running later).uncompStream]
  rw [uncompressInit_eq, uncompressInit_eq]
  split
  · exact ⟨rfl, { agree with running := fun later =>
      { agree.running later with uncompStream := narrow later } }, nofun⟩
  · rename_i short
    split
    · exact ⟨rfl, { agree with running := fun later =>
        { agree.running later with uncompStream := fitted later } }, nofun⟩
    · by_cases start : first.firstChunk = true
      · rw [if_pos start, if_pos (agree.firstChunk.symm.trans start)]
        have firstOpen' : (first.withUncompBuffers sourceLen destLen).UncompOpen := firstOpen
        have secondOpen' : (second.withUncompBuffers sourceLen destLen).UncompOpen := secondOpen
        obtain ⟨code, alike, same⟩ := prepareUncomp_alike reuses firstOpen' secondOpen'
          { data with } { agree.toAlike with } (Nat.mod_lt sourceLen (by decide)) rfl rfl
        refine ⟨code, { alike with running := fun later => ?_ }, fun ok => ?_⟩
        · have kept := (prepareUncomp_prepares reuses.honest firstOpen').1.first start
          cases kept.symm.trans later
        · have whole : sourceLen % 2 ^ 32 = sourceLen := Decidable.not_not.mp short
          have fitted := same ok
          exact { fitted with availIn := fitted.availIn.trans whole, short := whole ▸ fitted.short }
      · have later := Bool.eq_false_iff.mpr start
        rw [if_neg start, if_neg (agree.firstChunk ▸ start)]
        refine ⟨rfl, { agree with running := fun _ => ?_ }, fun _ => ?_⟩
        · exact { agree.running later with uncompStream := fitted later }
        · exact { agree.running later with
            uncompStream := fitted later
            availIn := Decidable.not_not.mp short
            short := Decidable.not_not.mp short ▸ Nat.mod_lt sourceLen (by decide) }

end Prepare

/-! ### Inflating -/

/-- How far the stream has read the source since its counter of input was `oldTotalIn`. -/
structure Reading (oldTotalIn : Nat) (source : List UInt8) (stream : ZStream Inflater)
    (read : Nat) : Prop where
  counted : oldTotalIn < 2 ^ 64
  short : source.length < 2 ^ 32
  left : read + stream.availIn = source.length
  totalIn : stream.totalIn = (oldTotalIn + read) % 2 ^ 64

section Inflate

variable {oldTotalIn read : Nat} {source : List UInt8} {stream : ZStream Inflater}

theorem Reading.bytesRead (reading : Reading oldTotalIn source stream read) :
    (stream.totalIn + 2 ^ 64 - oldTotalIn) % 2 ^ 64 = read := by
  have few : read < 2 ^ 64 := by
    have left := reading.left
    have short := reading.short
    omega
  rw [reading.totalIn]
  exact counter_delta reading.counted few

theorem Reading.inflate (reuses : zlib.Reuses opened)
    (reading : Reading oldTotalIn source stream read) (rest : List UInt8) (flushMode : Flush) :
    ∃ read', Reading oldTotalIn source (stream.inflate zlib.toZlib rest flushMode).2.2 read' := by
  unfold ZStream.inflate
  cases stream.state with
  | none => exact ⟨read, reading⟩
  | some state =>
    have consumed := reuses.consumed state (rest.take stream.availIn) stream.availOut flushMode
    rw [List.length_take] at consumed
    have left := reading.left
    dsimp only
    generalize zlib.inflate state (rest.take stream.availIn) stream.availOut flushMode = inflated
      at consumed
    refine ⟨read + inflated.consumed, reading.counted, reading.short, ?_, ?_⟩
    · dsimp only
      omega
    · dsimp only
      rw [reading.totalIn, Nat.mod_add_mod, Nat.add_assoc]

theorem Reading.inflateSetDictionary (zlib : Zlib Inflater Deflater)
    (reading : Reading oldTotalIn source stream read) (dictionary : List UInt8) :
    Reading oldTotalIn source (stream.inflateSetDictionary zlib dictionary).2 read := by
  unfold ZStream.inflateSetDictionary
  cases stream.state with
  | none => exact reading
  | some state => exact { reading with }

theorem Reading.readable (reading : Reading oldTotalIn source stream read) :
    stream.totalIn < 2 ^ 64 := by
  rw [reading.totalIn]
  exact Nat.mod_lt _ (by decide)

end Inflate

/-- The metadata with some more bytes of output. -/
def withOutput (zlib : Zlib Inflater Deflater) (object : ZLib Inflater Deflater)
    (bytes : List UInt8) : ZLib Inflater Deflater :=
  { object with
    uncompressedSize := object.uncompStream.totalOut
    crc :=
      if object.settings.gzipHeaderMode then zlib.crc32 object.crc bytes else object.crc }

theorem withOutput_alike (zlib : WholeZlib Inflater Deflater) (agree : Alike seen first second)
    (same : UncompAlike first second) (bytes : List UInt8) :
    Alike seen (first.withOutput zlib.toZlib bytes) (second.withOutput zlib.toZlib bytes) ∧
      UncompAlike (first.withOutput zlib.toZlib bytes) (second.withOutput zlib.toZlib bytes) := by
  have size : (first.withOutput zlib.toZlib bytes).uncompressedSize =
      (second.withOutput zlib.toZlib bytes).uncompressedSize :=
    congrArg ZStream.totalOut same.uncompStream
  have crc (equal : first.crc = second.crc) : (first.withOutput zlib.toZlib bytes).crc =
      (second.withOutput zlib.toZlib bytes).crc := by
    unfold withOutput
    rw [equal, agree.settings]
  exact ⟨{ agree with uncompressedSize := fun _ => size, crc := fun seen => crc (agree.crc seen) },
    { same with
      size := fun _ => size
      crc := fun _ gzip => crc (same.checksum gzip)
      checksum := fun gzip => crc (same.checksum gzip) }⟩

/-- The first part of the footer, which comes with the end of the data. -/
def withFooter (object : ZLib Inflater Deflater) (count : Nat) (bytes : List UInt8) :
    ZLib Inflater Deflater :=
  { object with
    gzipFooterBytes := count
    gzipFooter := overwrite object.gzipFooter 0 bytes }

theorem take_withFooter (object : ZLib Inflater Deflater) {count : Nat} {bytes : List UInt8}
    (length : bytes.length = count) :
    (object.withFooter count bytes).gzipFooter.take
      (object.withFooter count bytes).gzipFooterBytes.toNat = bytes := by
  have taken : (overwrite object.gzipFooter 0 bytes).take (0 + bytes.length) =
      object.gzipFooter.take 0 ++ bytes := take_overwrite (Nat.zero_le _)
  rwa [Nat.zero_add, length] at taken

theorem withFooter_alike (agree : Alike seen first second) (same : UncompAlike first second)
    (size : first.uncompressedSize = second.uncompressedSize) {count : Nat} {bytes : List UInt8}
    (length : bytes.length = count) :
    Alike seen (first.withFooter count bytes) (second.withFooter count bytes) ∧
      UncompAlike (first.withFooter count bytes) (second.withFooter count bytes) := by
  have taken : (first.withFooter count bytes).gzipFooter.take
        (first.withFooter count bytes).gzipFooterBytes.toNat =
      (second.withFooter count bytes).gzipFooter.take
        (second.withFooter count bytes).gzipFooterBytes.toNat := by
    rw [take_withFooter first length, take_withFooter second length]
  exact ⟨{ agree with gzipFooterBytes := fun _ => rfl, gzipFooter := fun _ => taken },
    { same with
      count := rfl
      bytes := taken
      size := fun _ => size
      crc := fun _ => same.checksum }⟩

theorem concludeInflate_alike (flexible : Bool) (agree : Alike seen first second)
    (same : UncompAlike first second) {oldTotalIn read : Nat} {source : List UInt8}
    (reading : Reading oldTotalIn source first.uncompStream read) (oldTotalOut destLen : Nat)
    (written : List UInt8) (err : ZCode) :
    Option.Rel (SameUncompressed seen)
      (first.concludeInflate zlib.toZlib flexible oldTotalIn oldTotalOut destLen source written err)
      (second.concludeInflate zlib.toZlib flexible oldTotalIn oldTotalOut destLen source written
        err) := by
  have output (bytes : List UInt8) := withOutput_alike zlib agree same bytes
  have ended {count : Nat} (bytes : List UInt8) {footer : List UInt8}
      (length : footer.length = count) :=
    withFooter_alike (output bytes).1 (output bytes).2
      (congrArg ZStream.totalOut (output bytes).2.uncompStream) length
  obtain ⟨settings, _, _, _, stream, _, _, _, _, _, count, _⟩ := first
  obtain ⟨settings', _, _, _, stream', _, _, _, _, _, count', _⟩ := second
  obtain rfl : settings = settings' := agree.settings
  obtain rfl : stream = stream' := same.uncompStream
  obtain rfl : count = count' := same.count
  unfold concludeInflate
  dsimp only
  rw [reading.bytesRead]
  have ends {first second : ZLib Inflater Deflater} (data : Alike seen first second ∧
      UncompAlike first second) (code : ZCode) (size left : Nat) :
      Option.Rel (SameUncompressed seen) (some ⟨code, written, size, left, first⟩)
        (some ⟨code, written, size, left, second⟩) :=
    .some ⟨⟨rfl, rfl, rfl, rfl, { data.1 with running := fun _ => data.2 }⟩,
      fun _ => data.2.toSameFooter⟩
  split
  · exact .none
  · split
    · refine ends (ended _ ?_) _ _ _
      have left : read + stream.availIn = source.length := reading.left
      rw [List.length_take, List.length_drop]
      omega
    · split
      · exact ends (output _) _ _ _
      · split
        · split
          · exact .none
          · exact .some ⟨⟨rfl, rfl, rfl, rfl, Uncompressing.uncompressErrorInit agree⟩, nofun⟩
        · split
          · rename_i failed
            exact .some ⟨⟨rfl, rfl, rfl, rfl, Uncompressing.uncompressErrorInit agree⟩,
              fun ok => absurd ok failed.1⟩
          · split
            · exact ends (output _) _ _ _
            · exact ends (output _) _ _ _

theorem inflateSource_alike (reuses : zlib.Reuses opened) (flexible : Bool)
    (agree : Alike seen first second) (same : UncompAlike first second) {oldTotalIn : Nat}
    {source : List UInt8} (reading : Reading oldTotalIn source first.uncompStream 0)
    (oldTotalOut destLen : Nat) (flushMode : Flush) :
    Option.Rel (SameUncompressed seen)
      (first.inflateSource zlib.toZlib flexible oldTotalIn oldTotalOut destLen source flushMode)
      (second.inflateSource zlib.toZlib flexible oldTotalIn oldTotalOut destLen source
        flushMode) := by
  obtain ⟨read, reading'⟩ := reading.inflate reuses source flushMode
  obtain ⟨settings, _, _, _, stream, _, _, _, _, _, count, _⟩ := first
  obtain ⟨settings', _, _, _, stream', _, _, _, _, _, count', _⟩ := second
  obtain rfl : settings = settings' := agree.settings
  obtain rfl : stream = stream' := same.uncompStream
  unfold inflateSource
  dsimp only at reading' ⊢
  generalize stream.inflate zlib.toZlib source flushMode = called at reading'
  split
  · rename_i dictionary found
    split
    · have preset := reading'.inflateSetDictionary zlib.toZlib
        (dictionary.bytes.take settings.dictLen)
      generalize called.2.2.inflateSetDictionary zlib.toZlib
        (dictionary.bytes.take settings.dictLen) = adjusted at preset
      split
      · rename_i failed
        refine .some ⟨⟨rfl, rfl, rfl, rfl, Uncompressing.uncompressErrorInit ?_⟩,
          fun ok => absurd ok failed⟩
        exact { agree with }
      · obtain ⟨more, reading''⟩ := preset.inflate reuses
          (source.drop ((adjusted.2.totalIn + 2 ^ 64 - oldTotalIn) % 2 ^ 64)) flushMode
        refine concludeInflate_alike flexible ?_ ?_ reading'' _ _ _ _
        · exact { agree with }
        · exact { same with uncompStream := rfl, counted := reading''.readable }
    · refine concludeInflate_alike flexible ?_ ?_ reading' _ _ _ _
      · exact { agree with }
      · exact { same with uncompStream := rfl, counted := reading'.readable }
  · refine concludeInflate_alike flexible ?_ ?_ reading' _ _ _ _
    · exact { agree with }
    · exact { same with uncompStream := rfl, counted := reading'.readable }

theorem presetDictionary_alike (zlib : WholeZlib Inflater Deflater) {sourceLen : Nat}
    (agree : Alike seen first second) (same : Fitted sourceLen first second) :
    (first.presetDictionary zlib.toZlib).1 = (second.presetDictionary zlib.toZlib).1 ∧
      Uncompressing seen (first.presetDictionary zlib.toZlib).2
        (second.presetDictionary zlib.toZlib).2 ∧
      ((first.presetDictionary zlib.toZlib).1 = .ok →
        Fitted sourceLen (first.presetDictionary zlib.toZlib).2
            (second.presetDictionary zlib.toZlib).2 ∧
          (first.presetDictionary zlib.toZlib).2.uncompStream.totalIn =
            first.uncompStream.totalIn) := by
  obtain ⟨settings, _, _, _, stream, _, _, _, _, _, _, _⟩ := first
  obtain ⟨settings', _, _, _, stream', _, _, _, _, _, _, _⟩ := second
  obtain rfl : settings = settings' := agree.settings
  obtain rfl : stream = stream' := same.uncompStream
  unfold presetDictionary
  dsimp only
  split
  · rename_i dictionary found
    split
    · have kept : (stream.inflateSetDictionary zlib.toZlib
            (dictionary.bytes.take settings.dictLen)).2.availIn = stream.availIn ∧
          (stream.inflateSetDictionary zlib.toZlib
            (dictionary.bytes.take settings.dictLen)).2.totalIn = stream.totalIn := by
        unfold ZStream.inflateSetDictionary
        cases stream.state with
        | none => exact ⟨rfl, rfl⟩
        | some state => exact ⟨rfl, rfl⟩
      generalize stream.inflateSetDictionary zlib.toZlib
        (dictionary.bytes.take settings.dictLen) = adjusted at kept
      split
      · rename_i failed
        refine ⟨rfl, Uncompressing.uncompressErrorInit ?_, fun ok => absurd ok failed⟩
        exact { agree with }
      · have counted : adjusted.2.totalIn < 2 ^ 64 := kept.2 ▸ same.counted
        refine ⟨rfl, { agree with running := fun _ => ?_ }, fun _ => ⟨?_, kept.2⟩⟩
        · exact { same with uncompStream := rfl, counted := counted }
        · exact { same with
            uncompStream := rfl
            counted := counted
            availIn := kept.1.trans same.availIn }
    · exact ⟨rfl, { agree with running := fun _ => same.toUncompAlike }, fun _ => ⟨same, rfl⟩⟩
  · exact ⟨rfl, { agree with running := fun _ => same.toUncompAlike }, fun _ => ⟨same, rfl⟩⟩

/-- Before the source is inflated. -/
theorem Fitted.reading {source : List UInt8} (fitted : Fitted source.length first second) :
    Reading first.uncompStream.totalIn source first.uncompStream 0 where
  counted := fitted.counted
  short := fitted.short
  left := by rw [Nat.zero_add, fitted.availIn]
  totalIn := (Nat.mod_eq_of_lt fitted.counted).symm

section Uncompress

variable (reuses : zlib.Reuses opened) (firstOpen : first.UncompOpen)
  (secondOpen : second.UncompOpen)

include reuses firstOpen secondOpen

theorem uncompressSource_alike (flexible : Bool) (agree : Uncompressing seen first second)
    (data : SameData first second) (destLen : Nat) (source : List UInt8) (flushMode : Flush) :
    Option.Rel (SameUncompressed seen)
      (first.uncompressSource zlib.toZlib flexible destLen source flushMode)
      (second.uncompressSource zlib.toZlib flexible destLen source flushMode) := by
  obtain ⟨code, alike, fitted⟩ :=
    uncompressInit_alike reuses firstOpen secondOpen data agree destLen source.length
  unfold uncompressSource
  dsimp only
  generalize first.uncompressInit zlib.toZlib destLen source.length = prepared
    at code alike fitted
  generalize second.uncompressInit zlib.toZlib destLen source.length = prepared'
    at code alike fitted
  rw [← code]
  split
  · rename_i failed
    exact .some ⟨⟨rfl, rfl, rfl, rfl, alike⟩, fun ok => absurd ok failed⟩
  · rename_i succeeded
    have same := fitted (Decidable.not_not.mp succeeded)
    rw [← same.uncompStream, ← alike.firstChunk]
    split
    · obtain ⟨code', preset, fitted'⟩ := presetDictionary_alike zlib alike.toAlike same
      generalize prepared.2.presetDictionary zlib.toZlib = between at code' preset fitted'
      generalize prepared'.2.presetDictionary zlib.toZlib = between' at code' preset fitted'
      rw [← code']
      split
      · rename_i failed
        exact .some ⟨⟨rfl, rfl, rfl, rfl, preset⟩, fun ok => absurd ok failed⟩
      · rename_i succeeded'
        obtain ⟨ready, totalIn⟩ := fitted' (Decidable.not_not.mp succeeded')
        split
        · exact .some ⟨⟨rfl, rfl, rfl, rfl,
            { preset.toAlike with firstChunk := rfl, running := fun _ => { ready with } }⟩,
            fun _ => { ready with }⟩
        · refine inflateSource_alike reuses flexible ?_ ?_ ?_ _ _ _
          · exact { preset.toAlike with firstChunk := rfl }
          · exact { ready with }
          · rw [← totalIn]
            exact ready.reading
    · exact inflateSource_alike reuses flexible alike.toAlike same.toUncompAlike same.reading _ _ _

theorem readHeader_alike (flexible : Bool) (agree : Alike seen first second)
    (footer : SameFooter first second) (start : first.firstChunk = true) (destLen : Nat)
    (source : List UInt8) (flushMode : Flush) :
    Option.Rel (SameUncompressed seen)
      (first.readHeader zlib.toZlib flexible destLen source flushMode)
      (second.readHeader zlib.toZlib flexible destLen source flushMode) := by
  unfold readHeader
  rw [← agree.gzipHeader]
  split
  · exact .none
  · rename_i header status _
    dsimp only
    split
    · refine .some ⟨⟨rfl, rfl, rfl, rfl, ?_⟩, fun _ => { footer with }⟩
      exact { agree with
        gzipHeader := rfl
        running := fun later => by cases start.symm.trans later }
    · exact .some
        ⟨⟨rfl, rfl, rfl, rfl, Uncompressing.reset { agree with gzipHeader := rfl }⟩, nofun⟩
    · refine uncompressSource_alike reuses ?_ ?_ flexible ?_ ?_ _ _ _
      · exact firstOpen
      · exact secondOpen
      · exact { agree with
          gzipHeader := rfl
          crc := fun _ => rfl
          running := fun later => by cases start.symm.trans later }
      · exact { footer with crc := fun _ _ => rfl, checksum := fun _ => rfl }

omit reuses firstOpen secondOpen in
theorem readFooter_alike (flexible : Bool) (agree : Alike seen first second)
    (same : UncompAlike first second) (firstFits : first.FooterFits)
    (secondFits : second.FooterFits) (present : 0 ≤ first.gzipFooterBytes) (destLen : Nat)
    (source : List UInt8) :
    Option.Rel (SameUncompressed seen) (first.readFooter flexible destLen source)
      (second.readFooter flexible destLen source) := by
  have appended (bytes : List UInt8) (object : ZLib Inflater Deflater) (fits : object.FooterFits)
      (present : 0 ≤ object.gzipFooterBytes) :
      (overwrite object.gzipFooter object.gzipFooterBytes.toNat bytes).take
          (object.gzipFooterBytes + bytes.length).toNat =
        object.gzipFooter.take object.gzipFooterBytes.toNat ++ bytes := by
    have within := fits.2
    have length := fits.1
    rw [Int.toNat_add present (Int.natCast_nonneg _), Int.toNat_natCast]
    exact take_overwrite (by omega)
  have present' : 0 ≤ second.gzipFooterBytes := same.count ▸ present
  unfold readFooter
  dsimp only
  rw [← same.count]
  split
  · exact .some ⟨⟨rfl, rfl, rfl, rfl, Uncompressing.reset agree⟩, nofun⟩
  · have length : (source.take (min (8 - first.gzipFooterBytes.toNat) source.length)).length =
        min (8 - first.gzipFooterBytes.toNat) source.length := by
      rw [List.length_take]
      omega
    generalize source.take (min (8 - first.gzipFooterBytes.toNat) source.length) = bytes at length
    have taken : (overwrite first.gzipFooter first.gzipFooterBytes.toNat bytes).take
          (first.gzipFooterBytes + bytes.length).toNat =
        (overwrite second.gzipFooter first.gzipFooterBytes.toNat bytes).take
          (first.gzipFooterBytes + bytes.length).toNat := by
      have read := appended bytes second secondFits present'
      rw [← same.count] at read
      rw [appended bytes first firstFits present, read, same.bytes, same.count]
    have data : UncompAlike
        { first with
          gzipFooter := overwrite first.gzipFooter first.gzipFooterBytes.toNat bytes
          gzipFooterBytes := first.gzipFooterBytes + bytes.length }
        { second with
          gzipFooter := overwrite second.gzipFooter first.gzipFooterBytes.toNat bytes
          gzipFooterBytes := first.gzipFooterBytes + bytes.length } :=
      { same with
        count := rfl
        bytes := taken
        size := fun _ => same.size present
        crc := fun _ => same.checksum }
    rw [← length]
    refine .some ⟨⟨rfl, rfl, rfl, rfl, ?_⟩, fun _ => data.toSameFooter⟩
    exact { agree with
      gzipFooterBytes := fun _ => rfl
      gzipFooter := fun _ => taken
      running := fun _ => data }

theorem uncompressAtMostOrAll_alike (flexible : Bool) (agree : Uncompressing seen first second)
    (firstFits : first.FooterFits) (secondFits : second.FooterFits) (destLen : Nat)
    (source : List UInt8) (flushMode : Flush) :
    Option.Rel (SameUncompressed seen)
      (first.uncompressAtMostOrAll zlib.toZlib flexible destLen source flushMode)
      (second.uncompressAtMostOrAll zlib.toZlib flexible destLen source flushMode) := by
  unfold uncompressAtMostOrAll
  by_cases start : first.firstChunk = true
  · rw [if_pos start, if_pos (agree.firstChunk.symm.trans start)]
    have agree' : Alike seen { first with gzipFooterBytes := -1 }
        { second with gzipFooterBytes := -1 } :=
      { agree.toAlike with gzipFooterBytes := fun _ => rfl, gzipFooter := fun _ => rfl }
    have footer : SameFooter { first with gzipFooterBytes := -1 }
        { second with gzipFooterBytes := -1 } := ⟨rfl, rfl, nofun, nofun⟩
    dsimp only
    by_cases gzip : first.settings.gzipHeaderMode = true
    · rw [if_pos gzip, if_pos (agree.settings ▸ gzip)]
      refine readHeader_alike reuses ?_ ?_ flexible agree' footer start _ _ _
      · exact firstOpen
      · exact secondOpen
    · rw [if_neg gzip, if_neg (agree.settings ▸ gzip)]
      refine uncompressSource_alike reuses ?_ ?_ flexible ?_ ?_ _ _ _
      · exact firstOpen
      · exact secondOpen
      · exact { agree' with running := fun later => by cases start.symm.trans later }
      · exact { footer with checksum := fun impossible => absurd impossible gzip }
  · have later := Bool.eq_false_iff.mpr start
    have same := agree.running later
    have start' : ¬ second.firstChunk = true := agree.firstChunk ▸ start
    rw [if_neg start, if_neg start', ← same.count]
    split
    · rename_i present
      exact readFooter_alike flexible agree.toAlike same firstFits secondFits present _ _
    · exact uncompressSource_alike reuses firstOpen secondOpen flexible agree same.toSameData _ _ _

theorem uncompressChunkOrAll_alike (flexible : Bool) (agree : Uncompressing seen first second)
    (firstFits : first.FooterFits) (secondFits : second.FooterFits) (destLen : Nat)
    (source : List UInt8) (flushMode : Flush) :
    Option.Rel (SameUncompressed seen)
      (first.uncompressChunkOrAll zlib.toZlib flexible destLen source flushMode)
      (second.uncompressChunkOrAll zlib.toZlib flexible destLen source flushMode) := by
  have same := uncompressAtMostOrAll_alike reuses firstOpen secondOpen flexible agree firstFits
    secondFits destLen source flushMode
  unfold uncompressChunkOrAll
  generalize first.uncompressAtMostOrAll zlib.toZlib flexible destLen source flushMode = called
    at same
  generalize second.uncompressAtMostOrAll zlib.toZlib flexible destLen source flushMode = called'
    at same
  cases same with
  | none => exact .none
  | @some result result' same =>
    refine .some ?_
    dsimp only
    by_cases full : result.code = .bufError
    · rw [if_pos full, if_pos (same.code.symm.trans full)]
      exact ⟨⟨same.code, same.written, same.destLen, same.sourceLen,
        Uncompressing.uncompressErrorInit same.objects.toAlike⟩,
        fun ok => by cases full.symm.trans ok⟩
    · rw [if_neg full, if_neg (same.code ▸ full)]
      exact same

omit reuses firstOpen secondOpen in
theorem isGzipFooterValid_alike (footer : SameFooter first second) (firstFits : first.FooterFits)
    (secondFits : second.FooterFits) (crc : 0 ≤ first.gzipFooterBytes → first.crc = second.crc) :
    first.isGzipFooterValid = second.isGzipFooterValid := by
  have complete : first.isGzipFooterComplete = second.isGzipFooterComplete := by
    unfold isGzipFooterComplete
    rw [footer.count]
  unfold isGzipFooterValid
  rw [← complete]
  by_cases whole : 8 ≤ first.gzipFooterBytes
  · have present : 0 ≤ first.gzipFooterBytes := by omega
    have eight : first.gzipFooterBytes = 8 := Int.le_antisymm firstFits.2 whole
    have bytes : first.gzipFooter = second.gzipFooter := by
      have taken : first.gzipFooter.take 8 = second.gzipFooter.take 8 := by
        have bytes := footer.bytes
        rwa [← footer.count, eight] at bytes
      rwa [List.take_of_length_le (Nat.le_of_eq firstFits.1),
        List.take_of_length_le (Nat.le_of_eq secondFits.1)] at taken
    unfold footerWord
    rw [bytes, footer.size present, crc present]
  · have partial_ : first.isGzipFooterComplete = false := by
      unfold isGzipFooterComplete
      exact decide_eq_false fun both => whole both.2
    rw [partial_]
    simp only [Bool.false_eq_true, false_and]

theorem uncompressChunkDone_alike (flexible : Bool) (agree : Uncompressing seen first second)
    (firstFits : first.FooterFits) (secondFits : second.FooterFits) :
    SameStep (Uncompressing seen) (first.uncompressChunkDone zlib.toZlib flexible)
      (second.uncompressChunkDone zlib.toZlib flexible) := by
  have same := uncompressChunkOrAll_alike reuses firstOpen secondOpen flexible agree firstFits
    secondFits 0 [] .finish
  have idle : (first.firstChunk = true ∨ first.uncompInit = false) ↔
      second.firstChunk = true ∨ second.uncompInit = false := by
    rw [← agree.firstChunk]
    cases start : first.firstChunk with
    | true => exact ⟨fun _ => .inl rfl, fun _ => .inl rfl⟩
    | false => rw [(agree.running start).uncompInit]
  unfold uncompressChunkDone
  by_cases waits : first.firstChunk = true ∨ first.uncompInit = false
  · rw [if_pos waits, if_pos (idle.mp waits)]
    exact .some ⟨rfl, agree⟩
  · rw [if_neg waits, if_neg (mt idle.mpr waits)]
    have fits {result : Uncompressed Inflater Deflater} {object : ZLib Inflater Deflater}
        (opened : object.UncompOpen) (before : object.FooterFits)
        (called : object.uncompressChunkOrAll zlib.toZlib flexible 0 [] .finish = some result) :
        result.object.FooterFits :=
      (uncompressChunkOrAll_settles reuses.honest opened called).kept.footer before
    generalize called : first.uncompressChunkOrAll zlib.toZlib flexible 0 [] .finish = ended
      at same
    generalize called' : second.uncompressChunkOrAll zlib.toZlib flexible 0 [] .finish = ended'
      at same
    cases same with
    | none => exact .none
    | @some result result' same =>
      refine .some ?_
      dsimp only
      by_cases failed : result.code ≠ .ok
      · rw [if_pos failed, if_pos (same.code ▸ failed)]
        exact ⟨rfl, same.objects⟩
      · have footer := same.footer (Decidable.not_not.mp failed)
        have agree' := Uncompressing.reset same.objects.toAlike
        have footer' : SameFooter result.object.reset result'.object.reset := { footer with }
        have valid (gzip : result.object.reset.settings.gzipHeaderMode = true) :=
          isGzipFooterValid_alike footer' (fits firstOpen firstFits called)
            (fits secondOpen secondFits called') fun present => footer'.crc present gzip
        have succeeded : ¬ result'.code ≠ .ok := same.code ▸ failed
        rw [if_neg failed, if_neg succeeded, ← footer'.count, ← agree'.settings]
        split
        · exact ⟨rfl, agree'⟩
        · split
          · exact ⟨rfl, agree'⟩
          · split
            · rename_i gzip
              exact ⟨valid gzip, agree'⟩
            · exact ⟨rfl, agree'⟩

theorem uncompress_alike (flexible : Bool) (agree : Uncompressing seen first second)
    (firstFits : first.FooterFits) (secondFits : second.FooterFits) (destLen : Nat)
    (source : List UInt8) :
    Option.Rel (SameResult seen) (first.uncompress zlib flexible destLen source)
      (second.uncompress zlib flexible destLen source) := by
  have same := uncompressChunkOrAll_alike reuses firstOpen secondOpen flexible agree firstFits
    secondFits destLen source .finish
  unfold uncompress
  generalize called : first.uncompressChunkOrAll zlib.toZlib flexible destLen source .finish = begun
    at same
  generalize called' : second.uncompressChunkOrAll zlib.toZlib flexible destLen source .finish =
    begun' at same
  cases same with
  | none => exact .none
  | @some result result' same =>
    rw [Option.bind_some, Option.bind_some]
    by_cases failed : result.code ≠ .ok
    · rw [if_pos failed, if_pos (same.code ▸ failed)]
      exact .some ⟨same.code, same.written, same.destLen, same.sourceLen,
        Uncompressing.reset same.objects.toAlike⟩
    · have settled := uncompressChunkOrAll_settles reuses.honest firstOpen called
      have settled' := uncompressChunkOrAll_settles reuses.honest secondOpen called'
      have done := uncompressChunkDone_alike reuses settled.opened settled'.opened flexible
        same.objects (settled.kept.footer firstFits) (settled'.kept.footer secondFits)
      have succeeded : ¬ result'.code ≠ .ok := same.code ▸ failed
      rw [if_neg failed, if_neg succeeded]
      generalize result.object.uncompressChunkDone zlib.toZlib flexible = ended at done
      generalize result'.object.uncompressChunkDone zlib.toZlib flexible = ended' at done
      cases done with
      | none => exact .none
      | @some answer answer' agreed =>
        refine .some ⟨?_, same.written, same.destLen, same.sourceLen, agreed.2⟩
        dsimp only
        rw [agreed.1]

theorem uncompressGzipAndAllocate_alike (flexible : Bool) (malloc : Nat → Bool)
    (agree : Uncompressing seen first second) (firstFits : first.FooterFits)
    (secondFits : second.FooterFits) (destLen : Nat) (source : List UInt8) :
    SameStep (Uncompressing seen)
      ((first.uncompressGzipAndAllocate zlib flexible malloc destLen source).map Allocated.answer)
      ((second.uncompressGzipAndAllocate zlib flexible malloc destLen source).map
        Allocated.answer) := by
  have same := uncompress_alike reuses firstOpen secondOpen flexible agree firstFits secondFits
    (gzipUncompressedLength source) source
  unfold uncompressGzipAndAllocate
  dsimp only
  rw [← agree.settings]
  split
  · exact .some ⟨rfl, agree⟩
  · split
    · cases hasGzipHeader source with
      | none => exact .none
      | some found => exact .some ⟨rfl, agree⟩
    · split
      · exact .some ⟨rfl, agree⟩
      · generalize first.uncompress zlib flexible (gzipUncompressedLength source) source = result
          at same
        generalize second.uncompress zlib flexible (gzipUncompressedLength source) source = result'
          at same
        cases same with
        | none => exact .none
        | @some result result' same =>
          have output : result.output = result'.output := by
            unfold Uncompressed.output
            rw [same.written, same.destLen]
          refine .some ⟨?_, same.objects⟩
          unfold Allocated.answer
          dsimp only
          rw [same.code, same.destLen, output]

end Uncompress

end Fleetbench.Compression.ZLib
