/-
This file says what the functions of the class `ZLib` that compress or
uncompress leave alone, and how each of them leaves its own stream: behind a
first chunk it is initialized.
-/

import Fleetbench.Compression.Calls

namespace Fleetbench.Compression

/-- An initialization that fails does not return `Z_OK`. -/
structure WholeZlib.Honest {Inflater Deflater : Type} (zlib : WholeZlib Inflater Deflater) :
    Prop where
  inflateInit2 : ∀ windowBits, zlib.inflateInit2 windowBits ≠ .error .ok
  deflateInit2 : ∀ level windowBits memLevel,
    zlib.deflateInit2 level windowBits memLevel ≠ .error .ok

/-- The parameters of `deflateInit2`. -/
structure Parameters where
  level : Int
  windowBits : Int
  memLevel : Int
  deriving DecidableEq, Repr

namespace ZLib

/-- The parameters that the settings ask for. -/
def parameters (settings : Settings) : Parameters where
  level := settings.compressionLevel
  windowBits := signedWindowBits settings
  memLevel := settings.memLevel

end ZLib

/-- Something that is true of the streams with some parameters, whatever is done with them. -/
structure WholeZlib.Maintains {Inflater Deflater : Type} (zlib : WholeZlib Inflater Deflater)
    (remembered : Deflater → Parameters → Prop) : Prop where
  init : ∀ parameters stream,
    zlib.deflateInit2 parameters.level parameters.windowBits parameters.memLevel = .ok stream →
      remembered stream parameters
  reset : ∀ parameters stream, remembered stream parameters →
    remembered (zlib.deflateReset stream).2 parameters
  params : ∀ parameters stream level, remembered stream parameters →
    (zlib.deflateParams stream level).1 = .ok →
      remembered (zlib.deflateParams stream level).2 { parameters with level := level }
  setDictionary : ∀ parameters stream dictionary, remembered stream parameters →
    remembered (zlib.deflateSetDictionary stream dictionary).2 parameters
  deflate : ∀ parameters stream input room flushMode, remembered stream parameters →
    remembered (zlib.deflate stream input room flushMode).next parameters

theorem maintains_true {Inflater Deflater : Type} (zlib : WholeZlib Inflater Deflater) :
    zlib.Maintains fun _ _ => True :=
  ⟨fun _ _ _ => trivial, fun _ _ _ => trivial, fun _ _ _ _ _ => trivial, fun _ _ _ _ => trivial,
    fun _ _ _ _ _ _ => trivial⟩

namespace ZStream

variable {State Inflater Deflater : Type} {zlib : WholeZlib Inflater Deflater}

/-- The stream has been initialized and not ended. -/
def Open (stream : ZStream State) : Prop :=
  stream.state.isSome

/-- The stream is open, and its state is as remembered. -/
def Remembers (stream : ZStream State) (remembered : State → Prop) : Prop :=
  ∃ state, stream.state = some state ∧ remembered state

theorem Remembers.open {stream : ZStream State} {remembered : State → Prop}
    (remembers : stream.Remembers remembered) : stream.Open := by
  obtain ⟨state, found, -⟩ := remembers
  rw [Open, found]
  rfl

section Deflate

variable {remembered : Deflater → Parameters → Prop} (maintains : zlib.Maintains remembered)
  {stream : ZStream Deflater} {parameters : Parameters}

include maintains

theorem remembers_deflateReset (remembers : stream.Remembers (remembered · parameters)) :
    (stream.deflateReset zlib.toZlib).2.Remembers (remembered · parameters) := by
  obtain ⟨state, found, true_⟩ := remembers
  unfold deflateReset
  rw [found]
  exact ⟨_, rfl, maintains.reset _ _ true_⟩

theorem remembers_deflateParams (remembers : stream.Remembers (remembered · parameters))
    {level : Int} (adjusted : (stream.deflateParams zlib level).1 = .ok) :
    (stream.deflateParams zlib level).2.Remembers
      (remembered · { parameters with level := level }) := by
  obtain ⟨state, found, true_⟩ := remembers
  unfold deflateParams at adjusted ⊢
  rw [found] at adjusted ⊢
  exact ⟨_, rfl, maintains.params _ _ _ true_ adjusted⟩

theorem remembers_deflateSetDictionary (remembers : stream.Remembers (remembered · parameters))
    (dictionary : List UInt8) :
    (stream.deflateSetDictionary zlib dictionary).2.Remembers (remembered · parameters) := by
  obtain ⟨state, found, true_⟩ := remembers
  unfold deflateSetDictionary
  rw [found]
  exact ⟨_, rfl, maintains.setDictionary _ _ _ true_⟩

theorem remembers_deflate (remembers : stream.Remembers (remembered · parameters))
    (source : List UInt8) (flushMode : Flush) :
    (stream.deflate zlib source flushMode).2.2.Remembers (remembered · parameters) := by
  obtain ⟨state, found, true_⟩ := remembers
  unfold deflate
  rw [found]
  exact ⟨_, rfl, maintains.deflate _ _ _ _ _ true_⟩

theorem remembers_deflateInit2 (honest : zlib.Honest) (parameters : Parameters)
    (initialized : (stream.deflateInit2 zlib parameters.level parameters.windowBits
      parameters.memLevel).1 = .ok) :
    (stream.deflateInit2 zlib parameters.level parameters.windowBits
      parameters.memLevel).2.Remembers (remembered · parameters) := by
  unfold deflateInit2 at initialized ⊢
  split at initialized
  · rename_i state found
    exact ⟨state, rfl, maintains.init _ _ found⟩
  · rename_i code found
    have same : code = .ok := initialized
    exact absurd (same ▸ found) (honest.deflateInit2 _ _ _)

end Deflate

theorem open_inflateReset2 (zlib : WholeZlib Inflater Deflater) {stream : ZStream Inflater}
    (opened : stream.Open) (windowBits : Int) :
    (stream.inflateReset2 zlib.toZlib windowBits).2.Open := by
  unfold inflateReset2
  split
  · exact opened
  · rfl

theorem open_inflateSetDictionary (zlib : WholeZlib Inflater Deflater) {stream : ZStream Inflater}
    (opened : stream.Open) (dictionary : List UInt8) :
    (stream.inflateSetDictionary zlib.toZlib dictionary).2.Open := by
  unfold inflateSetDictionary
  split
  · exact opened
  · rfl

theorem open_inflate (zlib : WholeZlib Inflater Deflater) {stream : ZStream Inflater}
    (opened : stream.Open) (source : List UInt8) (flushMode : Flush) :
    (stream.inflate zlib.toZlib source flushMode).2.2.Open := by
  unfold inflate
  split
  · exact opened
  · rfl

theorem open_inflateInit2 (honest : zlib.Honest) {stream : ZStream Inflater} {windowBits : Int}
    (initialized : (stream.inflateInit2 zlib.toZlib windowBits).1 = .ok) :
    (stream.inflateInit2 zlib.toZlib windowBits).2.Open := by
  unfold inflateInit2 at initialized ⊢
  split at initialized
  · rfl
  · rename_i code found
    have same : code = .ok := initialized
    exact absurd (same ▸ found) (honest.inflateInit2 _)

end ZStream

namespace ZLib

variable {Inflater Deflater : Type} {zlib : WholeZlib Inflater Deflater}

/-! ### Compression -/

variable {remembered : Deflater → Parameters → Prop}

/-- What the functions that compress leave alone. -/
structure KeptByCompression (before after : ZLib Inflater Deflater) : Prop where
  settings : after.settings = before.settings
  uncompInit : after.uncompInit = before.uncompInit
  uncompStream : after.uncompStream = before.uncompStream
  gzipFooter : after.gzipFooter = before.gzipFooter
  gzipFooterBytes : after.gzipFooterBytes = before.gzipFooterBytes
  mode : after.initSettings.noHeaderMode = before.settings.noHeaderMode ∨
    (after.initSettings.noHeaderMode = before.initSettings.noHeaderMode ∧
      (after.compInit = true → before.compInit = true))

theorem KeptByCompression.trans {before between after : ZLib Inflater Deflater}
    (first : before.KeptByCompression between) (second : between.KeptByCompression after) :
    before.KeptByCompression after where
  settings := second.settings.trans first.settings
  uncompInit := second.uncompInit.trans first.uncompInit
  uncompStream := second.uncompStream.trans first.uncompStream
  gzipFooter := second.gzipFooter.trans first.gzipFooter
  gzipFooterBytes := second.gzipFooterBytes.trans first.gzipFooterBytes
  mode := by
    rcases second.mode with noted | ⟨same, initialized⟩
    · exact Or.inl (noted.trans (congrArg Settings.noHeaderMode first.settings))
    · rcases first.mode with noted | ⟨same', initialized'⟩
      · exact Or.inl (same.trans noted)
      · exact Or.inr ⟨same.trans same', fun after => initialized' (initialized after)⟩

/-- What the functions that prepare the compression stream leave alone. -/
structure KeptByPreparation (before after : ZLib Inflater Deflater) : Prop where
  kept : before.KeptByCompression after
  firstChunk : after.firstChunk = before.firstChunk
  crc : after.crc = before.crc
  uncompressedSize : after.uncompressedSize = before.uncompressedSize
  gzipHeader : after.gzipHeader = before.gzipHeader

theorem KeptByPreparation.refl (object : ZLib Inflater Deflater) :
    object.KeptByPreparation object :=
  ⟨⟨rfl, rfl, rfl, rfl, rfl, .inr ⟨rfl, id⟩⟩, rfl, rfl, rfl, rfl⟩

/-- Another stream. -/
theorem KeptByPreparation.buffers (object : ZLib Inflater Deflater) (stream : ZStream Deflater) :
    object.KeptByPreparation { object with compStream := stream } :=
  ⟨⟨rfl, rfl, rfl, rfl, rfl, .inr ⟨rfl, id⟩⟩, rfl, rfl, rfl, rfl⟩

theorem KeptByPreparation.trans {before between after : ZLib Inflater Deflater}
    (first : before.KeptByPreparation between) (second : between.KeptByPreparation after) :
    before.KeptByPreparation after where
  kept := first.kept.trans second.kept
  firstChunk := second.firstChunk.trans first.firstChunk
  crc := second.crc.trans first.crc
  uncompressedSize := second.uncompressedSize.trans first.uncompressedSize
  gzipHeader := second.gzipHeader.trans first.gzipHeader

/-- The compression stream has a state if the object takes it for initialized, and it is as
remembered for the parameters that `init_settings_` has noted. -/
def CompOpen (remembered : Deflater → Parameters → Prop) (object : ZLib Inflater Deflater) :
    Prop :=
  object.compInit = true →
    object.compStream.Remembers (remembered · (parameters object.initSettings))

section Compression

variable {remembered : Deflater → Parameters → Prop} (maintains : zlib.Maintains remembered)

theorem KeptByPreparation.closeComp {before after : ZLib Inflater Deflater}
    (kept : before.KeptByPreparation after) :
    before.KeptByPreparation after.closeComp ∧ after.closeComp.CompOpen remembered :=
  ⟨kept.trans ⟨⟨rfl, rfl, rfl, rfl, rfl, .inr ⟨rfl, nofun⟩⟩, rfl, rfl, rfl, rfl⟩, nofun⟩

theorem dropComp_prepares {object : ZLib Inflater Deflater}
    (opened : object.CompOpen remembered) :
    object.KeptByPreparation object.dropComp ∧ object.dropComp.CompOpen remembered := by
  unfold dropComp
  split
  · exact (KeptByPreparation.refl object).closeComp
  · exact ⟨.refl object, opened⟩

include maintains

theorem reuseComp_prepares {object : ZLib Inflater Deflater}
    (opened : object.CompOpen remembered) :
    object.KeptByPreparation (object.reuseComp zlib.toZlib) ∧
      (object.reuseComp zlib.toZlib).CompOpen remembered := by
  unfold reuseComp
  by_cases initialized : object.compInit = true
  · rw [if_pos initialized]
    dsimp only
    split
    · exact ⟨.buffers _ _, fun _ => ZStream.remembers_deflateReset maintains (opened initialized)⟩
    · exact KeptByPreparation.closeComp (.buffers _ _)
  · rw [if_neg initialized]
    exact ⟨.refl object, opened⟩

theorem adjustLevel_prepares {object : ZLib Inflater Deflater}
    (opened : object.CompOpen remembered) :
    object.KeptByPreparation (object.adjustLevel zlib) ∧
      (object.adjustLevel zlib).CompOpen remembered := by
  unfold adjustLevel
  by_cases changed : object.compInit = true ∧
      object.initSettings.compressionLevel ≠ object.settings.compressionLevel
  · rw [if_pos changed]
    dsimp only
    split
    · rename_i adjusted
      exact ⟨⟨⟨rfl, rfl, rfl, rfl, rfl, .inr ⟨rfl, id⟩⟩, rfl, rfl, rfl, rfl⟩, fun _ =>
        ZStream.remembers_deflateParams maintains (opened changed.1) adjusted⟩
    · exact KeptByPreparation.closeComp (.buffers _ _)
  · rw [if_neg changed]
    exact ⟨.refl object, opened⟩

theorem deflateInit_prepares (honest : zlib.Honest) (object : ZLib Inflater Deflater) :
    object.KeptByPreparation (object.deflateInit zlib).2 ∧
      (object.deflateInit zlib).2.compInit = object.compInit ∧
      ((object.deflateInit zlib).1 = .ok →
        (object.deflateInit zlib).2.initSettings.noHeaderMode = object.settings.noHeaderMode ∧
          (object.deflateInit zlib).2.compStream.Remembers
            (remembered · (parameters (object.deflateInit zlib).2.initSettings))) := by
  unfold deflateInit
  dsimp only
  split
  · rename_i initialized
    exact ⟨⟨⟨rfl, rfl, rfl, rfl, rfl, .inl rfl⟩, rfl, rfl, rfl, rfl⟩, rfl, fun _ => ⟨rfl,
      ZStream.remembers_deflateInit2 maintains honest (parameters object.settings) initialized⟩⟩
  · rename_i failed
    exact ⟨.buffers _ _, rfl, fun initialized => absurd initialized failed⟩

theorem prepareComp_prepares (honest : zlib.Honest) {object : ZLib Inflater Deflater}
    (opened : object.CompOpen remembered) :
    object.KeptByPreparation (object.prepareComp zlib).2 ∧
      (object.prepareComp zlib).2.CompOpen remembered ∧
      ((object.prepareComp zlib).1 = .ok → (object.prepareComp zlib).2.compInit = true) := by
  have dropped := dropComp_prepares opened
  have reused := reuseComp_prepares maintains dropped.2
  have adjusted := adjustLevel_prepares maintains reused.2
  have kept := dropped.1.trans (reused.1.trans adjusted.1)
  unfold prepareComp
  dsimp only
  generalize (object.dropComp.reuseComp zlib.toZlib).adjustLevel zlib = fitted at adjusted kept
  have fresh := deflateInit_prepares maintains honest fitted
  by_cases initialized : fitted.compInit = true
  · rw [if_pos initialized]
    exact ⟨kept, adjusted.2, fun _ => initialized⟩
  · rw [if_neg initialized]
    split
    · rename_i succeeded
      obtain ⟨noted, remembers⟩ := fresh.2.2 succeeded
      have final : fitted.KeptByPreparation
          { (fitted.deflateInit zlib).2 with compInit := true } :=
        ⟨⟨fresh.1.kept.settings, fresh.1.kept.uncompInit, fresh.1.kept.uncompStream,
          fresh.1.kept.gzipFooter, fresh.1.kept.gzipFooterBytes, .inl noted⟩, fresh.1.firstChunk,
          fresh.1.crc, fresh.1.uncompressedSize, fresh.1.gzipHeader⟩
      exact ⟨kept.trans final, fun _ => remembers, fun _ => rfl⟩
    · rename_i failed
      refine ⟨kept.trans fresh.1, fun impossible => ?_, fun succeeded => absurd succeeded failed⟩
      exact absurd (fresh.2.1.symm.trans impossible) initialized

theorem compressInit_prepares (honest : zlib.Honest) {object : ZLib Inflater Deflater}
    (opened : object.CompOpen remembered) (destLen sourceLen : Nat) :
    object.KeptByPreparation (object.compressInit zlib destLen sourceLen).2 ∧
      (object.compressInit zlib destLen sourceLen).2.CompOpen remembered ∧
      (object.firstChunk = true → (object.compressInit zlib destLen sourceLen).1 = .ok →
        (object.compressInit zlib destLen sourceLen).2.compInit = true) ∧
      (object.firstChunk = false →
        (object.compressInit zlib destLen sourceLen).2.compInit = object.compInit) := by
  unfold compressInit
  dsimp only
  split
  · exact ⟨.buffers _ _, opened, nofun, fun _ => rfl⟩
  · split
    · exact ⟨.buffers _ _, opened, nofun, fun _ => rfl⟩
    · split
      · rename_i first
        have opened' : CompOpen remembered { object with
            compStream.availIn := sourceLen % 2 ^ 32
            compStream.availOut := destLen % 2 ^ 32 } := opened
        obtain ⟨kept, opened', initialized⟩ := prepareComp_prepares maintains honest opened'
        refine ⟨KeptByPreparation.trans ?_ kept, opened', fun _ => initialized, fun later => ?_⟩
        · exact .buffers _ _
        · cases first.symm.trans later
      · rename_i later
        exact ⟨.buffers _ _, opened, fun first => absurd first later, fun _ => rfl⟩

omit maintains

/-- How a function that compresses leaves its stream. -/
structure CompSettled (remembered : Deflater → Parameters → Prop)
    (before after : ZLib Inflater Deflater) : Prop where
  kept : before.KeptByCompression after
  opened : after.CompOpen remembered
  engaged : (before.firstChunk = false → before.compInit = true) → after.firstChunk = false →
    after.compInit = true

theorem CompSettled.after {before between after : ZLib Inflater Deflater}
    (kept : before.KeptByCompression between)
    (engaged : (before.firstChunk = false → before.compInit = true) →
      between.firstChunk = false → between.compInit = true)
    (settled : between.CompSettled remembered after) : before.CompSettled remembered after :=
  ⟨kept.trans settled.kept, settled.opened, fun running => settled.engaged (engaged running)⟩

theorem CompSettled.compressErrorInit {before after : ZLib Inflater Deflater}
    (kept : before.KeptByCompression after) (opened : after.CompOpen remembered) :
    before.CompSettled remembered after.compressErrorInit := by
  unfold ZLib.compressErrorInit
  by_cases initialized : after.compInit = true
  · rw [if_pos initialized]
    exact ⟨kept.trans ⟨rfl, rfl, rfl, rfl, rfl, .inr ⟨rfl, nofun⟩⟩, nofun, fun _ => nofun⟩
  · rw [if_neg initialized]
    exact ⟨kept.trans ⟨rfl, rfl, rfl, rfl, rfl, .inr ⟨rfl, id⟩⟩, opened, fun _ => nofun⟩

theorem CompSettled.reset {before after : ZLib Inflater Deflater}
    (settled : before.CompSettled remembered after) :
    before.CompSettled remembered after.reset where
  kept := settled.kept.trans ⟨rfl, rfl, rfl, rfl, rfl, .inr ⟨rfl, id⟩⟩
  opened := settled.opened
  engaged _ := nofun

theorem startGzip_prepares {object after : ZLib Inflater Deflater} {header : List UInt8}
    (started : object.startGzip zlib = some (header, after)) :
    object.KeptByCompression after ∧
      (object.CompOpen remembered → after.CompOpen remembered) ∧
      after.compInit = object.compInit := by
  unfold startGzip at started
  split at started
  · obtain ⟨⟨_, between⟩, written, same⟩ := Option.map_eq_some_iff.mp started
    unfold writeGzipHeader at written
    split at written
    · cases written
    · cases written
      cases same
      exact ⟨⟨rfl, rfl, rfl, rfl, rfl, .inr ⟨rfl, id⟩⟩, fun opened => opened, rfl⟩
  · cases started
    exact ⟨⟨rfl, rfl, rfl, rfl, rfl, .inr ⟨rfl, id⟩⟩, fun opened => opened, rfl⟩

include maintains

theorem startDictionary_prepares {object : ZLib Inflater Deflater}
    (opened : object.CompOpen remembered) :
    object.KeptByCompression (object.startDictionary zlib).2 ∧
      (object.startDictionary zlib).2.CompOpen remembered ∧
      (object.startDictionary zlib).2.compInit = object.compInit := by
  unfold startDictionary
  split
  · dsimp only
    split
    · exact ⟨⟨rfl, rfl, rfl, rfl, rfl, .inr ⟨rfl, id⟩⟩, fun initialized =>
        ZStream.remembers_deflateSetDictionary maintains (opened initialized) _, rfl⟩
    · exact ⟨⟨rfl, rfl, rfl, rfl, rfl, .inr ⟨rfl, id⟩⟩, fun initialized =>
        ZStream.remembers_deflateSetDictionary maintains (opened initialized) _, rfl⟩
  · exact ⟨⟨rfl, rfl, rfl, rfl, rfl, .inr ⟨rfl, id⟩⟩, opened, rfl⟩

theorem deflateSource_settles {object : ZLib Inflater Deflater}
    (opened : object.CompOpen remembered) (earlier : Int) (destLen : Nat)
    (source written : List UInt8) (flushMode : Flush) :
    object.CompSettled remembered (object.deflateSource zlib earlier destLen source written
      flushMode).object := by
  have remains := fun initialized =>
    ZStream.remembers_deflate maintains (opened initialized) source flushMode
  unfold deflateSource
  dsimp only
  generalize (object.compStream.deflate zlib source flushMode) = deflated at remains
  have ends (size : Nat) (crc : UInt32) : object.CompSettled remembered { object with
      compStream := deflated.2.2
      uncompressedSize := size
      crc := crc } :=
    ⟨⟨rfl, rfl, rfl, rfl, rfl, .inr ⟨rfl, id⟩⟩, remains, fun engaged => engaged⟩
  unfold concludeDeflate
  dsimp only
  split
  · exact ends _ _
  · split
    · exact ends _ _
    · split
      · exact CompSettled.compressErrorInit ⟨rfl, rfl, rfl, rfl, rfl, .inr ⟨rfl, id⟩⟩ remains
      · split
        · exact ends _ _
        · exact ends _ _

theorem compressAtMostOrAll_settles (honest : zlib.Honest) {object : ZLib Inflater Deflater}
    (opened : object.CompOpen remembered) (destLen : Nat) (source : List UInt8)
    (flushMode : Flush) :
    object.CompSettled remembered
      (object.compressAtMostOrAll zlib destLen source flushMode).object := by
  obtain ⟨kept, opened', ready, still⟩ := compressInit_prepares maintains honest opened destLen
    source.length
  unfold compressAtMostOrAll
  dsimp only
  generalize object.compressInit zlib destLen source.length = prepared at kept opened' ready still
  have engaged (running : object.firstChunk = false → object.compInit = true)
      (later : prepared.2.firstChunk = false) : prepared.2.compInit = true := by
    have later' := kept.firstChunk.symm.trans later
    exact (still later').trans (running later')
  split
  · exact ⟨kept.kept, opened', engaged⟩
  · rename_i succeeded
    split
    · rename_i first
      have initialized := ready (kept.firstChunk.symm.trans first)
        (Decidable.not_not.mp succeeded)
      split
      · exact ⟨kept.kept, opened', engaged⟩
      · rename_i header between started
        obtain ⟨keptHeader, openHeader, sameHeader⟩ := startGzip_prepares started
        obtain ⟨keptDictionary, openDictionary, sameDictionary⟩ :=
          startDictionary_prepares maintains (openHeader opened')
        have kept' := kept.kept.trans (keptHeader.trans keptDictionary)
        have initialized' := sameDictionary.trans (sameHeader.trans initialized)
        split
        · exact ⟨kept', openDictionary, fun _ _ => initialized'⟩
        · refine CompSettled.after (kept'.trans ?_) (fun _ _ => ?_)
            (deflateSource_settles maintains ?_ _ _ _ _ _)
          · exact ⟨rfl, rfl, rfl, rfl, rfl, .inr ⟨rfl, id⟩⟩
          · exact initialized'
          · exact openDictionary
    · exact CompSettled.after kept.kept engaged (deflateSource_settles maintains opened' _ _ _ _ _)

theorem compressChunkOrAll_settles (honest : zlib.Honest) {object : ZLib Inflater Deflater}
    (opened : object.CompOpen remembered) (destLen : Nat) (source : List UInt8)
    (flushMode : Flush) :
    object.CompSettled remembered
      (object.compressChunkOrAll zlib destLen source flushMode).object := by
  have settled := compressAtMostOrAll_settles maintains honest opened destLen source flushMode
  unfold compressChunkOrAll
  dsimp only
  split
  · exact CompSettled.compressErrorInit settled.kept settled.opened
  · exact settled

omit maintains in
theorem finish_object (result : Compressed Inflater Deflater) (origDestLen : Nat) :
    (result.finish origDestLen).object = result.object := by
  unfold Compressed.finish
  split
  · split
    · rfl
    · rfl
  · rfl

theorem compress_settles (honest : zlib.Honest) {object : ZLib Inflater Deflater}
    (opened : object.CompOpen remembered) (destLen : Nat) (source : List UInt8) :
    object.CompSettled remembered (object.compress zlib destLen source).object := by
  have settled := compressChunkOrAll_settles maintains honest opened destLen source .finish
  unfold compress
  dsimp only
  split
  · exact settled
  · rw [finish_object]
    exact settled.reset

theorem compressChunkDone_settles (honest : zlib.Honest) {object : ZLib Inflater Deflater}
    (opened : object.CompOpen remembered) {assertions : Bool} {destLen : Nat}
    {result : Compressed Inflater Deflater}
    (done : object.compressChunkDone zlib assertions destLen = some result) :
    object.CompSettled remembered result.object := by
  have settled := compressChunkOrAll_settles maintains honest opened destLen [] .finish
  unfold compressChunkDone at done
  split at done
  · cases done
    exact ⟨⟨rfl, rfl, rfl, rfl, rfl, .inr ⟨rfl, id⟩⟩, opened, fun engaged => engaged⟩
  · split at done
    · cases done
    · dsimp only at done
      split at done
      · cases done
        exact settled.reset
      · cases done
        rw [finish_object]
        exact settled.reset

end Compression

/-! ### Decompression -/

/-- The first step of `UncompressInit` for the first chunk: the stream is ended if the dictionary
has changed. -/
def dropUncomp (object : ZLib Inflater Deflater) : ZLib Inflater Deflater :=
  if object.uncompInit ∧
      (object.initSettings.dictionary.map Dictionary.address ≠
          object.settings.dictionary.map Dictionary.address ∨
        object.initSettings.dictLen ≠ object.settings.dictLen) then
    object.closeUncomp
  else object

/-- The second step: the stream is reused. -/
def reuseUncomp (zlib : Zlib Inflater Deflater) (object : ZLib Inflater Deflater) :
    ZLib Inflater Deflater :=
  if object.uncompInit then
    let (err, object) := object.resetUncomp zlib
    if err = .ok then object else object.uncompressErrorInit
  else object

theorem prepareUncomp_eq (zlib : Zlib Inflater Deflater) (object : ZLib Inflater Deflater) :
    object.prepareUncomp zlib =
      if (object.dropUncomp.reuseUncomp zlib).uncompInit then
        (.ok, object.dropUncomp.reuseUncomp zlib)
      else if ((object.dropUncomp.reuseUncomp zlib).inflateInit zlib).1 = .ok then
        (.ok, { ((object.dropUncomp.reuseUncomp zlib).inflateInit zlib).2 with uncompInit := true })
      else ((object.dropUncomp.reuseUncomp zlib).inflateInit zlib) :=
  rfl

/-- The footer has eight bytes, of which no more than eight have been read. -/
def FooterFits (object : ZLib Inflater Deflater) : Prop :=
  object.gzipFooter.length = 8 ∧ object.gzipFooterBytes ≤ 8

/-- What the functions that uncompress leave alone. -/
structure KeptByDecompression (before after : ZLib Inflater Deflater) : Prop where
  settings : after.settings = before.settings
  compInit : after.compInit = before.compInit
  compStream : after.compStream = before.compStream
  noted : ∀ mode, parameters { after.initSettings with noHeaderMode := mode } =
    parameters { before.initSettings with noHeaderMode := mode }
  mode : after.initSettings.noHeaderMode = before.settings.noHeaderMode ∨
    (after.initSettings.noHeaderMode = before.initSettings.noHeaderMode ∧
      (after.uncompInit = true → before.uncompInit = true))
  footer : before.FooterFits → after.FooterFits

/-- An object that differs at most in the stream, in whether it is initialized, and in what is
not among these. -/
theorem KeptByDecompression.of {before after : ZLib Inflater Deflater}
    (settings : after.settings = before.settings) (compInit : after.compInit = before.compInit)
    (compStream : after.compStream = before.compStream)
    (initSettings : after.initSettings = before.initSettings)
    (uncompInit : after.uncompInit = true → before.uncompInit = true)
    (footer : before.FooterFits → after.FooterFits) : before.KeptByDecompression after :=
  ⟨settings, compInit, compStream, fun _ => by rw [initSettings],
    .inr ⟨by rw [initSettings], uncompInit⟩, footer⟩

theorem KeptByDecompression.trans {before between after : ZLib Inflater Deflater}
    (first : before.KeptByDecompression between) (second : between.KeptByDecompression after) :
    before.KeptByDecompression after where
  settings := second.settings.trans first.settings
  compInit := second.compInit.trans first.compInit
  compStream := second.compStream.trans first.compStream
  noted mode := (second.noted mode).trans (first.noted mode)
  mode := by
    rcases second.mode with noted | ⟨same, initialized⟩
    · exact Or.inl (noted.trans (congrArg Settings.noHeaderMode first.settings))
    · rcases first.mode with noted | ⟨same', initialized'⟩
      · exact Or.inl (same.trans noted)
      · exact Or.inr ⟨same.trans same', fun after => initialized' (initialized after)⟩
  footer fits := second.footer (first.footer fits)

/-- The decompression stream has a state if the object takes it for initialized. -/
def UncompOpen (object : ZLib Inflater Deflater) : Prop :=
  object.uncompInit = true → object.uncompStream.Open

/-- How a function that uncompresses leaves its stream. -/
structure UncompSettled (before after : ZLib Inflater Deflater) : Prop where
  kept : before.KeptByDecompression after
  opened : after.UncompOpen
  engaged : (before.firstChunk = false → before.uncompInit = true) → after.firstChunk = false →
    after.uncompInit = true

theorem UncompSettled.after {before between after : ZLib Inflater Deflater}
    (kept : before.KeptByDecompression between)
    (engaged : (before.firstChunk = false → before.uncompInit = true) →
      between.firstChunk = false → between.uncompInit = true)
    (settled : between.UncompSettled after) : before.UncompSettled after :=
  ⟨kept.trans settled.kept, settled.opened, fun running => settled.engaged (engaged running)⟩

theorem UncompSettled.trans {before between after : ZLib Inflater Deflater}
    (first : before.UncompSettled between) (second : between.UncompSettled after) :
    before.UncompSettled after :=
  second.after first.kept first.engaged

theorem UncompSettled.uncompressErrorInit {before after : ZLib Inflater Deflater}
    (kept : before.KeptByDecompression after) (opened : after.UncompOpen) :
    before.UncompSettled after.uncompressErrorInit := by
  unfold ZLib.uncompressErrorInit
  by_cases initialized : after.uncompInit = true
  · rw [if_pos initialized]
    exact ⟨kept.trans (.of rfl rfl rfl rfl nofun id), nofun, fun _ => nofun⟩
  · rw [if_neg initialized]
    exact ⟨kept.trans (.of rfl rfl rfl rfl id id), opened, fun _ => nofun⟩

theorem UncompSettled.reset {before after : ZLib Inflater Deflater}
    (kept : before.KeptByDecompression after) (opened : after.UncompOpen) :
    before.UncompSettled after.reset where
  kept := kept.trans (.of rfl rfl rfl rfl id id)
  opened := opened
  engaged _ := nofun

/-- An object as a function leaves it that prepares the stream. -/
structure UncompPrepared (before after : ZLib Inflater Deflater) : Prop where
  kept : before.KeptByDecompression after
  first : before.firstChunk = true → after.firstChunk = true
  opened : after.UncompOpen

theorem dropUncomp_prepares {object : ZLib Inflater Deflater} (opened : object.UncompOpen) :
    object.UncompPrepared object.dropUncomp := by
  unfold dropUncomp
  split
  · exact ⟨.of rfl rfl rfl rfl nofun id, id, nofun⟩
  · exact ⟨.of rfl rfl rfl rfl id id, id, opened⟩

theorem resetUncomp_prepares (zlib : WholeZlib Inflater Deflater) {object : ZLib Inflater Deflater}
    (opened : object.uncompStream.Open) :
    object.UncompPrepared (object.resetUncomp zlib.toZlib).2 := by
  have remains := ZStream.open_inflateReset2 zlib opened object.wbits
  unfold resetUncomp
  dsimp only
  split
  · exact ⟨⟨rfl, rfl, rfl, fun _ => rfl, .inl rfl, id⟩, id, fun _ => remains⟩
  · exact ⟨.of rfl rfl rfl rfl id id, id, fun _ => remains⟩

theorem reuseUncomp_prepares (zlib : WholeZlib Inflater Deflater) {object : ZLib Inflater Deflater}
    (opened : object.UncompOpen) :
    object.UncompPrepared (object.reuseUncomp zlib.toZlib) := by
  unfold reuseUncomp
  by_cases initialized : object.uncompInit = true
  · rw [if_pos initialized]
    have prepared := resetUncomp_prepares zlib (opened initialized)
    dsimp only
    split
    · exact prepared
    · have settled := UncompSettled.uncompressErrorInit prepared.kept prepared.opened
      exact ⟨settled.kept, fun _ => rfl, settled.opened⟩
  · rw [if_neg initialized]
    exact ⟨.of rfl rfl rfl rfl id id, id, opened⟩

theorem inflateInit_prepares (honest : zlib.Honest) (object : ZLib Inflater Deflater) :
    object.KeptByDecompression (object.inflateInit zlib.toZlib).2 ∧
      (object.inflateInit zlib.toZlib).2.firstChunk = object.firstChunk ∧
      (object.inflateInit zlib.toZlib).2.uncompInit = object.uncompInit ∧
      ((object.inflateInit zlib.toZlib).1 = .ok →
        (object.inflateInit zlib.toZlib).2.initSettings.noHeaderMode =
            object.settings.noHeaderMode ∧
          (object.inflateInit zlib.toZlib).2.uncompStream.Open) := by
  unfold inflateInit
  dsimp only
  split
  · rename_i initialized
    exact ⟨⟨rfl, rfl, rfl, fun _ => rfl, .inl rfl, id⟩, rfl, rfl, fun _ =>
      ⟨rfl, ZStream.open_inflateInit2 honest initialized⟩⟩
  · rename_i failed
    exact ⟨.of rfl rfl rfl rfl id id, rfl, rfl, fun initialized => absurd initialized failed⟩

theorem prepareUncomp_prepares (honest : zlib.Honest) {object : ZLib Inflater Deflater}
    (opened : object.UncompOpen) :
    object.UncompPrepared (object.prepareUncomp zlib.toZlib).2 ∧
      ((object.prepareUncomp zlib.toZlib).1 = .ok →
        (object.prepareUncomp zlib.toZlib).2.uncompInit = true) := by
  have dropped := dropUncomp_prepares opened
  have reused := reuseUncomp_prepares zlib dropped.opened
  rw [prepareUncomp_eq]
  generalize object.dropUncomp.reuseUncomp zlib.toZlib = fitted at reused
  have fresh := inflateInit_prepares honest fitted
  have kept := dropped.kept.trans reused.kept
  have first := fun first => reused.first (dropped.first first)
  by_cases initialized : fitted.uncompInit = true
  · rw [if_pos initialized]
    exact ⟨⟨kept, first, reused.opened⟩, fun _ => initialized⟩
  · rw [if_neg initialized]
    split
    · rename_i succeeded
      obtain ⟨noted, opened'⟩ := fresh.2.2.2 succeeded
      have final : fitted.KeptByDecompression
          { (fitted.inflateInit zlib.toZlib).2 with uncompInit := true } :=
        ⟨fresh.1.settings, fresh.1.compInit, fresh.1.compStream, fresh.1.noted, .inl noted,
          fresh.1.footer⟩
      exact ⟨⟨kept.trans final, fun given => fresh.2.1.trans (first given), fun _ => opened'⟩,
        fun _ => rfl⟩
    · rename_i failed
      refine ⟨⟨kept.trans fresh.1, fun given => fresh.2.1.trans (first given),
        fun impossible => ?_⟩, fun succeeded => absurd succeeded failed⟩
      exact absurd (fresh.2.2.1.symm.trans impossible) initialized

theorem uncompressInit_settles (honest : zlib.Honest) {object : ZLib Inflater Deflater}
    (opened : object.UncompOpen) (destLen sourceLen : Nat) :
    object.UncompSettled (object.uncompressInit zlib.toZlib destLen sourceLen).2 ∧
      (object.uncompressInit zlib.toZlib destLen sourceLen).2.firstChunk = object.firstChunk ∧
      (object.firstChunk = true →
        (object.uncompressInit zlib.toZlib destLen sourceLen).1 = .ok →
          (object.uncompressInit zlib.toZlib destLen sourceLen).2.uncompInit = true) := by
  have buffers (stream : ZStream Inflater) :
      object.KeptByDecompression { object with uncompStream := stream } :=
    .of rfl rfl rfl rfl id id
  unfold uncompressInit
  dsimp only
  split
  · exact ⟨⟨buffers _, opened, id⟩, rfl, nofun⟩
  · split
    · exact ⟨⟨buffers _, opened, id⟩, rfl, nofun⟩
    · split
      · rename_i given
        have opened' : UncompOpen { object with
            uncompStream.availIn := sourceLen % 2 ^ 32
            uncompStream.availOut := destLen % 2 ^ 32 } := opened
        obtain ⟨prepared, initialized⟩ := prepareUncomp_prepares honest opened'
        refine ⟨⟨(buffers _).trans prepared.kept, prepared.opened, fun _ later => ?_⟩,
          (prepared.first given).trans given.symm, fun _ => initialized⟩
        cases (prepared.first given).symm.trans later
      · rename_i later
        exact ⟨⟨buffers _, opened, id⟩, rfl, fun first => absurd first later⟩

theorem presetDictionary_settles (zlib : WholeZlib Inflater Deflater)
    {object : ZLib Inflater Deflater} (opened : object.UncompOpen) :
    object.UncompSettled (object.presetDictionary zlib.toZlib).2 ∧
      ((object.presetDictionary zlib.toZlib).1 = .ok →
        (object.presetDictionary zlib.toZlib).2.uncompInit = object.uncompInit) := by
  unfold presetDictionary
  split
  · split
    · dsimp only
      have remains (dictionary : List UInt8) (initialized : object.uncompInit = true) :=
        ZStream.open_inflateSetDictionary zlib (opened initialized) dictionary
      split
      · rename_i failed
        exact ⟨UncompSettled.uncompressErrorInit (.of rfl rfl rfl rfl id id) (remains _),
          fun succeeded => absurd succeeded failed⟩
      · exact ⟨⟨⟨rfl, rfl, rfl, fun _ => rfl, .inr ⟨rfl, id⟩, id⟩, remains _, id⟩, fun _ => rfl⟩
    · exact ⟨⟨.of rfl rfl rfl rfl id id, opened, id⟩, fun _ => rfl⟩
  · exact ⟨⟨.of rfl rfl rfl rfl id id, opened, id⟩, fun _ => rfl⟩

/-- The end of the data brings at most eight bytes of the footer. -/
theorem footerFits_start {object : ZLib Inflater Deflater} (fits : object.FooterFits)
    (bytes : List UInt8) (count : Nat) :
    (overwrite object.gzipFooter 0 (bytes.take (min count 8))).length = 8 ∧
      ((min count 8 : Nat) : Int) ≤ 8 := by
  refine ⟨(length_overwrite ?_).trans fits.1, by omega⟩
  rw [List.length_take, fits.1]
  omega

theorem footerFits_more {object : ZLib Inflater Deflater} (fits : object.FooterFits)
    (present : 0 ≤ object.gzipFooterBytes) (source : List UInt8) :
    (overwrite object.gzipFooter object.gzipFooterBytes.toNat
        (source.take (min (8 - object.gzipFooterBytes.toNat) source.length))).length = 8 ∧
      object.gzipFooterBytes + (min (8 - object.gzipFooterBytes.toNat) source.length : Nat) ≤
        8 := by
  have within := fits.2
  refine ⟨(length_overwrite ?_).trans fits.1, by omega⟩
  rw [List.length_take, fits.1]
  omega

theorem concludeInflate_settles {object : ZLib Inflater Deflater} (opened : object.UncompOpen)
    {flexible : Bool} {oldTotalIn oldTotalOut destLen : Nat} {source written : List UInt8}
    {err : ZCode} {result : Uncompressed Inflater Deflater}
    (concluded : object.concludeInflate zlib.toZlib flexible oldTotalIn oldTotalOut destLen source
      written err = some result) : object.UncompSettled result.object := by
  have ends (size : Nat) (crc : UInt32) :
      object.UncompSettled { object with uncompressedSize := size, crc := crc } :=
    ⟨.of rfl rfl rfl rfl id id, opened, id⟩
  unfold concludeInflate at concluded
  dsimp only at concluded
  split at concluded
  · cases concluded
  · split at concluded
    · cases concluded
      exact ⟨.of rfl rfl rfl rfl id fun fits => footerFits_start fits _ _, opened, id⟩
    · split at concluded
      · cases concluded
        exact ends _ _
      · split at concluded
        · split at concluded
          · cases concluded
          · cases concluded
            exact UncompSettled.uncompressErrorInit (.of rfl rfl rfl rfl id id) opened
        · split at concluded
          · cases concluded
            exact UncompSettled.uncompressErrorInit (.of rfl rfl rfl rfl id id) opened
          · split at concluded
            · cases concluded
              exact ends _ _
            · cases concluded
              exact ends _ _

theorem inflateSource_settles {object : ZLib Inflater Deflater} (opened : object.UncompOpen)
    {flexible : Bool} {oldTotalIn oldTotalOut destLen : Nat} {source : List UInt8}
    {flushMode : Flush} {result : Uncompressed Inflater Deflater}
    (inflated : object.inflateSource zlib.toZlib flexible oldTotalIn oldTotalOut destLen source
      flushMode = some result) : object.UncompSettled result.object := by
  have remains (initialized : object.uncompInit = true) :=
    ZStream.open_inflate zlib (opened initialized) source flushMode
  have buffers (stream : ZStream Inflater) :
      object.KeptByDecompression { object with uncompStream := stream } :=
    .of rfl rfl rfl rfl id id
  unfold inflateSource at inflated
  dsimp only at inflated
  generalize object.uncompStream.inflate zlib.toZlib source flushMode = called
    at inflated remains
  split at inflated
  · split at inflated
    · have remains' (dictionary : List UInt8) (initialized : object.uncompInit = true) :=
        ZStream.open_inflateSetDictionary zlib (remains initialized) dictionary
      split at inflated
      · cases inflated
        exact UncompSettled.uncompressErrorInit (buffers _) (remains' _)
      · refine UncompSettled.after ?_ ?_ (concludeInflate_settles (fun initialized => ?_) inflated)
        · exact ⟨rfl, rfl, rfl, fun _ => rfl, .inr ⟨rfl, id⟩, id⟩
        · exact id
        · exact ZStream.open_inflate zlib (remains' _ initialized) _ _
    · refine UncompSettled.after (buffers _) ?_ (concludeInflate_settles ?_ inflated)
      · exact id
      · exact remains
  · refine UncompSettled.after (buffers _) ?_ (concludeInflate_settles ?_ inflated)
    · exact id
    · exact remains

theorem uncompressSource_settles (honest : zlib.Honest) {object : ZLib Inflater Deflater}
    (opened : object.UncompOpen) {flexible : Bool} {destLen : Nat} {source : List UInt8}
    {flushMode : Flush} {result : Uncompressed Inflater Deflater}
    (uncompressed : object.uncompressSource zlib.toZlib flexible destLen source flushMode =
      some result) : object.UncompSettled result.object := by
  obtain ⟨settled, sameFirst, ready⟩ := uncompressInit_settles honest opened
    destLen source.length
  unfold uncompressSource at uncompressed
  dsimp only at uncompressed
  generalize object.uncompressInit zlib.toZlib destLen source.length = prepared
    at uncompressed settled sameFirst ready
  split at uncompressed
  · cases uncompressed
    exact settled
  · rename_i succeeded
    split at uncompressed
    · rename_i first
      obtain ⟨preset, same⟩ := presetDictionary_settles zlib settled.opened
      generalize prepared.2.presetDictionary zlib.toZlib = between at uncompressed preset same
      split at uncompressed
      · cases uncompressed
        exact settled.trans preset
      · rename_i succeeded'
        have begun : prepared.2.KeptByDecompression { between.2 with firstChunk := false } :=
          preset.kept.trans (.of rfl rfl rfl rfl id id)
        have initialized : between.2.uncompInit = true :=
          (same (Decidable.not_not.mp succeeded')).trans
            (ready (sameFirst.symm.trans first) (Decidable.not_not.mp succeeded))
        split at uncompressed
        · cases uncompressed
          exact ⟨settled.kept.trans begun, preset.opened, fun _ _ => initialized⟩
        · refine UncompSettled.after (settled.kept.trans begun) (fun _ _ => ?_)
            (inflateSource_settles ?_ uncompressed)
          · exact initialized
          · exact preset.opened
    · exact settled.trans (inflateSource_settles settled.opened uncompressed)

theorem uncompressAtMostOrAll_settles (honest : zlib.Honest) {object : ZLib Inflater Deflater}
    (opened : object.UncompOpen) {flexible : Bool} {destLen : Nat} {source : List UInt8}
    {flushMode : Flush} {result : Uncompressed Inflater Deflater}
    (uncompressed : object.uncompressAtMostOrAll zlib.toZlib flexible destLen source flushMode =
      some result) : object.UncompSettled result.object := by
  have begun (header : GZipHeader) (crc : UInt32) : object.KeptByDecompression { object with
      gzipFooterBytes := -1
      gzipHeader := header
      crc := crc } :=
    .of rfl rfl rfl rfl id fun fits => ⟨fits.1, show (-1 : Int) ≤ 8 by decide⟩
  unfold uncompressAtMostOrAll at uncompressed
  split at uncompressed
  · dsimp only at uncompressed
    split at uncompressed
    · unfold readHeader at uncompressed
      split at uncompressed
      · cases uncompressed
      · dsimp only at uncompressed
        split at uncompressed
        · cases uncompressed
          exact ⟨begun _ _, opened, id⟩
        · cases uncompressed
          exact UncompSettled.reset (begun _ _) opened
        · refine UncompSettled.after (begun _ _) ?_
            (uncompressSource_settles honest ?_ uncompressed)
          · exact id
          · exact opened
    · refine UncompSettled.after (begun _ _) ?_ (uncompressSource_settles honest ?_ uncompressed)
      · exact id
      · exact opened
  · split at uncompressed
    · rename_i present
      unfold readFooter at uncompressed
      dsimp only at uncompressed
      split at uncompressed
      · cases uncompressed
        exact UncompSettled.reset (.of rfl rfl rfl rfl id id) opened
      · cases uncompressed
        exact ⟨.of rfl rfl rfl rfl id fun fits => footerFits_more fits present _, opened, id⟩
    · exact uncompressSource_settles honest opened uncompressed

theorem uncompressChunkOrAll_settles (honest : zlib.Honest) {object : ZLib Inflater Deflater}
    (opened : object.UncompOpen) {flexible : Bool} {destLen : Nat} {source : List UInt8}
    {flushMode : Flush} {result : Uncompressed Inflater Deflater}
    (uncompressed : object.uncompressChunkOrAll zlib.toZlib flexible destLen source flushMode =
      some result) : object.UncompSettled result.object := by
  unfold uncompressChunkOrAll at uncompressed
  obtain ⟨between, called, same⟩ := Option.map_eq_some_iff.mp uncompressed
  have settled := uncompressAtMostOrAll_settles honest opened called
  split at same
  · subst same
    exact UncompSettled.uncompressErrorInit settled.kept settled.opened
  · subst same
    exact settled

theorem uncompressChunkDone_settles (honest : zlib.Honest) {object : ZLib Inflater Deflater}
    (opened : object.UncompOpen) {flexible : Bool} {done : Bool} {after : ZLib Inflater Deflater}
    (ended : object.uncompressChunkDone zlib.toZlib flexible = some (done, after)) :
    object.UncompSettled after := by
  unfold uncompressChunkDone at ended
  split at ended
  · cases ended
    exact ⟨.of rfl rfl rfl rfl id id, opened, id⟩
  · obtain ⟨result, called, same⟩ := Option.map_eq_some_iff.mp ended
    have settled := uncompressChunkOrAll_settles honest opened called
    split at same
    · cases same
      exact settled
    · have closed := UncompSettled.reset settled.kept settled.opened
      dsimp only at same
      split at same
      · cases same
        exact closed
      · split at same
        · cases same
          exact closed
        · split at same
          · cases same
            exact closed
          · cases same
            exact closed

theorem uncompress_settles (honest : zlib.Honest) {object : ZLib Inflater Deflater}
    (opened : object.UncompOpen) {flexible : Bool} {destLen : Nat} {source : List UInt8}
    {result : Uncompressed Inflater Deflater}
    (uncompressed : object.uncompress zlib flexible destLen source = some result) :
    object.UncompSettled result.object := by
  unfold uncompress at uncompressed
  obtain ⟨between, called, rest⟩ := Option.bind_eq_some_iff.mp uncompressed
  have settled := uncompressChunkOrAll_settles honest opened called
  split at rest
  · cases rest
    exact UncompSettled.reset settled.kept settled.opened
  · obtain ⟨⟨done, after⟩, ended, same⟩ := Option.map_eq_some_iff.mp rest
    cases same
    exact settled.trans (uncompressChunkDone_settles honest settled.opened ended)

theorem uncompressGzipAndAllocate_settles (honest : zlib.Honest)
    {object : ZLib Inflater Deflater} (opened : object.UncompOpen) {flexible : Bool}
    {malloc : Nat → Bool} {destLen : Nat} {source : List UInt8}
    {result : Allocated Inflater Deflater}
    (uncompressed : object.uncompressGzipAndAllocate zlib flexible malloc destLen source =
      some result) : object.UncompSettled result.object := by
  have same : object.UncompSettled object := ⟨.of rfl rfl rfl rfl id id, opened, id⟩
  unfold uncompressGzipAndAllocate at uncompressed
  dsimp only at uncompressed
  split at uncompressed
  · cases uncompressed
    exact same
  · split at uncompressed
    · obtain ⟨_, _, rfl⟩ := Option.map_eq_some_iff.mp uncompressed
      exact same
    · split at uncompressed
      · cases uncompressed
        exact same
      · obtain ⟨between, called, rfl⟩ := Option.map_eq_some_iff.mp uncompressed
        exact uncompress_settles honest opened called

/-! ### Reinit -/

theorem reuseComp_initSettings (zlib : Zlib Inflater Deflater) (object : ZLib Inflater Deflater) :
    (object.reuseComp zlib).initSettings = object.initSettings ∧
      ((object.reuseComp zlib).compInit = true → object.compInit = true) := by
  unfold reuseComp
  split
  · rename_i initialized
    dsimp only
    split
    · exact ⟨rfl, id⟩
    · exact ⟨rfl, nofun⟩
  · exact ⟨rfl, id⟩

/-- `Reinit` notes the new header mode when it resets the decompression stream, so what is
remembered of the compression stream has to be true in that mode as well. -/
theorem reinit_opened {remembered : Deflater → Parameters → Prop}
    (maintains : zlib.Maintains remembered) {object : ZLib Inflater Deflater}
    (compOpen : object.CompOpen remembered) (uncompOpen : object.UncompOpen)
    (safe : object.uncompInit = true → object.compInit = true → ∀ stream,
      remembered stream (parameters object.initSettings) →
        remembered stream (parameters { object.initSettings with noHeaderMode := false })) :
    (object.reinit zlib.toZlib).CompOpen remembered ∧ (object.reinit zlib.toZlib).UncompOpen := by
  have compOpen' : CompOpen remembered { object with settings := defaultSettings } := compOpen
  have reused := reuseComp_prepares maintains compOpen'
  have noted := reuseComp_initSettings zlib.toZlib { object with settings := defaultSettings }
  unfold reinit
  dsimp only
  generalize ({ object with settings := defaultSettings } : ZLib Inflater Deflater).reuseComp
    zlib.toZlib = between at reused noted
  by_cases initialized : between.uncompInit = true
  · have uncompInit := reused.1.kept.uncompInit.symm.trans initialized
    have opened : between.uncompStream.Open := by
      rw [reused.1.kept.uncompStream]
      exact uncompOpen uncompInit
    have prepared := resetUncomp_prepares zlib opened
    have compOpen'' : (between.resetUncomp zlib.toZlib).2.CompOpen remembered := by
      intro remains
      have remains' := prepared.kept.compInit.symm.trans remains
      obtain ⟨state, found, true_⟩ := reused.2 remains'
      refine ⟨state, (congrArg ZStream.state prepared.kept.compStream).trans found, ?_⟩
      rw [noted.1] at true_
      unfold resetUncomp
      dsimp only
      split
      · rw [noted.1, reused.1.kept.settings]
        exact safe uncompInit (noted.2 remains') state true_
      · rw [noted.1]
        exact true_
    simp only [if_pos initialized]
    split
    · exact ⟨compOpen'', prepared.opened⟩
    · exact ⟨compOpen'', nofun⟩
  · simp only [if_neg initialized]
    exact ⟨reused.2, fun impossible => absurd impossible initialized⟩

end ZLib

end Fleetbench.Compression
