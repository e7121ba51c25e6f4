/-
This file is about `Reinit`, which wipes an object to a virgin state but keeps
its streams. One record notes the header mode for both streams, and `Reinit`
brings it up to date only for the decompression stream: where the record still
describes every stream, the object answers like a new one from then on.
-/

import Fleetbench.Compression.UncompressAlike
import Fleetbench.Compression.InProgress

namespace Fleetbench.Compression.ZLib

open Library

variable {Inflater Deflater : Type} {zlib : WholeZlib Inflater Deflater}
  {opened : Deflater → Parameters → Prop} {first second : ZLib Inflater Deflater}

/-! ### Reinit -/

/-- The record of the header mode describes every stream behind a `Reinit`, which returns to the
mode with headers. -/
def KeepsRecord (object : ZLib Inflater Deflater) : Prop :=
  object.initSettings.noHeaderMode = false ∨
    (object.uncompInit = true ∧ object.compInit = false)

theorem reuseComp_kept (reuses : zlib.Reuses opened) {object : ZLib Inflater Deflater}
    (compOpen : object.CompOpen opened) :
    ∃ stream, object.reuseComp zlib.toZlib = { object with compStream := stream } := by
  by_cases initialized : object.compInit = true
  · obtain ⟨state, found, noted⟩ := compOpen initialized
    obtain ⟨fresh, reset, -⟩ := reuses.deflateReset _ _ noted
    exact ⟨_, reuseComp_reset initialized found reset⟩
  · exact ⟨object.compStream, reuseComp_of_closed (Bool.eq_false_iff.mpr initialized)⟩

/-- `Reinit` leaves the streams initialized or not as they are. -/
theorem reinit_eq (reuses : zlib.Reuses opened) {object : ZLib Inflater Deflater}
    (compOpen : object.CompOpen opened) (uncompOpen : object.UncompOpen) :
    ∃ compStream uncompStream, object.reinit zlib.toZlib = { object with
      settings := defaultSettings
      initSettings.noHeaderMode :=
        if object.uncompInit then false else object.initSettings.noHeaderMode
      compStream := compStream
      uncompStream := uncompStream
      crc := 0
      uncompressedSize := 0
      gzipHeader := .fresh
      gzipFooterBytes := -1
      firstChunk := true } := by
  have compOpen' : ({ object with settings := defaultSettings } :
      ZLib Inflater Deflater).CompOpen opened := compOpen
  obtain ⟨compStream, reused⟩ := reuseComp_kept reuses compOpen'
  unfold reinit
  rw [reused]
  dsimp only
  by_cases initialized : object.uncompInit = true
  · have uncompOpen' : ({ object with settings := defaultSettings, compStream := compStream } :
        ZLib Inflater Deflater).uncompStream.Open := uncompOpen initialized
    obtain ⟨fresh, -, reset⟩ := resetUncomp_fresh reuses uncompOpen'
    rw [if_pos initialized, if_pos initialized, reset]
    exact ⟨compStream, _, rfl⟩
  · rw [if_neg initialized, if_neg initialized]
    exact ⟨compStream, object.uncompStream, rfl⟩

/-- An object that is as good as new, but for its streams. -/
structure Virgin (opened : Deflater → Parameters → Prop) (object : ZLib Inflater Deflater) :
    Prop where
  noted : object.Noted opened
  settings : object.settings = defaultSettings
  mode : object.initSettings.noHeaderMode = false
  crc : object.crc = 0
  uncompressedSize : object.uncompressedSize = 0
  gzipHeader : object.gzipHeader = .fresh
  gzipFooterBytes : object.gzipFooterBytes = -1
  firstChunk : object.firstChunk = true

theorem virgin_new (zlib : WholeZlib Inflater Deflater) :
    (ZLib.new zlib.toZlib).Virgin opened :=
  ⟨noted_new zlib, rfl, rfl, rfl, rfl, rfl, rfl, rfl⟩

theorem virgin_reinit (reuses : zlib.Reuses opened) {object : ZLib Inflater Deflater}
    (noted : object.Noted opened) (keeps : object.KeepsRecord) :
    (object.reinit zlib.toZlib).Virgin opened := by
  have mode : (if object.uncompInit then false else object.initSettings.noHeaderMode) = false := by
    split
    · rfl
    · rename_i closed
      exact keeps.resolve_right fun both => closed both.1
  obtain ⟨compOpen, uncompOpen⟩ := reinit_opened reuses.maintains noted.comp noted.uncomp
    fun uncompInit compInit stream true_ => by
      have recorded : object.initSettings.noHeaderMode = false :=
        keeps.resolve_right fun both => by cases both.2.symm.trans compInit
      rwa [← recorded]
  obtain ⟨compStream, uncompStream, same⟩ := reinit_eq reuses noted.comp noted.uncomp
  refine ⟨⟨compOpen, uncompOpen, fun _ => ?_, ?_⟩, ?_, ?_, ?_, ?_, ?_, ?_, ?_⟩
  · rw [same]
    exact mode
  · rw [same]
    exact ⟨noted.footer.1, show (-1 : Int) ≤ 8 by decide⟩
  · rw [same]
  · rw [same]
    exact mode
  all_goals rw [same]

/-- Ending the streams leaves everything else alone. -/
theorem closeBoth_eq (object : ZLib Inflater Deflater) :
    object.closeBoth = { object with
      compStream := if object.compInit then object.compStream.close else object.compStream
      compInit := false
      uncompStream := if object.uncompInit then object.uncompStream.close else object.uncompStream
      uncompInit := false } := by
  obtain ⟨_, _, _, comp, _, uncomp, _, _, _, _, _, _⟩ := object
  cases comp <;> cases uncomp <;> rfl

theorem noted_of_closed {object : ZLib Inflater Deflater} (comp : object.compInit = false)
    (uncomp : object.uncompInit = false) (fits : object.FooterFits) : object.Noted opened where
  comp initialized := by cases comp.symm.trans initialized
  uncomp initialized := by cases uncomp.symm.trans initialized
  mode some := by
    rcases some with initialized | initialized
    · cases comp.symm.trans initialized
    · cases uncomp.symm.trans initialized
  footer := fits

/-! ### Runs of one object -/

theorem Noted.setNoHeaderMode {object after : ZLib Inflater Deflater} (noted : object.Noted opened)
    {mode : Bool} (set : object.setNoHeaderMode mode = some after) : after.Noted opened := by
  rw [setNoHeaderMode_eq set]
  split
  · rename_i recorded
    exact ⟨noted.comp, noted.uncomp, fun _ => recorded, noted.footer⟩
  · rw [closeBoth_eq]
    exact noted_of_closed rfl rfl noted.footer

/-- Every call keeps the record, unless it is a `Reinit` that does not. -/
theorem noted_step (reuses : zlib.Reuses opened) {environment : Environment}
    {object next : ZLib Inflater Deflater} {call : PublicCall} {answer : Answer}
    (noted : object.Noted opened) (keeps : call = .reinit → object.KeepsRecord)
    (performed : object.perform zlib environment call = some (answer, next)) :
    next.Noted opened := by
  have maintains := reuses.maintains
  have honest := reuses.honest
  cases call with
  | setNoHeaderMode mode =>
    obtain ⟨_, set, same⟩ := Option.map_eq_some_iff.mp performed
    cases same
    exact noted.setNoHeaderMode set
  | setGzipHeaderMode =>
    obtain ⟨_, set, same⟩ := Option.map_eq_some_iff.mp performed
    cases same
    have gzip : ({ object with settings.gzipHeaderMode := true } :
        ZLib Inflater Deflater).Noted opened := noted.configured rfl
    exact gzip.setNoHeaderMode (setGzipHeaderMode_eq set)
  | setDictionary dictionary dictLen =>
    obtain ⟨_, set, same⟩ := Option.map_eq_some_iff.mp performed
    cases same
    rw [checkValidParams_eq set]
    exact noted.configured rfl
  | setDontHideStreamEnd | setCompressionLevel | setCompressionWindowSizeInBits
  | setCompressionMemLevel =>
    cases performed
    exact noted.configured rfl
  | reset =>
    cases performed
    exact noted.reset
  | reinit =>
    cases performed
    exact (virgin_reinit reuses noted (keeps rfl)).noted
  | observe =>
    cases performed
    exact noted
  | compress destLen source =>
    cases performed
    exact noted.compressed (compress_settles maintains honest noted.comp _ _)
  | compressChunk destLen source =>
    cases performed
    exact noted.compressed (compressChunkOrAll_settles maintains honest noted.comp _ _ _)
  | compressAtMost destLen source =>
    cases performed
    exact noted.compressed (compressAtMostOrAll_settles maintains honest noted.comp _ _ _)
  | compressChunkDone destLen =>
    obtain ⟨_, done, same⟩ := Option.map_eq_some_iff.mp performed
    cases same
    exact noted.compressed (compressChunkDone_settles maintains honest noted.comp done)
  | uncompress destLen source =>
    obtain ⟨_, done, same⟩ := Option.map_eq_some_iff.mp performed
    cases same
    exact noted.uncompressed (uncompress_settles honest noted.uncomp done)
  | uncompressChunk destLen source =>
    obtain ⟨_, done, same⟩ := Option.map_eq_some_iff.mp performed
    cases same
    exact noted.uncompressed (uncompressChunkOrAll_settles honest noted.uncomp done)
  | uncompressAtMost destLen source =>
    obtain ⟨_, done, same⟩ := Option.map_eq_some_iff.mp performed
    cases same
    exact noted.uncompressed (uncompressAtMostOrAll_settles honest noted.uncomp done)
  | uncompressChunkDone =>
    obtain ⟨⟨_, _⟩, ended, same⟩ := Option.map_eq_some_iff.mp performed
    cases same
    exact noted.uncompressed (uncompressChunkDone_settles honest noted.uncomp ended)
  | uncompressGzipAndAllocate destLen source =>
    obtain ⟨_, done, same⟩ := Option.map_eq_some_iff.mp performed
    cases same
    exact noted.uncompressed (uncompressGzipAndAllocate_settles honest noted.uncomp done)

/-! ### Two objects -/

/-- The objects answer alike, where a sequence in progress goes in the direction of the last
call. -/
structure Agreeing (last : Option Direction) (first second : ZLib Inflater Deflater) : Prop where
  alike : Alike True first second
  comp : first.firstChunk = false → last = some .compression → CompAlike first second
  uncomp : first.firstChunk = false → last = some .decompression → UncompAlike first second

theorem agreeing_of_virgin (virgin : first.Virgin opened) (virgin' : second.Virgin opened)
    (last : Option Direction) : Agreeing last first second where
  alike := by
    refine ⟨virgin.settings.trans virgin'.settings.symm,
      virgin.gzipHeader.trans virgin'.gzipHeader.symm,
      virgin.firstChunk.trans virgin'.firstChunk.symm, fun _ => virgin.mode.trans virgin'.mode.symm,
      fun _ => virgin.crc.trans virgin'.crc.symm,
      fun _ => virgin.uncompressedSize.trans virgin'.uncompressedSize.symm,
      fun _ => virgin.gzipFooterBytes.trans virgin'.gzipFooterBytes.symm, fun _ => ?_,
      fun _ bare => ?_, fun _ bare => ?_⟩
    · rw [virgin.gzipFooterBytes, virgin'.gzipFooterBytes]
      rfl
    · rw [virgin.settings] at bare
      cases bare
    · rw [virgin.settings] at bare
      cases bare
  comp later := by cases virgin.firstChunk.symm.trans later
  uncomp later := by cases virgin.firstChunk.symm.trans later

section Agreeing

variable {last : Option Direction} (agreeing : Agreeing last first second)

include agreeing

/-- Other settings of the same header mode. -/
theorem Agreeing.configured (change : Settings → Settings)
    (same : ∀ settings, (change settings).noHeaderMode = settings.noHeaderMode) :
    Agreeing last { first with settings := change first.settings }
      { second with settings := change second.settings } where
  alike := { agreeing.alike with
    settings := congrArg change agreeing.alike.settings
    comp := fun seen bare => agreeing.alike.comp seen ((same _).symm.trans bare)
    uncomp := fun seen bare => agreeing.alike.uncomp seen ((same _).symm.trans bare) }
  comp later compressing := { agreeing.comp later compressing with
    crc := fun _ => agreeing.alike.crc trivial }
  uncomp later uncompressing := { agreeing.uncomp later uncompressing with
    crc := fun _ _ => agreeing.alike.crc trivial
    checksum := fun _ => agreeing.alike.crc trivial }

/-- Both streams are ended because the header mode changes. -/
theorem Agreeing.closeBoth (mode : Bool) :
    Agreeing last { first with settings.noHeaderMode := mode }.closeBoth
      { second with settings.noHeaderMode := mode }.closeBoth := by
  rw [closeBoth_eq, closeBoth_eq]
  refine ⟨?_, fun later compressing => ?_, fun later uncompressing => ?_⟩
  · exact { agreeing.alike with
      settings := congrArg (fun settings : Settings => { settings with noHeaderMode := mode })
        agreeing.alike.settings
      comp := fun _ _ => rfl
      uncomp := fun _ _ => rfl }
  · have same := agreeing.comp later compressing
    refine { same with
      compInit := rfl
      compStream := ?_
      crc := fun _ => agreeing.alike.crc trivial }
    dsimp only
    rw [same.compInit, same.compStream]
  · have same := agreeing.uncomp later uncompressing
    refine { same with
      uncompInit := rfl
      uncompStream := ?_
      crc := fun _ _ => agreeing.alike.crc trivial
      counted := ?_
      checksum := fun _ => agreeing.alike.crc trivial }
    · dsimp only
      rw [same.uncompInit, same.uncompStream]
    · dsimp only
      split
      · exact same.counted
      · exact same.counted

theorem Agreeing.checkValidParams :
    Option.Rel (Agreeing last) first.checkValidParams second.checkValidParams := by
  unfold ZLib.checkValidParams
  rw [← agreeing.alike.settings]
  split
  · exact .none
  · exact .some agreeing

variable (noted : first.Noted opened) (noted' : second.Noted opened)

include noted noted'

/-- Streams that the record of the header mode takes for raw ones are open in both objects or in
neither. -/
theorem Agreeing.streams (raw : first.initSettings.noHeaderMode = true) :
    first.compInit = second.compInit ∧ first.uncompInit = second.uncompInit := by
  cases mode : first.settings.noHeaderMode with
  | true => exact ⟨agreeing.alike.comp trivial mode, agreeing.alike.uncomp trivial mode⟩
  | false =>
    have raw' : second.initSettings.noHeaderMode = true :=
      (agreeing.alike.mode trivial).symm.trans raw
    have mode' : second.settings.noHeaderMode = false :=
      (congrArg Settings.noHeaderMode agreeing.alike.settings).symm.trans mode
    have closed {object : ZLib Inflater Deflater} (noted : object.Noted opened)
        (raw : object.initSettings.noHeaderMode = true)
        (mode : object.settings.noHeaderMode = false) :
        object.compInit = false ∧ object.uncompInit = false := by
      have neither (some : object.compInit = true ∨ object.uncompInit = true) : False := by
        cases (raw.symm.trans (noted.mode some)).trans mode
      exact ⟨Bool.eq_false_iff.mpr fun initialized => neither (.inl initialized),
        Bool.eq_false_iff.mpr fun initialized => neither (.inr initialized)⟩
    obtain ⟨comp, uncomp⟩ := closed noted raw mode
    obtain ⟨comp', uncomp'⟩ := closed noted' raw' mode'
    exact ⟨comp.trans comp'.symm, uncomp.trans uncomp'.symm⟩

theorem Agreeing.keepsRecord (keeps : first.KeepsRecord) : second.KeepsRecord := by
  cases mode : first.initSettings.noHeaderMode with
  | false => exact .inl ((agreeing.alike.mode trivial).symm.trans mode)
  | true =>
    obtain ⟨comp, uncomp⟩ := agreeing.streams noted noted' mode
    rcases keeps with raw | ⟨uncompInit, compInit⟩
    · cases mode.symm.trans raw
    · exact .inr ⟨uncomp.symm.trans uncompInit, comp.symm.trans compInit⟩

theorem Agreeing.setNoHeaderMode (mode : Bool) :
    Option.Rel (Agreeing last) (first.setNoHeaderMode mode) (second.setNoHeaderMode mode) := by
  unfold ZLib.setNoHeaderMode
  dsimp only
  rw [← agreeing.alike.mode trivial]
  split
  · exact (agreeing.closeBoth mode).checkValidParams
  · rename_i stays
    have recorded : first.initSettings.noHeaderMode = mode := Decidable.not_not.mp stays
    have streams (bare : mode = true) :=
      agreeing.streams noted noted' (recorded.trans bare)
    refine Agreeing.checkValidParams ⟨?_, nofun, nofun⟩
    exact { agreeing.alike with
      settings := congrArg (fun settings : Settings => { settings with noHeaderMode := mode })
        agreeing.alike.settings
      gzipHeader := rfl
      firstChunk := rfl
      comp := fun _ bare => (streams bare).1
      uncomp := fun _ bare => (streams bare).2 }

theorem Agreeing.setGzipHeaderMode :
    Option.Rel (Agreeing last) first.setGzipHeaderMode second.setGzipHeaderMode := by
  have gzip := agreeing.configured (fun settings => { settings with gzipHeaderMode := true })
    fun _ => rfl
  have set := gzip.setNoHeaderMode (noted.configured rfl) (noted'.configured rfl) true
  unfold ZLib.setGzipHeaderMode
  generalize ({ first with settings.gzipHeaderMode := true } :
    ZLib Inflater Deflater).setNoHeaderMode true = between at set
  generalize ({ second with settings.gzipHeaderMode := true } :
    ZLib Inflater Deflater).setNoHeaderMode true = between' at set
  cases set with
  | none => exact .none
  | some same => exact same.checkValidParams

theorem Agreeing.observe : first.observe = second.observe := by
  have alike := agreeing.alike
  have footer : SameFooter first second :=
    ⟨alike.gzipFooterBytes trivial, alike.gzipFooter trivial,
      fun _ => alike.uncompressedSize trivial, fun _ _ => alike.crc trivial⟩
  have valid := isGzipFooterValid_alike footer noted.footer noted'.footer
    fun _ => alike.crc trivial
  unfold ZLib.observe minFooterSize isGzipFooterComplete
  rw [valid, footer.count, alike.uncompressedSize trivial, alike.settings, alike.firstChunk]

end Agreeing

/-! ### One call -/

section Steps

variable {last : Option Direction} {call : PublicCall}

/-- A call that has no answer and no direction. -/
theorem sameStep_of_set (neither : call.direction = none)
    {after after' : Option (ZLib Inflater Deflater)}
    (same : Option.Rel (Agreeing last) after after') :
    SameStep (Agreeing (call.direction.or last)) (after.map fun next => (Answer.nothing, next))
      (after'.map fun next => (Answer.nothing, next)) := by
  rw [neither]
  cases same with
  | none => exact .none
  | some same => exact .some ⟨rfl, same⟩

theorem Compressing.agreeing (objects : Compressing True first second) :
    Agreeing (some .compression) first second :=
  ⟨objects.toAlike, fun later _ => objects.running later, nofun⟩

theorem Uncompressing.agreeing (objects : Uncompressing True first second) :
    Agreeing (some .decompression) first second :=
  ⟨objects.toAlike, nofun, fun later _ => objects.running later⟩

theorem SameCompressed.answer {result result' : Compressed Inflater Deflater}
    (same : SameCompressed True result result') {left left' : Option Nat}
    (sameLeft : left = left') :
    (result.answer left).1 = (result'.answer left').1 ∧
      Agreeing (some .compression) (result.answer left).2 (result'.answer left').2 := by
  refine ⟨?_, same.objects.agreeing⟩
  unfold Compressed.answer
  rw [same.code, same.written, same.destLen, sameLeft]

theorem SameResult.answer {result result' : Uncompressed Inflater Deflater}
    (same : SameResult True result result') {left left' : Option Nat} (sameLeft : left = left') :
    (result.answer left).1 = (result'.answer left').1 ∧
      Agreeing (some .decompression) (result.answer left).2 (result'.answer left').2 := by
  refine ⟨?_, same.objects.agreeing⟩
  unfold Uncompressed.answer
  rw [same.code, same.written, same.destLen, sameLeft]

end Steps

/-- A call that does not switch the direction inside a sequence answers alike. -/
theorem agreeing_step (reuses : zlib.Reuses opened) {environment : Environment}
    {tracked : Tracked Inflater Deflater} {call : PublicCall}
    (agreeing : Agreeing tracked.last tracked.object second)
    (noted : tracked.object.Noted opened) (noted' : second.Noted opened)
    (steady : tracked.Steady call) (keeps : call = .reinit → tracked.object.KeepsRecord) :
    SameStep (Agreeing (call.direction.or tracked.last))
      (tracked.object.perform zlib environment call) (second.perform zlib environment call) := by
  have compressing (compresses : call.direction = some .compression) :
      Compressing True tracked.object second :=
    { agreeing.alike with
      running := fun later => agreeing.comp later (steady later _ compresses) }
  have uncompressing (uncompresses : call.direction = some .decompression) :
      Uncompressing True tracked.object second :=
    { agreeing.alike with
      running := fun later => agreeing.uncomp later (steady later _ uncompresses) }
  cases call with
  | setNoHeaderMode mode => exact sameStep_of_set rfl (agreeing.setNoHeaderMode noted noted' mode)
  | setGzipHeaderMode => exact sameStep_of_set rfl (agreeing.setGzipHeaderMode noted noted')
  | setDictionary dictionary dictLen =>
    exact sameStep_of_set rfl (agreeing.configured (fun settings => { settings with
      dictionary := dictionary
      dictLen := dictLen }) fun _ => rfl).checkValidParams
  | setDontHideStreamEnd =>
    exact .some ⟨rfl, agreeing.configured (fun settings => { settings with
      dontHideZstreamEnd := true }) fun _ => rfl⟩
  | setCompressionLevel level =>
    exact .some ⟨rfl, agreeing.configured (fun settings => { settings with
      compressionLevel := level }) fun _ => rfl⟩
  | setCompressionWindowSizeInBits bits =>
    exact .some ⟨rfl, agreeing.configured (fun settings => { settings with
      windowBits := bits }) fun _ => rfl⟩
  | setCompressionMemLevel level =>
    exact .some ⟨rfl, agreeing.configured (fun settings => { settings with
      memLevel := level }) fun _ => rfl⟩
  | reset =>
    exact .some ⟨rfl, { agreeing.alike with gzipHeader := rfl, firstChunk := rfl }, nofun, nofun⟩
  | reinit =>
    exact .some ⟨rfl, agreeing_of_virgin (virgin_reinit reuses noted (keeps rfl))
      (virgin_reinit reuses noted' (agreeing.keepsRecord noted noted' (keeps rfl))) _⟩
  | observe => exact .some ⟨agreeing.observe noted noted', agreeing⟩
  | compress destLen source =>
    exact .some (compress_alike reuses noted.comp noted'.comp (compressing rfl) _ _ |>.answer rfl)
  | compressChunk destLen source =>
    exact .some (compressChunkOrAll_alike reuses noted.comp noted'.comp (compressing rfl) _ _ _
      |>.answer rfl)
  | compressAtMost destLen source =>
    have same := compressAtMostOrAll_alike reuses noted.comp noted'.comp (compressing rfl)
      destLen source .syncFlush
    exact .some (same.answer (congrArg some same.sourceLen))
  | compressChunkDone destLen =>
    exact sameStep_map (fun _ _ same => same.answer rfl)
      (compressChunkDone_alike reuses noted.comp noted'.comp (compressing rfl) _ _)
  | uncompress destLen source =>
    exact sameStep_map (fun _ _ same => same.answer rfl)
      (uncompress_alike reuses noted.uncomp noted'.uncomp _ (uncompressing rfl) noted.footer
        noted'.footer _ _)
  | uncompressChunk destLen source =>
    exact sameStep_map (fun _ _ same => same.toSameResult.answer rfl)
      (uncompressChunkOrAll_alike reuses noted.uncomp noted'.uncomp _ (uncompressing rfl)
        noted.footer noted'.footer _ _ _)
  | uncompressAtMost destLen source =>
    exact sameStep_map (fun _ _ same => same.toSameResult.answer (congrArg some same.sourceLen))
      (uncompressAtMostOrAll_alike reuses noted.uncomp noted'.uncomp _ (uncompressing rfl)
        noted.footer noted'.footer _ _ _)
  | uncompressChunkDone =>
    have same := uncompressChunkDone_alike reuses noted.uncomp noted'.uncomp
      environment.flexibleWithGzipFooter (uncompressing rfl) noted.footer noted'.footer
    exact sameStep_map
      (fun _ _ agreed => ⟨congrArg Answer.decided agreed.1, agreed.2.agreeing⟩) same
  | uncompressGzipAndAllocate destLen source =>
    have same := uncompressGzipAndAllocate_alike reuses noted.uncomp noted'.uncomp
      environment.flexibleWithGzipFooter environment.malloc (uncompressing rfl) noted.footer
      noted'.footer destLen source
    exact same.imp fun _ _ _ _ _ objects => objects.agreeing

/-! ### Runs -/

/-- A call on an object whose last direction is followed. -/
def Tracked.perform (zlib : WholeZlib Inflater Deflater) (environment : Environment)
    (tracked : Tracked Inflater Deflater) (call : PublicCall) :
    Option (Answer × Tracked Inflater Deflater) :=
  (tracked.object.perform zlib environment call).map fun (answer, next) =>
    (answer, tracked.behind call next)

theorem performAll_eq (zlib : WholeZlib Inflater Deflater) (environment : Environment)
    (object : ZLib Inflater Deflater) (calls : List PublicCall) :
    object.performAll zlib environment calls = runAll (perform zlib environment) object calls := by
  induction calls generalizing object with
  | nil => rfl
  | cons call calls inductionHypothesis =>
    unfold performAll runAll
    simp only [inductionHypothesis]

/-- A `Reinit` finds the record as it should be. -/
def KeepsAtReinit (object : ZLib Inflater Deflater) (call : PublicCall) : Prop :=
  call = .reinit → object.KeepsRecord

/-- What a call may be behind a `Reinit`. -/
def Tracked.Follows (tracked : Tracked Inflater Deflater) (call : PublicCall) : Prop :=
  tracked.Steady call ∧ tracked.object.KeepsAtReinit call

/-- Following the directions does not change what a call does. -/
theorem tracked_perform (zlib : WholeZlib Inflater Deflater) (environment : Environment)
    (tracked : Tracked Inflater Deflater) (call : PublicCall) :
    SameStep (fun next object => next = tracked.behind call object)
      (tracked.perform zlib environment call) (tracked.object.perform zlib environment call) := by
  unfold Tracked.perform
  cases tracked.object.perform zlib environment call with
  | none => exact .none
  | some performed => exact .some ⟨rfl, rfl⟩

theorem answers_of_agreeing (reuses : zlib.Reuses opened) {environment : Environment}
    {tracked : Tracked Inflater Deflater} {calls : List PublicCall}
    (agreeing : Agreeing tracked.last tracked.object second)
    (noted : tracked.object.Noted opened) (noted' : second.Noted opened)
    (follows : Throughout (Tracked.perform zlib environment) Tracked.Follows tracked calls) :
    (tracked.object.performAll zlib environment calls).map Prod.fst =
      (second.performAll zlib environment calls).map Prod.fst := by
  have untracked : SameStep (fun tracked object => tracked.object = object)
      (runAll (Tracked.perform zlib environment) tracked calls)
      (runAll (perform zlib environment) tracked.object calls) := by
    refine runAll_related ?_ rfl follows
    rintro state _ call rfl -
    exact (tracked_perform zlib environment state call).imp fun _ _ _ _ _ next => by rw [next]; rfl
  have same : SameStep
      (fun tracked object => Agreeing tracked.last tracked.object object ∧
        tracked.object.Noted opened ∧ object.Noted opened)
      (runAll (Tracked.perform zlib environment) tracked calls)
      (runAll (perform zlib environment) second calls) := by
    refine runAll_related ?_ ⟨agreeing, noted, noted'⟩ follows
    rintro state object call ⟨agreeing, noted, noted'⟩ ⟨steady, keeps⟩
    have step : SameStep
        (fun next other => Agreeing (call.direction.or state.last) next other ∧
          next.Noted opened ∧ other.Noted opened)
        (state.object.perform zlib environment call) (object.perform zlib environment call) := by
      refine (agreeing_step reuses agreeing noted noted' steady keeps).imp
        fun _ _ _ performed performed' agrees => ⟨agrees, ?_, ?_⟩
      · exact noted_step reuses noted keeps performed
      · exact noted_step reuses noted'
          (fun again => agreeing.keepsRecord noted noted' (keeps again)) performed'
    unfold Tracked.perform
    generalize state.object.perform zlib environment call = performed at step
    generalize object.perform zlib environment call = performed' at step
    cases step with
    | none => exact .none
    | some same => exact .some same
  rw [performAll_eq, performAll_eq, ← untracked.map_fst, same.map_fst]

/-- Behind a run whose `Reinit`s find the record as it should be, the last of them makes an object
that answers every further call like a new one, as long as these calls keep to one direction
inside a sequence and their `Reinit`s find the record as it should be. -/
theorem reinit_virgin (reuses : zlib.Reuses opened) {environment : Environment}
    {history further : List PublicCall} {answers : List Answer} {object : ZLib Inflater Deflater}
    (ran : (ZLib.new zlib.toZlib).performAll zlib environment (history ++ [.reinit]) =
      some (answers, object))
    (keeps : Throughout (perform zlib environment) KeepsAtReinit (ZLib.new zlib.toZlib)
      (history ++ [.reinit]))
    (follows : Throughout (Tracked.perform zlib environment) Tracked.Follows ⟨object, none⟩
      further) :
    (object.performAll zlib environment further).map Prod.fst =
      ((ZLib.new zlib.toZlib).performAll zlib environment further).map Prod.fst := by
  rw [performAll_eq] at ran
  obtain ⟨before, keepsLast⟩ := throughout_concat.mp keeps
  obtain ⟨outputs, between, answer, ranBefore, last⟩ := runAll_concat ran
  have noted : between.Noted opened :=
    runAll_invariant (fun _ _ _ _ noted keeps stepped => noted_step reuses noted keeps stepped)
      (noted_new zlib) before ranBefore
  have virgin : object.Virgin opened := by
    cases last
    exact virgin_reinit reuses noted (keepsLast _ _ ranBefore rfl)
  refine answers_of_agreeing reuses ?_ virgin.noted (noted_new zlib) follows
  exact agreeing_of_virgin virgin (virgin_new zlib) none

/-! ### Runs with stored blocks -/

/-- The parameters of a stream of stored blocks. -/
def storedParameters (stream : StoredDeflater) : Parameters :=
  ⟨stream.level, stream.windowBits, stream.memLevel⟩

theorem storedParameters_deflate (stream : StoredDeflater) (input : List UInt8) (room : Nat)
    (flushMode : Flush) :
    storedParameters (stream.deflate input room flushMode).next = storedParameters stream := by
  have extended : storedParameters (stream.extended input flushMode) = storedParameters stream := by
    unfold StoredDeflater.extended
    split
    · rfl
    · rfl
  unfold StoredDeflater.deflate
  split
  · rfl
  · split
    · rfl
    · exact extended

theorem reuses_storedZlib :
    storedZlib.Reuses fun stream parameters => parameters = storedParameters stream where
  honest := honest_storedZlib
  maintains := by
    refine ⟨?_, ?_, ?_, ?_, ?_⟩
    · rintro parameters stream opened
      cases opened
      rfl
    · rintro _ stream rfl
      rfl
    · rintro _ stream level rfl -
      rfl
    · rintro _ stream dictionary rfl
      rfl
    · rintro _ stream input room flushMode rfl
      exact (storedParameters_deflate stream input room flushMode).symm
  deflateReset := by
    rintro stream _ rfl
    exact ⟨_, rfl, rfl⟩
  deflateParams := by
    rintro _ parameters level opened -
    cases opened
    rfl
  inflateReset2 _ _ _ := ⟨_, rfl, rfl⟩
  consumed := inflateWith_consumed storedFormat

/-- An object that has compressed something. -/
def usedObject : ZLib StoredState StoredDeflater :=
  (({ ZLib.new storedZlib.toZlib with settings.compressionLevel := 0 } :
    ZLib StoredState StoredDeflater).compress storedZlib 100 [1, 2, 3]).object

theorem reinit_virgin_usedObject :
    ((usedObject.reinit storedZlib.toZlib).performAll storedZlib debugEnvironment
        [.setCompressionLevel 0, .compress 100 [4]]).map Prod.fst =
      ((ZLib.new storedZlib.toZlib).performAll storedZlib debugEnvironment
        [.setCompressionLevel 0, .compress 100 [4]]).map Prod.fst := by
  have recorded : usedObject.initSettings.noHeaderMode = false := by decide +kernel
  have ran : (ZLib.new storedZlib.toZlib).performAll storedZlib debugEnvironment
      ([.setCompressionLevel 0, .compress 100 [1, 2, 3]] ++ [.reinit]) =
        some (_, usedObject.reinit storedZlib.toZlib) := rfl
  refine reinit_virgin reuses_storedZlib ran ?_ ?_
  · refine ⟨nofun, ?_⟩
    rintro _ _ ⟨⟩
    refine ⟨nofun, ?_⟩
    rintro _ _ ⟨⟩
    exact ⟨fun _ => .inl recorded, fun _ _ _ => trivial⟩
  · refine ⟨⟨nofun, nofun⟩, ?_⟩
    rintro _ _ ⟨⟩
    exact ⟨⟨nofun, nofun⟩, fun _ _ _ => trivial⟩

/-- `Reinit` on an object that compressed without headers. The record still says so, until a call
that uncompresses brings it up to date; then the next call that compresses takes the raw stream for
one with headers. -/
theorem not_reinit_virgin_rawStream :
    (∃ opened, storedZlib.Reuses opened) ∧
      ((ZLib.new storedZlib.toZlib).performAll storedZlib debugEnvironment
          [.setCompressionLevel 0, .setNoHeaderMode true, .compress 100 [1, 2, 3], .reinit]).bind
        (fun (_, object) => (object.performAll storedZlib debugEnvironment
          [.uncompress 10 [], .setCompressionLevel 0, .compress 100 [1, 2, 3]]).map Prod.fst) =
        some [.coded .dataError [] 0 none, .nothing,
          .coded .ok [1, 3, 0, 0xfc, 0xff, 1, 2, 3] 8 none] ∧
      ((ZLib.new storedZlib.toZlib).performAll storedZlib debugEnvironment
          [.uncompress 10 [], .setCompressionLevel 0, .compress 100 [1, 2, 3]]).map Prod.fst =
        some [.coded .dataError [] 0 none, .nothing,
          .coded .ok [0x78, 1, 1, 3, 0, 0xfc, 0xff, 1, 2, 3, 0, 13, 0, 7] 14 none] :=
  ⟨⟨_, reuses_storedZlib⟩, by decide +kernel, by decide +kernel⟩

end Fleetbench.Compression.ZLib
