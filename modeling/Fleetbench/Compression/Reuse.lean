/-
This file is about the streams that the class `ZLib` reuses. Whether a stream
is reused or not, the first chunk of a sequence finds it as `deflateInit2` or
`inflateInit2` would make it for the current settings, as long as
`init_settings_` notes the parameters that the stream was opened with.
-/

import Fleetbench.Compression.Settled

namespace Fleetbench.Compression

/-- The initialization of a stream with some parameters. -/
def WholeZlib.opening {Inflater Deflater : Type} (zlib : WholeZlib Inflater Deflater)
    (parameters : Parameters) : Except ZCode Deflater :=
  zlib.deflateInit2 parameters.level parameters.windowBits parameters.memLevel

/-- Resetting a stream is ending it and initializing it again, with the parameters that it was
opened with. States of streams that behave the same are not told apart. And `inflate` reads no
more than it is given. -/
structure WholeZlib.Reuses {Inflater Deflater : Type} (zlib : WholeZlib Inflater Deflater)
    (opened : Deflater → Parameters → Prop) : Prop where
  honest : zlib.Honest
  maintains : zlib.Maintains opened
  deflateReset : ∀ stream parameters, opened stream parameters →
    ∃ fresh, zlib.deflateReset stream = (.ok, fresh) ∧ zlib.opening parameters = .ok fresh
  deflateParams : ∀ fresh parameters level, zlib.opening parameters = .ok fresh →
    (zlib.deflateParams fresh level).1 = .ok →
      zlib.opening { parameters with level := level } = .ok (zlib.deflateParams fresh level).2
  inflateReset2 : ∀ stream windowBits, windowBits = maxWbits ∨ windowBits = -maxWbits →
    ∃ fresh, zlib.inflateReset2 stream windowBits = (.ok, fresh) ∧
      zlib.inflateInit2 windowBits = .ok fresh
  consumed : FitsInput zlib.toZlib

namespace ZLib

variable {Inflater Deflater : Type} {zlib : WholeZlib Inflater Deflater}
  {opened : Deflater → Parameters → Prop}

/-! ### The compression stream -/

/-- The object with a compression stream as `DeflateInit` makes it. -/
def startedComp (object : ZLib Inflater Deflater) (fresh : Deflater) : ZLib Inflater Deflater :=
  { object with
    compInit := true
    compStream := { object.compStream with state := some fresh, totalIn := 0, totalOut := 0 }
    initSettings := { object.initSettings with
      compressionLevel := object.settings.compressionLevel
      windowBits := object.settings.windowBits
      memLevel := object.settings.memLevel
      noHeaderMode := object.settings.noHeaderMode } }

/-- What comes of the first chunk for the compression stream. -/
def PreparedComp (zlib : WholeZlib Inflater Deflater) (object : ZLib Inflater Deflater)
    (prepared : ZCode × ZLib Inflater Deflater) : Prop :=
  match zlib.opening (parameters object.settings) with
  | .ok fresh => prepared = (.ok, object.startedComp fresh)
  | .error code => code ≠ .ok ∧ ∃ stream : ZStream Deflater, stream.state = none ∧
      prepared = (code, { object with compInit := false, compStream := stream })

/-- The last step of `CompressInit`, for a stream that is not reused. -/
def freshComp (zlib : WholeZlib Inflater Deflater) (object : ZLib Inflater Deflater) :
    ZCode × ZLib Inflater Deflater :=
  let (err, object) := object.deflateInit zlib
  if err = .ok then (.ok, { object with compInit := true }) else (err, object)

theorem prepareComp_eq (zlib : WholeZlib Inflater Deflater) (object : ZLib Inflater Deflater) :
    object.prepareComp zlib =
      if ((object.dropComp.reuseComp zlib.toZlib).adjustLevel zlib).compInit then
        (.ok, (object.dropComp.reuseComp zlib.toZlib).adjustLevel zlib)
      else ((object.dropComp.reuseComp zlib.toZlib).adjustLevel zlib).freshComp zlib :=
  rfl

theorem freshComp_prepared (honest : zlib.Honest) {object closed : ZLib Inflater Deflater}
    {stream : ZStream Deflater} (availIn : stream.availIn = object.compStream.availIn)
    (availOut : stream.availOut = object.compStream.availOut)
    (same : closed = { object with compInit := false, compStream := stream }) :
    PreparedComp zlib object (closed.freshComp zlib) := by
  subst same
  unfold PreparedComp WholeZlib.opening freshComp deflateInit ZStream.deflateInit2
  cases found : zlib.deflateInit2 (parameters object.settings).level
      (parameters object.settings).windowBits (parameters object.settings).memLevel with
  | ok fresh =>
    have found' : zlib.deflateInit2 object.settings.compressionLevel
        (signedWindowBits object.settings) object.settings.memLevel = .ok fresh := found
    simp only [found', if_pos, startedComp]
    rw [availIn, availOut]
  | error code =>
    have failed : code ≠ .ok := fun ok => honest.deflateInit2 _ _ _ (ok ▸ found)
    have found' : zlib.deflateInit2 object.settings.compressionLevel
        (signedWindowBits object.settings) object.settings.memLevel = .error code := found
    simp only [found', if_neg failed]
    exact ⟨failed, _, rfl, rfl⟩

/-- Without changed properties only the level may differ from the one that was noted. -/
theorem noted_of_not_propertiesChanged {object : ZLib Inflater Deflater}
    (same : ¬ object.propertiesChanged) :
    object.initSettings.windowBits = object.settings.windowBits ∧
      object.initSettings.memLevel = object.settings.memLevel ∧
      object.initSettings.noHeaderMode = object.settings.noHeaderMode := by
  unfold propertiesChanged at same
  refine ⟨?_, ?_, ?_⟩
  · exact Classical.byContradiction fun differs => same (.inr (.inr (.inl differs)))
  · exact Classical.byContradiction fun differs => same (.inr (.inr (.inr (.inl differs))))
  · exact Classical.byContradiction fun differs => same (.inr (.inr (.inr (.inr differs))))

theorem parameters_settings {object : ZLib Inflater Deflater} (same : ¬ object.propertiesChanged) :
    parameters object.settings =
      { parameters object.initSettings with level := object.settings.compressionLevel } := by
  obtain ⟨windowBits, memLevel, mode⟩ := noted_of_not_propertiesChanged same
  unfold parameters signedWindowBits
  rw [windowBits, memLevel, mode]

/-- The record of the initialization is complete once the level is adjusted. -/
theorem initSettings_adjusted {object : ZLib Inflater Deflater}
    (same : ¬ object.propertiesChanged) :
    { object.initSettings with compressionLevel := object.settings.compressionLevel } =
      { object.initSettings with
        compressionLevel := object.settings.compressionLevel
        windowBits := object.settings.windowBits
        memLevel := object.settings.memLevel
        noHeaderMode := object.settings.noHeaderMode } := by
  obtain ⟨windowBits, memLevel, mode⟩ := noted_of_not_propertiesChanged same
  rw [← windowBits, ← memLevel, ← mode]

/-- `deflateReset` on an initialized stream. -/
theorem reuseComp_reset {object : ZLib Inflater Deflater} {state fresh : Deflater}
    (initialized : object.compInit = true) (found : object.compStream.state = some state)
    (reset : zlib.deflateReset state = (.ok, fresh)) :
    object.reuseComp zlib.toZlib = { object with compStream :=
      { object.compStream with state := some fresh, totalIn := 0, totalOut := 0 } } := by
  unfold reuseComp ZStream.deflateReset
  simp only [if_pos initialized, found, reset, if_true]

theorem reuseComp_of_closed {object : ZLib Inflater Deflater} (closed : object.compInit = false) :
    object.reuseComp zlib.toZlib = object := by
  unfold reuseComp
  exact if_neg (by rw [closed]; exact Bool.false_ne_true)

theorem adjustLevel_of_closed {object : ZLib Inflater Deflater}
    (closed : object.compInit = false) : object.adjustLevel zlib = object := by
  unfold adjustLevel
  exact if_neg fun both => by cases closed.symm.trans both.1

/-- `deflateParams` on an initialized stream. -/
theorem adjustLevel_cases {object : ZLib Inflater Deflater} {state : Deflater}
    (initialized : object.compInit = true) (found : object.compStream.state = some state) :
    (object.initSettings.compressionLevel = object.settings.compressionLevel ∧
        object.adjustLevel zlib = object) ∨
      ((zlib.deflateParams state object.settings.compressionLevel).1 = .ok ∧
        object.adjustLevel zlib = { object with
          compStream.state := some (zlib.deflateParams state object.settings.compressionLevel).2
          initSettings.compressionLevel := object.settings.compressionLevel }) ∨
      ∃ stream : ZStream Deflater, stream.availIn = object.compStream.availIn ∧
        stream.availOut = object.compStream.availOut ∧
        object.adjustLevel zlib = { object with compInit := false, compStream := stream } := by
  unfold adjustLevel ZStream.deflateParams
  by_cases same : object.initSettings.compressionLevel = object.settings.compressionLevel
  · exact Or.inl ⟨same, if_neg fun both => both.2 same⟩
  · rw [if_pos ⟨initialized, same⟩, found]
    dsimp only
    by_cases adjusted : (zlib.deflateParams state object.settings.compressionLevel).1 = .ok
    · rw [if_pos adjusted]
      exact Or.inr (Or.inl ⟨adjusted, rfl⟩)
    · rw [if_neg adjusted]
      exact Or.inr (Or.inr ⟨object.compStream.close, rfl, rfl, rfl⟩)

theorem prepareComp_of_closed (honest : zlib.Honest) {object : ZLib Inflater Deflater}
    (stream : ZStream Deflater) (availIn : stream.availIn = object.compStream.availIn)
    (availOut : stream.availOut = object.compStream.availOut)
    {dropped : ZLib Inflater Deflater} (drops : object.dropComp = dropped)
    (same : dropped = { object with compInit := false, compStream := stream }) :
    PreparedComp zlib object (object.prepareComp zlib) := by
  have closed : dropped.compInit = false := by rw [same]
  rw [prepareComp_eq, drops, reuseComp_of_closed closed, adjustLevel_of_closed closed, closed]
  exact freshComp_prepared honest availIn availOut same

theorem prepareComp_prepared (reuses : zlib.Reuses opened) {object : ZLib Inflater Deflater}
    (compOpen : object.CompOpen opened) : PreparedComp zlib object (object.prepareComp zlib) := by
  cases initialized : object.compInit with
  | false =>
    have drops : object.dropComp = object := if_neg fun both => by
      cases initialized.symm.trans both.1
    refine prepareComp_of_closed reuses.honest object.compStream rfl rfl drops ?_
    rw [← initialized]
  | true =>
    by_cases changed : object.propertiesChanged
    · have drops : object.dropComp = object.closeComp := if_pos ⟨initialized, changed⟩
      exact prepareComp_of_closed reuses.honest object.compStream.close rfl rfl drops rfl
    · have drops : object.dropComp = object := if_neg fun both => changed both.2
      obtain ⟨state, found, noted⟩ := compOpen initialized
      obtain ⟨fresh, reset, started⟩ := reuses.deflateReset _ _ noted
      rw [prepareComp_eq, drops, reuseComp_reset initialized found reset]
      generalize same : ({ object with compStream := { object.compStream with
        state := some fresh, totalIn := 0, totalOut := 0 } } : ZLib Inflater Deflater) = between
      have initialized' : between.compInit = true := by rw [← same]; exact initialized
      have found' : between.compStream.state = some fresh := by rw [← same]
      rcases adjustLevel_cases initialized' found' with
        ⟨level, adjusts⟩ | ⟨adjusted, adjusts⟩ | ⟨stream, availIn, availOut, adjusts⟩
      · rw [adjusts, if_pos initialized']
        subst same
        have level' : object.initSettings.compressionLevel = object.settings.compressionLevel :=
          level
        have asked : parameters object.settings = parameters object.initSettings := by
          rw [parameters_settings changed, ← level']
          rfl
        unfold PreparedComp
        rw [asked, started]
        unfold startedComp
        rw [← initSettings_adjusted changed, ← level', ← initialized]
      · rw [adjusts, if_pos initialized']
        subst same
        unfold PreparedComp
        rw [parameters_settings changed, reuses.deflateParams _ _ _ started adjusted]
        unfold startedComp
        rw [← initSettings_adjusted changed, ← initialized]
      · rw [adjusts, if_neg Bool.false_ne_true]
        subst same
        exact freshComp_prepared reuses.honest availIn availOut rfl

/-! ### The decompression stream -/

/-- The object with a decompression stream as `InflateInit` makes it. -/
def startedUncomp (object : ZLib Inflater Deflater) (fresh : Inflater) : ZLib Inflater Deflater :=
  { object with
    uncompInit := true
    uncompStream := { object.uncompStream with state := some fresh, totalIn := 0, totalOut := 0 }
    initSettings.noHeaderMode := object.settings.noHeaderMode }

/-- What comes of the first chunk for the decompression stream. -/
def PreparedUncomp (zlib : WholeZlib Inflater Deflater) (object : ZLib Inflater Deflater)
    (prepared : ZCode × ZLib Inflater Deflater) : Prop :=
  match zlib.inflateInit2 object.wbits with
  | .ok fresh => prepared = (.ok, object.startedUncomp fresh)
  | .error code => code ≠ .ok ∧ ∃ stream : ZStream Inflater,
      prepared = (code, { object with uncompInit := false, uncompStream := stream })

theorem wbits_cases (object : ZLib Inflater Deflater) :
    object.wbits = maxWbits ∨ object.wbits = -maxWbits := by
  unfold wbits
  split
  · exact Or.inr rfl
  · exact Or.inl rfl

/-- `inflateReset2` on an initialized stream. -/
theorem resetUncomp_fresh (reuses : zlib.Reuses opened) {object : ZLib Inflater Deflater}
    (uncompOpen : object.uncompStream.Open) :
    ∃ fresh, zlib.inflateInit2 object.wbits = .ok fresh ∧
      object.resetUncomp zlib.toZlib = (.ok, { object with
        uncompStream :=
          { object.uncompStream with state := some fresh, totalIn := 0, totalOut := 0 }
        initSettings.noHeaderMode := object.settings.noHeaderMode }) := by
  obtain ⟨state, found⟩ := Option.isSome_iff_exists.mp uncompOpen
  obtain ⟨fresh, reset, started⟩ := reuses.inflateReset2 state object.wbits object.wbits_cases
  refine ⟨fresh, started, ?_⟩
  unfold resetUncomp ZStream.inflateReset2
  simp only [found, reset, if_true]

theorem inflateInit_fresh (honest : zlib.Honest) {object closed : ZLib Inflater Deflater}
    {stream : ZStream Inflater} (availIn : stream.availIn = object.uncompStream.availIn)
    (availOut : stream.availOut = object.uncompStream.availOut)
    (same : closed = { object with uncompInit := false, uncompStream := stream }) :
    PreparedUncomp zlib object
      (if (closed.inflateInit zlib.toZlib).1 = .ok then
        (.ok, { (closed.inflateInit zlib.toZlib).2 with uncompInit := true })
      else closed.inflateInit zlib.toZlib) := by
  subst same
  unfold PreparedUncomp inflateInit ZStream.inflateInit2
  have wbits : ({ object with uncompInit := false, uncompStream := stream } :
      ZLib Inflater Deflater).wbits = object.wbits := rfl
  rw [wbits]
  cases found : zlib.inflateInit2 object.wbits with
  | ok fresh =>
    simp only [if_pos, startedUncomp]
    rw [availIn, availOut]
  | error code =>
    have failed : code ≠ .ok := fun ok => honest.inflateInit2 _ (ok ▸ found)
    simp only [if_neg failed]
    exact ⟨failed, _, rfl⟩

theorem prepareUncomp_of_closed (honest : zlib.Honest) {object : ZLib Inflater Deflater}
    (stream : ZStream Inflater) (availIn : stream.availIn = object.uncompStream.availIn)
    (availOut : stream.availOut = object.uncompStream.availOut)
    {dropped : ZLib Inflater Deflater} (drops : object.dropUncomp = dropped)
    (same : dropped = { object with uncompInit := false, uncompStream := stream }) :
    PreparedUncomp zlib object (object.prepareUncomp zlib.toZlib) := by
  have closed : dropped.uncompInit = false := by rw [same]
  have reused : dropped.reuseUncomp zlib.toZlib = dropped :=
    if_neg (by rw [closed]; exact Bool.false_ne_true)
  rw [prepareUncomp_eq, drops, reused, closed]
  exact inflateInit_fresh honest availIn availOut same

theorem prepareUncomp_fresh (reuses : zlib.Reuses opened) {object : ZLib Inflater Deflater}
    (uncompOpen : object.UncompOpen) :
    PreparedUncomp zlib object (object.prepareUncomp zlib.toZlib) := by
  cases initialized : object.uncompInit with
  | false =>
    have drops : object.dropUncomp = object := if_neg fun both => by
      cases initialized.symm.trans both.1
    refine prepareUncomp_of_closed reuses.honest object.uncompStream rfl rfl drops ?_
    rw [← initialized]
  | true =>
    by_cases changed : object.initSettings.dictionary.map Dictionary.address ≠
          object.settings.dictionary.map Dictionary.address ∨
        object.initSettings.dictLen ≠ object.settings.dictLen
    · have drops : object.dropUncomp = object.closeUncomp := if_pos ⟨initialized, changed⟩
      exact prepareUncomp_of_closed reuses.honest object.uncompStream.close rfl rfl drops rfl
    · have drops : object.dropUncomp = object := if_neg fun both => changed both.2
      obtain ⟨fresh, started, reset⟩ := resetUncomp_fresh reuses (uncompOpen initialized)
      have reused : object.reuseUncomp zlib.toZlib = object.startedUncomp fresh := by
        unfold reuseUncomp
        rw [if_pos initialized, reset]
        unfold startedUncomp
        rw [← initialized]
        rfl
      have running : (object.startedUncomp fresh).uncompInit = true := rfl
      rw [prepareUncomp_eq, drops, reused, if_pos running]
      unfold PreparedUncomp
      rw [started]

/-! ### What is noted of the streams -/

/-- `init_settings_` notes the parameters of the compression stream, and the header mode is the
one of every open stream. -/
structure Noted (opened : Deflater → Parameters → Prop) (object : ZLib Inflater Deflater) :
    Prop where
  comp : object.CompOpen opened
  uncomp : object.UncompOpen
  mode : object.compInit = true ∨ object.uncompInit = true →
    object.initSettings.noHeaderMode = object.settings.noHeaderMode
  footer : object.FooterFits

theorem noted_new (zlib : WholeZlib Inflater Deflater) :
    (ZLib.new zlib.toZlib).Noted opened where
  comp := nofun
  uncomp := nofun
  mode := by rintro (impossible | impossible) <;> cases impossible
  footer := ⟨rfl, show (-1 : Int) ≤ 8 by decide⟩

theorem Noted.compressed {before after : ZLib Inflater Deflater} (noted : before.Noted opened)
    (settled : before.CompSettled opened after) : after.Noted opened where
  comp := settled.opened
  uncomp initialized := by
    rw [settled.kept.uncompStream]
    exact noted.uncomp (settled.kept.uncompInit.symm.trans initialized)
  mode some := by
    rcases settled.kept.mode with same | ⟨same, initialized⟩
    · exact same.trans (congrArg Settings.noHeaderMode settled.kept.settings.symm)
    · rw [same, settled.kept.settings]
      refine noted.mode (some.imp initialized fun after => ?_)
      exact settled.kept.uncompInit.symm.trans after
  footer := by
    unfold FooterFits
    rw [settled.kept.gzipFooter, settled.kept.gzipFooterBytes]
    exact noted.footer

theorem Noted.uncompressed {before after : ZLib Inflater Deflater} (noted : before.Noted opened)
    (settled : before.UncompSettled after) : after.Noted opened where
  comp initialized := by
    have initialized' := settled.kept.compInit.symm.trans initialized
    have mode := noted.mode (Or.inl initialized')
    have same : after.initSettings.noHeaderMode = before.initSettings.noHeaderMode := by
      rcases settled.kept.mode with changed | ⟨same, -⟩
      · exact changed.trans mode.symm
      · exact same
    have parameters_same : parameters after.initSettings = parameters before.initSettings := by
      have noted' := settled.kept.noted before.initSettings.noHeaderMode
      rw [← same] at noted'
      exact noted'.trans (by rw [same])
    rw [parameters_same, settled.kept.compStream]
    exact noted.comp initialized'
  uncomp := settled.opened
  mode some := by
    rcases settled.kept.mode with same | ⟨same, initialized⟩
    · exact same.trans (congrArg Settings.noHeaderMode settled.kept.settings.symm)
    · rw [same, settled.kept.settings]
      exact noted.mode (some.imp (settled.kept.compInit.symm.trans ·) initialized)
  footer := settled.kept.footer noted.footer

/-- Settings of the same header mode. -/
theorem Noted.configured {object : ZLib Inflater Deflater} (noted : object.Noted opened)
    {settings : Settings} (same : settings.noHeaderMode = object.settings.noHeaderMode) :
    ({ object with settings := settings } : ZLib Inflater Deflater).Noted opened :=
  ⟨noted.comp, noted.uncomp, fun some => (noted.mode some).trans same.symm, noted.footer⟩

theorem Noted.reset {object : ZLib Inflater Deflater} (noted : object.Noted opened) :
    object.reset.Noted opened :=
  ⟨noted.comp, noted.uncomp, noted.mode, noted.footer⟩

end ZLib

end Fleetbench.Compression
