/-
This file is about the flag `first_chunk_`, which both directions share: while
it is false, the stream of the sequence of chunks that is in progress is
initialized. The setters of the header mode break this, since they close the
streams of an object without starting over; runs that do not change the header
mode inside a sequence keep it.
-/

import Fleetbench.Compression.Settled
import Fleetbench.Compression.StoredDeflate
import Fleetbench.Library.Transition

namespace Fleetbench.Compression.ZLib

variable {Inflater Deflater : Type} {zlib : WholeZlib Inflater Deflater}

/-! ### Setters -/

theorem checkValidParams_eq {object after : ZLib Inflater Deflater}
    (valid : object.checkValidParams = some after) : after = object := by
  unfold checkValidParams at valid
  split at valid
  · cases valid
  · cases valid
    rfl

/-- Both streams are ended. -/
def closeBoth (object : ZLib Inflater Deflater) : ZLib Inflater Deflater :=
  let object := if object.compInit then object.closeComp else object
  if object.uncompInit then object.closeUncomp else object

theorem closeBoth_closed (object : ZLib Inflater Deflater) :
    object.closeBoth.compInit = false ∧ object.closeBoth.uncompInit = false ∧
      object.closeBoth.firstChunk = object.firstChunk := by
  unfold closeBoth
  cases comp : object.compInit <;> cases uncomp : object.uncompInit <;>
    simp [closeComp, closeUncomp, comp, uncomp]

/-- `SetNoHeaderMode` starts over if the mode stays and ends the streams if it changes. -/
theorem setNoHeaderMode_eq {object after : ZLib Inflater Deflater} {mode : Bool}
    (set : object.setNoHeaderMode mode = some after) :
    after =
      if object.initSettings.noHeaderMode = mode then
        { object with settings.noHeaderMode := mode }.reset
      else { object with settings.noHeaderMode := mode }.closeBoth := by
  unfold setNoHeaderMode at set
  dsimp only at set
  split at set
  · rename_i changes
    rw [if_neg changes]
    exact checkValidParams_eq set
  · rename_i stays
    rw [if_pos (Decidable.not_not.mp stays)]
    exact checkValidParams_eq set

theorem setGzipHeaderMode_eq {object after : ZLib Inflater Deflater}
    (set : object.setGzipHeaderMode = some after) :
    { object with settings.gzipHeaderMode := true }.setNoHeaderMode true = some after := by
  obtain ⟨between, changed, valid⟩ := Option.bind_eq_some_iff.mp set
  rw [changed, checkValidParams_eq valid]

/-! ### Runs -/

/-- An object, and the direction of the last call that compressed or uncompressed. -/
structure Tracked (Inflater Deflater : Type) where
  object : ZLib Inflater Deflater
  last : Option Direction

/-- What a call leads to. -/
def Tracked.behind (tracked : Tracked Inflater Deflater) (call : PublicCall)
    (next : ZLib Inflater Deflater) : Tracked Inflater Deflater :=
  ⟨next, call.direction.or tracked.last⟩

/-- The call does not switch the direction while `first_chunk()` is false. -/
def Tracked.Steady (tracked : Tracked Inflater Deflater) (call : PublicCall) : Prop :=
  tracked.object.firstChunk = false → ∀ direction, call.direction = some direction →
    tracked.last = some direction

/-- The stream of the sequence that is in progress is initialized. -/
def Tracked.InProgress (tracked : Tracked Inflater Deflater) : Prop :=
  tracked.object.firstChunk = false →
    (tracked.last = some .compression →
      tracked.object.compInit = true ∧ tracked.object.compStream.Open) ∧
    (tracked.last = some .decompression →
      tracked.object.uncompInit = true ∧ tracked.object.uncompStream.Open)


/-- The call sets a header mode other than the one that a stream was last initialized in. -/
def ChangesHeaderMode (object : ZLib Inflater Deflater) : PublicCall → Prop
  | .setNoHeaderMode mode => object.initSettings.noHeaderMode ≠ mode
  | .setGzipHeaderMode => object.initSettings.noHeaderMode ≠ true
  | _ => False

/-- Inside a sequence of chunks the header mode does not change. -/
def KeepsHeaderMode (object : ZLib Inflater Deflater) (call : PublicCall) : Prop :=
  object.firstChunk = false → ¬ object.ChangesHeaderMode call

/-- A call that a run may contain: it does not switch the direction inside a sequence. -/
def Called (zlib : WholeZlib Inflater Deflater) (environment : Environment)
    (allowed : ZLib Inflater Deflater → PublicCall → Prop)
    (before after : Tracked Inflater Deflater) : Prop :=
  ∃ call answer next, before.Steady call ∧ allowed before.object call ∧
    before.object.perform zlib environment call = some (answer, next) ∧
    after = before.behind call next

/-- Every public call keeps this, unless it changes the header mode inside a sequence. -/
structure Tracked.Engaged (tracked : Tracked Inflater Deflater) : Prop where
  compOpen : tracked.object.CompOpen fun _ _ => True
  uncompOpen : tracked.object.UncompOpen
  known : tracked.object.firstChunk = false → ∃ direction, tracked.last = some direction
  comp : tracked.object.firstChunk = false → tracked.last = some .compression →
    tracked.object.compInit = true
  uncomp : tracked.object.firstChunk = false → tracked.last = some .decompression →
    tracked.object.uncompInit = true

theorem Tracked.Engaged.inProgress {tracked : Tracked Inflater Deflater}
    (engaged : tracked.Engaged) : tracked.InProgress := by
  refine fun running => ⟨fun compressing => ?_, fun uncompressing => ?_⟩
  · have initialized := engaged.comp running compressing
    exact ⟨initialized, (engaged.compOpen initialized).open⟩
  · have initialized := engaged.uncomp running uncompressing
    exact ⟨initialized, engaged.uncompOpen initialized⟩

theorem engaged_start (zlib : WholeZlib Inflater Deflater) :
    (Tracked.mk (ZLib.new zlib.toZlib) none).Engaged where
  compOpen := nofun
  uncompOpen := nofun
  known := nofun
  comp := nofun
  uncomp := nofun

/-- An object before a first chunk. -/
theorem engaged_restarted {object : ZLib Inflater Deflater} (last : Option Direction)
    (first : object.firstChunk = true) (compOpen : object.CompOpen fun _ _ => True)
    (uncompOpen : object.UncompOpen) : (Tracked.mk object last).Engaged where
  compOpen := compOpen
  uncompOpen := uncompOpen
  known running := by cases first.symm.trans running
  comp running := by cases first.symm.trans running
  uncomp running := by cases first.symm.trans running

section Calls

variable {tracked : Tracked Inflater Deflater} {call : PublicCall}

/-- A steady call finds its stream initialized behind a first chunk. -/
theorem Tracked.Engaged.comp_of_steady (engaged : tracked.Engaged) (steady : tracked.Steady call)
    (compresses : call.direction = some .compression) :
    tracked.object.firstChunk = false → tracked.object.compInit = true :=
  fun running => engaged.comp running (steady running _ compresses)

theorem Tracked.Engaged.uncomp_of_steady (engaged : tracked.Engaged)
    (steady : tracked.Steady call) (uncompresses : call.direction = some .decompression) :
    tracked.object.firstChunk = false → tracked.object.uncompInit = true :=
  fun running => engaged.uncomp running (steady running _ uncompresses)

theorem Tracked.Engaged.compressed (engaged : tracked.Engaged) (steady : tracked.Steady call)
    (compresses : call.direction = some .compression) {next : ZLib Inflater Deflater}
    (settled : tracked.object.CompSettled (fun _ _ => True) next) :
    (tracked.behind call next).Engaged where
  compOpen := settled.opened
  uncompOpen initialized := by
    show next.uncompStream.Open
    rw [settled.kept.uncompStream]
    exact engaged.uncompOpen (settled.kept.uncompInit.symm.trans initialized)
  known _ := ⟨.compression, by rw [behind, compresses]; rfl⟩
  comp running _ := settled.engaged (engaged.comp_of_steady steady compresses) running
  uncomp _ last := by
    rw [behind, compresses] at last
    cases last

theorem Tracked.Engaged.uncompressed (engaged : tracked.Engaged) (steady : tracked.Steady call)
    (uncompresses : call.direction = some .decompression) {next : ZLib Inflater Deflater}
    (settled : tracked.object.UncompSettled next) : (tracked.behind call next).Engaged where
  compOpen initialized := by
    show next.compStream.Remembers _
    rw [settled.kept.compStream]
    exact engaged.compOpen (settled.kept.compInit.symm.trans initialized)
  uncompOpen := settled.opened
  known _ := ⟨.decompression, by rw [behind, uncompresses]; rfl⟩
  comp _ last := by
    rw [behind, uncompresses] at last
    cases last
  uncomp running _ := settled.engaged (engaged.uncomp_of_steady steady uncompresses) running

/-- A call that only changes the settings. -/
theorem Tracked.Engaged.configured (engaged : tracked.Engaged) (settings : Settings) :
    (Tracked.mk { tracked.object with settings := settings } tracked.last).Engaged :=
  ⟨engaged.compOpen, engaged.uncompOpen, engaged.known, engaged.comp, engaged.uncomp⟩

end Calls

theorem engaged_setNoHeaderMode {tracked : Tracked Inflater Deflater} (engaged : tracked.Engaged)
    {mode : Bool} (keeps : tracked.object.firstChunk = false →
      tracked.object.initSettings.noHeaderMode = mode) {after : ZLib Inflater Deflater}
    (set : tracked.object.setNoHeaderMode mode = some after) :
    (Tracked.mk after tracked.last).Engaged := by
  rw [setNoHeaderMode_eq set]
  split
  · exact engaged_restarted _ rfl engaged.compOpen engaged.uncompOpen
  · rename_i changes
    obtain ⟨comp, uncomp, first⟩ := closeBoth_closed
      { tracked.object with settings.noHeaderMode := mode }
    refine engaged_restarted _ (first.trans ?_) (fun initialized => ?_) fun initialized => ?_
    · cases running : tracked.object.firstChunk with
      | true => rfl
      | false => exact absurd (keeps running) changes
    · cases comp.symm.trans initialized
    · cases uncomp.symm.trans initialized

theorem engaged_step (honest : zlib.Honest) {environment : Environment}
    {tracked : Tracked Inflater Deflater} {call : PublicCall} {answer : Answer}
    {next : ZLib Inflater Deflater} (engaged : tracked.Engaged) (steady : tracked.Steady call)
    (keeps : tracked.object.KeepsHeaderMode call)
    (performed : tracked.object.perform zlib environment call = some (answer, next)) :
    (tracked.behind call next).Engaged := by
  cases call with
  | setNoHeaderMode mode =>
    obtain ⟨_, set, same⟩ := Option.map_eq_some_iff.mp performed
    cases same
    exact engaged_setNoHeaderMode engaged (fun running => Decidable.not_not.mp (keeps running)) set
  | setGzipHeaderMode =>
    obtain ⟨_, set, same⟩ := Option.map_eq_some_iff.mp performed
    cases same
    exact engaged_setNoHeaderMode
      (engaged.configured { tracked.object.settings with gzipHeaderMode := true })
      (fun running => Decidable.not_not.mp (keeps running)) (setGzipHeaderMode_eq set)
  | setDictionary dictionary dictLen =>
    obtain ⟨_, set, same⟩ := Option.map_eq_some_iff.mp performed
    cases same
    rw [checkValidParams_eq set]
    exact engaged.configured _
  | reset =>
    cases performed
    exact engaged_restarted _ rfl engaged.compOpen engaged.uncompOpen
  | reinit =>
    cases performed
    obtain ⟨compOpen, uncompOpen⟩ := reinit_opened (maintains_true zlib) engaged.compOpen
      engaged.uncompOpen fun _ _ _ => id
    exact engaged_restarted _ rfl compOpen uncompOpen
  | observe =>
    cases performed
    exact engaged
  | setDontHideStreamEnd | setCompressionLevel | setCompressionWindowSizeInBits
  | setCompressionMemLevel =>
    cases performed
    exact engaged.configured _
  | compress destLen source =>
    cases performed
    exact engaged.compressed steady rfl
      (compress_settles (maintains_true zlib) honest engaged.compOpen _ _)
  | compressChunk destLen source =>
    cases performed
    exact engaged.compressed steady rfl
      (compressChunkOrAll_settles (maintains_true zlib) honest engaged.compOpen _ _ _)
  | compressAtMost destLen source =>
    cases performed
    exact engaged.compressed steady rfl
      (compressAtMostOrAll_settles (maintains_true zlib) honest engaged.compOpen _ _ _)
  | compressChunkDone destLen =>
    obtain ⟨_, done, same⟩ := Option.map_eq_some_iff.mp performed
    cases same
    exact engaged.compressed steady rfl
      (compressChunkDone_settles (maintains_true zlib) honest engaged.compOpen done)
  | uncompress destLen source =>
    obtain ⟨_, done, same⟩ := Option.map_eq_some_iff.mp performed
    cases same
    exact engaged.uncompressed steady rfl
      (uncompress_settles honest engaged.uncompOpen done)
  | uncompressChunk destLen source =>
    obtain ⟨_, done, same⟩ := Option.map_eq_some_iff.mp performed
    cases same
    exact engaged.uncompressed steady rfl
      (uncompressChunkOrAll_settles honest engaged.uncompOpen done)
  | uncompressAtMost destLen source =>
    obtain ⟨_, done, same⟩ := Option.map_eq_some_iff.mp performed
    cases same
    exact engaged.uncompressed steady rfl
      (uncompressAtMostOrAll_settles honest engaged.uncompOpen done)
  | uncompressChunkDone =>
    obtain ⟨⟨done, after⟩, ended, same⟩ := Option.map_eq_some_iff.mp performed
    cases same
    exact engaged.uncompressed steady rfl
      (uncompressChunkDone_settles honest engaged.uncompOpen ended)
  | uncompressGzipAndAllocate destLen source =>
    obtain ⟨_, done, same⟩ := Option.map_eq_some_iff.mp performed
    cases same
    exact engaged.uncompressed steady rfl
      (uncompressGzipAndAllocate_settles honest engaged.uncompOpen done)

/-- Setting another header mode ends the streams and nothing else. -/
theorem closed_of_changesHeaderMode {environment : Environment}
    {object next : ZLib Inflater Deflater} {call : PublicCall} {answer : Answer}
    (changes : object.ChangesHeaderMode call)
    (performed : object.perform zlib environment call = some (answer, next)) :
    call.direction = none ∧ next.compInit = false ∧ next.uncompInit = false ∧
      next.firstChunk = object.firstChunk := by
  cases call with
  | setNoHeaderMode mode =>
    obtain ⟨_, set, same⟩ := Option.map_eq_some_iff.mp performed
    cases same
    rw [setNoHeaderMode_eq set, if_neg changes]
    exact ⟨rfl, closeBoth_closed _⟩
  | setGzipHeaderMode =>
    obtain ⟨_, set, same⟩ := Option.map_eq_some_iff.mp performed
    cases same
    rw [setNoHeaderMode_eq (setGzipHeaderMode_eq set), if_neg changes]
    exact ⟨rfl, closeBoth_closed _⟩
  | _ => exact changes.elim

/-- Inside a sequence this ends the stream of the sequence. -/
theorem not_inProgress_step {environment : Environment} {tracked : Tracked Inflater Deflater}
    {call : PublicCall} {answer : Answer} {next : ZLib Inflater Deflater}
    (engaged : tracked.Engaged) (changes : ¬ tracked.object.KeepsHeaderMode call)
    (performed : tracked.object.perform zlib environment call = some (answer, next)) :
    ¬ (tracked.behind call next).InProgress := by
  obtain ⟨running, differs⟩ := Classical.not_imp.mp changes
  obtain ⟨neither, comp, uncomp, same⟩ :=
    closed_of_changesHeaderMode (Classical.not_not.mp differs) performed
  obtain ⟨direction, last⟩ := engaged.known running
  intro inProgress
  have still := inProgress (same.trans running)
  have last' : (tracked.behind call next).last = some direction := by
    rw [Tracked.behind, neither]
    exact last
  cases direction with
  | compression => cases comp.symm.trans (still.1 last').1
  | decompression => cases uncomp.symm.trans (still.2 last').1

/-- `CompressChunkDone` aborts exactly if no chunk was compressed before it. -/
theorem compressChunkDone_aborts (zlib : WholeZlib Inflater Deflater)
    {tracked : Tracked Inflater Deflater} (engaged : tracked.Engaged)
    {destLen : Nat} (steady : tracked.Steady (.compressChunkDone destLen)) (assertions : Bool) :
    tracked.object.compressChunkDone zlib assertions destLen = none ↔
      assertions = true ∧ tracked.object.minFooterSize ≤ destLen ∧
        tracked.object.firstChunk = true := by
  have initialized := engaged.comp_of_steady steady rfl
  unfold compressChunkDone
  by_cases small : destLen < tracked.object.minFooterSize
  · rw [if_pos small]
    exact ⟨nofun, fun ⟨_, large, _⟩ => absurd small (Nat.not_lt.mpr large)⟩
  · rw [if_neg small]
    cases running : tracked.object.firstChunk with
    | false =>
      rw [if_neg fun failed => failed.2 ⟨rfl, initialized running⟩]
      dsimp only
      split
      · exact ⟨nofun, nofun⟩
      · exact ⟨nofun, nofun⟩
    | true =>
      cases assertions with
      | true =>
        rw [if_pos ⟨rfl, nofun⟩]
        exact ⟨fun _ => ⟨rfl, Nat.le_of_not_lt small, rfl⟩, fun _ => rfl⟩
      | false =>
        rw [if_neg nofun]
        dsimp only
        split
        · exact ⟨nofun, nofun⟩
        · exact ⟨nofun, nofun⟩

theorem engaged_reachable (honest : zlib.Honest) {environment : Environment}
    {tracked : Tracked Inflater Deflater}
    (run : Relation.ReflTransGen (Called zlib environment KeepsHeaderMode)
      ⟨ZLib.new zlib.toZlib, none⟩ tracked) : tracked.Engaged := by
  refine Library.reachable_invariant (engaged_start zlib) ?_ run
  rintro before _ engaged ⟨call, answer, next, steady, keeps, performed, rfl⟩
  exact engaged_step honest engaged steady keeps performed

/-- In a run that does not change the header mode inside a sequence of chunks, the stream of the
sequence in progress is always initialized, `CompressChunkDone` aborts only without a chunk, and
the next call keeps it so exactly if it does not change the header mode either. -/
theorem inProgress_iff_keepsHeaderMode (honest : zlib.Honest) {environment : Environment}
    {tracked : Tracked Inflater Deflater}
    (run : Relation.ReflTransGen (Called zlib environment KeepsHeaderMode)
      ⟨ZLib.new zlib.toZlib, none⟩ tracked) :
    tracked.InProgress ∧
      (∀ destLen, tracked.Steady (.compressChunkDone destLen) →
        (tracked.object.perform zlib environment (.compressChunkDone destLen) = none ↔
          environment.assertions = true ∧ tracked.object.minFooterSize ≤ destLen ∧
            tracked.object.firstChunk = true)) ∧
      ∀ call answer next, tracked.Steady call →
        tracked.object.perform zlib environment call = some (answer, next) →
          ((tracked.behind call next).InProgress ↔ tracked.object.KeepsHeaderMode call) := by
  have engaged := engaged_reachable honest run
  refine ⟨engaged.inProgress, fun destLen steady => ?_, fun call answer next steady performed => ?_⟩
  · rw [← compressChunkDone_aborts zlib engaged steady environment.assertions]
    exact Option.map_eq_none_iff
  · refine ⟨fun inProgress => ?_, fun keeps =>
      (engaged_step honest engaged steady keeps performed).inProgress⟩
    exact Classical.byContradiction fun changes =>
      not_inProgress_step engaged changes performed inProgress

/-! ### Runs with stored blocks -/

theorem honest_storedZlib : storedZlib.Honest where
  inflateInit2 := nofun
  deflateInit2 := nofun

/-- A build with assertions in which every allocation succeeds. -/
def debugEnvironment : Environment where
  flexibleWithGzipFooter := false
  assertions := true
  malloc := fun _ => true

/-- An object inside a sequence of chunks. -/
def oneChunk : ZLib StoredState StoredDeflater :=
  ((ZLib.new storedZlib.toZlib).compressChunk storedZlib 100 [1]).object

theorem called_oneChunk
    {allowed : ZLib StoredState StoredDeflater → PublicCall → Prop}
    (allows : allowed (ZLib.new storedZlib.toZlib) (.compressChunk 100 [1])) :
    Called storedZlib debugEnvironment allowed ⟨ZLib.new storedZlib.toZlib, none⟩
      ⟨oneChunk, some .compression⟩ :=
  ⟨.compressChunk 100 [1], _, _, nofun, allows, rfl, rfl⟩

theorem inProgress_oneChunk :
    oneChunk.firstChunk = false ∧ (Tracked.mk oneChunk (some .compression)).InProgress :=
  ⟨by decide +kernel,
    (inProgress_iff_keepsHeaderMode honest_storedZlib (.single (called_oneChunk nofun))).1⟩

/-- Setting the header mode between two chunks: the second one goes to a stream that was ended. -/
theorem not_inProgress_setNoHeaderMode :
    (∃ tracked, Relation.ReflTransGen (Called storedZlib debugEnvironment fun _ _ => True)
        ⟨ZLib.new storedZlib.toZlib, none⟩ tracked ∧ ¬ tracked.InProgress) ∧
      ((ZLib.new storedZlib.toZlib).performAll storedZlib debugEnvironment
        [.setCompressionLevel 0, .compressChunk 100 [1], .setNoHeaderMode true,
          .compressChunk 100 [2]]).map Prod.fst =
        some [.nothing, .coded .ok [0x78, 1, 0, 1, 0, 0xfe, 0xff, 1, 0, 0, 0, 0xff, 0xff] 13 none,
          .nothing, .coded .streamError [] 100 none] := by
  refine ⟨?_, by decide +kernel⟩
  have engaged : (Tracked.mk oneChunk (some .compression)).Engaged :=
    engaged_reachable honest_storedZlib (.single (called_oneChunk nofun))
  have set : (oneChunk.setNoHeaderMode true).isSome := by decide +kernel
  obtain ⟨next, set⟩ := Option.isSome_iff_exists.mp set
  have performed : oneChunk.perform storedZlib debugEnvironment (.setNoHeaderMode true) =
      some (.nothing, next) := congrArg (Option.map _) set
  have differs : oneChunk.initSettings.noHeaderMode ≠ true := by decide +kernel
  have changes : ¬ oneChunk.KeepsHeaderMode (.setNoHeaderMode true) := fun keeps =>
    keeps (by decide +kernel) differs
  exact ⟨_, .tail (.single (called_oneChunk trivial))
    ⟨.setNoHeaderMode true, .nothing, next, fun _ _ => nofun, trivial, performed, rfl⟩,
    not_inProgress_step engaged changes performed⟩

end Fleetbench.Compression.ZLib
