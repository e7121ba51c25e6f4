/-
This file states and proves what the record-and-replay half of `EmpiricalData`
is for: any number of rounds of the deferred replay makes exactly the calls of
the eager simulation and ends with its vectors. The class numbers of the trace
are stored in 16 bits and the position in the trace is computed in 32; beyond
either bound the replay goes wrong, and the last section shows how.
-/

import Fleetbench.Tcmalloc.Replay

namespace Fleetbench.Tcmalloc

open Library

variable {Weight : Type} {sizes : List Nat} {live : List (List Ptr)}
  {trace : List RecordEvent} {final : Symbolic} {data : EmpiricalData Weight}

/-! ### Many rounds -/

/-- A trace may be replayed from any live objects that leave every class as long as before. -/
theorem TraceOk.of_lengths (ok : TraceOk sizes live trace final) {live' : List (List Ptr)}
    (lengths : live'.map List.length = live.map List.length) :
    TraceOk sizes live' trace final := by
  have sameLength : live'.length = live.length := by
    have counted := congrArg List.length lengths
    rwa [List.length_map, List.length_map] at counted
  refine ⟨?_, ?_, ok.short, ?_⟩
  · rw [lengths]
    exact ok.run
  · rw [lengths]
    exact ok.repaired
  · rw [sameLength]
    exact ok.sameLength

/-- Being ready is the invariant of the rounds. -/
theorem replayRounds_eager (ok : TraceOk sizes live trace final)
    (ready : Ready sizes live trace final data) (alloc : Allocator) (calls : List Call)
    (rounds : Nat) :
    ∃ after live' calls', replayRounds alloc rounds data calls = some (after, calls') ∧
      eagerRounds alloc sizes trace rounds ⟨live, calls⟩ = some ⟨live', calls'⟩ ∧
      live'.map List.length = live.map List.length ∧
      Ready sizes live' trace final after := by
  induction rounds with
  | zero => exact ⟨data, live, calls, rfl, rfl, rfl, ready⟩
  | succ rounds inductionHypothesis =>
    obtain ⟨middle, middleLive, middleCalls, replayed, eager, lengths, ready'⟩ :=
      inductionHypothesis
    obtain ⟨traced, next, live', calls', replay, prepare, run, lengths', ready''⟩ :=
      replayRound_eager (ok.of_lengths lengths) ready' alloc middleCalls
    refine ⟨next, live', calls', ?_, ?_, lengths'.trans lengths, ready''⟩
    · rw [replayRounds, replayed]
      show (replayTrace alloc middle middleCalls).bind _ = _
      rw [replay]
      show (prepareNextReplay traced).bind _ = _
      rw [prepare]
      rfl
    · rw [eagerRounds, eager]
      exact run

/-! ### The refinement -/

variable [Zero Weight] [Add Weight] [Neg Weight]

/-- What the replay promises for one set of classes, one warm-up, one recording and one choice
of the draws of the repair. -/
def ReplaysEagerly (alloc : Allocator) (weights : List (Nat × Weight)) (draws : List Nat)
    (events : List RecordEvent) (draw : Nat → Nat → Nat) : Prop :=
  ∀ data calls recorded, construct alloc weights draws = some (data, calls) →
    recordAll events data = some recorded →
    ∃ repaired restored built repairs,
      recordRepairToSnapshotState draw recorded = some repaired ∧
      repaired.recorded = events ++ repairs ∧
      restoreSnapshot repaired = some restored ∧
      buildUpdateVectors restored = some built ∧
      ∀ rounds, ∃ after afterCalls,
        replayRounds alloc rounds built calls = some (after, afterCalls) ∧
        eagerRounds alloc (weights.map Prod.fst) repaired.recorded rounds
            ⟨data.state.map (·.objs), calls⟩ = some ⟨after.state.map (·.objs), afterCalls⟩ ∧
        after.state.map (·.objs.length) = data.snapshotState.map (·.objs.length) ∧
        (FreshAllocator alloc → CallsSound afterCalls)

/-- The trace that is replayed, repair included, can be counted in 32 bits. -/
def ShortTrace (alloc : Allocator) (weights : List (Nat × Weight)) (draws : List Nat)
    (events : List RecordEvent) (draw : Nat → Nat → Nat) : Prop :=
  ∀ data calls recorded repaired, construct alloc weights draws = some (data, calls) →
    recordAll events data = some recorded →
    recordRepairToSnapshotState draw recorded = some repaired →
    repaired.recorded.length < 2 ^ 32

omit [Zero Weight] [Add Weight] [Neg Weight] in
/-- Behind the repair, within the bounds, the update lists are built and ready for the trace. -/
theorem exists_ready {repaired : EmpiricalData Weight} {symbolic : Symbolic}
    (recording : Recording sizes live repaired symbolic)
    (lengths : symbolic.indices.map List.length = live.map List.length)
    (sameLength : sizes.length = live.length) (fewClasses : live.length ≤ 2 ^ 16)
    (short : repaired.recorded.length < 2 ^ 32) :
    ∃ restored ready, restoreSnapshot repaired = some restored ∧
      buildUpdateVectors restored = some ready ∧
      Ready sizes live repaired.recorded symbolic ready ∧
      TraceOk sizes live repaired.recorded symbolic := by
  have total := symbolicRun_length recording.run
  have started : (symbolicStart (live.map List.length)).births +
      (symbolicStart (live.map List.length)).deaths.length = 0 := rfl
  obtain ⟨restored, restore, isRestored⟩ :=
    restoreSnapshot_restored recording fewClasses (by omega)
  obtain ⟨ready, build, isReady⟩ := buildUpdateVectors_ready isRestored
  exact ⟨restored, ready, restore, build, isReady, recording.run, lengths, short, sameLength⟩

/-- Any number of rounds of the replay is that many rounds of the eager simulation, as long as
the class numbers fit in 16 bits and the positions of the trace in 32. -/
theorem replaysEagerly_of_fits (alloc : Allocator) (weights : List (Nat × Weight))
    (draws : List Nat) (events : List RecordEvent) (draw : Nat → Nat → Nat)
    (admissible : ∀ i length, 0 < length → draw i length < length)
    (fewClasses : weights.length ≤ 2 ^ 16)
    (short : ShortTrace alloc weights draws events draw) :
    ReplaysEagerly alloc weights draws events draw := by
  intro data calls recorded built recordedEq
  obtain ⟨recording, -, warmUp⟩ := construct_recording alloc built
  obtain ⟨repaired, symbolic, repairs, repair, extended, recording', lengths⟩ :=
    exists_repaired admissible built recordedEq
  have short := short data calls recorded repaired built recordedEq repair
  have classCount : (data.state.map (·.objs)).length = weights.length := by
    rw [List.length_map, construct_classes built]
  obtain ⟨restored, ready, restore, build, isReady, ok⟩ := exists_ready recording' lengths
    (by rw [List.length_map, classCount]) (classCount ▸ fewClasses) short
  refine ⟨repaired, restored, ready, repairs, repair, extended, restore, build, fun rounds => ?_⟩
  obtain ⟨after, live', afterCalls, replayed, eager, lengths', isReady'⟩ :=
    replayRounds_eager ok isReady alloc calls rounds
  refine ⟨after, afterCalls, replayed, ?_, ?_, fun fresh => ?_⟩
  · rw [isReady'.objs]
    exact eager
  · have snapshot := congrArg (List.map List.length) recording.snapshot
    have objs := congrArg (List.map List.length) isReady'.objs
    rw [List.map_map] at snapshot objs
    exact objs.trans (lengths'.trans snapshot.symm)
  · have warm := eagerSound_run fresh (eagerSound_empty _) warmUp
    exact (eagerSound_rounds fresh warm eager).sound

/-! ### An allocator that is always fresh -/

/-- The highest pointer returned so far. -/
def highest : List Call → Ptr
  | [] => 0
  | .alloc _ p :: calls => max p (highest calls)
  | .dealloc _ _ :: calls => highest calls

def bumpAllocator : Allocator := fun calls _ => highest calls + 1

theorem le_highest_of_live {calls : List Call} {heap : Ptr → Option Nat} {p : Ptr}
    (alive : calls.foldl heapStep heap p ≠ none) : heap p ≠ none ∨ p ≤ highest calls := by
  induction calls generalizing heap with
  | nil => exact Or.inl alive
  | cons call rest inductionHypothesis =>
    rcases inductionHypothesis alive with earlier | bound
    · cases call with
      | alloc size q =>
        by_cases same : p = q
        · exact Or.inr (same ▸ Nat.le_max_left _ _)
        · rw [heapStep, Function.update_of_ne same] at earlier
          exact Or.inl earlier
      | dealloc q size =>
        by_cases same : p = q
        · rw [heapStep, same, Function.update_self] at earlier
          exact absurd rfl earlier
        · rw [heapStep, Function.update_of_ne same] at earlier
          exact Or.inl earlier
    · cases call with
      | alloc size q => exact Or.inr (Nat.le_trans bound (Nat.le_max_right _ _))
      | dealloc q size => exact Or.inr bound

theorem freshAllocator_bumpAllocator : FreshAllocator bumpAllocator := by
  intro calls size
  by_contra alive
  rcases le_highest_of_live alive with never | bound
  · exact never rfl
  · exact Nat.not_succ_le_self _ bound

/-- Two classes, a recording with a death of an old and of a new object, and repairs in both
directions. -/
theorem replaysEagerly_twoClasses :
    FreshAllocator bumpAllocator ∧
      ((construct bumpAllocator [(8, (1 : Int)), (16, 2)] [0, 1, 0]).bind fun built =>
        recordAll [.death 0 0, .birth 1, .birth 1, .death 1 2, .birth 0] built.1).isSome = true ∧
      ReplaysEagerly bumpAllocator [(8, (1 : Int)), (16, 2)] [0, 1, 0]
        [.death 0 0, .birth 1, .birth 1, .death 1 2, .birth 0] fun _ _ => 0 := by
  refine ⟨freshAllocator_bumpAllocator, by decide +kernel, ?_⟩
  refine replaysEagerly_of_fits _ _ _ _ _ (fun _ _ inhabited => inhabited) (by decide) ?_
  intro data calls recorded repaired built recordedEq repair
  have counted : ((construct bumpAllocator [(8, (1 : Int)), (16, 2)] [0, 1, 0]).bind fun built =>
      (recordAll [.death 0 0, .birth 1, .birth 1, .death 1 2, .birth 0]
        built.1).bind fun recorded =>
          (recordRepairToSnapshotState (fun _ _ => 0) recorded).map (·.recorded.length)) =
      some 6 := by decide +kernel
  rw [built, Option.bind_some, recordedEq, Option.bind_some, repair] at counted
  have exactly : repaired.recorded.length = 6 := Option.some.inj counted
  omega

/-! ### Beyond 32 bits of trace -/

omit [Zero Weight] [Add Weight] [Neg Weight] in
theorem storeAt_birthOrDeath {slot : Slot} {p : Ptr} {stored : EmpiricalData Weight}
    (store : storeAt slot p data = some stored) : stored.birthOrDeath = data.birthOrDeath := by
  cases slot with
  | null => cases store
  | deathObject index =>
    obtain ⟨_, _, stored⟩ := Option.bind_eq_some_iff.mp store
    cases stored
    rfl
  | birthObject index =>
    obtain ⟨_, _, stored⟩ := Option.bind_eq_some_iff.mp store
    cases stored
    rfl

omit [Zero Weight] [Add Weight] [Neg Weight] in
/-- The position in the trace wraps before it reaches the end of a trace of `2 ^ 32` events, so
the replay of such a trace never ends. -/
theorem replayLoop_long (alloc : Allocator) (fuel : Nat) (calls : List Call)
    (long : 2 ^ 32 ≤ data.birthOrDeath.length) : replayLoop alloc fuel data calls = none := by
  have inside : (data.birthObjectIndex + data.deathObjectIndex) % 2 ^ 32 <
      data.birthOrDeath.length :=
    Nat.lt_of_lt_of_le (Nat.mod_lt _ (by decide)) long
  induction fuel generalizing data calls with
  | zero =>
    rw [replayLoop]
    exact if_pos inside
  | succ fuel inductionHypothesis =>
    rw [replayLoop]
    simp only [if_pos inside]
    refine Option.bind_eq_none_iff.mpr fun birth _ => Option.bind_eq_none_iff.mpr fun size _ => ?_
    split
    · refine Option.bind_eq_none_iff.mpr fun ⟨stored, calls'⟩ replayed => ?_
      obtain ⟨_, _, replayed⟩ := Option.bind_eq_some_iff.mp replayed
      obtain ⟨_, store, replayed⟩ := Option.bind_eq_some_iff.mp replayed
      cases replayed
      have same := storeAt_birthOrDeath store
      refine inductionHypothesis _ (by rw [same]; exact long) ?_
      exact Nat.lt_of_lt_of_le (Nat.mod_lt _ (by decide)) (by rw [same]; exact long)
    · refine Option.bind_eq_none_iff.mpr fun calls' _ => ?_
      exact inductionHypothesis _ long (Nat.lt_of_lt_of_le (Nat.mod_lt _ (by decide)) long)

omit [Zero Weight] [Add Weight] [Neg Weight] in
theorem replayTrace_long (alloc : Allocator) (calls : List Call)
    (long : 2 ^ 32 ≤ data.birthOrDeath.length) : replayTrace alloc data calls = none := by
  have never : replayLoop alloc data.birthOrDeath.length
      { data with birthObjectIndex := 0, deathObjectIndex := 0 } calls = none :=
    replayLoop_long alloc _ calls long
  rw [replayTrace, never]
  rfl

/-! ### Beyond 16 bits of class numbers -/

omit [Zero Weight] [Add Weight] [Neg Weight] in
theorem replayLoop_calls {alloc : Allocator} {fuel : Nat} {after : EmpiricalData Weight}
    {calls afterCalls : List Call}
    (run : replayLoop alloc fuel data calls = some (after, afterCalls)) :
    calls <+: afterCalls := by
  induction fuel generalizing data calls with
  | zero =>
    rw [replayLoop] at run
    split at run
    · cases run
    · cases run
      exact List.prefix_refl _
  | succ fuel inductionHypothesis =>
    rw [replayLoop] at run
    split at run
    · obtain ⟨birth, _, run⟩ := Option.bind_eq_some_iff.mp run
      obtain ⟨size, _, run⟩ := Option.bind_eq_some_iff.mp run
      split at run
      · obtain ⟨⟨stored, calls'⟩, replayed, run⟩ := Option.bind_eq_some_iff.mp run
        obtain ⟨_, _, replayed⟩ := Option.bind_eq_some_iff.mp replayed
        obtain ⟨_, _, replayed⟩ := Option.bind_eq_some_iff.mp replayed
        cases replayed
        exact (List.prefix_append _ _).trans (inductionHypothesis run)
      · obtain ⟨calls', replayed, run⟩ := Option.bind_eq_some_iff.mp run
        obtain ⟨_, _, replayed⟩ := Option.bind_eq_some_iff.mp replayed
        cases replayed
        exact (List.prefix_append _ _).trans (inductionHypothesis run)
    · cases run
      exact List.prefix_refl _

theorem eagerRun_calls {alloc : Allocator} {eager next : Eager}
    (run : eagerRun alloc sizes trace eager = some next) : eager.calls <+: next.calls := by
  induction trace generalizing eager with
  | nil =>
    cases run
    exact List.prefix_refl _
  | cons event rest inductionHypothesis =>
    obtain ⟨middle, step, run⟩ := Option.bind_eq_some_iff.mp run
    refine List.IsPrefix.trans ?_ (inductionHypothesis run)
    obtain ⟨i, size, objs, _, _, _, rfl⟩ | ⟨i, toFree, size, objs, p, _, _, _, _, rfl⟩ :=
      eagerStep_cases step
    · exact List.prefix_append _ _
    · exact List.prefix_append _ _

omit [Zero Weight] [Add Weight] [Neg Weight] in
/-- The first loop of `BuildUpdateVectors` leaves the recorded trace and the death slots before
the running index alone. -/
theorem buildDeathUpdates_frame {entries : List (Bool × Nat)} {deathIndex : Nat}
    {after : EmpiricalData Weight}
    (run : buildDeathUpdates entries deathIndex data = some after) :
    after.birthOrDeath = data.birthOrDeath ∧
      after.birthOrDeathActualSizes = data.birthOrDeathActualSizes ∧
      ∀ j < deathIndex, after.deathObjects[j]? = data.deathObjects[j]? := by
  induction entries generalizing deathIndex data with
  | nil =>
    cases run
    exact ⟨rfl, rfl, fun _ _ => rfl⟩
  | cons entry rest inductionHypothesis =>
    obtain ⟨isBirth, i⟩ := entry
    cases isBirth with
    | true => exact inductionHypothesis run
    | false =>
      obtain ⟨index, _, run⟩ := Option.bind_eq_some_iff.mp run
      split at run
      · obtain ⟨s, _, run⟩ := Option.bind_eq_some_iff.mp run
        obtain ⟨p, _, run⟩ := Option.bind_eq_some_iff.mp run
        obtain ⟨deathObjects, written, run⟩ := Option.bind_eq_some_iff.mp run
        obtain ⟨flags, actual, kept⟩ := inductionHypothesis run
        refine ⟨flags, actual, fun j before => ?_⟩
        rw [kept j (Nat.lt_succ_of_lt before)]
        show deathObjects[j]? = _
        rw [writeAt] at written
        split at written
        · cases written
          exact List.getElem?_set_ne (Nat.ne_of_gt before)
        · cases written
      · obtain ⟨birthPointers, _, run⟩ := Option.bind_eq_some_iff.mp run
        obtain ⟨flags, actual, kept⟩ := inductionHypothesis run
        exact ⟨flags, actual, fun j before => kept j (Nat.lt_succ_of_lt before)⟩

omit [Zero Weight] [Add Weight] [Neg Weight] in
/-- Neither the restoring of the snapshot nor the building of the update lists touches the
recorded trace. -/
theorem buildUpdateVectors_trace {restored built : EmpiricalData Weight}
    (restore : restoreSnapshot data = some restored)
    (build : buildUpdateVectors restored = some built) :
    built.birthOrDeath = data.birthOrDeath ∧
      built.birthOrDeathActualSizes = data.birthOrDeathActualSizes := by
  obtain ⟨state, _, restore⟩ := Option.bind_eq_some_iff.mp restore
  cases restore
  obtain ⟨middle, deathsRun, build⟩ := Option.bind_eq_some_iff.mp build
  obtain ⟨⟨finalState, pointers⟩, _, build⟩ := Option.bind_eq_some_iff.mp build
  cases build
  obtain ⟨flags, actual, -⟩ := buildDeathUpdates_frame deathsRun
  exact ⟨flags, actual⟩

/-- A death that opens a trace names an object of the snapshot. -/
theorem symbolicRun_firstDeath {lengths : List Nat} {i toFree : Nat} {rest : List RecordEvent}
    (run : symbolicRun (.death i toFree :: rest) (symbolicStart lengths) = some final) :
    ∃ later, final.deaths = (i, ⟨false, toFree⟩) :: later := by
  obtain ⟨middle, step, run⟩ := Option.bind_eq_some_iff.mp run
  simp only [symbolicStep, symbolicStart, List.getElem?_map, Option.bind_eq_bind,
    Option.bind_eq_some_iff, Option.map_eq_some_iff, Option.pure_def, Option.some.injEq] at step
  obtain ⟨names, ⟨length, _, rfl⟩, index, picked, rfl⟩ := step
  rw [List.getElem?_map] at picked
  obtain ⟨position, inRange, rfl⟩ := Option.map_eq_some_iff.mp picked
  obtain ⟨bound, rfl⟩ := List.getElem?_eq_some_iff.mp inRange
  obtain ⟨later, extended⟩ := symbolicRun_deaths run
  refine ⟨later, ?_⟩
  rw [← extended, List.getElem_range]
  rfl

omit [Zero Weight] [Add Weight] [Neg Weight] in
/-- The death slot of a death that opens the trace is loaded from the class its stored number
names. -/
theorem buildUpdateVectors_firstDeath {symbolic : Symbolic} {restored built : EmpiricalData Weight}
    {i toFree : Nat} {rest : List RecordEvent}
    (recording : Recording sizes live data symbolic)
    (starts : data.recorded = .death i toFree :: rest)
    (restore : restoreSnapshot data = some restored)
    (build : buildUpdateVectors restored = some built) :
    ∃ objs p, live[i % 2 ^ 16]? = some objs ∧ objs[toFree]? = some p ∧
      built.deathObjects[0]? = some p := by
  have run := recording.run
  rw [starts] at run
  obtain ⟨later, deathsEq⟩ := symbolicRun_firstDeath run
  obtain ⟨state, restoreRun, stateObjs, -, -⟩ := recording.restore
  cases restore.symm.trans restoreRun
  obtain ⟨middle, deathsRun, build⟩ := Option.bind_eq_some_iff.mp build
  obtain ⟨⟨finalState, pointers⟩, _, build⟩ := Option.bind_eq_some_iff.mp build
  cases build
  have entries : data.birthOrDeath.zip data.birthOrDeathSizes = (false, i % 2 ^ 16) ::
      rest.map fun event => (event.isBirth, event.class % 2 ^ 16) := by
    rw [recording.birthOrDeath, recording.classes, List.zip_map', starts]
    rfl
  simp only [entries] at deathsRun
  rw [buildDeathUpdates] at deathsRun
  obtain ⟨index, indexEq, deathsRun⟩ := Option.bind_eq_some_iff.mp deathsRun
  simp only [recording.deaths, deathsEq, List.map_cons, List.getElem?_cons_zero,
    Option.some.injEq] at indexEq
  subst indexEq
  rw [if_pos rfl] at deathsRun
  obtain ⟨s, found, deathsRun⟩ := Option.bind_eq_some_iff.mp deathsRun
  obtain ⟨p, picked, deathsRun⟩ := Option.bind_eq_some_iff.mp deathsRun
  obtain ⟨deathObjects, written, deathsRun⟩ := Option.bind_eq_some_iff.mp deathsRun
  refine ⟨s.objs, p, ?_, picked, ?_⟩
  · rw [← stateObjs, List.getElem?_map]
    exact congrArg (Option.map fun s => s.objs) found
  · obtain ⟨-, -, kept⟩ := buildDeathUpdates_frame deathsRun
    show middle.deathObjects[0]? = some p
    rw [kept 0 Nat.one_pos]
    show deathObjects[0]? = some p
    rw [writeAt] at written
    split at written
    · rename_i bound
      cases written
      exact List.getElem?_set_self bound
    · cases written

omit [Zero Weight] [Add Weight] [Neg Weight] in
/-- The first call of a replay whose trace opens with a death. -/
theorem replayTrace_firstDeath {alloc : Allocator} {after : EmpiricalData Weight}
    {calls afterCalls : List Call} {p size : Nat} (opens : data.birthOrDeath[0]? = some false)
    (sized : data.birthOrDeathActualSizes[0]? = some size)
    (loaded : data.deathObjects[0]? = some p)
    (replayed : replayTrace alloc data calls = some (after, afterCalls)) :
    calls ++ [.dealloc p size] <+: afterCalls := by
  obtain ⟨⟨looped, loopedCalls⟩, run, replayed⟩ := Option.bind_eq_some_iff.mp replayed
  cases replayed
  have inside : 0 < data.birthOrDeath.length := (List.getElem?_eq_some_iff.mp opens).1
  obtain ⟨fuel, fuelEq⟩ : ∃ fuel, data.birthOrDeath.length = fuel + 1 :=
    ⟨_, (Nat.succ_pred_eq_of_pos inside).symm⟩
  rw [fuelEq, replayLoop] at run
  simp only [Nat.add_zero, Nat.zero_mod, if_pos inside, opens, sized, Option.bind_eq_bind,
    Option.bind_some, replayDeath, loaded, Option.pure_def, Bool.false_eq_true, if_false] at run
  exact replayLoop_calls run

/-- If the replay makes the eager calls, a death that opens the trace frees the object of the
class it was recorded for. -/
theorem firstDeath_of_replaysEagerly {alloc : Allocator} {weights : List (Nat × Weight)}
    {draws : List Nat} {events : List RecordEvent} {draw : Nat → Nat → Nat} {i toFree : Nat}
    {calls : List Call} {recorded : EmpiricalData Weight}
    (admissible : ∀ i length, 0 < length → draw i length < length)
    (replays : ReplaysEagerly alloc weights draws (.death i toFree :: events) draw)
    (built : construct alloc weights draws = some (data, calls))
    (recordedEq : recordAll (.death i toFree :: events) data = some recorded) :
    ∃ objs others p, (data.state.map (·.objs))[i]? = some objs ∧ objs[toFree]? = some p ∧
      (data.state.map (·.objs))[i % 2 ^ 16]? = some others ∧ others[toFree]? = some p := by
  obtain ⟨repaired, restored, ready, repairs, repair, extended, restore, build, rounds⟩ :=
    replays data calls recorded built recordedEq
  obtain ⟨symbolic, _, -, recording⟩ := repaired_recording admissible built recordedEq repair
  obtain ⟨others, p, othersEq, pickedEq, loaded⟩ :=
    buildUpdateVectors_firstDeath recording extended restore build
  obtain ⟨flags, actual⟩ := buildUpdateVectors_trace restore build
  obtain ⟨after, afterCalls, replayed, eager, _⟩ := rounds 1
  obtain ⟨⟨traced, tracedCalls⟩, replay, replayed⟩ := Option.bind_eq_some_iff.mp replayed
  obtain ⟨_, _, replayed⟩ := Option.bind_eq_some_iff.mp replayed
  cases replayed
  have first : calls ++ [.dealloc p ((weights.map Prod.fst).getD i 0)] <+: afterCalls :=
    replayTrace_firstDeath (by rw [flags, recording.birthOrDeath, extended]; rfl)
      (by rw [actual, recording.actualSizes, extended]; rfl) loaded replay
  rw [eagerRounds, eagerRounds, Option.bind_some, extended, List.cons_append] at eager
  obtain ⟨middle, step, run⟩ := Option.bind_eq_some_iff.mp eager
  obtain ⟨_, _, _, impossible, _⟩ | ⟨j, free, size, objs, q, same, sizeEq, found, picked, rfl⟩ :=
    eagerStep_cases step
  · cases impossible
  · cases same
    have second := eagerRun_calls run
    have bothCalls := List.prefix_of_prefix_length_le first second (by simp)
    have callsEq := List.IsPrefix.eq_of_length bothCalls (by simp)
    have lastEq := List.append_cancel_left callsEq
    cases lastEq
    exact ⟨objs, others, p, found, picked, othersEq, pickedEq⟩

omit [Neg Weight] in
theorem doBirths_total (alloc : Allocator) (draws : List Nat) (calls : List Call)
    (inRange : ∀ i ∈ draws, i < data.state.length) :
    ∃ next nextCalls, doBirths alloc draws data calls = some (next, nextCalls) := by
  induction draws generalizing data calls with
  | nil => exact ⟨data, calls, rfl⟩
  | cons i rest inductionHypothesis =>
    have found := List.getElem?_eq_getElem (inRange i List.mem_cons_self)
    rw [doBirths, doBirth, found]
    exact inductionHypothesis _ fun j member => by
      rw [List.length_set]
      exact inRange j (List.mem_cons_of_mem _ member)

omit [Neg Weight] in
/-- The constructor succeeds on any warm-up that draws existing classes. -/
theorem construct_total (alloc : Allocator) (weights : List (Nat × Weight)) (draws : List Nat)
    (inhabited : 1 ≤ weights.length) (inRange : ∀ i ∈ draws, i < weights.length) :
    ∃ data calls, construct alloc weights draws = some (data, calls) := by
  obtain ⟨deathSampler, sampler⟩ : ∃ deathSampler : AdjustableSampler Weight,
      AdjustableSampler.ofSize weights.length = some deathSampler := ⟨_, if_pos inhabited⟩
  let empty : EmpiricalData Weight :=
    { state := weights.map fun w => { size := w.1, deathRate := w.2, objs := [] }
      deathSampler }
  have inState : ∀ i ∈ draws, i < empty.state.length := by simpa [empty] using inRange
  obtain ⟨warm, warmCalls, run⟩ := doBirths_total alloc draws [] inState
  rw [construct, sampler]
  show ∃ data calls, (doBirths alloc draws empty []).bind _ = some (data, calls)
  rw [run]
  exact ⟨_, _, rfl⟩

omit [Neg Weight] in
theorem recordAll_births {data : EmpiricalData Weight} [Neg Weight] (i births : Nat)
    (inRange : i < data.counts.length) :
    ∃ next, recordAll (List.replicate births (.birth i)) data = some next := by
  induction births generalizing data with
  | zero => exact ⟨data, rfl⟩
  | succ births inductionHypothesis =>
    obtain ⟨next, birth, counts⟩ := recordBirth_counts (List.getElem?_eq_getElem inRange)
    have inRange' : i < next.counts.length := by
      rw [counts, List.length_set]
      exact inRange
    obtain ⟨last, run⟩ := inductionHypothesis inRange'
    refine ⟨last, ?_⟩
    rw [List.replicate_succ, recordAll]
    show (recordBirth i data).bind _ = _
    rw [birth]
    exact run

theorem eagerRun_twoBirths {classes m : Nat} (positive : 0 < m) (inRange : m < classes) :
    eagerRun bumpAllocator (List.replicate classes 8) [.birth 0, .birth m]
        ⟨List.replicate classes [], []⟩ =
      some ⟨((List.replicate classes []).set 0 [1]).set m [2], [.alloc 8 1, .alloc 8 2]⟩ := by
  have first : 0 < classes := Nat.lt_trans positive inRange
  have others : ((List.replicate classes ([] : List Ptr)).set 0 [1])[m]? = some [] := by
    rw [List.getElem?_set_ne (Nat.ne_of_lt positive), List.getElem?_replicate, if_pos inRange]
  have firstBirth : eagerStep bumpAllocator (List.replicate classes 8)
      ⟨List.replicate classes [], []⟩ (.birth 0) =
      some ⟨(List.replicate classes []).set 0 [1], [.alloc 8 1]⟩ := by
    simp only [eagerStep, List.getElem?_replicate, if_pos first]
    rfl
  have secondBirth : eagerStep bumpAllocator (List.replicate classes 8)
      ⟨(List.replicate classes []).set 0 [1], [.alloc 8 1]⟩ (.birth m) =
      some ⟨((List.replicate classes []).set 0 [1]).set m [2], [.alloc 8 1, .alloc 8 2]⟩ := by
    simp only [eagerStep, List.getElem?_replicate, if_pos inRange, others]
    rfl
  rw [eagerRun, firstBirth, Option.bind_some, eagerRun, secondBirth]
  rfl

/-- The only object of a class may die and be born again. -/
theorem recordAll_deathThenBirth {symbolic : Symbolic}
    (recording : Recording sizes live data symbolic) {m : Nat} {p : Ptr}
    (alone : (data.state.map (·.objs))[m]? = some [p]) :
    ∃ recorded, recordAll [.death m 0, .birth m] data = some recorded := by
  have counted : data.counts[m]? = some 1 := by
    rw [List.getElem?_map] at alone
    obtain ⟨s, found, objs⟩ := Option.map_eq_some_iff.mp alone
    rw [EmpiricalData.counts, List.getElem?_map, found, Option.map_some, objs]
    rfl
  obtain ⟨dead, death, counts⟩ := recordDeath_counts recording counted Nat.one_pos
  have emptied : dead.counts[m]? = some 0 := by
    rw [counts, List.getElem?_set_self (List.getElem?_eq_some_iff.mp counted).1]
  obtain ⟨recorded, birth, _⟩ := recordBirth_counts emptied
  refine ⟨recorded, ?_⟩
  show (recordDeath m 0 data).bind _ = _
  rw [death]
  show (recordBirth m dead).bind _ = _
  rw [birth]
  rfl

/-- With one object in class `0` and one in a class whose number is stored as `0`, a death
recorded for the latter frees the object of the former. -/
theorem not_replaysEagerly_of_storedAlike {classes m : Nat} (positive : 0 < m)
    (inRange : m < classes) (alike : m % 2 ^ 16 = 0) :
    ¬ ReplaysEagerly bumpAllocator (List.replicate classes (8, (0 : Int))) [0, m]
        [.death m 0, .birth m] (fun _ _ => 0) := by
  intro replays
  have first : 0 < classes := Nat.lt_trans positive inRange
  obtain ⟨data, calls, built⟩ := construct_total bumpAllocator
    (List.replicate classes (8, (0 : Int))) [0, m]
    (by rw [List.length_replicate]; exact first)
    (by simp [first, inRange])
  obtain ⟨recording, _, warmUp⟩ := construct_recording bumpAllocator built
  rw [List.map_replicate, List.map_replicate] at warmUp
  have live := (eagerRun_twoBirths positive inRange).symm.trans warmUp
  rw [Option.some.injEq, Eager.mk.injEq] at live
  have firstObjs : (data.state.map (·.objs))[0]? = some [1] := by
    rw [← live.1, List.getElem?_set_ne (Nat.ne_of_gt positive),
      List.getElem?_set_self (by simpa using first)]
  have secondObjs : (data.state.map (·.objs))[m]? = some [2] := by
    rw [← live.1, List.getElem?_set_self (by simpa using inRange)]
  obtain ⟨recorded, recordedEq⟩ := recordAll_deathThenBirth recording secondObjs
  obtain ⟨objs, others, p, objsEq, picked, othersEq, otherPicked⟩ :=
    firstDeath_of_replaysEagerly (fun _ _ inhabited => inhabited) replays built recordedEq
  rw [alike] at othersEq
  cases firstObjs.symm.trans othersEq
  cases secondObjs.symm.trans objsEq
  cases picked
  cases otherPicked

theorem not_replaysEagerly_of_long {births : Nat} (long : 2 ^ 32 ≤ births) :
    ¬ ReplaysEagerly bumpAllocator [(8, (0 : Int))] [] (List.replicate births (.birth 0))
        (fun _ _ => 0) := by
  intro replays
  obtain ⟨data, calls, built⟩ := construct_total bumpAllocator [(8, (0 : Int))] []
    (by decide) (by simp)
  have oneClass : data.counts.length = 1 := by
    rw [EmpiricalData.counts, List.length_map, construct_classes built]
    rfl
  obtain ⟨recorded, recordedEq⟩ := recordAll_births 0 births (oneClass ▸ Nat.one_pos)
  obtain ⟨repaired, restored, ready, repairs, repair, extended, restore, build, rounds⟩ :=
    replays data calls recorded built recordedEq
  obtain ⟨symbolic, _, -, recording⟩ :=
    repaired_recording (fun _ _ inhabited => inhabited) built recordedEq repair
  have tooLong : 2 ^ 32 ≤ ready.birthOrDeath.length := by
    rw [(buildUpdateVectors_trace restore build).1, recording.birthOrDeath, List.length_map,
      extended, List.length_append, List.length_replicate]
    exact Nat.le_add_right_of_le long
  obtain ⟨_, _, replayed, _⟩ := rounds 1
  obtain ⟨⟨traced, tracedCalls⟩, replay, _⟩ := Option.bind_eq_some_iff.mp replayed
  rw [replayTrace_long _ _ tooLong] at replay
  cases replay

/-- `65537` classes are one too many, and so are `2 ^ 32` events. -/
theorem not_replaysEagerly_beyond_fits :
    ¬ ReplaysEagerly bumpAllocator (List.replicate 65537 (8, (0 : Int))) [0, 65536]
        [.death 65536 0, .birth 65536] (fun _ _ => 0) ∧
      ¬ ReplaysEagerly bumpAllocator [(8, (0 : Int))] [] (List.replicate (2 ^ 32) (.birth 0))
        (fun _ _ => 0) :=
  ⟨not_replaysEagerly_of_storedAlike (by decide) (by decide) (by decide),
    not_replaysEagerly_of_long (Nat.le_refl _)⟩

end Fleetbench.Tcmalloc
