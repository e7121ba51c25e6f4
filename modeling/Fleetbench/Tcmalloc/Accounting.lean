/-
This file is about the counters of `EmpiricalData`. They advance in three
places: with every object of the warm-up, in the shadow counters of the
recording, and in bulk behind a replay. They always tell the calls of `alloc_`
made so far, and every round adds the births of the trace, of which a repaired
trace has as many in each class as deaths.
-/

import Fleetbench.Tcmalloc.Refinement

namespace Fleetbench.Tcmalloc

open Library

variable {Weight : Type}

/-! ### What is counted -/

/-- The sizes that `alloc_` was called with. -/
def allocated (calls : List Call) : List Nat :=
  calls.filterMap fun call =>
    match call with
    | .alloc size _ => some size
    | .dealloc _ _ => none

theorem allocated_append (first second : List Call) :
    allocated (first ++ second) = allocated first ++ allocated second :=
  List.filterMap_append

namespace EmpiricalData

def traceLength (data : EmpiricalData Weight) : Nat :=
  data.birthOrDeath.length

/-- The sizes of the births in the trace. -/
def births (data : EmpiricalData Weight) : List Nat :=
  (data.birthOrDeath.zip data.birthOrDeathActualSizes).filterMap fun entry =>
    if entry.1 then some entry.2 else none

/-- The events of the trace with the numbers that are stored for their classes. -/
def storedEvents (data : EmpiricalData Weight) : List (Bool × Nat) :=
  data.birthOrDeath.zip data.birthOrDeathSizes

/-- The counters tell the calls of `alloc_`, up to `wrap`. -/
def Tells (wrap : Nat → Nat) (data : EmpiricalData Weight) (calls : List Call) : Prop :=
  data.totalNumAllocated = wrap (allocated calls).length ∧
    data.totalBytesAllocated = wrap (allocated calls).sum

end EmpiricalData

/-- The counters are of 64 bits. -/
def wrapping (count : Nat) : Nat :=
  count % 2 ^ 64

theorem wrapping_add (first second : Nat) :
    wrapping (wrapping first + second) = wrapping (first + second) :=
  Nat.mod_add_mod _ _ _

theorem wrapping_add_wrapping (first second : Nat) :
    wrapping (wrapping first + wrapping second) = wrapping (first + second) :=
  (Nat.add_mod _ _ _).symm

/-! ### Functions that leave the counters alone -/

/-- The counters and the births of the trace. -/
structure Ledger where
  totalNum : Nat
  totalBytes : Nat
  recordedNum : Nat
  recordedBytes : Nat
  births : List Nat

def EmpiricalData.ledger (data : EmpiricalData Weight) : Ledger where
  totalNum := data.totalNumAllocated
  totalBytes := data.totalBytesAllocated
  recordedNum := data.numAllocatedRecorded
  recordedBytes := data.bytesAllocatedRecorded
  births := data.births

/-- The shadow counters tell the births of the trace. -/
def Ledger.Shadows (ledger : Ledger) : Prop :=
  ledger.recordedNum = wrapping ledger.births.length ∧
    ledger.recordedBytes = wrapping ledger.births.sum

/-- What a replay adds. -/
def Ledger.replayed (ledger : Ledger) : Ledger :=
  { ledger with
    totalNum := wrapping (ledger.totalNum + ledger.recordedNum)
    totalBytes := wrapping (ledger.totalBytes + ledger.recordedBytes) }

section Frames

variable {data after : EmpiricalData Weight} {wrap : Nat → Nat} {calls : List Call}

theorem EmpiricalData.Tells.of_ledger (tells : data.Tells wrap calls)
    (same : after.ledger = data.ledger) : after.Tells wrap calls :=
  ⟨(congrArg Ledger.totalNum same).trans tells.1, (congrArg Ledger.totalBytes same).trans tells.2⟩

theorem restoreSnapshot_ledger (restore : restoreSnapshot data = some after) :
    after.ledger = data.ledger := by
  obtain ⟨state, _, restore⟩ := Option.bind_eq_some_iff.mp restore
  cases restore
  rfl

theorem buildDeathUpdates_ledger {entries : List (Bool × Nat)} {deathIndex : Nat}
    (run : buildDeathUpdates entries deathIndex data = some after) :
    after.ledger = data.ledger := by
  induction entries generalizing deathIndex data with
  | nil =>
    cases run
    rfl
  | cons entry rest inductionHypothesis =>
    obtain ⟨isBirth, i⟩ := entry
    cases isBirth with
    | true => exact inductionHypothesis run
    | false =>
      obtain ⟨index, _, run⟩ := Option.bind_eq_some_iff.mp run
      split at run
      · obtain ⟨s, _, run⟩ := Option.bind_eq_some_iff.mp run
        obtain ⟨p, _, run⟩ := Option.bind_eq_some_iff.mp run
        obtain ⟨deathObjects, _, run⟩ := Option.bind_eq_some_iff.mp run
        have same := inductionHypothesis run
        exact same
      · obtain ⟨birthPointers, _, run⟩ := Option.bind_eq_some_iff.mp run
        have same := inductionHypothesis run
        exact same

theorem buildUpdateVectors_ledger (build : buildUpdateVectors data = some after) :
    after.ledger = data.ledger := by
  obtain ⟨middle, deaths, build⟩ := Option.bind_eq_some_iff.mp build
  obtain ⟨⟨state, pointers⟩, _, build⟩ := Option.bind_eq_some_iff.mp build
  cases build
  have same := buildDeathUpdates_ledger deaths
  exact same

theorem storeAt_ledger {slot : Slot} {p : Ptr} (store : storeAt slot p data = some after) :
    after.ledger = data.ledger := by
  cases slot with
  | null => cases store
  | deathObject index =>
    obtain ⟨_, _, stored⟩ := Option.bind_eq_some_iff.mp store
    cases stored
    rfl
  | birthObject index =>
    obtain ⟨_, _, stored⟩ := Option.bind_eq_some_iff.mp store
    cases stored
    rfl

theorem replayLoop_ledger {alloc : Allocator} {fuel : Nat} {afterCalls : List Call}
    (run : replayLoop alloc fuel data calls = some (after, afterCalls)) :
    after.ledger = data.ledger := by
  induction fuel generalizing data calls with
  | zero =>
    rw [replayLoop] at run
    split at run
    · cases run
    · cases run
      rfl
  | succ fuel inductionHypothesis =>
    rw [replayLoop] at run
    split at run
    · obtain ⟨birth, _, run⟩ := Option.bind_eq_some_iff.mp run
      obtain ⟨size, _, run⟩ := Option.bind_eq_some_iff.mp run
      split at run
      · obtain ⟨⟨stored, calls'⟩, replayed, run⟩ := Option.bind_eq_some_iff.mp run
        obtain ⟨_, _, replayed⟩ := Option.bind_eq_some_iff.mp replayed
        obtain ⟨_, store, replayed⟩ := Option.bind_eq_some_iff.mp replayed
        cases replayed
        have same := inductionHypothesis run
        have before := storeAt_ledger store
        exact same.trans before
      · obtain ⟨calls', _, run⟩ := Option.bind_eq_some_iff.mp run
        have same := inductionHypothesis run
        exact same
    · cases run
      rfl

theorem replayTrace_ledger {alloc : Allocator} {afterCalls : List Call}
    (run : replayTrace alloc data calls = some (after, afterCalls)) :
    after.ledger = data.ledger.replayed := by
  obtain ⟨⟨looped, calls'⟩, loop, run⟩ := Option.bind_eq_some_iff.mp run
  cases run
  have same := replayLoop_ledger loop
  have same' : looped.ledger = data.ledger := same
  rw [← same']
  rfl

theorem prepareNextReplay_ledger (run : prepareNextReplay data = some after) :
    after.ledger = data.ledger := by
  obtain ⟨⟨state, deathObjects⟩, _, run⟩ := Option.bind_eq_some_iff.mp run
  cases run
  rfl

end Frames

/-! ### The constructor and the recording -/

section Recording

variable [Zero Weight] [Add Weight] {data next : EmpiricalData Weight}

omit [Zero Weight] [Add Weight] in
/-- The shadow counters are right, and the totals are still those of the calls. -/
structure Shadowed (calls : List Call) (data : EmpiricalData Weight) : Prop where
  tells : data.Tells wrapping calls
  sameLength : data.birthOrDeath.length = data.birthOrDeathActualSizes.length
  shadows : data.ledger.Shadows

theorem doBirth_shadowed {alloc : Allocator} {i : Nat} {calls nextCalls : List Call}
    (shadowed : Shadowed calls data)
    (born : doBirth alloc i data calls = some (next, nextCalls)) : Shadowed nextCalls next := by
  simp only [doBirth, Option.bind_eq_bind, Option.bind_eq_some_iff, Option.pure_def,
    Option.some.injEq, Prod.mk.injEq] at born
  obtain ⟨s, _, rfl, rfl⟩ := born
  refine ⟨⟨?_, ?_⟩, shadowed.sameLength, shadowed.shadows⟩
  · show wrapping (data.totalNumAllocated + 1) = _
    rw [shadowed.tells.1, wrapping_add, allocated_append, List.length_append]
    rfl
  · show wrapping (data.totalBytesAllocated + s.size) = _
    rw [shadowed.tells.2, wrapping_add, allocated_append, List.sum_append]
    rfl

theorem doBirths_shadowed {alloc : Allocator} {draws : List Nat} {calls nextCalls : List Call}
    (shadowed : Shadowed calls data)
    (born : doBirths alloc draws data calls = some (next, nextCalls)) :
    Shadowed nextCalls next := by
  induction draws generalizing data calls with
  | nil =>
    cases born
    exact shadowed
  | cons i rest inductionHypothesis =>
    obtain ⟨⟨between, calls'⟩, first, others⟩ := Option.bind_eq_some_iff.mp born
    exact inductionHypothesis (doBirth_shadowed shadowed first) others

theorem construct_shadowed {alloc : Allocator} {weights : List (Nat × Weight)} {draws : List Nat}
    {calls : List Call} (built : construct alloc weights draws = some (data, calls)) :
    Shadowed calls data := by
  obtain ⟨sampler, _, built⟩ := Option.bind_eq_some_iff.mp built
  obtain ⟨⟨warm, calls'⟩, born, built⟩ := Option.bind_eq_some_iff.mp built
  cases built
  have empty : Shadowed [] ({
      state := weights.map fun w => { size := w.1, deathRate := w.2, objs := [] }
      deathSampler := sampler } : EmpiricalData Weight) :=
    ⟨⟨rfl, rfl⟩, rfl, rfl, rfl⟩
  obtain ⟨tells, sameLength, shadows⟩ := doBirths_shadowed empty born
  exact ⟨tells, sameLength, shadows⟩

variable [Neg Weight]

/-- What every birth and every death of the recording keeps, the whole recording keeps. -/
theorem recordAll_keeps {kept : EmpiricalData Weight → Prop}
    (step : ∀ data event next, kept data → recordNext data event = some next → kept next)
    {events : List RecordEvent} (holds : kept data)
    (recorded : recordAll events data = some next) : kept next := by
  induction events generalizing data with
  | nil =>
    cases recorded
    exact holds
  | cons event rest inductionHypothesis =>
    obtain ⟨between, first, others⟩ := Option.bind_eq_some_iff.mp recorded
    exact inductionHypothesis (step _ _ _ holds first) others

theorem recordBirthsUpTo_keeps {kept : EmpiricalData Weight → Prop}
    (step : ∀ data event next, kept data → recordNext data event = some next → kept next)
    {i target fuel : Nat} (holds : kept data)
    (recorded : recordBirthsUpTo i target fuel data = some next) : kept next := by
  induction fuel generalizing data with
  | zero =>
    obtain ⟨s, _, recorded⟩ := Option.bind_eq_some_iff.mp recorded
    split at recorded
    · cases recorded
    · cases recorded
      exact holds
  | succ fuel inductionHypothesis =>
    obtain ⟨s, _, recorded⟩ := Option.bind_eq_some_iff.mp recorded
    split at recorded
    · obtain ⟨between, birth, recorded⟩ := Option.bind_eq_some_iff.mp recorded
      exact inductionHypothesis (step _ (.birth i) _ holds birth) recorded
    · cases recorded
      exact holds

theorem recordDeathsDownTo_keeps {kept : EmpiricalData Weight → Prop}
    (step : ∀ data event next, kept data → recordNext data event = some next → kept next)
    {draw : Nat → Nat → Nat} {i target fuel : Nat} (holds : kept data)
    (recorded : recordDeathsDownTo draw i target fuel data = some next) : kept next := by
  induction fuel generalizing data with
  | zero =>
    obtain ⟨s, _, recorded⟩ := Option.bind_eq_some_iff.mp recorded
    split at recorded
    · cases recorded
    · cases recorded
      exact holds
  | succ fuel inductionHypothesis =>
    obtain ⟨s, _, recorded⟩ := Option.bind_eq_some_iff.mp recorded
    split at recorded
    · obtain ⟨between, death, recorded⟩ := Option.bind_eq_some_iff.mp recorded
      exact inductionHypothesis (step _ (.death i _) _ holds death) recorded
    · cases recorded
      exact holds

theorem recordRepair_keeps {kept : EmpiricalData Weight → Prop}
    (step : ∀ data event next, kept data → recordNext data event = some next → kept next)
    {draw : Nat → Nat → Nat} (holds : kept data)
    (repaired : recordRepairToSnapshotState draw data = some next) : kept next := by
  unfold recordRepairToSnapshotState at repaired
  generalize List.range data.state.length = classes at repaired
  induction classes generalizing data with
  | nil =>
    cases repaired
    exact holds
  | cons i rest inductionHypothesis =>
    obtain ⟨between, first, others⟩ := Option.bind_eq_some_iff.mp repaired
    obtain ⟨s, _, first⟩ := Option.bind_eq_some_iff.mp first
    obtain ⟨snapshot, _, first⟩ := Option.bind_eq_some_iff.mp first
    obtain ⟨grown, births, deaths⟩ := Option.bind_eq_some_iff.mp first
    exact inductionHypothesis
      (recordDeathsDownTo_keeps step (recordBirthsUpTo_keeps step holds births) deaths) others

omit [Zero Weight] [Add Weight] [Neg Weight] in
theorem births_concat (sameLength : data.birthOrDeath.length = data.birthOrDeathActualSizes.length)
    (isBirth : Bool) (size : Nat) :
    ((data.birthOrDeath ++ [isBirth]).zip (data.birthOrDeathActualSizes ++ [size])).filterMap
        (fun entry => if entry.1 then some entry.2 else none) =
      data.births ++ if isBirth then [size] else [] := by
  rw [List.zip_append sameLength, List.filterMap_append]
  cases isBirth <;> rfl

theorem recordNext_shadowed {calls : List Call} (data : EmpiricalData Weight)
    (event : RecordEvent) (next : EmpiricalData Weight) (shadowed : Shadowed calls data)
    (recorded : recordNext data event = some next) : Shadowed calls next := by
  have lengths {isBirth : Bool} {size : Nat} : (data.birthOrDeath ++ [isBirth]).length =
      (data.birthOrDeathActualSizes ++ [size]).length := by
    rw [List.length_append, List.length_append, shadowed.sameLength]
    rfl
  obtain ⟨number, bytes⟩ := shadowed.shadows
  cases event with
  | birth i =>
    simp only [recordNext, recordBirth, Option.bind_eq_bind, Option.bind_eq_some_iff,
      Option.pure_def, Option.some.injEq] at recorded
    obtain ⟨s, _, rfl⟩ := recorded
    refine ⟨shadowed.tells, lengths, ?_, ?_⟩
    · show wrapping (data.ledger.recordedNum + 1) = wrapping (List.length (List.filterMap _ _))
      rw [births_concat shadowed.sameLength, number, wrapping_add, List.length_append]
      rfl
    · show wrapping (data.ledger.recordedBytes + s.size) = wrapping (List.sum (List.filterMap _ _))
      rw [births_concat shadowed.sameLength, bytes, wrapping_add, List.sum_append]
      rfl
  | death i toFree =>
    simp only [recordNext, recordDeath, Option.bind_eq_bind, Option.bind_eq_some_iff,
      Option.pure_def, Option.some.injEq] at recorded
    obtain ⟨s, _, _, _, _, _, _, _, rfl⟩ := recorded
    refine ⟨shadowed.tells, lengths, ?_, ?_⟩
    · show data.ledger.recordedNum = wrapping (List.length (List.filterMap _ _))
      rw [births_concat shadowed.sameLength, number]
      exact congrArg (fun births => wrapping (List.length births)) (List.append_nil _).symm
    · show data.ledger.recordedBytes = wrapping (List.sum (List.filterMap _ _))
      rw [births_concat shadowed.sameLength, bytes]
      exact congrArg (fun births => wrapping (List.sum births)) (List.append_nil _).symm

end Recording

/-! ### The balance of births and deaths -/

theorem getD_set_of_getElem? {values : List Nat} {i : Nat} {old : Nat}
    (found : values[i]? = some old) (new j : Nat) :
    (values.set i new).getD j 0 = if j = i then new else values.getD j 0 := by
  rw [List.getD_eq_getElem?_getD, List.getElem?_set]
  by_cases same : j = i
  · rw [if_pos same.symm, if_pos same, if_pos (List.getElem?_eq_some_iff.mp found).1]
    rfl
  · rw [if_neg (Ne.symm same), if_neg same, List.getD_eq_getElem?_getD]

/-- A class grows by its births and shrinks by its deaths. -/
theorem symbolicRun_balance {trace : List RecordEvent} {symbolic next : Symbolic}
    (run : symbolicRun trace symbolic = some next) (i : Nat) :
    (next.indices.map List.length).getD i 0 +
        (trace.map fun event => (event.isBirth, event.class)).count (false, i) =
      (symbolic.indices.map List.length).getD i 0 +
        (trace.map fun event => (event.isBirth, event.class)).count (true, i) := by
  induction trace generalizing symbolic with
  | nil =>
    cases run
    rfl
  | cons event rest inductionHypothesis =>
    obtain ⟨middle, step, run⟩ := Option.bind_eq_some_iff.mp run
    have later := inductionHypothesis run
    rw [List.map_cons]
    obtain ⟨j, objs, rfl, found, rfl⟩ | ⟨j, toFree, objs, index, rfl, found, picked, rfl⟩ :=
      symbolicStep_cases step
    · have length : (symbolic.indices.map List.length)[j]? = some objs.length := by
        rw [List.getElem?_map, found]
        rfl
      have noDeath : ((RecordEvent.birth j).isBirth, (RecordEvent.birth j).class) ≠ (false, i) :=
        nofun
      rw [List.map_set, List.length_append, List.length_singleton,
        getD_set_of_getElem? length] at later
      rw [List.count_cons_of_ne noDeath]
      by_cases same : i = j
      · subst same
        have before : (symbolic.indices.map List.length).getD i 0 = objs.length := by
          rw [List.getD_eq_getElem?_getD, length]
          rfl
        have birth : ((RecordEvent.birth i).isBirth, (RecordEvent.birth i).class) = (true, i) := rfl
        rw [if_pos rfl] at later
        rw [birth, List.count_cons_self, before, later]
        omega
      · have other : ((RecordEvent.birth j).isBirth, (RecordEvent.birth j).class) ≠ (true, i) :=
          fun equal => same (Prod.mk.inj equal).2.symm
        rw [if_neg same] at later
        rw [List.count_cons_of_ne other, later]
    · have length : (symbolic.indices.map List.length)[j]? = some objs.length := by
        rw [List.getElem?_map, found]
        rfl
      have positive : toFree < objs.length := (List.getElem?_eq_some_iff.mp picked).1
      have noBirth : ((RecordEvent.death j toFree).isBirth, (RecordEvent.death j toFree).class) ≠
          (true, i) := nofun
      rw [List.map_set, length_swapRemove, getD_set_of_getElem? length] at later
      rw [List.count_cons_of_ne noBirth]
      by_cases same : i = j
      · subst same
        have before : (symbolic.indices.map List.length).getD i 0 = objs.length := by
          rw [List.getD_eq_getElem?_getD, length]
          rfl
        have death : ((RecordEvent.death i toFree).isBirth, (RecordEvent.death i toFree).class) =
            (false, i) := rfl
        rw [if_pos rfl] at later
        rw [death, List.count_cons_self, before]
        omega
      · have other : ((RecordEvent.death j toFree).isBirth,
            (RecordEvent.death j toFree).class) ≠ (false, i) :=
          fun equal => same (Prod.mk.inj equal).2.symm
        rw [if_neg same] at later
        rw [List.count_cons_of_ne other, later]

/-- The classes of a trace exist. -/
theorem symbolicRun_classes {trace : List RecordEvent} {symbolic next : Symbolic}
    (run : symbolicRun trace symbolic = some next) :
    ∀ event ∈ trace, event.class < symbolic.indices.length := by
  induction trace generalizing symbolic with
  | nil => exact fun event member => absurd member List.not_mem_nil
  | cons event rest inductionHypothesis =>
    obtain ⟨middle, step, run⟩ := Option.bind_eq_some_iff.mp run
    have others := inductionHypothesis run
    intro other member
    obtain ⟨j, objs, rfl, found, rfl⟩ | ⟨j, toFree, objs, index, rfl, found, _, rfl⟩ :=
      symbolicStep_cases step
    · rcases List.mem_cons.mp member with rfl | later
      · exact (List.getElem?_eq_some_iff.mp found).1
      · exact Nat.lt_of_lt_of_eq (others other later) List.length_set
    · rcases List.mem_cons.mp member with rfl | later
      · exact (List.getElem?_eq_some_iff.mp found).1
      · exact Nat.lt_of_lt_of_eq (others other later) List.length_set

section Balance

variable {sizes : List Nat} {live : List (List Ptr)} {data : EmpiricalData Weight}
  {symbolic : Symbolic}

/-- A repaired trace has as many births as deaths of every class. -/
theorem Recording.balanced (recording : Recording sizes live data symbolic)
    (fewClasses : live.length ≤ 2 ^ 16)
    (repaired : symbolic.indices.map List.length = live.map List.length) (i : Nat) :
    data.storedEvents.count (true, i) = data.storedEvents.count (false, i) := by
  have stored : data.storedEvents =
      data.recorded.map fun event => (event.isBirth, event.class) := by
    rw [EmpiricalData.storedEvents, recording.birthOrDeath, recording.classes, List.zip_map']
    refine List.map_congr_left fun event member => ?_
    have small := symbolicRun_classes recording.run event member
    rw [symbolicStart, List.length_map, List.length_map] at small
    rw [Nat.mod_eq_of_lt (Nat.lt_of_lt_of_le small fewClasses)]
  have balance := symbolicRun_balance recording.run i
  have started : (symbolicStart (live.map List.length)).indices.map List.length =
      live.map List.length := by
    simp [symbolicStart]
  rw [repaired, started, ← stored] at balance
  exact (Nat.add_left_cancel balance).symm

end Balance

/-! ### The calls of a round -/

/-- The sizes of the births among some events. -/
def birthSizes (sizes : List Nat) (trace : List RecordEvent) : List Nat :=
  trace.filterMap fun event => if event.isBirth then some (sizes.getD event.class 0) else none

theorem births_eq {data : EmpiricalData Weight} {sizes : List Nat} {trace : List RecordEvent}
    (flags : data.birthOrDeath = trace.map RecordEvent.isBirth)
    (actual : data.birthOrDeathActualSizes = trace.map fun event => sizes.getD event.class 0) :
    data.births = birthSizes sizes trace := by
  rw [EmpiricalData.births, flags, actual, List.zip_map', List.filterMap_map]
  rfl

/-- Every event of the trace makes one call, and every birth one of `alloc_`. -/
theorem eagerRun_operations {alloc : Allocator} {sizes : List Nat} {trace : List RecordEvent}
    {eager next : Eager} (run : eagerRun alloc sizes trace eager = some next) :
    ∃ operations, next.calls = eager.calls ++ operations ∧
      operations.length = trace.length ∧ allocated operations = birthSizes sizes trace := by
  induction trace generalizing eager with
  | nil =>
    cases run
    exact ⟨[], (List.append_nil _).symm, rfl, rfl⟩
  | cons event rest inductionHypothesis =>
    obtain ⟨middle, step, run⟩ := Option.bind_eq_some_iff.mp run
    obtain ⟨operations, calls, length, births⟩ := inductionHypothesis run
    obtain ⟨i, size, objs, rfl, found, _, rfl⟩ | ⟨i, toFree, size, objs, p, rfl, _, _, _, rfl⟩ :=
      eagerStep_cases step
    · refine ⟨.alloc size (alloc eager.calls size) :: operations, ?_, ?_, ?_⟩
      · rw [calls, List.append_assoc]
        rfl
      · rw [List.length_cons, List.length_cons, length]
      · have size : sizes.getD i 0 = size := by
          rw [List.getD_eq_getElem?_getD, found]
          rfl
        show _ :: allocated operations = sizes.getD i 0 :: birthSizes sizes rest
        rw [births, size]
    · refine ⟨.dealloc p size :: operations, ?_, ?_, births⟩
      · rw [calls, List.append_assoc]
        rfl
      · rw [List.length_cons, List.length_cons, length]

/-! ### The accounting -/

section Accounting

variable [Zero Weight] [Add Weight] [Neg Weight]

/-- What the counters promise, up to `wrap`: in front of a recording, behind its repair and
around every round they tell the calls of `alloc_`, a round makes as many operations as the trace
is long and adds its births, and the repaired trace is balanced. -/
def Accounts (wrap : Nat → Nat) (alloc : Allocator) (weights : List (Nat × Weight))
    (draws : List Nat) (events : List RecordEvent) (draw : Nat → Nat → Nat) : Prop :=
  ∀ data calls recorded, construct alloc weights draws = some (data, calls) →
    recordAll events data = some recorded →
    data.Tells wrap calls ∧
    ∃ repaired restored built, recordRepairToSnapshotState draw recorded = some repaired ∧
      restoreSnapshot repaired = some restored ∧ buildUpdateVectors restored = some built ∧
      repaired.Tells wrap calls ∧
      (∀ i, repaired.storedEvents.count (true, i) = repaired.storedEvents.count (false, i)) ∧
      ∀ rounds, ∃ before beforeCalls traced operations after,
        replayRounds alloc rounds built calls = some (before, beforeCalls) ∧
        before.Tells wrap beforeCalls ∧
        replayTrace alloc before beforeCalls = some (traced, beforeCalls ++ operations) ∧
        operations.length = built.traceLength ∧
        traced.Tells wrap (beforeCalls ++ operations) ∧
        prepareNextReplay traced = some after ∧
        after.totalNumAllocated = wrap (before.totalNumAllocated + repaired.births.length) ∧
        after.totalBytesAllocated = wrap (before.totalBytesAllocated + repaired.births.sum)

omit [Zero Weight] [Add Weight] [Neg Weight] in
/-- One round from any state that the rounds reach. -/
theorem replayRound_accounts {sizes : List Nat} {live : List (List Ptr)}
    {trace : List RecordEvent} {final : Symbolic} {data : EmpiricalData Weight}
    (ok : TraceOk sizes live trace final) (ready : Ready sizes live trace final data)
    (alloc : Allocator) {calls : List Call} (shadowed : Shadowed calls data) :
    ∃ traced operations after live',
      replayTrace alloc data calls = some (traced, calls ++ operations) ∧
      operations.length = trace.length ∧ traced.Tells wrapping (calls ++ operations) ∧
      prepareNextReplay traced = some after ∧ after.ledger = data.ledger.replayed ∧
      live'.map List.length = live.map List.length ∧ Ready sizes live' trace final after ∧
      Shadowed (calls ++ operations) after := by
  obtain ⟨traced, after, live', calls', replay, prepare, eager, lengths, ready'⟩ :=
    replayRound_eager ok ready alloc calls
  obtain ⟨operations, same, length, births⟩ := eagerRun_operations eager
  cases same
  have ledger := replayTrace_ledger replay
  have ledger' := (prepareNextReplay_ledger prepare).trans ledger
  have births' : data.ledger.births = birthSizes sizes trace :=
    births_eq ready.planned.birthOrDeath ready.planned.actualSizes
  obtain ⟨number, bytes⟩ := shadowed.shadows
  have tells : traced.Tells wrapping (calls ++ operations) := by
    refine ⟨(congrArg Ledger.totalNum ledger).trans ?_,
      (congrArg Ledger.totalBytes ledger).trans ?_⟩
    · show wrapping (data.totalNumAllocated + data.ledger.recordedNum) = _
      rw [shadowed.tells.1, number, wrapping_add_wrapping, allocated_append, List.length_append,
        births, births']
    · show wrapping (data.totalBytesAllocated + data.ledger.recordedBytes) = _
      rw [shadowed.tells.2, bytes, wrapping_add_wrapping, allocated_append, List.sum_append,
        births, births']
  refine ⟨traced, operations, after, live', replay, length, tells, prepare, ledger', lengths,
    ready', tells.of_ledger (prepareNextReplay_ledger prepare), ?_, ?_⟩
  · rw [ready'.planned.birthOrDeath, ready'.planned.actualSizes, List.length_map, List.length_map]
  · rw [ledger']
    exact shadowed.shadows

omit [Zero Weight] [Add Weight] [Neg Weight] in
theorem replayRounds_accounts {sizes : List Nat} {live : List (List Ptr)}
    {trace : List RecordEvent} {final : Symbolic} {data : EmpiricalData Weight}
    (ok : TraceOk sizes live trace final) (ready : Ready sizes live trace final data)
    (alloc : Allocator) {calls : List Call} (shadowed : Shadowed calls data) (rounds : Nat) :
    ∃ before beforeCalls live', replayRounds alloc rounds data calls = some (before, beforeCalls) ∧
      live'.map List.length = live.map List.length ∧ Ready sizes live' trace final before ∧
      Shadowed beforeCalls before ∧ before.births = data.births := by
  induction rounds with
  | zero => exact ⟨data, calls, live, rfl, rfl, ready, shadowed, rfl⟩
  | succ rounds inductionHypothesis =>
    obtain ⟨before, beforeCalls, live', replayed, lengths, ready', shadowed', births⟩ :=
      inductionHypothesis
    obtain ⟨traced, operations, after, live'', replay, -, -, prepare, ledger, lengths', ready'',
      shadowed''⟩ := replayRound_accounts (ok.of_lengths lengths) ready' alloc shadowed'
    refine ⟨after, beforeCalls ++ operations, live'', ?_, lengths'.trans lengths, ready'',
      shadowed'', (congrArg Ledger.births ledger).trans births⟩
    rw [replayRounds, replayed]
    show (replayTrace alloc before beforeCalls).bind _ = _
    rw [replay]
    show (prepareNextReplay traced).bind _ = _
    rw [prepare]
    rfl

/-- The counters account exactly, up to their 64 bits, as long as the class numbers fit in 16 bits
and the positions of the trace in 32. -/
theorem accounts_of_fits (alloc : Allocator) (weights : List (Nat × Weight)) (draws : List Nat)
    (events : List RecordEvent) (draw : Nat → Nat → Nat)
    (admissible : ∀ i length, 0 < length → draw i length < length)
    (fewClasses : weights.length ≤ 2 ^ 16)
    (short : ShortTrace alloc weights draws events draw) :
    Accounts wrapping alloc weights draws events draw := by
  intro data calls recorded built recordedEq
  obtain ⟨repaired, symbolic, _, repair, -, recording, lengths⟩ :=
    exists_repaired admissible built recordedEq
  have short := short data calls recorded repaired built recordedEq repair
  have shadowed := construct_shadowed built
  have shadowed' : Shadowed calls repaired :=
    recordRepair_keeps recordNext_shadowed (recordAll_keeps recordNext_shadowed shadowed recordedEq)
      repair
  have classCount : (data.state.map (·.objs)).length = weights.length := by
    rw [List.length_map, construct_classes built]
  obtain ⟨restored, ready, restore, build, isReady, ok⟩ := exists_ready recording lengths
    (by rw [List.length_map, classCount]) (classCount ▸ fewClasses) short
  have ledger : ready.ledger = repaired.ledger :=
    (buildUpdateVectors_ledger build).trans (restoreSnapshot_ledger restore)
  refine ⟨shadowed.tells, repaired, restored, ready, repair, restore, build, shadowed'.tells,
    recording.balanced (classCount ▸ fewClasses) lengths, fun rounds => ?_⟩
  have shadowed'' : Shadowed calls ready := by
    refine ⟨shadowed'.tells.of_ledger ledger, ?_, ledger ▸ shadowed'.shadows⟩
    rw [isReady.planned.birthOrDeath, isReady.planned.actualSizes, List.length_map,
      List.length_map]
  obtain ⟨before, beforeCalls, live', replayed, lengths', isReady', shadowedBefore, births⟩ :=
    replayRounds_accounts ok isReady alloc shadowed'' rounds
  obtain ⟨traced, operations, after, _, replay, length, tells, prepare, ledger', -⟩ :=
    replayRound_accounts (ok.of_lengths lengths') isReady' alloc shadowedBefore
  have births' : before.ledger.births = repaired.births :=
    births.trans (congrArg Ledger.births ledger)
  obtain ⟨number, bytes⟩ := shadowedBefore.shadows
  rw [births'] at number bytes
  refine ⟨before, beforeCalls, traced, operations, after, replayed, shadowedBefore.tells, replay,
    ?_, tells, prepare, (congrArg Ledger.totalNum ledger').trans ?_,
    (congrArg Ledger.totalBytes ledger').trans ?_⟩
  · rw [length, EmpiricalData.traceLength, isReady.planned.birthOrDeath, List.length_map]
  · show wrapping (before.totalNumAllocated + before.ledger.recordedNum) = _
    rw [number, Nat.add_comm, wrapping_add, Nat.add_comm]
  · show wrapping (before.totalBytesAllocated + before.ledger.recordedBytes) = _
    rw [bytes, Nat.add_comm, wrapping_add, Nat.add_comm]

end Accounting

/-- Two classes, with repairs in both directions. -/
theorem accounts_twoClasses :
    Accounts wrapping bumpAllocator [(8, (1 : Int)), (16, 2)] [0, 1, 0]
      [.death 0 0, .birth 1, .birth 1] fun _ _ => 0 := by
  refine accounts_of_fits _ _ _ _ _ (fun _ _ inhabited => inhabited) (by decide) ?_
  intro data calls recorded repaired built recordedEq repair
  have counted : ((construct bumpAllocator [(8, (1 : Int)), (16, 2)] [0, 1, 0]).bind fun built =>
      (recordAll [.death 0 0, .birth 1, .birth 1] built.1).bind fun recorded =>
        (recordRepairToSnapshotState (fun _ _ => 0) recorded).map (·.recorded.length)) =
      some 6 := by decide +kernel
  rw [built, Option.bind_some, recordedEq, Option.bind_some, repair] at counted
  have exactly : repaired.recorded.length = 6 := Option.some.inj counted
  omega

/-! ### Beyond the bounds -/

/-- A round of a trace with one birth of `2 ^ 63` bytes, behind a warm-up with another, leaves a
counter of 0 bytes. -/
theorem not_accounts_exactly :
    ¬ Accounts id bumpAllocator [(2 ^ 63, (1 : Int))] [0] [.birth 0, .death 0 0]
      fun _ _ => 0 := by
  intro accounts
  have evaluated : ((construct bumpAllocator [(2 ^ 63, (1 : Int))] [0]).bind fun start =>
      (recordAll [.birth 0, .death 0 0] start.1).bind fun recorded =>
        (recordRepairToSnapshotState (fun _ _ => 0) recorded).bind fun repaired =>
          (restoreSnapshot repaired).bind fun restored =>
            (buildUpdateVectors restored).bind fun built =>
              (replayRounds bumpAllocator 0 built start.2).bind fun before =>
                (replayTrace bumpAllocator before.1 before.2).map fun traced =>
                  (traced.1.totalBytesAllocated, (allocated traced.2).sum)) =
      some (0, 2 ^ 64) := by
    decide +kernel
  obtain ⟨⟨data, calls⟩, built, evaluated⟩ := Option.bind_eq_some_iff.mp evaluated
  obtain ⟨recorded, recordedEq, evaluated⟩ := Option.bind_eq_some_iff.mp evaluated
  obtain ⟨-, repaired, restored, ready, repair, restore, build, -, -, rounds⟩ :=
    accounts data calls recorded built recordedEq
  obtain ⟨before, beforeCalls, traced, operations, after, replayed, -, replay, -, tells, -⟩ :=
    rounds 0
  rw [repair, Option.bind_some, restore, Option.bind_some, build, Option.bind_some, replayed,
    Option.bind_some, replay] at evaluated
  obtain ⟨counter, bytes⟩ := Prod.mk.inj (Option.some.inj evaluated)
  cases counter.symm.trans (tells.2.trans bytes)

/-- With one object, in a class whose number is stored as 0, no update lists can be built for its
death. -/
theorem not_accounts_of_storedAlike (wrap : Nat → Nat) {classes m : Nat} (positive : 0 < m)
    (inRange : m < classes) (alike : m % 2 ^ 16 = 0) :
    ¬ Accounts wrap bumpAllocator (List.replicate classes (8, (0 : Int))) [m]
        [.death m 0, .birth m] (fun _ _ => 0) := by
  intro accounts
  have first : 0 < classes := Nat.lt_trans positive inRange
  obtain ⟨data, calls, built⟩ := construct_total bumpAllocator
    (List.replicate classes (8, (0 : Int))) [m]
    (by rw [List.length_replicate]; exact first) (by simp [inRange])
  obtain ⟨recording, _, warmUp⟩ := construct_recording bumpAllocator built
  have oneBirth : eagerRun bumpAllocator (List.replicate classes 8) [.birth m]
      ⟨List.replicate classes [], []⟩ =
      some ⟨(List.replicate classes []).set m [1], [.alloc 8 1]⟩ := by
    simp only [eagerRun, eagerStep, List.getElem?_replicate, if_pos inRange]
    rfl
  rw [List.map_replicate, List.map_replicate] at warmUp
  have live := oneBirth.symm.trans warmUp
  rw [Option.some.injEq, Eager.mk.injEq] at live
  have firstObjs : (data.state.map (·.objs))[0]? = some [] := by
    rw [← live.1, List.getElem?_set_ne (Nat.ne_of_gt positive), List.getElem?_replicate,
      if_pos first]
  have ownObjs : (data.state.map (·.objs))[m]? = some [1] := by
    rw [← live.1, List.getElem?_set_self (by simpa using inRange)]
  obtain ⟨recorded, recordedEq⟩ := recordAll_deathThenBirth recording ownObjs
  obtain ⟨-, repaired, restored, ready, repair, restore, build, -⟩ :=
    accounts data calls recorded built recordedEq
  obtain ⟨symbolic, repairs, extended, recording'⟩ :=
    repaired_recording (fun _ _ inhabited => inhabited) built recordedEq repair
  obtain ⟨objs, p, found, picked, -⟩ :=
    buildUpdateVectors_firstDeath recording' extended restore build
  rw [alike] at found
  cases firstObjs.symm.trans found
  cases picked

theorem not_accounts_of_long (wrap : Nat → Nat) {births : Nat} (long : 2 ^ 32 ≤ births) :
    ¬ Accounts wrap bumpAllocator [(8, (0 : Int))] [] (List.replicate births (.birth 0))
        (fun _ _ => 0) := by
  intro accounts
  obtain ⟨data, calls, built⟩ := construct_total bumpAllocator [(8, (0 : Int))] []
    (by decide) (by simp)
  have oneClass : data.counts.length = 1 := by
    rw [EmpiricalData.counts, List.length_map, construct_classes built]
    rfl
  obtain ⟨recorded, recordedEq⟩ := recordAll_births 0 births (oneClass ▸ Nat.one_pos)
  obtain ⟨-, repaired, restored, ready, repair, restore, build, -, -, rounds⟩ :=
    accounts data calls recorded built recordedEq
  obtain ⟨symbolic, repairs, extended, recording'⟩ :=
    repaired_recording (fun _ _ inhabited => inhabited) built recordedEq repair
  have tooLong : 2 ^ 32 ≤ ready.birthOrDeath.length := by
    rw [(buildUpdateVectors_trace restore build).1, recording'.birthOrDeath, List.length_map,
      extended, List.length_append, List.length_replicate]
    exact Nat.le_add_right_of_le long
  obtain ⟨before, beforeCalls, _, _, _, replayed, -, replay, -⟩ := rounds 0
  cases replayed
  rw [replayTrace_long _ _ tooLong] at replay
  cases replay

/-- The counters wrap at 64 bits; `65537` classes are one too many, and so are `2 ^ 32` events. -/
theorem not_accounts_beyond_fits :
    (¬ Accounts id bumpAllocator [(2 ^ 63, (1 : Int))] [0] [.birth 0, .death 0 0]
        fun _ _ => 0) ∧
      (∀ wrap, ¬ Accounts wrap bumpAllocator (List.replicate 65537 (8, (0 : Int))) [65536]
        [.death 65536 0, .birth 65536] fun _ _ => 0) ∧
      ∀ wrap, ¬ Accounts wrap bumpAllocator [(8, (0 : Int))] []
        (List.replicate (2 ^ 32) (.birth 0)) fun _ _ => 0 :=
  ⟨not_accounts_exactly, fun wrap => not_accounts_of_storedAlike wrap (by decide) (by decide)
    (by decide), fun wrap => not_accounts_of_long wrap (Nat.le_refl _)⟩

end Fleetbench.Tcmalloc
