/-
This file models the driver of the TCMalloc benchmark
(`tcmalloc/empirical_driver.cc`): the set-up of its threads, the recording of
each of them, the replays that warm up and the replays that are timed, and the
clearing of the threads at the end.

Every thread owns two objects, its load and a transient one that lives while
the thread gets ready to record. `operator new` and `operator delete` are seen
through the calls of each object; what `operator new` answers one of them may be
any function of that object's calls so far, so that the threads may run in any
order. Timing and the counters that TCMalloc itself reports are left out. What a
thread hands to the benchmark library is kept, and so is the number of times it
asks TCMalloc to release memory.
-/

import Fleetbench.Tcmalloc.Decisions
import Fleetbench.Library.Traverse
import Fleetbench.Tcmalloc.Lifetime

namespace Fleetbench.Tcmalloc

open Library Library.Tenure

def kSimulatedBytesPerSec : Nat := 0

@[irreducible]
def kRecordAndReplayBufferSizeTarget : Nat := 1000000

def kNumWarmUpReplays : Nat := 50

/-! ### A thread -/

/-- What a thread does not decide itself: the pointers its two objects get, and all draws. -/
structure Surroundings where
  alloc : Allocator
  transientAlloc : Allocator
  loadDraws : List Nat
  transientDraws : List Nat
  decisions : Nat → RecordEvent
  repairDraw : Nat → Nat → Nat

/-- The decisions of the calls of `RecordNext`. -/
def Surroundings.events (world : Surroundings) : List RecordEvent :=
  (List.range kRecordAndReplayBufferSizeTarget).map world.decisions

/-- `SimThread`. The last three members are seen from outside only: the calls of its two objects
and the calls of `ReleaseMemoryToSystem`. -/
structure SimThread (Weight : Type) where
  transient : Nat
  profile : List (Entry Weight)
  loadBytesAllocated : Nat := 0
  loadAllocations : Nat := 0
  runReleaseEachBytes : Nat := 0
  nextReleaseBoundary : Nat := 0
  load : EmpiricalData Weight
  doneRecording : Bool := false
  loadCalls : List Call
  transientCalls : List Call := []
  releaseCalls : Nat := 0

variable {Weight : Type}

namespace SimThread

section

variable [Field Weight]

/-- The constructor. -/
def make (world : Surroundings) (n nthreads bytes transient : Nat) (profile : List (Entry Weight)) :
    Option (SimThread Weight) := do
  let (load, loadCalls) ← constructFrom world.alloc profile bytes world.loadDraws
  return {
    transient, profile, load, loadCalls
    runReleaseEachBytes :=
      if n = 0 then (kSimulatedBytesPerSec + nthreads - 1) / nthreads else 0 }

def recordBirthsAndDeaths (world : Surroundings) (load : EmpiricalData Weight) :
    Option (EmpiricalData Weight) := do
  let load ← recordAll world.events load
  let load ← recordRepairToSnapshotState world.repairDraw load
  let load ← restoreSnapshot load
  buildUpdateVectors load

def recordTraceIfNeeded (world : Surroundings) (thread : SimThread Weight) :
    Option (SimThread Weight) :=
  if thread.doneRecording then some thread
  else do
    guard (0 < thread.transient)
    let (transient, transientCalls) ← constructFrom world.transientAlloc thread.profile
      thread.transient world.transientDraws
    let load ← recordBirthsAndDeaths world thread.load
    return { thread with
      transientCalls := destroy transient transientCalls
      load
      doneRecording := true }

end

/-- `SimThread::ReplayTrace`, the check of debug builds included. -/
def replayTrace (world : Surroundings) (thread : SimThread Weight) : Option (SimThread Weight) := do
  guard thread.doneRecording
  let (load, loadCalls) ← Tcmalloc.replayTrace world.alloc thread.load thread.loadCalls
  let allocated := load.totalBytesAllocated
  let totalNumAllocated := load.totalNumAllocated
  let release := thread.runReleaseEachBytes ≠ 0 ∧ thread.nextReleaseBoundary ≤ allocated
  let load ← prepareNextReplay load
  return { thread with
    loadBytesAllocated := allocated
    loadAllocations := totalNumAllocated
    nextReleaseBoundary :=
      if release then (thread.nextReleaseBoundary + thread.runReleaseEachBytes) % 2 ^ 64
      else thread.nextReleaseBoundary
    releaseCalls := if release then thread.releaseCalls + 1 else thread.releaseCalls
    load
    loadCalls }

def replays (world : Surroundings) : Nat → SimThread Weight → Option (SimThread Weight)
  | 0, thread => some thread
  | rounds + 1, thread => (replays world rounds thread).bind (replayTrace world)

end SimThread

/-! ### The benchmark -/

/-- The counters that a thread computes itself. -/
structure Report where
  bytes : Nat
  allocations : Nat
  bytesPerAllocation : Nat
  deriving DecidableEq, Repr

/-- What the timed rounds have added. A division by 0 has no answer. -/
def SimThread.report (warm after : SimThread Weight) : Option Report := do
  let bytes := (after.loadBytesAllocated + 2 ^ 64 - warm.loadBytesAllocated) % 2 ^ 64
  let allocations := (after.loadAllocations + 2 ^ 64 - warm.loadAllocations) % 2 ^ 64
  guard (allocations ≠ 0)
  return ⟨bytes, allocations, bytes / allocations⟩

section

variable [Field Weight]

/-- The benchmark in one thread, `rounds` being how often `KeepRunningBatch` says yes. -/
def bmTCMallocEmpiricalDriver (world : Surroundings) (rounds : Nat) (thread : SimThread Weight) :
    Option (SimThread Weight × Report) := do
  let recorded ← thread.recordTraceIfNeeded world
  let warm ← recorded.replays world kNumWarmUpReplays
  let after ← warm.replays world rounds
  let report ← warm.report after
  return (after, report)

/-- The threads of one run, with the size of the heap in MiB. The size of the transient heap is
computed in floating point, from that of the heap. -/
def bmTCMallocEmpiricalDriverSetup (worlds : Nat → Surroundings) (profile : List (Entry Weight))
    (heapSize transientHeapSize nthreads : Nat) : Option (List (SimThread Weight)) :=
  let baseHeapSize := heapSize * 2 ^ 20 % 2 ^ 64
  (List.range nthreads).mapM fun i => SimThread.make (worlds i) i nthreads (baseHeapSize / nthreads)
    (max (transientHeapSize / nthreads) 1) profile

end

/-- The two objects of a thread. -/
inductive Part where
  | load
  | transient
  deriving DecidableEq, Repr

/-- The calls that the clearing of the threads leaves behind for the two objects of one. -/
def SimThread.teardown (thread : SimThread Weight) : Part → List Call
  | .load => destroy thread.load thread.loadCalls
  | .transient => thread.transientCalls

/-! ### The rounds of a thread -/

/-- A thread behind its recording. -/
structure Running (sizes counts : List Nat) (trace : List RecordEvent) (thread : SimThread Weight) :
    Prop where
  prepared : Prepared sizes counts trace thread.load thread.loadCalls
  done : thread.doneRecording = true
  quiet : thread.runReleaseEachBytes = 0 ∧ thread.releaseCalls = 0

/-- The thread shows the totals of its load. -/
def Published (thread : SimThread Weight) : Prop :=
  thread.loadBytesAllocated = thread.load.totalBytesAllocated ∧
    thread.loadAllocations = thread.load.totalNumAllocated

section Rounds

variable {sizes counts : List Nat} {trace : List RecordEvent} {thread : SimThread Weight}

theorem Running.replayTrace (running : Running sizes counts trace thread) (world : Surroundings) :
    ∃ next operations, thread.replayTrace world = some next ∧
      next.loadCalls = thread.loadCalls ++ operations ∧ operations.length = trace.length ∧
      allocated operations = birthSizes sizes trace ∧ Published next ∧
      next.transientCalls = thread.transientCalls ∧ Running sizes counts trace next := by
  obtain ⟨traced, operations, after, replay, length, births, prepare, ledger, ledger', prepared⟩ :=
    running.prepared.round world.alloc
  have noRelease : ¬ (thread.runReleaseEachBytes ≠ 0 ∧
      thread.nextReleaseBoundary ≤ traced.totalBytesAllocated) := fun both =>
    both.1 running.quiet.1
  have same := ledger.trans ledger'.symm
  refine ⟨{ thread with
      loadBytesAllocated := traced.totalBytesAllocated
      loadAllocations := traced.totalNumAllocated
      load := after
      loadCalls := thread.loadCalls ++ operations },
    operations, ?_, rfl, length, births, ⟨?_, ?_⟩, rfl, prepared, running.done, running.quiet⟩
  · simp only [SimThread.replayTrace, running.done, guard, if_true, replay, prepare, noRelease,
      if_false, Option.bind_eq_bind, Option.bind_some, Option.pure_def]
  · exact congrArg Ledger.totalBytes same
  · exact congrArg Ledger.totalNum same

theorem Running.replays (running : Running sizes counts trace thread) (world : Surroundings)
    (rounds : Nat) :
    ∃ next operations, thread.replays world rounds = some next ∧
      next.loadCalls = thread.loadCalls ++ operations ∧
      operations.length = rounds * trace.length ∧
      (allocated operations).length = rounds * (birthSizes sizes trace).length ∧
      (0 < rounds → Published next) ∧ next.transientCalls = thread.transientCalls ∧
      Running sizes counts trace next := by
  induction rounds with
  | zero =>
    exact ⟨thread, [], rfl, (List.append_nil _).symm, (Nat.zero_mul _).symm, (Nat.zero_mul _).symm,
      fun positive => absurd positive (Nat.lt_irrefl 0), rfl, running⟩
  | succ rounds inductionHypothesis =>
    obtain ⟨middle, earlier, run, calls, length, births, -, transient, running'⟩ :=
      inductionHypothesis
    obtain ⟨next, operations, replay, calls', length', births', published, transient',
      running''⟩ := running'.replayTrace world
    refine ⟨next, earlier ++ operations, ?_, ?_, ?_, ?_, fun _ => published,
      transient'.trans transient, running''⟩
    · rw [SimThread.replays, run]
      exact replay
    · rw [calls', calls, List.append_assoc]
    · rw [List.length_append, length, length', Nat.succ_mul]
    · rw [allocated_append, List.length_append, births, births', Nat.succ_mul]

end Rounds

/-! ### The recording of a thread -/

section Recording

variable [Field Weight] {world : Surroundings} {n nthreads bytes transient : Nat}
  {profile : List (Entry Weight)} {thread next : SimThread Weight}

/-- The draws of the repair are among the objects of the class. -/
def Surroundings.Admissible (world : Surroundings) : Prop :=
  ∀ i length, 0 < length → world.repairDraw i length < length

theorem Surroundings.length_events (world : Surroundings) :
    world.events.length = kRecordAndReplayBufferSizeTarget := by
  rw [events, List.length_map, List.length_range]

theorem Surroundings.events_fit (world : Surroundings) : 2 * world.events.length < 2 ^ 32 := by
  rw [length_events, kRecordAndReplayBufferSizeTarget]
  decide

theorem make_cases
    (made : SimThread.make world n nthreads bytes transient profile = some thread) :
    constructFrom world.alloc profile bytes world.loadDraws =
        some (thread.load, thread.loadCalls) ∧
      thread.transient = transient ∧ thread.profile = profile ∧ thread.doneRecording = false ∧
      thread.runReleaseEachBytes = 0 ∧ thread.releaseCalls = 0 := by
  obtain ⟨⟨load, loadCalls⟩, built, made⟩ := Option.bind_eq_some_iff.mp made
  cases made
  refine ⟨built, rfl, rfl, rfl, ?_, rfl⟩
  -- the rate is 0, and the quotient is rounded up only as far as the next multiple
  show (if n = 0 then (0 + nthreads - 1) / nthreads else 0) = 0
  split
  · cases nthreads with
    | zero => rfl
    | succ nthreads =>
      rw [Nat.zero_add, Nat.succ_sub_one]
      exact Nat.div_eq_of_lt (Nat.lt_succ_self nthreads)
  · rfl

theorem recordBirthsAndDeaths_eq_some_iff {load prepared : EmpiricalData Weight} :
    SimThread.recordBirthsAndDeaths world load = some prepared ↔
      ∃ recorded, recordAll world.events load = some recorded ∧
      ∃ repaired, recordRepairToSnapshotState world.repairDraw recorded = some repaired ∧
      ∃ restored, restoreSnapshot repaired = some restored ∧
        buildUpdateVectors restored = some prepared := by
  simp only [SimThread.recordBirthsAndDeaths, Option.bind_eq_bind, Option.bind_eq_some_iff]

/-- A recording leaves the load ready for its rounds and makes no call of it; the transient object
has come and gone. -/
theorem recordTraceIfNeeded_running (admissible : world.Admissible)
    (fewClasses : profile.length ≤ 2 ^ 16)
    (made : SimThread.make world n nthreads bytes transient profile = some thread)
    (recorded : thread.recordTraceIfNeeded world = some next) :
    ∃ trace, kRecordAndReplayBufferSizeTarget ≤ trace.length ∧
      trace.length ≤ 2 * kRecordAndReplayBufferSizeTarget ∧
      Running (profile.map Entry.size) thread.load.counts trace next ∧
      next.loadCalls = thread.loadCalls ∧ ∃ passing calls,
        constructFrom world.transientAlloc profile transient world.transientDraws =
          some (passing, calls) ∧ next.transientCalls = destroy passing calls := by
  obtain ⟨built, transientEq, profileEq, notDone, quiet⟩ := make_cases made
  rw [SimThread.recordTraceIfNeeded, notDone, if_neg Bool.false_ne_true] at recorded
  obtain ⟨_, _, recorded⟩ := Option.bind_eq_some_iff.mp recorded
  obtain ⟨⟨passing, passingCalls⟩, passingBuilt, recorded⟩ := Option.bind_eq_some_iff.mp recorded
  obtain ⟨load, prepare, recorded⟩ := Option.bind_eq_some_iff.mp recorded
  cases recorded
  rw [transientEq, profileEq] at passingBuilt
  obtain ⟨events, recordedEq, repaired', repair', restored', restore', build'⟩ :=
    recordBirthsAndDeaths_eq_some_iff.mp prepare
  obtain ⟨repaired, restored, prepared, repairs, repair, restore, build, few, isPrepared⟩ :=
    exists_prepared admissible (by rwa [List.length_map]) world.events_fit
      built recordedEq
  cases repair.symm.trans repair'
  cases restore.symm.trans restore'
  cases build.symm.trans build'
  have sizes : (profile.map fun w => (w.size, deathRate profile bytes w)).map Prod.fst =
      profile.map Entry.size := List.map_map
  rw [sizes] at isPrepared
  have length := world.length_events
  refine ⟨world.events ++ repairs, ?_, ?_, ⟨isPrepared, rfl, quiet⟩, rfl, passing, passingCalls,
    passingBuilt, rfl⟩
  · rw [List.length_append, length]
    exact Nat.le_add_right _ _
  · rw [List.length_append, length]
    have few' : repairs.length ≤ kRecordAndReplayBufferSizeTarget := few.trans_eq length
    omega

/-- The recording fails only in the checks of `RecordDeath`. -/
theorem recordTraceIfNeeded_total (admissible : world.Admissible)
    (fewClasses : profile.length ≤ 2 ^ 16) (needed : 0 < transient)
    (drawn : ∀ i ∈ world.transientDraws, i < profile.length)
    (made : SimThread.make world n nthreads bytes transient profile = some thread)
    (recorded : (recordAll world.events thread.load).isSome) :
    ∃ next, thread.recordTraceIfNeeded world = some next := by
  obtain ⟨built, transientEq, profileEq, notDone, -⟩ := make_cases made
  obtain ⟨events, recordedEq⟩ := Option.isSome_iff_exists.mp recorded
  have inhabited : 1 ≤ profile.length := by
    by_contra empty
    obtain ⟨sampler, sized, -⟩ := Option.bind_eq_some_iff.mp built
    rw [AdjustableSampler.ofSize, List.length_map, if_neg empty] at sized
    cases sized
  obtain ⟨passing, passingCalls, passingBuilt⟩ := construct_total world.transientAlloc
    (profile.map fun w => (w.size, deathRate profile transient w)) world.transientDraws
    (by rwa [List.length_map]) (by rwa [List.length_map])
  obtain ⟨repaired, restored, prepared, repairs, repair, restore, build, -, -⟩ :=
    exists_prepared admissible (by rwa [List.length_map]) world.events_fit
      built recordedEq
  have whole := recordBirthsAndDeaths_eq_some_iff.mpr
    ⟨events, recordedEq, repaired, repair, restored, restore, build⟩
  rw [SimThread.recordTraceIfNeeded, notDone, if_neg Bool.false_ne_true, transientEq, profileEq,
    guard, if_pos needed]
  exact ⟨_, Option.bind_eq_some_iff.mpr ⟨(), rfl, Option.bind_eq_some_iff.mpr
    ⟨(passing, passingCalls), passingBuilt, Option.bind_eq_some_iff.mpr ⟨prepared, whole, rfl⟩⟩⟩⟩

end Recording

/-! ### What a thread reports -/

section Report

variable [Field Weight] {world : Surroundings} {n nthreads bytes transient rounds : Nat}
  {profile : List (Entry Weight)} {thread : SimThread Weight}

/-- The difference of two totals, the later one having wrapped or not. -/
theorem wrapping_sub (before added : Nat) :
    (wrapping (before + added) + 2 ^ 64 - wrapping before) % 2 ^ 64 = wrapping added := by
  unfold wrapping
  omega

/-- The body of the benchmark is defined, and its report tells exactly the calls of the timed
rounds: as many as the library counts iterations, half of them allocations. They leave every class
with the objects it had before the recording, and the thread never asks for a release. -/
theorem bmTCMallocEmpiricalDriver_reports (admissible : world.Admissible)
    (fewClasses : profile.length ≤ 2 ^ 16) (needed : 0 < transient)
    (drawn : ∀ i ∈ world.transientDraws, i < profile.length)
    (made : SimThread.make world n nthreads bytes transient profile = some thread)
    (recordable : (recordAll world.events thread.load).isSome) (runs : 0 < rounds)
    (counted : rounds * (2 * kRecordAndReplayBufferSizeTarget) < 2 ^ 64) :
    ∃ recorded warm after timed report, thread.recordTraceIfNeeded world = some recorded ∧
      recorded.replays world kNumWarmUpReplays = some warm ∧
      warm.replays world rounds = some after ∧
      bmTCMallocEmpiricalDriver world rounds thread = some (after, report) ∧
      kRecordAndReplayBufferSizeTarget ≤ after.load.traceLength ∧
      after.load.traceLength ≤ 2 * kRecordAndReplayBufferSizeTarget ∧
      after.loadCalls = warm.loadCalls ++ timed ∧
      timed.length = rounds * after.load.traceLength ∧
      report.allocations = (allocated timed).length ∧ timed.length = 2 * report.allocations ∧
      report.bytes = (allocated timed).sum % 2 ^ 64 ∧
      report.bytesPerAllocation = report.bytes / report.allocations ∧
      after.load.counts = thread.load.counts ∧ after.releaseCalls = 0 := by
  obtain ⟨recorded, recordedEq⟩ :=
    recordTraceIfNeeded_total admissible fewClasses needed drawn made recordable
  obtain ⟨trace, long, short, running, -⟩ :=
    recordTraceIfNeeded_running admissible fewClasses made recordedEq
  obtain ⟨warm, -, warmEq, -, -, -, published, -, running'⟩ :=
    running.replays world kNumWarmUpReplays
  obtain ⟨after, timed, afterEq, calls, length, births, published', -, running''⟩ :=
    running'.replays world rounds
  obtain ⟨warmBytes, warmAllocations⟩ := published (by decide)
  obtain ⟨afterBytes, afterAllocations⟩ := published' runs
  obtain ⟨numWarm, bytesWarm⟩ := running'.prepared.shadowed.tells
  obtain ⟨numAfter, bytesAfter⟩ := running''.prepared.shadowed.tells
  obtain ⟨traceLength, half⟩ := running''.prepared.traceLength
  have bytesEq : (after.loadBytesAllocated + 2 ^ 64 - warm.loadBytesAllocated) % 2 ^ 64 =
      (allocated timed).sum % 2 ^ 64 := by
    rw [afterBytes, warmBytes, bytesAfter, bytesWarm, calls, allocated_append, List.sum_append,
      wrapping_sub, wrapping]
  have total : timed.length = 2 * (allocated timed).length := by
    rw [length, births, half, Nat.mul_left_comm]
  have fits : (allocated timed).length < 2 ^ 64 := by
    refine Nat.lt_of_le_of_lt ?_ counted
    calc (allocated timed).length ≤ 2 * (allocated timed).length := Nat.le_mul_of_pos_left _ two_pos
      _ = rounds * trace.length := total.symm.trans length
      _ ≤ rounds * (2 * kRecordAndReplayBufferSizeTarget) := Nat.mul_le_mul_left rounds short
  have allocationsEq : (after.loadAllocations + 2 ^ 64 - warm.loadAllocations) % 2 ^ 64 =
      (allocated timed).length := by
    rw [afterAllocations, warmAllocations, numAfter, numWarm, calls, allocated_append,
      List.length_append, wrapping_sub, wrapping, Nat.mod_eq_of_lt fits]
  have nonzero : (allocated timed).length ≠ 0 := by
    intro none
    have target : 0 < kRecordAndReplayBufferSizeTarget := by
      rw [kRecordAndReplayBufferSizeTarget]
      decide
    have positive := Nat.mul_pos runs (Nat.lt_of_lt_of_le target long)
    rw [← length, total, none] at positive
    exact Nat.lt_irrefl 0 positive
  refine ⟨recorded, warm, after, timed,
    ⟨(allocated timed).sum % 2 ^ 64, (allocated timed).length,
      (allocated timed).sum % 2 ^ 64 / (allocated timed).length⟩, recordedEq, warmEq, afterEq, ?_,
    traceLength ▸ long, traceLength ▸ short, calls, traceLength ▸ length, rfl, total, rfl, rfl,
    running''.prepared.counts_eq, running''.quiet.2⟩
  refine Option.bind_eq_some_iff.mpr ⟨recorded, recordedEq, Option.bind_eq_some_iff.mpr
    ⟨warm, warmEq, Option.bind_eq_some_iff.mpr ⟨after, afterEq, Option.bind_eq_some_iff.mpr
      ⟨_, ?_, rfl⟩⟩⟩⟩
  simp only [SimThread.report, bytesEq, allocationsEq, guard, nonzero, Option.bind_eq_bind,
    Option.bind_some, Option.pure_def, ne_eq, not_false_eq_true, if_true]

end Report

/-! ### A heap of one object -/

/-- Objects of 1 MiB, of which the warm-up of the load and that of the transient object draw one
each, and a recording of births only. The transient object gets the pointer 2. -/
def bigWorld : Surroundings where
  alloc := bumpAllocator
  transientAlloc := fun _ _ => 2
  loadDraws := [0]
  transientDraws := [0]
  decisions := fun _ => .birth 0
  repairDraw := fun _ _ => 0

def bigProfile : List (Entry ℚ) := [⟨2 ^ 20, 1, 1⟩]

theorem admissible_bigWorld : bigWorld.Admissible := fun _ _ inhabited => inhabited

theorem make_bigWorld :
    ∃ thread, SimThread.make bigWorld 0 1 (2 ^ 20) 104 bigProfile = some thread ∧
      thread.loadCalls = [.alloc (2 ^ 20) 1] ∧
      (recordAll bigWorld.events thread.load).isSome := by
  have evaluated : (SimThread.make bigWorld 0 1 (2 ^ 20) 104 bigProfile).map (fun thread =>
      (thread.loadCalls, thread.load.counts)) = some ([.alloc (2 ^ 20) 1], [1]) := by
    decide +kernel
  obtain ⟨thread, made, values⟩ := Option.map_eq_some_iff.mp evaluated
  simp only [Prod.mk.injEq] at values
  have events : bigWorld.events =
      List.replicate kRecordAndReplayBufferSizeTarget (.birth 0) := by
    rw [Surroundings.events, bigWorld, List.map_const', List.length_range]
  obtain ⟨recorded, run⟩ := recordAll_births 0 kRecordAndReplayBufferSizeTarget
    (show 0 < thread.load.counts.length by rw [values.2]; decide)
  exact ⟨thread, made, values.1, by rw [events, run]; rfl⟩

theorem bmTCMallocEmpiricalDriver_reports_bigWorld :
    ∃ thread, SimThread.make bigWorld 0 1 (2 ^ 20) 104 bigProfile = some thread ∧
      ∃ after report, bmTCMallocEmpiricalDriver bigWorld 3 thread = some (after, report) ∧
        3 * kRecordAndReplayBufferSizeTarget ≤ 2 * report.allocations := by
  obtain ⟨thread, made, -, recordable⟩ := make_bigWorld
  have runs : 3 * (2 * kRecordAndReplayBufferSizeTarget) < 2 ^ 64 := by
    rw [kRecordAndReplayBufferSizeTarget]
    decide
  obtain ⟨-, -, after, timed, report, -, -, -, ran, long, -, -, length, -, twice, -⟩ :=
    bmTCMallocEmpiricalDriver_reports admissible_bigWorld (by decide) (by decide) (by decide) made
      recordable (by decide) runs
  exact ⟨thread, made, after, report, ran, (Nat.mul_le_mul_left 3 long).trans_eq
    (length.symm.trans twice)⟩

/-! ### All threads -/

section Heap

variable [Field Weight]

/-- The two objects of a thread behind its benchmark. -/
theorem bmTCMallocEmpiricalDriver_objects {world : Surroundings}
    {n nthreads bytes transient rounds : Nat} {profile : List (Entry Weight)}
    {thread after : SimThread Weight} {report : Report} (admissible : world.Admissible)
    (fewClasses : profile.length ≤ 2 ^ 16)
    (made : SimThread.make world n nthreads bytes transient profile = some thread)
    (ran : bmTCMallocEmpiricalDriver world rounds thread = some (after, report)) :
    thread.loadCalls <+: after.loadCalls ∧ Lived after.load after.loadCalls ∧
      ∃ passing calls, constructFrom world.transientAlloc profile transient world.transientDraws =
        some (passing, calls) ∧ after.transientCalls = destroy passing calls := by
  simp only [bmTCMallocEmpiricalDriver, Option.bind_eq_bind, Option.bind_eq_some_iff,
    Option.pure_def, Option.some.injEq, Prod.mk.injEq] at ran
  obtain ⟨recorded, recordedEq, warm, warmEq, last, lastEq, _, _, rfl, -⟩ := ran
  obtain ⟨trace, -, -, running, calls, passing, passingCalls, built, gone⟩ :=
    recordTraceIfNeeded_running admissible fewClasses made recordedEq
  obtain ⟨warm', _, warmEq', warmCalls, -, -, -, warmTransient, running'⟩ :=
    running.replays world kNumWarmUpReplays
  cases warmEq.symm.trans warmEq'
  obtain ⟨last', _, lastEq', lastCalls, -, -, -, lastTransient, running''⟩ :=
    running'.replays world rounds
  cases lastEq.symm.trans lastEq'
  refine ⟨?_, running''.prepared.lived, passing, passingCalls, built,
    lastTransient.trans (warmTransient.trans gone)⟩
  rw [lastCalls, warmCalls, calls, List.append_assoc]
  exact List.prefix_append _ _

/-- A thread behind its benchmark keeps the promises of its two objects. -/
theorem bmTCMallocEmpiricalDriver_teardown {world : Surroundings}
    {n nthreads bytes transient rounds : Nat} {profile : List (Entry Weight)}
    {thread after : SimThread Weight} {report : Report} (admissible : world.Admissible)
    (fewClasses : profile.length ≤ 2 ^ 16)
    (made : SimThread.make world n nthreads bytes transient profile = some thread)
    (ran : bmTCMallocEmpiricalDriver world rounds thread = some (after, report)) (part : Part) :
    Guarded (tenures (after.teardown part)) ∧ (Fresh (tenures (after.teardown part)) →
      ∀ p, heldAfter (tenures (after.teardown part)) p = none) := by
  obtain ⟨-, lived, passing, calls, built, gone⟩ :=
    bmTCMallocEmpiricalDriver_objects admissible fewClasses made ran
  cases part with
  | load => exact lived.kept
  | transient =>
    rw [SimThread.teardown, gone]
    exact (construct_lived built).kept

/-- The calls of one object in a run of all threads. -/
def callsOf (owner : Nat × Part) (log : List ((Nat × Part) × Call)) : List Call :=
  (log.filter fun entry => entry.1 = owner).map Prod.snd

omit [Field Weight] in
theorem logOf_tenures (owner : Nat × Part) (log : List ((Nat × Part) × Call)) :
    logOf owner (log.map fun entry => (entry.1, entry.2.tenure)) = tenures (callsOf owner log) := by
  induction log with
  | nil => rfl
  | cons entry rest inductionHypothesis =>
    obtain ⟨other, call⟩ := entry
    unfold logOf callsOf tenures at *
    by_cases same : other = owner
    · simp only [List.map_cons, List.filter_cons, same, decide_true, if_true]
      exact congrArg (call.tenure :: ·) inductionHypothesis
    · simp only [List.map_cons, List.filter_cons, same, decide_false, Bool.false_eq_true, if_false]
      exact inductionHypothesis

omit [Field Weight] in
theorem merged_tenures (log : List ((Nat × Part) × Call)) :
    merged (log.map fun entry => (entry.1, entry.2.tenure)) = tenures (log.map Prod.snd) := by
  rw [merged, tenures, List.map_map, List.map_map]
  rfl

/-- What the two objects of thread `i` have called when they are gone. -/
def finishedCalls (finished : List (SimThread Weight)) (owner : Nat × Part) : List Call :=
  match finished[owner.1]? with
  | some thread => thread.teardown owner.2
  | none => []

theorem setup_thread {worlds : Nat → Surroundings} {profile : List (Entry Weight)}
    {heapSize transientHeapSize nthreads : Nat} {threads : List (SimThread Weight)}
    (setUp : bmTCMallocEmpiricalDriverSetup worlds profile heapSize transientHeapSize nthreads =
      some threads) {i : Nat} {thread : SimThread Weight} (found : threads[i]? = some thread) :
    SimThread.make (worlds i) i nthreads (heapSize * 2 ^ 20 % 2 ^ 64 / nthreads)
      (max (transientHeapSize / nthreads) 1) profile = some thread := by
  have made := mapM_eq_some_iff.mp setUp
  obtain ⟨inside, rfl⟩ := List.getElem?_eq_some_iff.mp found
  have before : i < (List.range nthreads).length := made.length_eq ▸ inside
  have here := made.get before inside
  simpa using here

omit [Field Weight] in
theorem callsOf_split (owner : Nat × Part) (before after : List ((Nat × Part) × Call))
    (call : Call) :
    callsOf owner (before ++ (owner, call) :: after) =
      callsOf owner before ++ call :: callsOf owner after := by
  simp [callsOf]

omit [Field Weight] in
/-- Freshness, told of the log itself. -/
theorem fresh_tenures {log : List ((Nat × Part) × Call)}
    (fresh : ∀ before owner size p after, log = before ++ (owner, .alloc size p) :: after →
      heapAfter (before.map Prod.snd) p = none) : Fresh (tenures (log.map Prod.snd)) := by
  intro earlier event later split
  rw [tenures, List.map_map, List.map_eq_append_iff] at split
  obtain ⟨before, rest, rfl, rfl, restEq⟩ := split
  obtain ⟨⟨owner, call⟩, after, rfl, rfl, -⟩ := List.map_eq_cons_iff.mp restEq
  cases call with
  | alloc size p =>
    have unused := fresh before owner size p after rfl
    rw [← heldAfter_tenures, tenures, List.map_map] at unused
    exact unused
  | dealloc p size => trivial

/-- In every interleaving of the calls of all threads, however far they have got, a free names a
live block, with its size, that the same object has allocated, provided that the heap hands out no
live block. When all threads are gone no block is live. -/
theorem driver_heap_sound {worlds : Nat → Surroundings} {profile : List (Entry Weight)}
    {heapSize transientHeapSize nthreads : Nat} {threads finished : List (SimThread Weight)}
    {rounds : Nat → Nat} (admissible : ∀ i, (worlds i).Admissible)
    (fewClasses : profile.length ≤ 2 ^ 16)
    (setUp : bmTCMallocEmpiricalDriverSetup worlds profile heapSize transientHeapSize nthreads =
      some threads)
    (sameLength : finished.length = threads.length)
    (ran : ∀ (i : Nat) thread after, threads[i]? = some thread → finished[i]? = some after →
      ∃ report, bmTCMallocEmpiricalDriver (worlds i) (rounds i) thread = some (after, report))
    {log : List ((Nat × Part) × Call)}
    (follows : ∀ owner, callsOf owner log <+: finishedCalls finished owner)
    (fresh : ∀ before owner size p after, log = before ++ (owner, .alloc size p) :: after →
      heapAfter (before.map Prod.snd) p = none) :
    (∀ before owner p size after, log = before ++ (owner, .dealloc p size) :: after →
      heapAfter (before.map Prod.snd) p = some size ∧
        heapAfter (callsOf owner before) p = some size) ∧
    ((∀ owner, callsOf owner log = finishedCalls finished owner) →
      ∀ p, heapAfter (log.map Prod.snd) p = none) := by
  have promises : ∀ owner, Guarded (tenures (finishedCalls finished owner)) ∧
      (Fresh (tenures (finishedCalls finished owner)) →
        ∀ p, heldAfter (tenures (finishedCalls finished owner)) p = none) := by
    rintro ⟨i, part⟩
    unfold finishedCalls
    cases found : finished[i]? with
    | none => exact ⟨everywhere_nil, fun _ _ => rfl⟩
    | some after =>
      have inside := (List.getElem?_eq_some_iff.mp found).1
      rw [sameLength] at inside
      have started := List.getElem?_eq_getElem inside
      obtain ⟨report, run⟩ := ran i _ after started found
      exact bmTCMallocEmpiricalDriver_teardown (admissible i) fewClasses
        (setup_thread setUp started) run part
  have guarded : ∀ owner, Guarded (tenures (callsOf owner log)) := by
    intro owner
    obtain ⟨rest, whole⟩ := follows owner
    have both := (promises owner).1
    rw [← whole, tenures_append] at both
    exact both.of_append
  obtain ⟨divides, ownFresh, sound⟩ := divides_of_guarded
    ((merged_tenures log).symm ▸ fresh_tenures fresh)
    (fun owner => (logOf_tenures owner log).symm ▸ guarded owner)
  rw [merged_tenures] at sound
  simp only [logOf_tenures] at ownFresh
  refine ⟨fun before owner p size after split => ?_, fun finishedAll p => ?_⟩
  · subst split
    have own := (guarded owner).sound (ownFresh owner)
    rw [callsOf_split, tenures_append] at own
    rw [List.map_append, tenures_append] at sound
    rw [← heldAfter_tenures, ← heldAfter_tenures]
    exact ⟨sound _ _ _ rfl, own _ _ _ rfl⟩
  · rw [← heldAfter_tenures, ← merged_tenures]
    refine heldAfter_merged_eq_none divides (fun owner q => ?_) p
    have gone := (promises owner).2
    rw [← finishedAll owner] at gone
    rw [logOf_tenures]
    exact gone (ownFresh owner) q

/-- One thread that is about to record: its load holds an object, and the transient object has
come and gone. -/
def bigLog : List ((Nat × Part) × Call) :=
  [((0, .load), .alloc (2 ^ 20) 1), ((0, .transient), .alloc (2 ^ 20) 2),
    ((0, .transient), .dealloc 2 (2 ^ 20))]

theorem driver_heap_sound_bigWorld :
    ∃ threads finished : List (SimThread ℚ),
      bmTCMallocEmpiricalDriverSetup (fun _ => bigWorld) bigProfile 1 104 1 = some threads ∧
      (∀ owner, callsOf owner bigLog <+: finishedCalls finished owner) ∧
      heapAfter ((bigLog.take 2).map Prod.snd) 2 = some (2 ^ 20) ∧
      heapAfter (callsOf (0, .transient) (bigLog.take 2)) 2 = some (2 ^ 20) := by
  obtain ⟨thread, made, calls, recordable⟩ := make_bigWorld
  have setUp : bmTCMallocEmpiricalDriverSetup (fun _ => bigWorld) bigProfile 1 104 1 =
      some [thread] := mapM_eq_some_iff.mpr (.cons made .nil)
  have runs : 1 * (2 * kRecordAndReplayBufferSizeTarget) < 2 ^ 64 := by
    rw [kRecordAndReplayBufferSizeTarget]
    decide
  obtain ⟨-, -, after, -, report, -, -, -, ran, -⟩ :=
    bmTCMallocEmpiricalDriver_reports admissible_bigWorld (by decide) (by decide) (by decide) made
      recordable (by decide) runs
  obtain ⟨grown, -, passing, passingCalls, built, gone⟩ :=
    bmTCMallocEmpiricalDriver_objects admissible_bigWorld (by decide) made ran
  have passed : (constructFrom bigWorld.transientAlloc bigProfile 104 bigWorld.transientDraws).map
      (fun built => destroy built.1 built.2) =
        some [.alloc (2 ^ 20) 2, .dealloc 2 (2 ^ 20)] := by
    decide +kernel
  rw [built, Option.map_some, Option.some.injEq, ← gone] at passed
  have follows : ∀ owner, callsOf owner bigLog <+: finishedCalls [after] owner := by
    rintro ⟨i, part⟩
    by_cases first : i = 0
    · subst first
      cases part with
      | load =>
        have whole : after.loadCalls <+: after.teardown .load := List.prefix_append _ _
        exact (calls ▸ grown).trans whole
      | transient =>
        show _ <+: after.transientCalls
        rw [passed]
        exact List.prefix_refl _
    · have other : callsOf (i, part) bigLog = [] := by
        simp [callsOf, bigLog, Ne.symm first]
      rw [other]
      exact List.nil_prefix
  have fresh : ∀ before owner size p rest, bigLog = before ++ (owner, .alloc size p) :: rest →
      heapAfter (before.map Prod.snd) p = none := by
    intro before owner size p rest split
    rcases before with _ | ⟨first, _ | ⟨second, _ | ⟨third, others⟩⟩⟩ <;>
      simp only [bigLog, List.nil_append, List.cons_append, List.cons.injEq, Prod.mk.injEq,
        Call.alloc.injEq, reduceCtorEq, and_false, false_and] at split
    · rfl
    · obtain ⟨rfl, ⟨-, -, rfl⟩, -⟩ := split
      rfl
    · exact absurd split.2.2.2 (by simp)
  have rounds : ∀ (i : Nat) before next, [thread][i]? = some before → [after][i]? = some next →
      ∃ report, bmTCMallocEmpiricalDriver bigWorld ((fun _ => 1) i) before =
        some (next, report) := by
    intro i before next start finish
    cases i with
    | zero =>
      cases start
      cases finish
      exact ⟨report, ran⟩
    | succ i => cases start
  obtain ⟨sound, -⟩ := driver_heap_sound (fun _ => admissible_bigWorld) (by decide) setUp
    (show [after].length = [thread].length from rfl) rounds follows fresh
  have both := sound (bigLog.take 2) (0, .transient) 2 (2 ^ 20) [] rfl
  exact ⟨[thread], [after], setUp, follows, both⟩

end Heap

end Fleetbench.Tcmalloc
